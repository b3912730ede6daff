import SceneSketch.Code.Blocks

/-!
# The code of elements

An element is written as its blocks, its style, its position and its shape; every transformation
that a block opened is closed after the shape.
-/

namespace SceneSketch

def Style.statements (style : Style) : List Statement :=
  (if style.noFill then [.noFill]
    else match style.fill with
      | some color => [.fill color]
      | none => []) ++
  (if style.noStroke then [.noStroke]
    else match style.stroke with
      | some color => .stroke color :: (style.strokeWeight.map Statement.strokeWeight).toList
      | none => [])

/-- Where a shape is drawn, and the variables that have to be declared for it. -/
structure Position where
  x : Coordinate
  y : Coordinate
  declarations : List Statement

namespace Element

/-- The position by behavior: the pointer comes first, then a wave, then the place of the
shape. The amplitude of a wave moves `x` alone; `y` stands at the middle with an offset. -/
def position (element : Element) : Position :=
  match element.shape.anchor? with
  | none => ⟨.number 0, .number 0, []⟩
  | some (x, y) =>
    match element.behavior with
    | .followMouse t =>
      ⟨if t.followsX then .pointer .x else .number x,
        if t.followsY then .pointer .y else .number y, []⟩
    | .animated ⟨_, .wave w⟩ =>
      ⟨.declared .x, .declared .y,
        [.declare .x (.around (.middle .x) (.trig w.trig) w.speed w.amplitude),
          .declare .y (.offset (.middle .y) w.offset)]⟩
    | _ => ⟨.number x, .number y, []⟩

/-- The statements of an element without its blocks. A background has no style. A text that
cannot be encoded stands with replacement characters, but then the scene is not compiled. -/
def shapeStatements (element : Element) : List Statement :=
  let p := element.position
  match element.shape with
  | .background color => [.background color]
  | .circle s => element.style.statements ++ p.declarations ++ [.ellipse p.x p.y s.diameter]
  | .rectangle s => element.style.statements ++ p.declarations ++ [.rect p.x p.y s.width s.height]
  | .line s => element.style.statements ++ [.line s]
  | .text s => element.style.statements ++ [.textSize s.size, .text s.content.lossy s.x s.y]

/-- One `pop` for each rotation. -/
def closing (element : Element) : List Statement :=
  (element.blocks.filter Block.isRotate).map fun _ => .pop

def statements (element : Element) : List Statement :=
  blockStatements element.shape element.blocks ++ element.shapeStatements ++ element.closing

end Element

end SceneSketch
