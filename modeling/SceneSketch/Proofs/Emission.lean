import SceneSketch.Code.Compile

/-!
# What is written for an element

The statements of the style and of the position of an element, and the elements that a scene draws.
A property of the code of an element is shown for each kind of statement that can stand in it.
-/

namespace SceneSketch

theorem Style.forall_statements {p : Statement → Prop} {style : Style} (noFill : p .noFill)
    (fill : ∀ color ∈ style.fill, p (.fill color)) (noStroke : p .noStroke)
    (stroke : ∀ color ∈ style.stroke, p (.stroke color))
    (weight : ∀ w ∈ style.strokeWeight, p (.strokeWeight w)) : ∀ s ∈ style.statements, p s := by
  unfold statements
  rw [List.forall_mem_append]
  constructor
  · split
    · simpa using noFill
    · cases hf : style.fill with
      | none => simp
      | some color => simpa using fill color hf
  · split
    · simpa using noStroke
    · cases hs : style.stroke with
      | none => simp
      | some color =>
        intro s hs'
        rcases List.mem_cons.mp hs' with rfl | hs'
        · exact stroke color hs
        · cases hw : style.strokeWeight with
          | none => simp [hw] at hs'
          | some w =>
            obtain rfl : s = .strokeWeight w := by simpa [hw] using hs'
            exact weight w hw

theorem Block.forall_statements {p : Statement → Prop} (declare : ∀ v signal, p (.declare v signal))
    (push : p .push) (toMiddle : p .toMiddle) (rotate : ∀ speed, p (.rotate speed))
    (fromMiddle : p .fromMiddle) (shape : Shape) (b : Block) : ∀ s ∈ b.statements shape, p s := by
  unfold statements
  cases b with
  | rotate b => simpa using ⟨push, toMiddle, rotate b.speed, fromMiddle⟩
  | followMouse b => cases shape.anchor? <;> simp [declare]
  | _ => simp [declare]

namespace Element

/-- The wave of the element declares where its shape stands. -/
def waves (element : Element) : Bool :=
  element.shape.anchor?.isSome &&
    match element.behavior with
    | .animated ⟨_, .wave _⟩ => true
    | _ => false

theorem declarations_eq (e : Element) : ∃ x y : Signal,
    e.position.declarations = if e.waves then [.declare .x x, .declare .y y] else [] := by
  unfold position waves
  cases e.shape.anchor? with
  | none => exact ⟨.random 0, .random 0, rfl⟩
  | some anchor =>
    cases e.behavior with
    | animated a =>
      obtain ⟨_, motion⟩ := a
      cases motion with
      | wave w => exact ⟨_, _, rfl⟩
      | linear speed => exact ⟨.random 0, .random 0, rfl⟩
    | _ => exact ⟨.random 0, .random 0, rfl⟩

theorem forall_declarations {p : Statement → Prop} (declare : ∀ v signal, p (.declare v signal))
    (e : Element) :
    ∀ s ∈ e.position.declarations, p s := by
  obtain ⟨x, y, he⟩ := e.declarations_eq
  rw [he]
  by_cases hw : e.waves = true <;> simp [hw, declare]

def shapeCall (element : Element) : Statement :=
  match element.shape with
  | .circle s => .ellipse element.position.x element.position.y s.diameter
  | .rectangle s => .rect element.position.x element.position.y s.width s.height
  | .line s => .line s
  | .text s => .text s.content.lossy s.x s.y
  | .background color => .background color

theorem shapeStatements_split (e : Element) :
    ∃ before, e.shapeStatements = before ++ [e.shapeCall] ∧
    ∀ s ∈ before, s ∈ e.style.statements ∨ s ∈ e.position.declarations ∨ ∃ size,
    s = .textSize size := by
  unfold shapeStatements shapeCall
  cases e.shape with
  | circle c => exact ⟨_, rfl, fun s hs => (List.mem_append.mp hs).imp_right .inl⟩
  | rectangle r => exact ⟨_, rfl, fun s hs => (List.mem_append.mp hs).imp_right .inl⟩
  | line l => exact ⟨_, rfl, fun s hs => .inl hs⟩
  | text t =>
    refine ⟨e.style.statements ++ [.textSize t.size],
      by rw [List.append_assoc]; rfl, fun s hs => ?_⟩
    rcases List.mem_append.mp hs with hs | hs
    · exact .inl hs
    · exact .inr (.inr ⟨t.size, List.mem_singleton.mp hs⟩)
  | background color => exact ⟨[], rfl, fun s hs => by cases hs⟩

def paint? (static : Bool) (element : Element) : Option Color :=
  match element.shape with
  | .background color => if element.isStatic = static then some color else none
  | _ => none

theorem paint?_eq_none {e : Element} {static : Bool}
    (h : e.isBackground = true → e.isStatic ≠ static) :
    e.paint? static = none := by
  unfold isBackground at h
  unfold paint?
  cases hs : e.shape with
  | background color =>
    rw [hs] at h
    exact if_neg (h rfl)
  | _ => rfl

theorem fault?_eq_none {e : Element} :
    e.fault? = none ↔ axisFault? e.blocks = none ∧ e.shape.fault? = none := by
  simp [fault?]

end Element

namespace Scene

theorem backgroundColor?_eq (scene : Scene) (static : Bool) :
    scene.backgroundColor? static = scene.elements.findSome? (Element.paint? static) := rfl

theorem compile_eq_ok {scene : Scene} {code : String} :
    scene.compile = .ok code ↔ scene.fault? = none ∧ scene.code = code := by
  unfold compile
  cases scene.fault? with
  | none => simp
  | some c => simp

theorem mem_drawnElements {scene : Scene} {e : Element} (h : e ∈ scene.drawnElements) :
    e.isBackground = false := by
  simpa using (List.mem_filter.mp h).2

theorem fault?_eq_none {scene : Scene} (h : scene.fault? = none) :
    ∀ e ∈ scene.drawnElements, axisFault? e.blocks = none := by
  intro e he
  exact (Element.fault?_eq_none.mp (List.findSome?_eq_none_iff.mp h e he)).1

theorem forall_effectSection {p : Line → Prop} {scene : Scene} (blank : p .blank)
    (heading : p (.remark .effects))
    (filters : ∀ e ∈ scene.effects.getD [], ∀ line ∈ e.filter.lines, p line) :
    ∀ line ∈ scene.effectSection, p line := by
  have lines : ∀ line ∈ effectLines (scene.effects.getD []), p line := by
    unfold effectLines
    dsimp only
    split
    · exact List.forall_mem_nil _
    · exact List.forall_mem_cons.mpr ⟨heading, List.forall_mem_flatMap.mpr fun e he =>
        filters e (List.mem_filter.mp he).1⟩
  unfold effectSection
  split
  · exact List.forall_mem_nil _
  · exact List.forall_mem_cons.mpr ⟨blank, lines⟩

end Scene

end SceneSketch
