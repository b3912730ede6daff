import SceneSketch.Code.Effects
import SceneSketch.Code.Elements
import SceneSketch.Code.Sketch

/-!
# From scenes to sketches

A background that stands still is painted once, in `setup`; another one is painted first in every
frame. Of each kind the first one counts. The elements follow in their order, the effects at the
end after an empty line.
-/

namespace SceneSketch

/-- Why an element cannot be written: the axis of a block cannot be compared, or a text cannot be
encoded. -/
inductive CompileFault
  | containerKey (container : Container)
  | unencodable (fault : Unencodable)
deriving DecidableEq

def CompileFault.message : CompileFault → String
  | containerKey c => c.message
  | unencodable fault => fault.message

def Shape.fault? : Shape → Option Unencodable
  | text s => s.content.fault?
  | _ => none

/-- The blocks of an element are written before its shape. -/
def Element.fault? (element : Element) : Option CompileFault :=
  ((axisFault? element.blocks).map .containerKey).or (element.shape.fault?.map .unencodable)

namespace Scene

/-- The color of the first background that stands still, or of the first that does not. -/
def backgroundColor? (scene : Scene) (static : Bool) : Option Color :=
  scene.elements.findSome? fun element =>
    match element.shape with
    | .background color => if element.isStatic = static then some color else none
    | _ => none

def drawnElements (scene : Scene) : List Element :=
  scene.elements.filter fun e => !e.isBackground

def setupStatements (scene : Scene) : List Statement :=
  .createCanvas scene.canvas ::
    ((scene.colorMode.map Statement.colorMode).toList ++
      ((scene.frameRate.filter fun r => !r.isZero).map Statement.frameRate).toList ++
      ((scene.backgroundColor? true).map Statement.background).toList)

def drawStatements (scene : Scene) : List Statement :=
  ((scene.backgroundColor? false).map Statement.background).toList ++
    scene.drawnElements.flatMap Element.statements

/-- The lines of the effects after an empty line, if there are any. -/
def effectSection (scene : Scene) : List Line :=
  match effectLines (scene.effects.getD []) with
  | [] => []
  | lines => .blank :: lines

def setupLines (scene : Scene) : List Line :=
  scene.setupStatements.map Line.code

def drawLines (scene : Scene) : List Line :=
  scene.drawStatements.map Line.code ++ scene.effectSection

def sketch (scene : Scene) : Sketch where
  setup := linesText scene.setupLines
  draw := linesText scene.drawLines

def code (scene : Scene) : String :=
  scene.sketch.code

def fault? (scene : Scene) : Option CompileFault :=
  scene.drawnElements.findSome? Element.fault?

def compile (scene : Scene) : Except CompileFault String :=
  match scene.fault? with
  | some fault => .error fault
  | none => .ok scene.code

end Scene

end SceneSketch
