import SceneSketch.Check.Verdict
import SceneSketch.Code.Compile
import SceneSketch.Text.Capitals

/-!
# Log notes

What is noted while scenes are compiled and code is checked. A note is shown if its level reaches
the threshold of the settings.
-/

namespace SceneSketch

inductive LogLevel
  | debug
  | info
  | warning
deriving DecidableEq

namespace LogLevel

def name : LogLevel → String
  | debug => "DEBUG"
  | info => "INFO"
  | warning => "WARNING"

def weight : LogLevel → Nat
  | debug => 10
  | info => 20
  | warning => 30

end LogLevel

/-- The least weight of notes that are shown, by the name of a level in capitals. -/
def threshold? (name : String) : Option Nat :=
  [("CRITICAL", 50), ("FATAL", 50), ("ERROR", 40), ("WARNING", 30), ("WARN", 30), ("INFO", 20),
    ("DEBUG", 10), ("NOTSET", 0)].lookup name

structure Note where
  level : LogLevel
  source : String
  message : Text
deriving DecidableEq

def Note.line (note : Note) : String :=
  note.level.name ++ " " ++ note.source ++ ": " ++ note.message.escaped ++ "\n"

def notesText (threshold : Nat) (notes : List Note) : String :=
  String.join ((notes.filter fun n => threshold ≤ n.level.weight).map Note.line)

/-- What is noted about a block: that it is displaced, or that its kind is not known. -/
def blockNote? (element : Element) : Block × Fate → Option Note
  | (block, .displaced) =>
    some ⟨.debug, "artecode.compiler.block_compiler",
      "Dropping " ++ block.kind ++ " block on element " ++ element.id ++ ": axis " ++
        block.axis.display ++ " already claimed"⟩
  | (.unknown block, .kept) =>
    some ⟨.debug, "artecode.compiler.block_compiler",
      "Skipping unknown behavior block type " ++ quoted block.kind ++ " on element " ++
        element.id⟩
  | _ => none

/-- The notes on elements up to the first one that cannot be written. -/
def elementNotes : List Element → List Note
  | [] => []
  | element :: rest =>
    (arrange element.blocks).filterMap (blockNote? element) ++
      if element.fault?.isSome then [] else elementNotes rest

def Scene.notes (scene : Scene) : List Note :=
  elementNotes scene.drawnElements ++
    if scene.fault?.isSome then []
    else
      [⟨.debug, "artecode.compiler.scene_compiler",
        "Compiled scene with " ++ natText scene.elements.length ++ " elements into " ++
          natText (scene.code.toList.count '\n' + 1) ++ " lines"⟩]

def Verdict.notes (verdict : Verdict) : List Note :=
  if !verdict.safe then
    [⟨.warning, "artecode.tools.code_validator",
      "Sketch code failed security scan: " ++ String.intercalate "; " verdict.hazardMessages⟩]
  else if !verdict.valid then
    [⟨.info, "artecode.tools.code_validator",
      "Sketch code does not follow the template: " ++
        String.intercalate "; " verdict.faultMessages⟩]
  else []

end SceneSketch
