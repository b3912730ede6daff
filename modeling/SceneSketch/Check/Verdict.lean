import SceneSketch.Check.Compatibility
import SceneSketch.Check.Security
import SceneSketch.Check.Structure
import SceneSketch.Json.Basic

/-!
# Verdicts

The template, security and compatibility checks always run together. Faults of the template and
hazards reject the code; warnings do not.
-/

namespace SceneSketch

structure Verdict where
  faults : List TemplateFault
  hazards : List Hazard
  warnings : List Warning
deriving DecidableEq

namespace Verdict

def ofCode (strict : Bool) (code : String) : Verdict where
  faults := templateFaults strict code
  hazards := SceneSketch.hazards code
  warnings := SceneSketch.warnings code

def valid (verdict : Verdict) : Bool :=
  verdict.faults.isEmpty

def safe (verdict : Verdict) : Bool :=
  verdict.hazards.isEmpty

def compatible (verdict : Verdict) : Bool :=
  !verdict.warnings.contains .noDrawing

def accepted (verdict : Verdict) : Bool :=
  verdict.valid && verdict.safe

def faultMessages (verdict : Verdict) : List String :=
  verdict.faults.map TemplateFault.message

def hazardMessages (verdict : Verdict) : List String :=
  verdict.hazards.map Hazard.message

def warningMessages (verdict : Verdict) : List String :=
  verdict.warnings.map Warning.message

def members (verdict : Verdict) : Members :=
  let texts (messages : List String) : Json := .arr (messages.map fun (m : String) => .str m)
  [("valid", .bool verdict.valid), ("safe", .bool verdict.safe),
    ("compatible", .bool verdict.compatible), ("errors", texts verdict.faultMessages),
    ("violations", texts verdict.hazardMessages), ("warnings", texts verdict.warningMessages)]

end Verdict

end SceneSketch
