import SceneSketch.Drawing.Basic

/-!
# Drawings in words

A drawing is described for a code generator: all shapes with their rounded measures, then what
to make of them. The summary counts the shapes of each kind.
-/

namespace SceneSketch

/-- The whole number below the value plus one half, as the sum of two doubles. -/
def Double.roundHalfUp (x : Double) : Int :=
  ((x + 0.5).floor?).getD 0

def roundedText (x : Double) : String :=
  intText x.roundHalfUp

def pointText (x y : Double) : String :=
  "(" ++ roundedText x ++ ", " ++ roundedText y ++ ")"

def DrawnShape.describe : DrawnShape → String
  | circle s =>
    "a circle centered at position " ++ pointText s.x s.y ++ " with radius " ++
      roundedText s.radius
  | rectangle s =>
    "a rectangle at position " ++ pointText s.x s.y ++ " with width " ++
      roundedText s.width.abs ++ " and height " ++ roundedText s.height.abs
  | line s => "a line from point " ++ pointText s.x1 s.y1 ++ " to point " ++ pointText s.x2 s.y2

inductive DrawnKind
  | circle
  | rectangle
  | line
deriving DecidableEq

def DrawnKind.name : DrawnKind → String
  | circle => "circle"
  | rectangle => "rectangle"
  | line => "line"

def DrawnShape.kind : DrawnShape → DrawnKind
  | circle _ => .circle
  | rectangle _ => .rectangle
  | line _ => .line

namespace Drawing

def describe (drawing : Drawing) : String :=
  if drawing.shapes.isEmpty then "Create a blank p5.js sketch with a light gray background"
  else
    "Create a p5.js sketch on a canvas of " ++ drawing.width.codeText ++ "x" ++
      drawing.height.codeText ++ " with " ++
      String.intercalate ", " (drawing.shapes.map DrawnShape.describe) ++
      ". Use a light gray background and make the shapes colorful."

def count (drawing : Drawing) (kind : DrawnKind) : Nat :=
  drawing.shapes.countP fun s => s.kind = kind

def countText (n : Nat) (kind : DrawnKind) : List String :=
  if n = 0 then [] else [natText n ++ " " ++ kind.name ++ if 1 < n then "s" else ""]

def summary (drawing : Drawing) : String :=
  let parts := [DrawnKind.circle, .rectangle, .line].flatMap fun k => countText (drawing.count k) k
  if parts.isEmpty then "empty sketch" else String.intercalate ", " parts

end Drawing

end SceneSketch
