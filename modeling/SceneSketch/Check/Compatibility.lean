import SceneSketch.Check.Pattern

/-!
# Compatibility check

Warnings about code that does not look like a drawing program. Only the first one speaks against
the code.
-/

namespace SceneSketch

inductive Warning
  | noDrawing
  | canvasOutsideSetup
  | canvasAccess
  | contextAccess
deriving DecidableEq

def Warning.message : Warning → String
  | noDrawing => "Code does not appear to use p5.js functions"
  | canvasOutsideSetup => "createCanvas() should be called in setup()"
  | canvasAccess => "Direct canvas manipulation detected - use p5.js functions instead"
  | contextAccess => "Direct context manipulation detected - use p5.js functions instead"

def knownFunctions : List String :=
  ["createCanvas", "background", "fill", "stroke", "ellipse", "rect", "line", "triangle", "arc",
    "push", "pop", "translate", "rotate", "scale"]

def usesDrawing (code : String) : Bool :=
  knownFunctions.any (containsWord · code)

/-- The head of `setup` up to its opening brace, whatever its parameters are. -/
def setupHead : List PatternPart :=
  [.word "function".toList, .someBlanks, .word "setup".toList, .blanks, .word ['('], .until ')',
    .word [')'], .blanks, .word ['\x7b']]

/-- Some head of `setup` is followed by `createCanvas` before the next closing brace. -/
def createsCanvas (code : String) : Bool :=
  someSuffix
    (fun cs => (afterParts? (· = ·) setupHead cs).any fun rest =>
      someSuffix ("createCanvas".toList.isPrefixOf ·) (rest.takeWhile (· ≠ '\x7d')))
    code.toList

def warnings (code : String) : List Warning :=
  (if usesDrawing code then [] else [.noDrawing]) ++
  (if createsCanvas code then [] else [.canvasOutsideSetup]) ++
  (if containsWord "canvas." code then [.canvasAccess] else []) ++
  (if containsWord "ctx." code then [.contextAccess] else [])

end SceneSketch
