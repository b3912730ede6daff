import SceneSketch.Check.Pattern
import SceneSketch.Code.Sketch

/-!
# Structure and template checks

The structure check asks for the two functions and for global functions. The template check asks
for the banners as well, and if it is strict for signatures that are followed by a brace.
-/

namespace SceneSketch

inductive StructureFault
  | missingSetup
  | missingDraw
  | instanceMode
deriving DecidableEq

def StructureFault.message : StructureFault → String
  | missingSetup => "Missing required function: setup()"
  | missingDraw => "Missing required function: draw()"
  | instanceMode => "Instance mode not allowed. Use global mode (setup/draw)."

def faultsOf {α : Type} (tests : List (Bool × α)) : List α :=
  tests.filterMap fun (found, fault) => if found then some fault else none

def structureFaults (code : String) : List StructureFault :=
  faultsOf
    [(!containsWord setupHeader code, .missingSetup),
      (!containsWord drawHeader code, .missingDraw),
      (containsWord instanceCall code, .instanceMode)]

inductive TemplateFault
  | missingSetup
  | missingDraw
  | missingSetupBanner
  | missingDrawBanner
  | instanceMode
  | setupSyntax
  | drawSyntax
deriving DecidableEq

def TemplateFault.message : TemplateFault → String
  | missingSetup => "Missing setup() function"
  | missingDraw => "Missing draw() function"
  | missingSetupBanner => "Missing SETUP section comment"
  | missingDrawBanner => "Missing DRAW section comment"
  | instanceMode => "Instance mode not allowed - use global mode only"
  | setupSyntax => "setup() function has incorrect syntax"
  | drawSyntax => "draw() function has incorrect syntax"

/-- A function without parameters, up to its opening brace. -/
def functionPattern (name : String) : List PatternPart :=
  [.word "function".toList, .someBlanks, .word name.toList, .blanks, .word ['('], .blanks,
    .word [')'], .blanks, .word ['\x7b']]

def hasFunction (name code : String) : Bool :=
  matchesSomewhere (· = ·) (functionPattern name) code

/-- A section is marked by its own comment or by any rule. -/
def hasBanner (title code : String) : Bool :=
  containsWord ("// " ++ title) code || containsWord bannerRule code

def lenientFaults (code : String) : List TemplateFault :=
  faultsOf
    [(!containsWord setupHeader code, .missingSetup),
      (!containsWord drawHeader code, .missingDraw),
      (!hasBanner "SETUP" code, .missingSetupBanner),
      (!hasBanner "DRAW" code, .missingDrawBanner),
      (containsWord instanceCall code, .instanceMode)]

def syntaxFaults (code : String) : List TemplateFault :=
  faultsOf
    [(!hasFunction "setup" code, .setupSyntax),
      (!hasFunction "draw" code, .drawSyntax)]

def templateFaults (strict : Bool) (code : String) : List TemplateFault :=
  lenientFaults code ++ if strict then syntaxFaults code else []

end SceneSketch
