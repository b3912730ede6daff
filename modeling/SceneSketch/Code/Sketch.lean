/-!
# Sketches

A sketch is a program in sections: `preload`, `setup` and `draw` with the bodies of functions,
helper functions and event handlers as they are. Each section stands under a banner. The
sections besides `setup` and `draw` may be left out, and an empty one is left out.
-/

namespace SceneSketch

structure Sketch where
  setup : String
  draw : String
  preload : Option String := none
  helpers : Option String := none
  events : Option String := none
deriving DecidableEq

def bannerRule : String :=
  "// ============================================"

def setupHeader : String := "function setup()"

def drawHeader : String := "function draw()"

/-- The call that makes a sketch object instead of using the global functions. -/
def instanceCall : String := "new p5("

def banner (title : String) : List String :=
  [bannerRule, "// " ++ title, bannerRule]

def functionLines (signature body : String) : List String :=
  [signature ++ " \x7b", body, "\x7d"]

namespace Sketch

def preloadLines (body : String) : List String :=
  if body = "" then [] else banner "PRELOAD" ++ functionLines "function preload()" body ++ [""]

def trailingLines (title text : String) : List String :=
  if text = "" then [] else "" :: (banner title ++ [text])

/-- The lines of a sketch; a section is one of them even if it has several lines itself. -/
def lines (sketch : Sketch) : List String :=
  preloadLines (sketch.preload.getD "") ++
    banner "SETUP" ++ functionLines setupHeader sketch.setup ++ [""] ++
    banner "DRAW" ++ functionLines drawHeader sketch.draw ++
    trailingLines "HELPER FUNCTIONS" (sketch.helpers.getD "") ++
    trailingLines "EVENT HANDLERS" (sketch.events.getD "")

def code (sketch : Sketch) : String :=
  String.intercalate "\n" sketch.lines

end Sketch

end SceneSketch
