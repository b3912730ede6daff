import SceneSketch.Gallery.Blocks
import SceneSketch.Scene.Basic

/-!
# Example scenes

Scenes to start from: five of shapes and behaviors, and five of behavior blocks.
-/

namespace SceneSketch.Gallery

def background (level : Double) : Element where
  id := "bg-1"
  shape := .background (.gray ⟨level, none⟩)

def rgb (red green blue : Double) : Color :=
  .rgb ⟨red, green, blue, none⟩

def black : Color :=
  .gray ⟨0, none⟩

def colorfulCircles : Scene where
  canvas := ⟨800, 600⟩
  elements := [background 20,
    { id := "circle-1"
      shape := .circle ⟨400, 300, 50⟩
      style := { fill := some (.rgb ⟨255, 100, 100, some 150⟩), noStroke := true }
      behavior := .followMouse .both }]

def emptyScene : Scene where
  canvas := ⟨400, 400⟩
  elements := [background 220]

def bouncingBall : Scene where
  canvas := ⟨400, 400⟩
  elements := [background 220,
    { id := "ball-1"
      shape := .circle ⟨200, 200, 50⟩
      style := { fill := some (rgb 100 150 255) }
      behavior := .animated ⟨"position", .wave ⟨.sin, 0.1, 150, 0⟩⟩ }]

def rainbowTrail : Scene where
  canvas := ⟨800, 600⟩
  colorMode := some .hsb
  elements := [background 20,
    { id := "circle-1"
      shape := .circle ⟨400, 300, 40⟩
      style := { fill := some (.hsb ⟨180, 80, 100, some 0.3⟩), noStroke := true }
      behavior := .followMouse .both }]

def simpleShapes : Scene where
  canvas := ⟨400, 400⟩
  elements := [background 240,
    { id := "circle-1"
      shape := .circle ⟨100, 100, 80⟩
      style := { fill := some (rgb 255 100 100), stroke := some black, strokeWeight := some 2 } },
    { id := "rect-1"
      shape := .rectangle ⟨200, 200, 100, 60⟩
      style := { fill := some (rgb 100 150 255), stroke := some black, strokeWeight := some 2 } },
    { id := "line-1"
      shape := .line ⟨50, 300, 350, 300⟩
      style := { stroke := some black, strokeWeight := some 3 } }]

def interactiveCircle : Scene where
  canvas := ⟨400, 400⟩
  elements := [background 220,
    { id := "circle-1"
      shape := .circle ⟨200, 200, 50⟩
      style := { fill := some (rgb 255 100 100) }
      behavior := .followMouse .both }]

/-- A circle in the middle with ready-made blocks. -/
def blockScene (colorMode : Option ColorMode) (fill : Color) (diameter : Double)
    (names : List String) : Scene where
  canvas := ⟨800, 600⟩
  colorMode := colorMode
  elements := [background 20,
    { id := "circle-1"
      shape := .circle ⟨400, 300, diameter⟩
      style := { fill := some fill, noStroke := true }
      placed := names.filterMap fun name => blocks.lookup name }]

def shapeScenes : List (String × Scene) :=
  [("colorful-circles", colorfulCircles),
    ("bouncing-ball", bouncingBall),
    ("rainbow-trail", rainbowTrail),
    ("simple-shapes", simpleShapes),
    ("interactive-circle", interactiveCircle)]

def blockScenes : List (String × Scene) :=
  [("oscillating-circle", blockScene none (rgb 100 150 255) 50 ["oscillateX"]),
    ("pulsing-circle", blockScene none (rgb 255 100 100) 50 ["breathe"]),
    ("oscillate-and-pulse", blockScene none (rgb 255 150 100) 50 ["oscillateX", "breathe"]),
    ("orbiting-circle", blockScene none (rgb 100 255 150) 30 ["orbit"]),
    ("rainbow-circle",
      blockScene (some .hsb) (.hsb ⟨180, 80, 100, none⟩) 100 ["rainbowSlow"])]

def scenes : List (String × Scene) :=
  shapeScenes ++ blockScenes

def sceneNames : List String :=
  scenes.map Prod.fst

def scene? (name : String) : Option Scene :=
  scenes.lookup name

def unknownSceneMessage (name : String) : String :=
  "Unknown example scene: " ++ name

end SceneSketch.Gallery
