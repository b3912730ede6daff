import SceneSketch.Code.Sketch

/-!
# Example sketches

Sketches to start from.
-/

namespace SceneSketch.Gallery

def trailSketch : Sketch where
  setup := String.intercalate "\n" [
    "  createCanvas(800, 600);",
    "  background(20);"]
  draw := String.intercalate "\n" [
    "  // Draw colorful circles that follow the mouse",
    "  fill(random(255), random(255), random(255), 150);",
    "  noStroke();",
    "  ellipse(mouseX, mouseY, 50, 50);"]

def emptySketch : Sketch where
  setup := String.intercalate "\n" [
    "  createCanvas(400, 400);",
    "  background(220);"]
  draw := "  // Your code here"

def animationSketch : Sketch where
  setup := String.intercalate "\n" [
    "  createCanvas(400, 400);",
    "  background(220);"]
  draw := String.intercalate "\n" [
    "  background(220, 10); // Fade effect",
    "  ",
    "  // Animated circle",
    "  let x = width / 2 + cos(frameCount * 0.05) * 100;",
    "  let y = height / 2 + sin(frameCount * 0.05) * 100;",
    "  ",
    "  fill(100, 150, 255);",
    "  ellipse(x, y, 50, 50);"]

def interactiveSketch : Sketch where
  setup := String.intercalate "\n" [
    "  createCanvas(400, 400);",
    "  background(220);"]
  draw := String.intercalate "\n" [
    "  background(220);",
    "  ",
    "  // Circle follows mouse",
    "  fill(255, 100, 100);",
    "  ellipse(mouseX, mouseY, 50, 50);"]
  events := some (String.intercalate "\n" [
    "function mousePressed() \x7b",
    "  // Change background on click",
    "  background(random(255), random(255), random(255));",
    "\x7d"])

def generativeSketch : Sketch where
  setup := String.intercalate "\n" [
    "  createCanvas(400, 400);",
    "  background(20);",
    "  noLoop(); // Draw once"]
  draw := String.intercalate "\n" [
    "  // Generative pattern",
    "  for (let i = 0; i < 100; i++) \x7b",
    "    let x = random(width);",
    "    let y = random(height);",
    "    let size = random(5, 30);",
    "    ",
    "    fill(random(255), random(255), random(255), 150);",
    "    noStroke();",
    "    ellipse(x, y, size, size);",
    "  \x7d"]

def rainbowSketch : Sketch where
  setup := String.intercalate "\n" [
    "  createCanvas(windowWidth, windowHeight);",
    "  background(20);",
    "  colorMode(HSB);"]
  draw := String.intercalate "\n" [
    "  // Rainbow trail effect",
    "  let hue = (frameCount * 2) % 360;",
    "  fill(hue, 80, 100, 0.3);",
    "  noStroke();",
    "  ellipse(mouseX, mouseY, 40, 40);"]

def ballSketch : Sketch where
  setup := String.intercalate "\n" [
    "  createCanvas(400, 400);",
    "  background(220);"]
  draw := String.intercalate "\n" [
    "  background(220);",
    "  ",
    "  // Bouncing ball",
    "  let x = width / 2 + cos(frameCount * 0.1) * 150;",
    "  let y = height / 2 + abs(sin(frameCount * 0.15)) * 150;",
    "  ",
    "  fill(100, 150, 255);",
    "  ellipse(x, y, 50, 50);"]

/-- The examples besides the default and the blank sketch. -/
def sketches : List (String × Sketch) :=
  [("animation", animationSketch),
    ("interactive", interactiveSketch),
    ("generative", generativeSketch),
    ("rainbow-trail", rainbowSketch),
    ("bouncing-ball", ballSketch)]

def sketchNames : List String :=
  sketches.map Prod.fst

def sketch? (name : String) : Option Sketch :=
  (("default", trailSketch) :: ("blank", emptySketch) :: sketches).lookup name

end SceneSketch.Gallery
