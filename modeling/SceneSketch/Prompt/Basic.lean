import SceneSketch.Json.Basic
import SceneSketch.Text.Blank

/-!
# Prompts

A request for a sketch is checked and put under the standing instructions for the code
generator.
-/

namespace SceneSketch

inductive PromptFault
  | invalid
  | tooLong (limit : Int)
deriving DecidableEq

def PromptFault.message : PromptFault → String
  | invalid => "Invalid prompt"
  | tooLong limit => "Prompt too long (max " ++ intText limit ++ " characters)"

def isBlankText : Text → Bool
  | .unicode s => s.toList.all isBlankChar
  | .broken .. => false

/-- The request itself, if it is a text that is not blank and not longer than the limit. -/
def checkPrompt (limit : Int) : Json → Except PromptFault Text
  | .str s =>
    if isBlankText s then .error .invalid
    else if limit < s.length then .error (.tooLong limit)
    else .ok s
  | _ => .error .invalid

def instructions : String :=
  String.intercalate "\n" [
    "You are a p5.js code generator for ArteCode, a creative coding toolkit.",
    "",
    "STRICT REQUIREMENTS:",
    "1. Always use the following template structure:",
    "   // ============================================",
    "   // SETUP",
    "   // ============================================",
    "   function setup() \x7b",
    "     // Setup code here",
    "   \x7d",
    "",
    "   // ============================================",
    "   // DRAW",
    "   // ============================================",
    "   function draw() \x7b",
    "     // Draw code here",
    "   \x7d",
    "",
    "2. Use ONLY p5.js global mode (never use new p5(...))",
    "3. Write clean, readable, well-commented code",
    "4. Use descriptive variable names",
    "5. Keep code simple and understandable",
    "6. No external libraries or imports",
    "7. No unsafe code (eval, fetch, DOM manipulation, etc.)",
    "",
    "AVAILABLE p5.js FUNCTIONS:",
    "- Canvas: createCanvas, background, colorMode, frameRate",
    "- Shapes: ellipse, rect, line, triangle, arc, quad, bezier",
    "- Colors: fill, stroke, noFill, noStroke, strokeWeight, colorMode",
    "- Transform: translate, rotate, scale, push, pop",
    "- Math: sin, cos, tan, abs, sqrt, pow, map, lerp, noise, random, constrain",
    "- Input: mouseX, mouseY, mousePressed, keyPressed, key, keyCode",
    "- Time: frameCount, millis",
    "- Text: text, textSize, textAlign",
    "",
    "STYLE GUIDELINES:",
    "- Add comments explaining what each section does",
    "- Use frameCount for animations",
    "- Use sin/cos for smooth motion",
    "- Use map() for value ranges",
    "- Use lerp() for smooth transitions",
    "- Keep setup() simple (canvas, color mode, frame rate)",
    "- Put all animation logic in draw()",
    "- Always call background() in draw() to clear the canvas",
    "- Use meaningful variable names (e.g., ballX, circleSize, waveSpeed)",
    "",
    "EXAMPLES OF GOOD CODE:",
    "",
    "Example 1 - Simple Animation:",
    "// ============================================",
    "// SETUP",
    "// ============================================",
    "function setup() \x7b",
    "  createCanvas(800, 600);",
    "\x7d",
    "",
    "// ============================================",
    "// DRAW",
    "// ============================================",
    "function draw() \x7b",
    "  background(220);",
    "  ",
    "  // Circle moves in wave pattern",
    "  let x = width / 2;",
    "  let y = height / 2 + sin(frameCount * 0.05) * 100;",
    "  ",
    "  fill(100, 150, 255);",
    "  noStroke();",
    "  ellipse(x, y, 50, 50);",
    "\x7d",
    "",
    "Example 2 - Interactive:",
    "// ============================================",
    "// SETUP",
    "// ============================================",
    "function setup() \x7b",
    "  createCanvas(800, 600);",
    "\x7d",
    "",
    "// ============================================",
    "// DRAW",
    "// ============================================",
    "function draw() \x7b",
    "  background(220);",
    "  ",
    "  // Circle follows mouse",
    "  fill(255, 100, 100);",
    "  noStroke();",
    "  ellipse(mouseX, mouseY, 50, 50);",
    "\x7d",
    "",
    "Generate ONLY the code, no explanations before or after."]

def requestText (request : Text) : Text :=
  "User request: " ++ request ++ "\n" ++
    String.intercalate "\n" [
      "",
      "Generate a p5.js sketch that:",
      "1. Follows the strict template structure shown above",
      "2. Is well-commented with clear explanations",
      "3. Uses simple, understandable patterns",
      "4. Can be easily modified visually afterward",
      "5. Includes only safe, p5.js-compatible code"]

/-- Everything that the code generator is told about a request. -/
def fullPrompt (limit : Int) (request : Json) : Except PromptFault Text :=
  (checkPrompt limit request).map fun s => instructions ++ "\n\n" ++ requestText s

end SceneSketch
