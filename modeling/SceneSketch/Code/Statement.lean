import SceneSketch.Scene.Basic
import SceneSketch.Text.ScriptLiteral

/-!
# Statements of sketch code

The code of a scene is a list of statements, remarks and empty lines. A statement is made of
pieces: fixed text, numbers, and texts of the scene as literals, so that nothing of a scene
enters its code in any other form.
-/

namespace SceneSketch

inductive Piece
  | fixed (text : String)
  | number (value : Double)
  | literal (content : String)

def Piece.text : Piece → String
  | fixed s => s
  | number x => x.codeText
  | literal s => scriptLiteral s

def piecesText (pieces : List Piece) : String :=
  String.join (pieces.map Piece.text)

def callPieces (function : String) (arguments : List (List Piece)) : List Piece :=
  .fixed (function ++ "(") :: (List.intercalate [.fixed ", "] arguments ++ [.fixed ")"])

def numberArguments (values : List Double) : List (List Piece) :=
  values.map fun x => [.number x]

/-! ## Expressions -/

inductive Variable
  | x
  | y
  | jitterX
  | jitterY
  | alpha
  | hue
  | buffer
deriving DecidableEq

def Variable.name : Variable → String
  | x => "x"
  | y => "y"
  | jitterX => "jitterX"
  | jitterY => "jitterY"
  | alpha => "alpha"
  | hue => "hue"
  | buffer => "pg"

def Axis.toVariable : Axis → Variable
  | x => .x
  | y => .y

inductive Coordinate
  | number (value : Double)
  | declared (axis : Axis)
  | pointer (axis : Axis)

def Axis.pointerName : Axis → String
  | x => "mouseX"
  | y => "mouseY"

def Coordinate.piece : Coordinate → Piece
  | number value => .number value
  | declared axis => .fixed axis.toVariable.name
  | pointer axis => .fixed axis.pointerName

/-- What a value moves around: a number or the middle of the canvas. -/
inductive Origin
  | number (value : Double)
  | middle (axis : Axis)

def Origin.piece : Origin → Piece
  | number value => .number value
  | middle .x => .fixed "width / 2"
  | middle .y => .fixed "height / 2"

/-- A function of the frame count that repeats or wanders. -/
inductive Cycle
  | trig (trig : Trig)
  | absSin
  | noise

/-- Pieces of `frameCount * speed` inside a call. -/
def Cycle.pieces (speed : Double) : Cycle → List Piece
  | trig t => [.fixed (t.name ++ "(frameCount * "), .number speed, .fixed ")"]
  | absSin => [.fixed "abs(sin(frameCount * ", .number speed, .fixed "))"]
  | noise => [.fixed "noise(frameCount * ", .number speed, .fixed ")"]

inductive Signal
  | around (origin : Origin) (cycle : Cycle) (speed factor : Double)
  | offset (origin : Origin) (distance : Double)
  | random (amount : Double)
  | fade (speed low high : Double)
  | wheel (speed : Double)
  | towards (start : Double) (axis : Axis) (speed : Double)
  | buffer (size : Double)

def Signal.pieces : Signal → List Piece
  | around origin cycle speed factor =>
    origin.piece :: .fixed " + " :: (cycle.pieces speed ++ [.fixed " * ", .number factor])
  | offset origin distance => [origin.piece, .fixed " + ", .number distance]
  | random amount => [.fixed "random(-", .number amount, .fixed ", ", .number amount, .fixed ")"]
  | fade speed low high =>
    callPieces "map"
      [Cycle.pieces speed (.trig .sin), [.fixed "-1"], [.fixed "1"], [.number low], [.number high]]
  | wheel speed => [.fixed "(frameCount * ", .number speed, .fixed ") % 360"]
  | towards start axis speed =>
    callPieces "lerp" [[.number start], [.fixed axis.pointerName], [.number speed]]
  | buffer size =>
    callPieces "createGraphics"
      [[.fixed "width / ", .number size], [.fixed "height / ", .number size]]

/-! ## Statements -/

inductive Statement
  | createCanvas (canvas : Canvas)
  | colorMode (mode : ColorMode)
  | frameRate (rate : Double)
  | background (color : Color)
  | noFill
  | fill (color : Color)
  | noStroke
  | stroke (color : Color)
  | strokeWeight (weight : Double)
  | declare (name : Variable) (value : Signal)
  | ellipse (x y : Coordinate) (diameter : Double)
  | rect (x y : Coordinate) (width height : Double)
  | line (segment : Segment)
  | textSize (size : Double)
  | text (content : String) (x y : Double)
  | push
  | pop
  | toMiddle
  | rotate (speed : Double)
  | fromMiddle
  | blur (amount : Double)
  | threshold (level : Double)
  | invert
  | shadowBlur (intensity : Double)
  | shadowColor (color : Option Color)
  | loadPixels
  | updatePixels
  | copyToBuffer
  | drawBuffer

namespace Statement

def colorArguments (color : Color) : List (List Piece) :=
  numberArguments color.channels

/-- The pieces of a statement without the closing semicolon. -/
def pieces : Statement → List Piece
  | createCanvas c => callPieces "createCanvas" (numberArguments [c.width, c.height])
  | colorMode mode => callPieces "colorMode" [[.fixed mode.name]]
  | frameRate rate => callPieces "frameRate" (numberArguments [rate])
  | background color => callPieces "background" (colorArguments color)
  | noFill => callPieces "noFill" []
  | fill color => callPieces "fill" (colorArguments color)
  | noStroke => callPieces "noStroke" []
  | stroke color => callPieces "stroke" (colorArguments color)
  | strokeWeight weight => callPieces "strokeWeight" (numberArguments [weight])
  | declare v value => .fixed ("let " ++ v.name ++ " = ") :: value.pieces
  | ellipse x y diameter =>
    callPieces "ellipse" [[x.piece], [y.piece], [.number diameter], [.number diameter]]
  | rect x y width height =>
    callPieces "rect" [[x.piece], [y.piece], [.number width], [.number height]]
  | line s => callPieces "line" (numberArguments [s.x1, s.y1, s.x2, s.y2])
  | textSize size => callPieces "textSize" (numberArguments [size])
  | text content x y => callPieces "text" [[.literal content], [.number x], [.number y]]
  | push => callPieces "push" []
  | pop => callPieces "pop" []
  | toMiddle => callPieces "translate" [[.fixed "width / 2"], [.fixed "height / 2"]]
  | rotate speed => callPieces "rotate" [[.fixed "frameCount * ", .number speed]]
  | fromMiddle => callPieces "translate" [[.fixed "-width / 2"], [.fixed "-height / 2"]]
  | blur amount => callPieces "filter" [[.fixed "BLUR"], [.number amount]]
  | threshold level => callPieces "filter" [[.fixed "THRESHOLD"], [.number level]]
  | invert => callPieces "filter" [[.fixed "INVERT"]]
  | shadowBlur intensity => [.fixed "drawingContext.shadowBlur = ", .number intensity]
  | shadowColor none => [.fixed "drawingContext.shadowColor = 'rgba(255, 255, 255, 0.8)'"]
  | shadowColor (some color) =>
    .fixed "drawingContext.shadowColor = " ::
      (callPieces "color" (colorArguments color) ++ [.fixed ".toString()"])
  | loadPixels => callPieces "loadPixels" []
  | updatePixels => callPieces "updatePixels" []
  | copyToBuffer => [.fixed "pg.copy(get(), 0, 0, width, height, 0, 0, pg.width, pg.height)"]
  | drawBuffer => [.fixed "image(pg, 0, 0, width, height)"]

def declared? : Statement → Option Variable
  | declare v _ => some v
  | _ => none

end Statement

/-! ## Lines -/

inductive Remark
  | effects
  | colorShift
  | hueShift (degrees : Double)
  | saturation (percent : Double)
  | pixelate

def Remark.text : Remark → String
  | effects => "Apply visual effects"
  | colorShift => "Color shift effect"
  | hueShift degrees => "Apply hue shift: " ++ degrees.codeText ++ "°"
  | saturation percent => "Apply saturation: " ++ percent.codeText ++ "%"
  | pixelate => "Pixelate effect"

inductive Line
  | blank
  | remark (value : Remark)
  | code (statement : Statement)

def Line.text : Line → String
  | blank => ""
  | remark r => "  // " ++ r.text
  | code s => "  " ++ piecesText s.pieces ++ ";"

def linesText (lines : List Line) : String :=
  String.intercalate "\n" (lines.map Line.text)

end SceneSketch
