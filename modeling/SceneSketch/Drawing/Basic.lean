import SceneSketch.Document.Record

/-!
# Freehand drawings

The shapes that were drawn by hand on a canvas. A color is kept as text and not looked at.
-/

namespace SceneSketch

structure DrawnCircle where
  x : Double
  y : Double
  radius : Double
  color : Option Text
deriving DecidableEq

/-- A rectangle; it was dragged from one corner, so its sides have signs. -/
structure DrawnRectangle where
  x : Double
  y : Double
  width : Double
  height : Double
  color : Option Text
deriving DecidableEq

structure DrawnLine where
  x1 : Double
  y1 : Double
  x2 : Double
  y2 : Double
  color : Option Text
deriving DecidableEq

inductive DrawnShape
  | circle (value : DrawnCircle)
  | rectangle (value : DrawnRectangle)
  | line (value : DrawnLine)
deriving DecidableEq

structure Drawing where
  shapes : List DrawnShape
  width : Double
  height : Double
deriving DecidableEq

def DrawnCircle.record : Record DrawnCircle DrawnCircle :=
  DrawnCircle.mk <$> .required "x" .number x <*> .required "y" .number y
    <*> .required "radius" .number radius <*> .optional "color" .text color

def DrawnRectangle.record : Record DrawnRectangle DrawnRectangle :=
  DrawnRectangle.mk <$> .required "x" .number x <*> .required "y" .number y
    <*> .required "width" .number width <*> .required "height" .number height
    <*> .optional "color" .text color

def DrawnLine.record : Record DrawnLine DrawnLine :=
  DrawnLine.mk <$> .required "x1" .number x1 <*> .required "y1" .number y1
    <*> .required "x2" .number x2 <*> .required "y2" .number y2
    <*> .optional "color" .text color

def DrawnShape.codec : Codec DrawnShape :=
  .union "type"
    [DrawnCircle.record.variant "circle" circle,
      DrawnRectangle.record.variant "rectangle" rectangle, DrawnLine.record.variant "line" line]
    fun
      | circle s => ("type", .str "circle") :: DrawnCircle.record.dump s
      | rectangle s => ("type", .str "rectangle") :: DrawnRectangle.record.dump s
      | line s => ("type", .str "line") :: DrawnLine.record.dump s

def Drawing.record : Record Drawing Drawing :=
  Drawing.mk <$> .defaulted "shapes" (.list DrawnShape.codec) [] shapes
    <*> .required ⟨"canvasWidth", "canvas_width"⟩ .number width
    <*> .required ⟨"canvasHeight", "canvas_height"⟩ .number height

def Drawing.codec : Codec Drawing :=
  Drawing.record.codec "SketchData"

end SceneSketch
