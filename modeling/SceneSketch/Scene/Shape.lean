import SceneSketch.Color

/-!
# Shapes

What an element looks like and where it stands when nothing moves it, and how it is painted.
-/

namespace SceneSketch

structure Circle where
  x : Double
  y : Double
  diameter : Double
deriving DecidableEq

structure Rectangle where
  x : Double
  y : Double
  width : Double
  height : Double
deriving DecidableEq

structure Segment where
  x1 : Double
  y1 : Double
  x2 : Double
  y2 : Double
deriving DecidableEq

structure Caption where
  content : Text
  x : Double
  y : Double
  size : Double
deriving DecidableEq

inductive Shape
  | circle (value : Circle)
  | rectangle (value : Rectangle)
  | line (value : Segment)
  | text (value : Caption)
  | background (color : Color)
deriving DecidableEq

def Circle.record : Record Circle Circle :=
  Circle.mk <$> .required "x" .number x <*> .required "y" .number y
    <*> .required "diameter" .number diameter

def Rectangle.record : Record Rectangle Rectangle :=
  Rectangle.mk <$> .required "x" .number x <*> .required "y" .number y
    <*> .required "width" .number width <*> .required "height" .number height

def Segment.record : Record Segment Segment :=
  Segment.mk <$> .required "x1" .number x1 <*> .required "y1" .number y1
    <*> .required "x2" .number x2 <*> .required "y2" .number y2

def Caption.record : Record Caption Caption :=
  Caption.mk <$> .required "content" .text content <*> .required "x" .number x
    <*> .required "y" .number y <*> .required "size" .number size

def Color.backgroundRecord : Record Color Color :=
  .required "color" Color.codec id

namespace Shape

def codec : Codec Shape :=
  .union "kind"
    [Circle.record.variant "circle" circle, Rectangle.record.variant "rectangle" rectangle,
      Segment.record.variant "line" line, Caption.record.variant "text" text,
      Color.backgroundRecord.variant "background" background]
    fun
      | circle s => ("kind", .str "circle") :: Circle.record.dump s
      | rectangle s => ("kind", .str "rectangle") :: Rectangle.record.dump s
      | line s => ("kind", .str "line") :: Segment.record.dump s
      | text s => ("kind", .str "text") :: Caption.record.dump s
      | background c => ("kind", .str "background") :: Color.backgroundRecord.dump c

/-- The point that behaviors and blocks move: circles and rectangles have one. -/
def anchor? : Shape → Option (Double × Double)
  | circle s => some (s.x, s.y)
  | rectangle s => some (s.x, s.y)
  | _ => none

def isBackground : Shape → Bool
  | background _ => true
  | _ => false

end Shape

/-! ## Style -/

structure Style where
  fill : Option Color := none
  stroke : Option Color := none
  strokeWeight : Option Double := none
  noFill : Bool := false
  noStroke : Bool := false
deriving DecidableEq

def Style.record : Record Style Style :=
  Style.mk <$> .optional "fill" Color.codec fill <*> .optional "stroke" Color.codec stroke
    <*> .optional ⟨"strokeWeight", "stroke_weight"⟩ .positiveNumber strokeWeight
    <*> .defaulted ⟨"noFill", "no_fill"⟩ .truth false noFill
    <*> .defaulted ⟨"noStroke", "no_stroke"⟩ .truth false noStroke

def Style.codec : Codec Style :=
  Style.record.codec "ElementStyle"

end SceneSketch
