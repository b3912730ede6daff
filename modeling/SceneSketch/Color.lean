import SceneSketch.Document.Record

/-!
# Colors

A color is given by red, green and blue, by hue, saturation and brightness, or by a gray level,
each with an optional alpha. In sketch code it is the argument list of its channels.
-/

namespace SceneSketch

structure Rgb where
  red : Double
  green : Double
  blue : Double
  alpha : Option Double
deriving DecidableEq

structure Hsb where
  hue : Double
  saturation : Double
  brightness : Double
  alpha : Option Double
deriving DecidableEq

structure Gray where
  level : Double
  alpha : Option Double
deriving DecidableEq

inductive Color
  | rgb (value : Rgb)
  | hsb (value : Hsb)
  | gray (value : Gray)
deriving DecidableEq

def Rgb.record : Record Rgb Rgb :=
  Rgb.mk <$> .required "r" .number red <*> .required "g" .number green
    <*> .required "b" .number blue <*> .optional "a" .number alpha

def Hsb.record : Record Hsb Hsb :=
  Hsb.mk <$> .required "h" .number hue <*> .required "s" .number saturation
    <*> .required "b" .number brightness <*> .optional "a" .number alpha

def Gray.record : Record Gray Gray :=
  Gray.mk <$> .required "value" .number level <*> .optional "a" .number alpha

namespace Color

def codec : Codec Color :=
  .union "mode"
    [Rgb.record.variant "rgb" rgb, Hsb.record.variant "hsb" hsb, Gray.record.variant "gray" gray]
    fun
      | rgb c => ("mode", .str "rgb") :: Rgb.record.dump c
      | hsb c => ("mode", .str "hsb") :: Hsb.record.dump c
      | gray c => ("mode", .str "gray") :: Gray.record.dump c

def alpha : Color → Option Double
  | rgb c => c.alpha
  | hsb c => c.alpha
  | gray c => c.alpha

/-- The channels in order, the alpha last if there is one. -/
def channels (color : Color) : List Double :=
  let main := match color with
    | rgb c => [c.red, c.green, c.blue]
    | hsb c => [c.hue, c.saturation, c.brightness]
    | gray c => [c.level]
  main ++ color.alpha.toList

def code (color : Color) : String :=
  String.intercalate ", " (color.channels.map Double.codeText)

end Color

end SceneSketch
