import SceneSketch.Color

/-!
# Visual effects

Effects are applied to the whole canvas after all elements are drawn, as long as they are
enabled.
-/

namespace SceneSketch

structure Glow where
  intensity : Double
  color : Option Color
deriving DecidableEq

structure ColorShift where
  hue : Double
  saturation : Double
deriving DecidableEq

inductive Filter
  | blur (amount : Double)
  | glow (value : Glow)
  | colorShift (value : ColorShift)
  | pixelate (size : Double)
  | threshold (level : Double)
  | invert
deriving DecidableEq

structure Effect where
  id : Text
  name : Text
  description : Text
  enabled : Bool
  filter : Filter
deriving DecidableEq

def Glow.record : Record Glow Glow :=
  Glow.mk <$> .required "intensity" .number intensity <*> .optional "color" Color.codec color

def ColorShift.record : Record ColorShift ColorShift :=
  ColorShift.mk <$> .required "hue" .number hue <*> .required "saturation" .number saturation

def Filter.numberRecord (key : String) : Record Double Double :=
  .required key .number id

def Filter.codec : Codec Filter :=
  .union "type"
    [(numberRecord "amount").variant "blur" blur, Glow.record.variant "glow" glow,
      ColorShift.record.variant "colorShift" colorShift,
      (numberRecord "size").variant "pixelate" pixelate,
      (numberRecord "level").variant "threshold" threshold,
      (Record.pure invert).variant "invert" id]
    fun
      | blur amount => ("type", .str "blur") :: (numberRecord "amount").dump amount
      | glow g => ("type", .str "glow") :: Glow.record.dump g
      | colorShift c => ("type", .str "colorShift") :: ColorShift.record.dump c
      | pixelate size => ("type", .str "pixelate") :: (numberRecord "size").dump size
      | threshold level => ("type", .str "threshold") :: (numberRecord "level").dump level
      | invert => [("type", .str "invert")]

def Effect.record : Record Effect Effect :=
  Effect.mk <$> .required "id" .text id <*> .required "name" .text name
    <*> .defaulted "description" .text "" description
    <*> .defaulted "enabled" .truth false enabled
    <*> .required "parameters" Filter.codec filter

def Effect.codec : Codec Effect :=
  Effect.record.codec "VisualEffect"

end SceneSketch
