import SceneSketch.Scene.Behavior
import SceneSketch.Scene.Block
import SceneSketch.Scene.Effect
import SceneSketch.Scene.Shape

/-!
# Scenes

A scene is a canvas with elements, drawn in their order, and effects on top.
-/

namespace SceneSketch

structure Element where
  id : Text
  shape : Shape
  style : Style := {}
  behavior : Behavior := .static
  placed : List PlacedBlock := []

namespace Element

def record : Record Element Element :=
  Element.mk <$> .required "id" .text id <*> .required "type" Shape.codec shape
    <*> .defaulted "style" Style.codec {} style
    <*> .defaulted "behavior" Behavior.codec .static behavior
    <*> .defaulted "blocks" (.list PlacedBlock.codec) [] placed

def codec : Codec Element :=
  record.codec "SceneElement"

def blocks (element : Element) : List Block :=
  element.placed.map Subtype.val

def isBackground (element : Element) : Bool :=
  element.shape.isBackground

def isStatic (element : Element) : Bool :=
  element.behavior.isStatic

end Element

structure Canvas where
  width : Double
  height : Double
deriving DecidableEq

def Canvas.record : Record Canvas Canvas :=
  Canvas.mk <$> .required "width" .number width <*> .required "height" .number height

def Canvas.codec : Codec Canvas :=
  Canvas.record.codec "Canvas"

/-- What the channels of a color mean by default. -/
inductive ColorMode
  | rgb
  | hsb
deriving DecidableEq

def ColorMode.name : ColorMode → String
  | rgb => "RGB"
  | hsb => "HSB"

structure Scene where
  canvas : Canvas
  colorMode : Option ColorMode := none
  frameRate : Option Double := none
  elements : List Element := []
  effects : Option (List Effect) := none

def Scene.record : Record Scene Scene :=
  Scene.mk <$> .required "canvas" Canvas.codec canvas
    <*> .optional ⟨"colorMode", "color_mode"⟩ (.choice [.rgb, .hsb] ColorMode.name) colorMode
    <*> .optional ⟨"frameRate", "frame_rate"⟩ .number frameRate
    <*> .defaulted "elements" (.list Element.codec) [] elements
    <*> .optional "effects" (.list Effect.codec) effects

def Scene.codec : Codec Scene :=
  Scene.record.codec "Scene"

end SceneSketch
