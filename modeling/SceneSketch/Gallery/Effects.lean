import SceneSketch.Scene.Effect

/-!
# Ready-made effects

One effect of each kind, and the ranges in which their parameters are set.
-/

namespace SceneSketch.Gallery

def effects : List Effect :=
  [⟨"blur", "Blur", "Gaussian blur for soft, dreamy effects", false, .blur 3⟩,
    ⟨"glow", "Glow", "Soft glow effect for highlights", false, .glow ⟨20, none⟩⟩,
    ⟨"colorShift", "Color Shift", "Rotate hue and adjust saturation", false, .colorShift ⟨0, 1⟩⟩,
    ⟨"pixelate", "Pixelate", "Retro pixel art effect", false, .pixelate 8⟩,
    ⟨"threshold", "Threshold", "High contrast black and white", false, .threshold 0.5⟩,
    ⟨"invert", "Invert", "Invert all colors", false, .invert⟩]

structure SliderRange where
  min : Double
  max : Double
  step : Double
deriving DecidableEq

/-- The range of a parameter of a kind of effects; from 0 to 100 for any other. -/
def sliderRange (kind parameter : String) : SliderRange :=
  match kind, parameter with
  | "blur", "amount" => ⟨0, 10, 0.5⟩
  | "glow", "intensity" => ⟨0, 100, 1⟩
  | "colorShift", "hue" => ⟨0, 360, 1⟩
  | "colorShift", "saturation" => ⟨0, 2, 0.1⟩
  | "pixelate", "size" => ⟨2, 20, 1⟩
  | "threshold", "level" => ⟨0, 1, 0.01⟩
  | _, _ => ⟨0, 100, 1⟩

end SceneSketch.Gallery
