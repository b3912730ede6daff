import SceneSketch.Scene.Block

/-!
# Ready-made blocks

Blocks for common patterns of motion, noise, color and interaction, and what each kind of blocks
does.
-/

namespace SceneSketch.Gallery

def blocks : List (String × PlacedBlock) :=
  [("oscillateX", ⟨.oscillate ⟨.x, 0.05, 100⟩, rfl⟩),
    ("oscillateY", ⟨.oscillate ⟨.y, 0.05, 100⟩, rfl⟩),
    ("slowRotate", ⟨.rotate ⟨0.01⟩, rfl⟩),
    ("fastRotate", ⟨.rotate ⟨0.05⟩, rfl⟩),
    ("bounceX", ⟨.bounce ⟨.x, 0.05, 100, 700⟩, rfl⟩),
    ("bounceY", ⟨.bounce ⟨.y, 0.05, 100, 500⟩, rfl⟩),
    ("orbit", ⟨.circlePath ⟨150, 0.02⟩, rfl⟩),
    ("noiseX", ⟨.perlinNoise ⟨.x, 100, 0.01⟩, rfl⟩),
    ("noiseY", ⟨.perlinNoise ⟨.y, 100, 0.01⟩, rfl⟩),
    ("shake", ⟨.jitter ⟨5⟩, rfl⟩),
    ("vibrate", ⟨.jitter ⟨2⟩, rfl⟩),
    ("breathe", ⟨.pulse ⟨0.05, 100, 255⟩, rfl⟩),
    ("fastPulse", ⟨.pulse ⟨0.1, 50, 255⟩, rfl⟩),
    ("rainbowSlow", ⟨.rainbow ⟨1⟩, rfl⟩),
    ("rainbowFast", ⟨.rainbow ⟨5⟩, rfl⟩),
    ("followSlow", ⟨.followMouse ⟨0.05⟩, rfl⟩),
    ("followFast", ⟨.followMouse ⟨0.2⟩, rfl⟩)]

def blockTexts : List (String × String) :=
  [("oscillate", "Moves element back and forth smoothly"),
    ("rotate", "Rotates element continuously"),
    ("bounce", "Bounces element between boundaries"),
    ("circlePath", "Moves element in a circular path"),
    ("perlinNoise", "Adds smooth, organic movement"),
    ("jitter", "Adds small random vibrations"),
    ("pulse", "Fades element in and out"),
    ("rainbow", "Cycles through rainbow colors"),
    ("followMouse", "Element follows the mouse cursor"),
    ("clickToChange", "Changes property when clicked")]

end SceneSketch.Gallery
