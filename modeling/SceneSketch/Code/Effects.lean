import SceneSketch.Code.Statement

/-!
# The code of effects

The enabled effects in their order, under one remark. A color shift that changes nothing has no
code.
-/

namespace SceneSketch

def Filter.lines : Filter → List Line
  | blur amount => [.code (.blur amount)]
  | glow g => [.code (.shadowBlur g.intensity), .code (.shadowColor g.color)]
  | colorShift c =>
    if c.hue.isZero && c.saturation = 1 then []
    else
      [.remark .colorShift, .code .loadPixels, .remark (.hueShift c.hue),
        .remark (.saturation (c.saturation * 100)), .code .updatePixels]
  | pixelate size =>
    [.remark .pixelate, .code (.declare .buffer (.buffer size)), .code .copyToBuffer,
      .code .drawBuffer]
  | threshold level => [.code (.threshold level)]
  | invert => [.code .invert]

def effectLines (effects : List Effect) : List Line :=
  let enabled := effects.filter Effect.enabled
  if enabled.isEmpty then [] else .remark .effects :: enabled.flatMap fun e => e.filter.lines

end SceneSketch
