import SceneSketch.Scene.Basic

/-!
# Elements written out

An element is written out with all its members, those that are null included. The members of a
style and of a pulse go by their second spellings.
-/

namespace SceneSketch

def Json.orNull {α : Type} (write : α → Json) (o : Option α) : Json :=
  (o.map write).getD .null

namespace Color

def members : Color → Members
  | rgb c => [("mode", .str "rgb"), ("r", .num c.red), ("g", .num c.green), ("b", .num c.blue),
      ("a", .orNull .num c.alpha)]
  | hsb c => [("mode", .str "hsb"), ("h", .num c.hue), ("s", .num c.saturation),
      ("b", .num c.brightness), ("a", .orNull .num c.alpha)]
  | gray c => [("mode", .str "gray"), ("value", .num c.level), ("a", .orNull .num c.alpha)]

def object (color : Color) : Json :=
  .obj color.members

end Color

def Shape.members : Shape → Members
  | circle s => [("kind", .str "circle"), ("x", .num s.x), ("y", .num s.y),
      ("diameter", .num s.diameter)]
  | rectangle s => [("kind", .str "rectangle"), ("x", .num s.x), ("y", .num s.y),
      ("width", .num s.width), ("height", .num s.height)]
  | line s => [("kind", .str "line"), ("x1", .num s.x1), ("y1", .num s.y1), ("x2", .num s.x2),
      ("y2", .num s.y2)]
  | text s => [("kind", .str "text"), ("content", .str s.content), ("x", .num s.x),
      ("y", .num s.y), ("size", .num s.size)]
  | background color => [("kind", .str "background"), ("color", color.object)]

def Style.members (style : Style) : Members :=
  [("fill", .orNull Color.object style.fill), ("stroke", .orNull Color.object style.stroke),
    ("stroke_weight", .orNull .num style.strokeWeight), ("no_fill", .bool style.noFill),
    ("no_stroke", .bool style.noStroke)]

def Motion.members : Motion → Members
  | wave w => [("type", .str w.trig.name), ("speed", .num w.speed),
      ("amplitude", .num w.amplitude), ("offset", .num w.offset)]
  | linear speed => [("type", .str "linear"), ("speed", .num speed)]

def Behavior.members : Behavior → Members
  | static => [("kind", .str "static")]
  | followMouse tracking => [("kind", .str "followMouse"), ("property", .str tracking.name)]
  | animated a => [("kind", .str "animated"), ("property", .str a.property),
      ("function", .obj a.motion.members)]
  | random r => [("kind", .str "random"), ("property", .str r.property), ("min", .num r.min),
      ("max", .num r.max)]

namespace Block

def members : Block → Members
  | oscillate b => [("type", .str "oscillate"), ("axis", .str b.axis.name), ("speed", .num b.speed),
      ("range", .num b.range)]
  | rotate b => [("type", .str "rotate"), ("speed", .num b.speed)]
  | bounce b => [("type", .str "bounce"), ("axis", .str b.axis.name), ("speed", .num b.speed),
      ("min", .num b.min), ("max", .num b.max)]
  | circlePath b => [("type", .str "circlePath"), ("radius", .num b.radius),
      ("speed", .num b.speed)]
  | perlinNoise b => [("type", .str "perlinNoise"), ("axis", .str b.axis.name),
      ("scale", .num b.scale), ("speed", .num b.speed)]
  | jitter b => [("type", .str "jitter"), ("amount", .num b.amount)]
  | pulse b => [("type", .str "pulse"), ("speed", .num b.speed), ("min_alpha", .num b.minAlpha),
      ("max_alpha", .num b.maxAlpha)]
  | rainbow b => [("type", .str "rainbow"), ("speed", .num b.speed)]
  | followMouse b => [("type", .str "followMouse"), ("speed", .num b.speed)]
  | clickToChange b => [("type", .str "clickToChange"), ("property", .str b.property),
      ("value", b.value)]
  | unknown b => ("type", .str b.kind) :: b.extras

def object (block : Block) : Json :=
  .obj block.members

end Block

def Element.members (element : Element) : Members :=
  [("id", .str element.id), ("type", .obj element.shape.members),
    ("style", .obj element.style.members), ("behavior", .obj element.behavior.members),
    ("blocks", .arr (element.blocks.map Block.object))]

end SceneSketch
