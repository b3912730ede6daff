import SceneSketch.Document.Record

/-!
# Behavior blocks

Small effects that are added to an element besides its behavior. A block of a kind that is not
known is kept with all its members, so that it can be skipped and written back.
-/

namespace SceneSketch

inductive Axis
  | x
  | y
deriving DecidableEq

def Axis.name : Axis → String
  | x => "x"
  | y => "y"

def Axis.codec : Codec Axis :=
  .choice [x, y] name

structure Oscillation where
  axis : Axis
  speed : Double
  range : Double
deriving DecidableEq

structure Rotation where
  speed : Double
deriving DecidableEq

structure Bounce where
  axis : Axis
  speed : Double
  min : Double
  max : Double
deriving DecidableEq

structure CirclePath where
  radius : Double
  speed : Double
deriving DecidableEq

structure PerlinNoise where
  axis : Axis
  scale : Double
  speed : Double
deriving DecidableEq

structure Jitter where
  amount : Double
deriving DecidableEq

structure Pulse where
  speed : Double
  minAlpha : Double
  maxAlpha : Double
deriving DecidableEq

structure Rainbow where
  speed : Double
deriving DecidableEq

structure Pursuit where
  speed : Double
deriving DecidableEq

/-- Changes a property on a click; `value` may be anything. -/
structure ClickChange where
  property : Text
  value : Json

/-- A block of another kind, with the members besides its kind. -/
structure UnknownBlock where
  kind : Text
  extras : Members

inductive Block
  | oscillate (value : Oscillation)
  | rotate (value : Rotation)
  | bounce (value : Bounce)
  | circlePath (value : CirclePath)
  | perlinNoise (value : PerlinNoise)
  | jitter (value : Jitter)
  | pulse (value : Pulse)
  | rainbow (value : Rainbow)
  | followMouse (value : Pursuit)
  | clickToChange (value : ClickChange)
  | unknown (value : UnknownBlock)

/-! ## Records -/

def Oscillation.record : Record Oscillation Oscillation :=
  Oscillation.mk <$> .required "axis" Axis.codec axis <*> .required "speed" .number speed
    <*> .required "range" .number range

def Rotation.record : Record Rotation Rotation :=
  Rotation.mk <$> .required "speed" .number speed

def Bounce.record : Record Bounce Bounce :=
  Bounce.mk <$> .required "axis" Axis.codec axis <*> .required "speed" .number speed
    <*> .required "min" .number min <*> .required "max" .number max

def CirclePath.record : Record CirclePath CirclePath :=
  CirclePath.mk <$> .required "radius" .number radius <*> .required "speed" .number speed

def PerlinNoise.record : Record PerlinNoise PerlinNoise :=
  PerlinNoise.mk <$> .required "axis" Axis.codec axis <*> .required "scale" .number scale
    <*> .required "speed" .number speed

def Jitter.record : Record Jitter Jitter :=
  Jitter.mk <$> .required "amount" .number amount

def Pulse.record : Record Pulse Pulse :=
  Pulse.mk <$> .required "speed" .number speed
    <*> .required ⟨"minAlpha", "min_alpha"⟩ .number minAlpha
    <*> .required ⟨"maxAlpha", "max_alpha"⟩ .number maxAlpha

def Rainbow.record : Record Rainbow Rainbow :=
  Rainbow.mk <$> .required "speed" .number speed

def Pursuit.record : Record Pursuit Pursuit :=
  Pursuit.mk <$> .required "speed" .number speed

def ClickChange.record : Record ClickChange ClickChange :=
  ClickChange.mk <$> .required "property" .text property <*> .freeForm "value" value

/-- The members besides the kind, of which those that are null are not written. -/
def UnknownBlock.extrasRecord : Record UnknownBlock Members where
  keys := []
  read members := .accepted (members.filter fun m => m.1 ≠ "type")
  dump block := block.extras.filter fun m => !m.2.isNull

def UnknownBlock.record : Record UnknownBlock UnknownBlock :=
  (UnknownBlock.mk <$> .required "type" .text kind <*> extrasRecord).unicodeKeys

namespace Block

def knownVariants : List (Variant Block) :=
  [Oscillation.record.variant "oscillate" oscillate, Rotation.record.variant "rotate" rotate,
    Bounce.record.variant "bounce" bounce, CirclePath.record.variant "circlePath" circlePath,
    PerlinNoise.record.variant "perlinNoise" perlinNoise, Jitter.record.variant "jitter" jitter,
    Pulse.record.variant "pulse" pulse, Rainbow.record.variant "rainbow" rainbow,
    Pursuit.record.variant "followMouse" followMouse,
    ClickChange.record.variant "clickToChange" clickToChange]

def unknownVariant : Variant Block :=
  UnknownBlock.record.variant "unknown" unknown

def knownKinds : List Text :=
  knownVariants.map fun v => v.tag

/-- The variant that a kind names; it is looked up in a table, so a list or an object will not
do. -/
def variantOf : Option Json → Outcome (Variant Block)
  | some (.arr _) => .containerKey .list
  | some (.obj _) => .containerKey .object
  | some (.str (.unicode kind)) =>
    .accepted ((knownVariants.find? fun v => v.tag = kind).getD unknownVariant)
  | _ => .accepted unknownVariant

def read : Json → Outcome Block
  | .obj members =>
    (variantOf (Members.get? members "type")).bind fun v =>
      (v.read members).under (.key v.tag)
  | _ => (Outcome.fault (.notModel "UnknownBlock")).under (.key unknownVariant.tag)

def kind : Block → Text
  | oscillate _ => "oscillate"
  | rotate _ => "rotate"
  | bounce _ => "bounce"
  | circlePath _ => "circlePath"
  | perlinNoise _ => "perlinNoise"
  | jitter _ => "jitter"
  | pulse _ => "pulse"
  | rainbow _ => "rainbow"
  | followMouse _ => "followMouse"
  | clickToChange _ => "clickToChange"
  | unknown b => b.kind

def dumpMembers : Block → Members
  | oscillate b => ("type", .str "oscillate") :: Oscillation.record.dump b
  | rotate b => ("type", .str "rotate") :: Rotation.record.dump b
  | bounce b => ("type", .str "bounce") :: Bounce.record.dump b
  | circlePath b => ("type", .str "circlePath") :: CirclePath.record.dump b
  | perlinNoise b => ("type", .str "perlinNoise") :: PerlinNoise.record.dump b
  | jitter b => ("type", .str "jitter") :: Jitter.record.dump b
  | pulse b => ("type", .str "pulse") :: Pulse.record.dump b
  | rainbow b => ("type", .str "rainbow") :: Rainbow.record.dump b
  | followMouse b => ("type", .str "followMouse") :: Pursuit.record.dump b
  | clickToChange b => ("type", .str "clickToChange") :: ClickChange.record.dump b
  | unknown b => UnknownBlock.record.dump b

def codec : Codec Block where
  read := read
  dump b := .obj b.dumpMembers

def isRotate : Block → Bool
  | rotate _ => true
  | _ => false

/-! ## Blocks of elements -/

/-- A block of an unknown kind does not have the kind of a known one. -/
def isTagged : Block → Bool
  | unknown b => !knownKinds.contains b.kind
  | _ => true

end Block

/-- A block as elements hold it. A block that is built by itself can have any kind, but an element
takes it only for what its kind says. -/
abbrev PlacedBlock := { block : Block // block.isTagged = true }

def modelOfKind (kind : String) : String :=
  kind.capitalize ++ "Block"

def Block.toPlaced (block : Block) : Outcome PlacedBlock :=
  if h : block.isTagged = true then .accepted ⟨block, h⟩
  else
    (Outcome.fault (.notModel (modelOfKind block.kind.lossy))).under (.key block.kind.lossy)

def PlacedBlock.codec : Codec PlacedBlock where
  read j := (Block.codec.read j).bind Block.toPlaced
  dump placed := Block.codec.dump placed

end SceneSketch
