import SceneSketch.Document.Record

/-!
# Behaviors

The one behavior of an element: it stands still, follows the pointer, is moved by a function of
time, or is random.
-/

namespace SceneSketch

inductive Trig
  | sin
  | cos
deriving DecidableEq

def Trig.name : Trig → String
  | sin => "sin"
  | cos => "cos"

structure Wave where
  trig : Trig
  speed : Double
  amplitude : Double
  offset : Double
deriving DecidableEq

inductive Motion
  | wave (value : Wave)
  | linear (speed : Double)
deriving DecidableEq

def Wave.record (trig : Trig) : Record Wave Wave :=
  Wave.mk trig <$> .required "speed" .number speed <*> .required "amplitude" .number amplitude
    <*> .defaulted "offset" .number 0 offset

def Motion.linearRecord : Record Double Double :=
  .required "speed" .number id

def Motion.codec : Codec Motion :=
  .union "type"
    [(Wave.record .sin).variant "sin" wave, (Wave.record .cos).variant "cos" wave,
      linearRecord.variant "linear" linear]
    fun
      | wave w => ("type", .str w.trig.name) :: (Wave.record w.trig).dump w
      | linear speed => ("type", .str "linear") :: linearRecord.dump speed

/-- The coordinates that follow the pointer. -/
inductive Tracking
  | x
  | y
  | both
deriving DecidableEq

namespace Tracking

def name : Tracking → String
  | x => "x"
  | y => "y"
  | both => "both"

def followsX : Tracking → Bool
  | y => false
  | _ => true

def followsY : Tracking → Bool
  | x => false
  | _ => true

def record : Record Tracking Tracking :=
  .defaulted "property" (.choice [x, y, both] name) both id

end Tracking

structure Animation where
  property : Text
  motion : Motion
deriving DecidableEq

structure RandomRange where
  property : Text
  min : Double
  max : Double
deriving DecidableEq

inductive Behavior
  | static
  | followMouse (tracking : Tracking)
  | animated (value : Animation)
  | random (value : RandomRange)
deriving DecidableEq

def Animation.record : Record Animation Animation :=
  Animation.mk <$> .required "property" .text property <*> .required "function" Motion.codec motion

def RandomRange.record : Record RandomRange RandomRange :=
  RandomRange.mk <$> .required "property" .text property <*> .required "min" .number min
    <*> .required "max" .number max

namespace Behavior

def codec : Codec Behavior :=
  .union "kind"
    [(Record.pure static).variant "static" id, Tracking.record.variant "followMouse" followMouse,
      Animation.record.variant "animated" animated, RandomRange.record.variant "random" random]
    fun
      | static => [("kind", .str "static")]
      | followMouse t => ("kind", .str "followMouse") :: Tracking.record.dump t
      | animated a => ("kind", .str "animated") :: Animation.record.dump a
      | random r => ("kind", .str "random") :: RandomRange.record.dump r

def isStatic : Behavior → Bool
  | static => true
  | _ => false

end Behavior

end SceneSketch
