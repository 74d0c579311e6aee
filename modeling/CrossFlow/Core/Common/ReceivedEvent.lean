import CrossFlow.Core.Common.Domain

/-!
# `CrossFlow.Core.Common.ReceivedEvent`: an event off the wire

`TransportImpl::deserializeEvent` copies the bytes it was given over a `CanonicalInputEvent`. The
enumerations in it need not have a value that has a name, and the alternative that the payload holds
is a byte of its own.
-/

set_option autoImplicit false

namespace CrossFlow

/-- `none` is for a byte that is no enumerator's. -/
def EventType.ofByte : UInt8 → Option EventType
  | 0 => some .MouseMove
  | 1 => some .MouseButtonPress
  | 2 => some .MouseButtonRelease
  | 3 => some .Wheel
  | 4 => some .KeyPress
  | 5 => some .KeyRelease
  | _ => none

/-- `EventPayload`, with the bytes of its enumerations. `noAlternative` is for an index that no
alternative has. -/
inductive ReceivedPayload where
  | mouseMove (payload : MouseMovePayload)
  | mouseButton (button : UInt8)
  | wheel (delta : Int32) (axis : UInt8)
  | key (payload : KeyPayload)
  | noAlternative (index : UInt8)
  deriving DecidableEq

namespace ReceivedPayload

/-! `std::get`, of each alternative. `none` is for `std::bad_variant_access`. -/

/-- `std::get_if` of a movement. -/
def getMouseMove : ReceivedPayload → Option MouseMovePayload
  | mouseMove payload => some payload
  | _ => none

/-- `std::get_if` of a button, which may be none of the three. -/
def getMouseButton : ReceivedPayload → Option UInt8
  | mouseButton button => some button
  | _ => none

/-- `std::get_if` of a turn of the wheel. -/
def getWheel : ReceivedPayload → Option (Int32 × UInt8)
  | wheel delta axis => some (delta, axis)
  | _ => none

/-- `std::get_if` of a key. -/
def getKey : ReceivedPayload → Option KeyPayload
  | key payload => some payload
  | _ => none

end ReceivedPayload

/-- An event as it was received: its type and the byte of a button or an axis may be any. -/
structure ReceivedEvent where
  eventId : UInt64
  sourceNodeId : NodeId
  timestamp : UInt64
  eventType : UInt8
  payload : ReceivedPayload
  deriving DecidableEq

/-- `CanonicalInputEvent::validate` -/
def ReceivedEvent.validate (event : ReceivedEvent) : Bool :=
  if event.eventId = 0 then false
  else if event.timestamp = 0 then false
  else if event.sourceNodeId.isNull then false
  else
    match EventType.ofByte event.eventType with
    | some .MouseMove => event.payload.getMouseMove.isSome
    | some .MouseButtonPress | some .MouseButtonRelease => event.payload.getMouseButton.isSome
    | some .Wheel => event.payload.getWheel.isSome
    | some .KeyPress | some .KeyRelease => event.payload.getKey.isSome
    | none => true

end CrossFlow
