import CrossFlow.Core.Transport.ReceivedFrames
import CrossFlow.Lib.ByteBuffer

/-!
# `CrossFlow.Core.Transport.EventImage`: the bytes of an event in memory

`serializeEvent` copies the object representation of a `CanonicalInputEvent`, and `deserializeEvent`
copies it back. An `EventMemory` is a representation that both ends have.

* `EventMemory.natural`: little-endian members at their natural alignment, and a `std::variant` as
  its storage and the byte that says which alternative is in it. What the members leave is padding.
-/

set_option autoImplicit false

namespace CrossFlow

open Lib (leBytes leValue)

/-- The number of an enumerator. -/
def EventType.toByte : EventType → UInt8
  | .MouseMove => 0
  | .MouseButtonPress => 1
  | .MouseButtonRelease => 2
  | .Wheel => 3
  | .KeyPress => 4
  | .KeyRelease => 5

/-- The number of an enumerator. -/
def MouseButton.toByte : MouseButton → UInt8
  | .Left => 0
  | .Right => 1
  | .Middle => 2

/-- The number of an enumerator. -/
def WheelAxis.toByte : WheelAxis → UInt8
  | .Vertical => 0
  | .Horizontal => 1

/-- The payload as it is received, with the bytes of its enumerations. -/
def EventPayload.received : EventPayload → ReceivedPayload
  | .mouseMove payload => .mouseMove payload
  | .mouseButton payload => .mouseButton payload.button.toByte
  | .wheel payload => .wheel payload.delta payload.axis.toByte
  | .key payload => .key payload

/-- The event as a `ReceivedEvent`. -/
def CanonicalInputEvent.received (event : CanonicalInputEvent) : ReceivedEvent where
  eventId := event.eventId
  sourceNodeId := event.sourceNodeId
  timestamp := event.timestamp
  eventType := event.eventType.toByte
  payload := event.payload.received

/-- How events lie in memory: `bytes` are those of an event, and `image` is what the receiver makes
of them. -/
structure EventMemory where
  bytes : CanonicalInputEvent → List UInt8
  image : List UInt8 → ReceivedEvent
  length_bytes : ∀ event, (bytes event).length = TransportImpl.sizeofEvent
  image_bytes : ∀ event, image (bytes event) = event.received

/-! ### A representation -/

/-- The eight bytes of storage, and the index. `padding i` is at byte `i` of the event. -/
def EventPayload.image (padding : Nat → UInt8) : EventPayload → List UInt8
  | .mouseMove payload =>
    leBytes 4 payload.deltaX.toUInt32.toNat ++ leBytes 4 payload.deltaY.toUInt32.toNat ++ [0]
  | .mouseButton payload =>
    payload.button.toByte :: (List.range' 37 7).map padding ++ [1]
  | .wheel payload =>
    leBytes 4 payload.delta.toUInt32.toNat ++ payload.axis.toByte :: (List.range' 41 3).map padding
      ++ [2]
  | .key payload => leBytes 2 payload.keyCode.toNat ++ (List.range' 38 6).map padding ++ [3]

/-- A byte for each flag. -/
def ModifierState.image (s : ModifierState) : List UInt8 :=
  [s.shift, s.ctrl, s.alt, s.cmd, s.fn].map fun b => if b then 1 else 0

/-- The bytes of an event, with any bytes for the padding. -/
def CanonicalInputEvent.image (padding : Nat → UInt8) (event : CanonicalInputEvent) :
    List UInt8 :=
  leBytes 8 event.eventId.toNat ++ leBytes 8 event.sourceNodeId.high.toNat ++
    leBytes 8 event.sourceNodeId.low.toNat ++ leBytes 8 event.timestamp.toNat ++
    event.eventType.toByte :: (List.range' 33 3).map padding ++ event.payload.image padding ++
    (List.range' 45 3).map padding ++ event.modifierState.image ++ (List.range' 53 3).map padding

namespace ReceivedEvent

/-- The member of `size` bytes at the offset. -/
def member (object : List UInt8) (offset size : Nat) : Nat :=
  leValue ((object.drop offset).take size)

/-- The payload that bytes are the image of, by the index. -/
def payloadOfImage (object : List UInt8) : ReceivedPayload :=
  match (member object 44 1).toUInt8 with
  | 0 =>
    .mouseMove
      { deltaX := (UInt32.ofNat (member object 36 4)).toInt32
        deltaY := (UInt32.ofNat (member object 40 4)).toInt32 }
  | 1 => .mouseButton (member object 36 1).toUInt8
  | 2 => .wheel (UInt32.ofNat (member object 36 4)).toInt32 (member object 40 1).toUInt8
  | 3 => .key { keyCode := UInt16.ofNat (member object 36 2) }
  | index => .noAlternative index

/-- The event that the bytes are in the memory of the peer. -/
def ofImage (object : List UInt8) : ReceivedEvent where
  eventId := UInt64.ofNat (member object 0 8)
  sourceNodeId :=
    { high := UInt64.ofNat (member object 8 8), low := UInt64.ofNat (member object 16 8) }
  timestamp := UInt64.ofNat (member object 24 8)
  eventType := (member object 32 1).toUInt8
  payload := payloadOfImage object

end ReceivedEvent

/-- The image has the size of the event. -/
theorem CanonicalInputEvent.length_image (padding : Nat → UInt8) (event : CanonicalInputEvent) :
    (event.image padding).length = TransportImpl.sizeofEvent := by
  have hpayload : (event.payload.image padding).length = 9 := by
    cases event.payload <;> rfl
  have hmodifiers : event.modifierState.image.length = 5 := rfl
  simp [image, hpayload, hmodifiers, TransportImpl.sizeofEvent]

namespace ReceivedEvent

/-- A word is read from its eight bytes. -/
theorem ofNat_leValue_64 (word : UInt64) :
    UInt64.ofNat (leValue (leBytes 8 word.toNat)) = word := by
  rw [Lib.leValue_leBytes (k := 8) word.toNat_lt, UInt64.ofNat_toNat]

/-- A signed word is read from its four bytes. -/
theorem ofNat_leValue_32 (word : Int32) :
    (UInt32.ofNat (leValue (leBytes 4 word.toUInt32.toNat))).toInt32 = word := by
  rw [Lib.leValue_leBytes (k := 4) word.toUInt32.toNat_lt, UInt32.ofNat_toNat]
  rfl

/-- A word is read from its two bytes. -/
theorem ofNat_leValue_16 (word : UInt16) :
    UInt16.ofNat (leValue (leBytes 2 word.toNat)) = word := by
  rw [Lib.leValue_leBytes (k := 2) word.toNat_lt, UInt16.ofNat_toNat]

/-- A byte is read from itself. -/
theorem toUInt8_leValue (byte : UInt8) : (leValue [byte]).toUInt8 = byte := by
  show (byte.toNat + 0).toUInt8 = byte
  exact UInt8.ofNat_toNat

/-- The index, and what the alternative has in its storage. -/
theorem payloadOfImage_image (padding : Nat → UInt8) (event : CanonicalInputEvent) :
    payloadOfImage (event.image padding) = event.payload.received := by
  obtain ⟨eventId, sourceNodeId, timestamp, eventType, payload, modifierState⟩ := event
  unfold payloadOfImage
  cases payload with
  | mouseMove payload =>
    -- The index lies after the storage, at 44, and the alternative starts at 36.
    let event : CanonicalInputEvent :=
      { eventId, sourceNodeId, timestamp, eventType, payload := .mouseMove payload, modifierState }
    have hindex : member (event.image padding) 44 1 = leValue [0] := rfl
    have hx : member (event.image padding) 36 4 =
        leValue (leBytes 4 payload.deltaX.toUInt32.toNat) := rfl
    have hy : member (event.image padding) 40 4 =
        leValue (leBytes 4 payload.deltaY.toUInt32.toNat) := rfl
    rw [hindex, toUInt8_leValue]
    dsimp only
    rw [hx, hy, ofNat_leValue_32, ofNat_leValue_32]
    rfl
  | mouseButton payload =>
    let event : CanonicalInputEvent :=
      { eventId, sourceNodeId, timestamp, eventType, payload := .mouseButton payload
        modifierState }
    have hindex : member (event.image padding) 44 1 = leValue [1] := rfl
    have hbutton : member (event.image padding) 36 1 = leValue [payload.button.toByte] := rfl
    rw [hindex, toUInt8_leValue]
    dsimp only
    rw [hbutton, toUInt8_leValue]
    rfl
  | wheel payload =>
    let event : CanonicalInputEvent :=
      { eventId, sourceNodeId, timestamp, eventType, payload := .wheel payload, modifierState }
    have hindex : member (event.image padding) 44 1 = leValue [2] := rfl
    have hdelta : member (event.image padding) 36 4 =
        leValue (leBytes 4 payload.delta.toUInt32.toNat) := rfl
    have haxis : member (event.image padding) 40 1 = leValue [payload.axis.toByte] := rfl
    rw [hindex, toUInt8_leValue]
    dsimp only
    rw [hdelta, haxis, ofNat_leValue_32, toUInt8_leValue]
    rfl
  | key payload =>
    let event : CanonicalInputEvent :=
      { eventId, sourceNodeId, timestamp, eventType, payload := .key payload, modifierState }
    have hindex : member (event.image padding) 44 1 = leValue [3] := rfl
    have hkeyCode : member (event.image padding) 36 2 =
        leValue (leBytes 2 payload.keyCode.toNat) := rfl
    rw [hindex, toUInt8_leValue]
    dsimp only
    rw [hkeyCode, ofNat_leValue_16]
    rfl

/-- The peer finds in the bytes the event that was sent. -/
theorem ofImage_image (padding : Nat → UInt8) (event : CanonicalInputEvent) :
    ofImage (event.image padding) = event.received := by
  -- Each member is read from the offset at which it was written.
  have hwords : ofImage (event.image padding) =
      { eventId := UInt64.ofNat (leValue (leBytes 8 event.eventId.toNat))
        sourceNodeId :=
          { high := UInt64.ofNat (leValue (leBytes 8 event.sourceNodeId.high.toNat))
            low := UInt64.ofNat (leValue (leBytes 8 event.sourceNodeId.low.toNat)) }
        timestamp := UInt64.ofNat (leValue (leBytes 8 event.timestamp.toNat))
        eventType := (leValue [event.eventType.toByte]).toUInt8
        payload := payloadOfImage (event.image padding) } := rfl
  rw [hwords, payloadOfImage_image, toUInt8_leValue]
  simp only [ofNat_leValue_64]
  rfl

end ReceivedEvent

/-- The representation, whatever the padding holds. -/
def EventMemory.natural (padding : Nat → UInt8) : EventMemory where
  bytes := CanonicalInputEvent.image padding
  image := ReceivedEvent.ofImage
  length_bytes := CanonicalInputEvent.length_image padding
  image_bytes := ReceivedEvent.ofImage_image padding

end CrossFlow
