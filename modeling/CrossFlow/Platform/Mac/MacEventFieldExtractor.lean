import CrossFlow.Platform.Mac.DualChannelSpsc

/-!
# `CrossFlow.Platform.Mac.MacEventFieldExtractor`: the fields of an event

The model of `platform/mac/mac_event_field_extractor.hpp` and `.cpp`, as built for macOS, and of the
types of events that `platform/mac/mac_event_tap.cpp` listens to. `CGEventRef` has what the code asks
the operating system for; a null pointer is `none`.
-/

set_option autoImplicit false

namespace CrossFlow

/-! ### The events of the operating system -/

/-- The number of the system for this event. -/
def kCGEventLeftMouseDown : UInt32 := 1
/-- The number of the system for this event. -/
def kCGEventLeftMouseUp : UInt32 := 2
/-- The number of the system for this event. -/
def kCGEventRightMouseDown : UInt32 := 3
/-- The number of the system for this event. -/
def kCGEventRightMouseUp : UInt32 := 4
/-- The number of the system for this event. -/
def kCGEventMouseMoved : UInt32 := 5
/-- The number of the system for this event. -/
def kCGEventKeyDown : UInt32 := 10
/-- The number of the system for this event. -/
def kCGEventKeyUp : UInt32 := 11
/-- The number of the system for this event. -/
def kCGEventScrollWheel : UInt32 := 22
/-- The number of the system for this event. -/
def kCGEventOtherMouseDown : UInt32 := 25
/-- The number of the system for this event. -/
def kCGEventOtherMouseUp : UInt32 := 26

/-- An event, with its integer fields under the names of their `kCG..` constants. -/
structure CGEventRef where
  type : UInt32
  timestamp : UInt64
  flags : UInt64
  mouseEventDeltaX : Int64
  mouseEventDeltaY : Int64
  mouseEventButtonNumber : Int64
  scrollWheelEventDeltaAxis1 : Int64
  scrollWheelEventDeltaAxis2 : Int64
  keyboardEventKeycode : Int64
  deriving DecidableEq

/-! ### The extractor -/

/-- `RawInputEventFlat{}` -/
def RawInputEventFlat.zero : RawInputEventFlat where
  platformTime := 0
  modifierFlags := 0
  kind := 0
  deltaX := 0
  deltaY := 0
  button := 0
  wheelDelta := 0
  wheelAxis := 0
  keyCode := 0
  valid := 0

namespace MacEventFieldExtractor

/-- The code for a key that the table does not have. -/
def UNKNOWN_KEYCODE : UInt16 := 0xFFFF

/-- The table has each of the codes `0x00` to `0x7F` at its own place. -/
def kVkMap : Vector UInt16 128 := .ofFn fun i => UInt16.ofNat i

/-- The kind, or `0xFF`. -/
def mapEventType (cgEventType : UInt32) : UInt8 :=
  if cgEventType = kCGEventMouseMoved then RawEventKind.MouseMove.toU8
  else if cgEventType = kCGEventLeftMouseDown ∨ cgEventType = kCGEventRightMouseDown ∨
      cgEventType = kCGEventOtherMouseDown then RawEventKind.MouseButtonPress.toU8
  else if cgEventType = kCGEventLeftMouseUp ∨ cgEventType = kCGEventRightMouseUp ∨
      cgEventType = kCGEventOtherMouseUp then RawEventKind.MouseButtonRelease.toU8
  else if cgEventType = kCGEventScrollWheel then RawEventKind.Wheel.toU8
  else if cgEventType = kCGEventKeyDown then RawEventKind.KeyPress.toU8
  else if cgEventType = kCGEventKeyUp then RawEventKind.KeyRelease.toU8
  else 0xFF

/-- The code of a key, by the table. -/
def mapKeyCode (virtualKeyCode : UInt16) : UInt16 :=
  if h : virtualKeyCode.toNat < 128 then kVkMap[virtualKeyCode.toNat] else UNKNOWN_KEYCODE

/-- The byte of a `MouseButton`. -/
def mapMouseButton (cgMouseButton : UInt8) : UInt8 :=
  if cgMouseButton = 0 then 0
  else if cgMouseButton = 1 then 1
  else if cgMouseButton = 2 then 2
  else 0

/-- The fields of an event. One that is null or of an unknown type is not valid. -/
def extract (cgEvent : Option CGEventRef) : RawInputEventFlat :=
  match cgEvent with
  | none => .zero
  | some event =>
    let out : RawInputEventFlat :=
      { RawInputEventFlat.zero with
        platformTime := event.timestamp
        modifierFlags := event.flags
        kind := mapEventType event.type }
    if out.kind = 0xFF then out
    else if out.kind = RawEventKind.MouseMove.toU8 then
      { out with
        deltaX := event.mouseEventDeltaX.toInt32
        deltaY := event.mouseEventDeltaY.toInt32
        valid := 1 }
    else if out.kind = RawEventKind.MouseButtonPress.toU8 ∨
        out.kind = RawEventKind.MouseButtonRelease.toU8 then
      { out with
        button := mapMouseButton event.mouseEventButtonNumber.toUInt64.toUInt8
        valid := 1 }
    else if out.kind = RawEventKind.Wheel.toU8 then
      let delta1 := event.scrollWheelEventDeltaAxis1.toInt32
      let delta2 := event.scrollWheelEventDeltaAxis2.toInt32
      if delta1 ≠ 0 then { out with wheelDelta := delta1, wheelAxis := 0, valid := 1 }
      else { out with wheelDelta := delta2, wheelAxis := 1, valid := 1 }
    else
      let keyCode := mapKeyCode event.keyboardEventKeycode.toUInt64.toUInt16
      if keyCode = UNKNOWN_KEYCODE then { out with keyCode }
      else { out with keyCode, valid := 1 }

end MacEventFieldExtractor

/-! ### The types of events that the tap listens to -/

namespace MacEventTap

/-- The types that are listened to. -/
def kListenEvents : List UInt32 :=
  [kCGEventMouseMoved, kCGEventLeftMouseDown, kCGEventLeftMouseUp, kCGEventRightMouseDown,
    kCGEventRightMouseUp, kCGEventOtherMouseDown, kCGEventOtherMouseUp, kCGEventScrollWheel,
    kCGEventKeyDown, kCGEventKeyUp]

/-- How many types are listened to. -/
def kListenEventCount : Nat := 10

/-- The type at an index. -/
def listenEventType (index : Nat) : UInt32 :=
  if index < kListenEventCount then kListenEvents.getD index 0xFFFFFFFF else 0xFFFFFFFF

/-- A bit for each type that is listened to. -/
def buildListenEventMask : UInt64 :=
  (List.range kListenEventCount).foldl
    (fun mask i => mask ||| (1 <<< (listenEventType i).toUInt64)) 0

end MacEventTap

end CrossFlow
