import CrossFlow.Lib.Holding
import CrossFlow.Platform.Mac.CGEventNormalizer
import CrossFlow.Platform.Mac.MacEventFieldExtractor
import CrossFlow.Platform.Mac.MacEventTap

/-!
# `CrossFlow.Platform.Mac.TapCallback`: from the operating system to the handler

`MacEventTap::cgEventCallback` (`platform/mac/mac_event_tap.cpp`), one atomic access a step, in front
of the capture thread: it extracts the fields of an event, stores the modifier flags, calls `enqueue`
and counts. `MacEventTap::processEvent` is behind the capture thread, with the normalizer that calls
the handler.

The end of the module says what an event means: which control goes down or up, for the operating
system and for the handler.
-/

set_option autoImplicit false

namespace CrossFlow

/-- Where `cgEventCallback` stands. -/
inductive CallbackPc where
  | idle
  /-- `lastModifierFlags_.store(flat.modifierFlags)`, then the call of `enqueue` -/
  | storeModifierFlags (flat : RawInputEventFlat)
  /-- inside `dualChannel_.enqueue(flat)` -/
  | enqueue
  /-- `totalCaptured_.fetch_add(1)` -/
  | countCaptured

/-- A started `MacEventTap`, with the callback in progress. -/
structure TapCallback where
  tap : MacEventTap
  callbackPc : CallbackPc
  lastModifierFlags : UInt64
  totalCaptured : UInt64
  /-- History: the events that the callback was called with. -/
  seen : List CGEventRef

namespace TapCallback

/-- A tap that was just made, before the first event. -/
def init : TapCallback where
  tap := .init
  callbackPc := .idle
  lastModifierFlags := 0
  totalCaptured := 0
  seen := []

/-- The operating system calls `cgEventCallback`, unless the callback is in progress. -/
def cgEventCallback (s : TapCallback) (event : Option CGEventRef) : TapCallback :=
  match s.callbackPc with
  | .idle =>
    let flat := MacEventFieldExtractor.extract event
    let s := { s with seen := s.seen ++ event.toList }
    if flat.valid = 0 then s else { s with callbackPc := .storeModifierFlags flat }
  | _ => s

/-- The callback in progress makes its next access. -/
def stepCallback (s : TapCallback) : TapCallback :=
  match s.callbackPc with
  | .idle => s
  | .storeModifierFlags flat =>
    { s with
      tap := s.tap.callEnqueue flat
      callbackPc := .enqueue
      lastModifierFlags := flat.modifierFlags }
  | .enqueue =>
    let tap := s.tap.stepEnqueue
    match tap.dualChannel.enqueuePc with
    | .idle => { s with tap, callbackPc := .countCaptured }
    | _ => { s with tap }
  | .countCaptured => { s with callbackPc := .idle, totalCaptured := s.totalCaptured + 1 }

end TapCallback

/-- The actions of the operating system, of the capture thread, and of the thread that calls
`stop`. -/
inductive CallbackAction where
  | cgEventCallback (event : Option CGEventRef)
  | stepCallback
  | stepCapture (osModifiers : ModifierState)
  | stop

/-- The callback against the capture thread, in every interleaving. -/
def callbackMachine : Lib.Machine TapCallback CallbackAction where
  init := .init
  step s
    | .cgEventCallback event => s.cgEventCallback event
    | .stepCallback => s.stepCallback
    | .stepCapture osModifiers => { s with tap := s.tap.stepCapture osModifiers }
    | .stop => { s with tap := s.tap.stop }

/-! ### Behind the capture thread -/

/-- `MacEventTap::processEvent` for each event, with the events that `onEvent_` gets. -/
def CGEventNormalizer.processEvents (normalizer : CGEventNormalizer) :
    List RawInputEventFlat → CGEventNormalizer × List RawInputEvent
  | [] => (normalizer, [])
  | flat :: flats =>
    let (normalizer, events) :=
      if flat.valid = 0 then (normalizer, []) else normalizer.normalize flat
    let (normalizer, later) := normalizer.processEvents flats
    (normalizer, events ++ later)

/-! ### What an event means -/

/-- A button or a key, under the number that the operating system has for it. -/
inductive CGControl where
  | button (number : UInt32)
  | key (code : UInt16)
  deriving DecidableEq

/-- A button or a key, under the number that the handler gets. -/
inductive RawControl where
  | button (button : UInt8)
  | key (keyCode : KeyCode)
  deriving DecidableEq

/-- The name that the extractor gives to a control. A key that is not in the table has none. -/
def CGControl.raw : CGControl → Option RawControl
  | .button number => some (.button (MacEventFieldExtractor.mapMouseButton number.toUInt8))
  | .key code =>
    if MacEventFieldExtractor.mapKeyCode code = MacEventFieldExtractor.UNKNOWN_KEYCODE then none
    else some (.key (MacEventFieldExtractor.mapKeyCode code))

/-- What the event does to a button or a key. -/
def CGEventRef.change (event : CGEventRef) : Option (Lib.Change CGControl) :=
  let button := CGControl.button event.mouseEventButtonNumber.toUInt64.toUInt32
  let key := CGControl.key event.keyboardEventKeycode.toUInt64.toUInt16
  if event.type = kCGEventLeftMouseDown ∨ event.type = kCGEventRightMouseDown ∨
      event.type = kCGEventOtherMouseDown then some { control := button, down := true }
  else if event.type = kCGEventLeftMouseUp ∨ event.type = kCGEventRightMouseUp ∨
      event.type = kCGEventOtherMouseUp then some { control := button, down := false }
  else if event.type = kCGEventKeyDown then some { control := key, down := true }
  else if event.type = kCGEventKeyUp then some { control := key, down := false }
  else none

/-- What the handler is told about a button or a key. -/
def RawInputEvent.change (event : RawInputEvent) : Option (Lib.Change RawControl) :=
  match event.payload with
  | .mouseButton button =>
    some { control := .button button, down := event.kind = RawEventKind.MouseButtonPress.toU8 }
  | .key keyCode =>
    some { control := .key keyCode, down := event.kind = RawEventKind.KeyPress.toU8 }
  | _ => none

end CrossFlow
