import CrossFlow.Platform.Mac.MacEventTap
import CrossFlow.Platform.Mac.TapControl

/-!
# `CrossFlow.Platform.Mac.TapSessions`: captures one after the other

`MacEventTap::start` and `MacEventTap::stop` (`platform/mac/mac_event_tap.cpp`), step by step on the
thread that calls them, beside `cgEventCallback` on the tap's thread and the capture thread. A tap
that is uninstalled calls back no more; a callback that has begun goes on.

The handlers given to `start` are told apart by their number. `onEvent_` of the tap is only copied
into the normalizer, whose copy `stop` leaves there, so it has no field. The history variables keep,
for each event pushed to a ring, the capture it belongs to: the number of the handler when the
callback was called.
-/

set_option autoImplicit false

namespace CrossFlow

/-- Where `start` or `stop` stands. -/
inductive ControlPc where
  | idle
  /-- `state_.load()` of `start`, then `ensurePermissions()` -/
  | startLoadState (permitted : Bool)
  /-- `normalizer_.setOnEvent(onEvent_)` -/
  | setOnEvent
  /-- `installEventTap()` -/
  | installEventTap
  /-- `captureThreadRunning_.store(true)` -/
  | storeRunning
  /-- `captureThread_ = std::thread(..)` -/
  | launchThread
  /-- `state_.store(Active)`, then `return handleManager_.acquire()` -/
  | storeActive
  /-- `state_.load()` of `stop` -/
  | stopLoadState
  /-- `captureThreadRunning_.store(false)` -/
  | storeNotRunning
  /-- `captureThread_.join()`, if it is joinable -/
  | join
  /-- `uninstallEventTap()` -/
  | uninstallEventTap
  /-- `state_.store(Inactive)` -/
  | storeInactive

/-- A call of a handler: its number, the capture that the event belongs to, and the event. -/
structure HandlerCall where
  handler : Nat
  capturedIn : Nat
  event : RawInputEventFlat
  deriving DecidableEq

/-- A `MacEventTap` with its three threads. -/
structure TapSessions where
  tap : MacEventTap
  control : TapControl
  controlPc : ControlPc
  /-- `captureThread_.joinable()` -/
  joinable : Bool
  /-- `eventTap_` is not null. -/
  installed : Bool
  /-- The number of the handler that the normalizer has: how many have been set. -/
  handler : Nat
  /-- History: the capture that the event of the last `enqueue` belongs to. -/
  enqueuedIn : Nat
  /-- History: the capture of each event pushed to the state ring. -/
  stateCaptures : List Nat
  /-- History: the capture of each event pushed to the data ring. -/
  dataCaptures : List Nat
  /-- History: the calls of the handlers. -/
  handled : List HandlerCall

/-- The history of a ring after a step that may have pushed an event of the capture. -/
def capturesAfter {cap : Capacity} (captures : List Nat) (capture : Nat)
    (before after : Channel RawInputEventFlat cap) : List Nat :=
  captures ++ List.replicate (after.pushed.length - before.pushed.length) capture

namespace TapSessions

/-- A tap that was never started. -/
def init : TapSessions where
  tap := { MacEventTap.init with captureThreadRunning := false, capturePc := .done }
  control := .init
  controlPc := .idle
  joinable := false
  installed := false
  handler := 0
  enqueuedIn := 0
  stateCaptures := []
  dataCaptures := []
  handled := []

/-- A step of the tap's threads, with the history of the two rings. -/
def setTap (s : TapSessions) (tap : MacEventTap) : TapSessions :=
  { s with
    tap
    stateCaptures := capturesAfter s.stateCaptures s.enqueuedIn
      s.tap.dualChannel.stateChannel tap.dualChannel.stateChannel
    dataCaptures := capturesAfter s.dataCaptures s.enqueuedIn
      s.tap.dualChannel.dataChannel tap.dualChannel.dataChannel }

/-- `cgEventCallback`, up to the call of `enqueue`, unless the tap's thread is inside a callback. -/
def cgEventCallback (s : TapSessions) (flat : RawInputEventFlat) : TapSessions :=
  match s.tap.dualChannel.enqueuePc with
  | .idle =>
    if s.installed && flat.valid != 0 then
      { s with enqueuedIn := s.handler }.setTap (s.tap.callEnqueue flat)
    else s
  | _ => s

/-- The pops that the next step of the capture thread completes, each with its capture. -/
def taken (s : TapSessions) : List (Nat × RawInputEventFlat) :=
  let of {cap : Capacity} (captures : List Nat) (c : Channel RawInputEventFlat cap) :=
    (c.consumer.takes c.ring).map fun pop => (captures.getD pop.tailBefore 0, pop.item)
  match s.tap.capturePc with
  | .popState | .drainState | .finalState => of s.stateCaptures s.tap.dualChannel.stateChannel
  | .popData | .finalData => of s.dataCaptures s.tap.dualChannel.dataChannel
  | _ => []

/-- The next access of the capture thread, which calls the handler with a valid event. -/
def stepCapture (s : TapSessions) (osModifiers : ModifierState) : TapSessions :=
  let calls := (s.taken.filter fun pop => pop.2.valid != 0).map fun pop =>
    { handler := s.handler, capturedIn := pop.1, event := pop.2 }
  { s with handled := s.handled ++ calls }.setTap (s.tap.stepCapture osModifiers)

/-- A call of `start`, with the answer of `ensurePermissions`, unless a call is in progress. -/
def callStart (s : TapSessions) (permitted : Bool) : TapSessions :=
  match s.controlPc with
  | .idle => { s with controlPc := .startLoadState permitted }
  | _ => s

/-- A call of `stop`, which releases the handle, unless a call is in progress. -/
def callStop (s : TapSessions) (handle : CaptureHandle) : TapSessions :=
  match s.controlPc with
  | .idle => { s with control := s.control.releaseHandle handle, controlPc := .stopLoadState }
  | _ => s

/-- The next access of `start` or `stop`. Whether the event tap can be installed is an argument. -/
def stepControl (s : TapSessions) (installs : Bool) : TapSessions :=
  match s.controlPc with
  | .idle => s
  | .startLoadState permitted =>
    if s.control.state ≠ .Inactive then { s with controlPc := .idle }
    else if !permitted then
      { s with control := s.control.enterDegradedState, controlPc := .idle }
    else { s with controlPc := .setOnEvent }
  | .setOnEvent => { s with handler := s.handler + 1, controlPc := .installEventTap }
  | .installEventTap =>
    if !installs then { s with control := s.control.enterDegradedState, controlPc := .idle }
    else { s with installed := true, controlPc := .storeRunning }
  | .storeRunning =>
    { s with tap := { s.tap with captureThreadRunning := true }, controlPc := .launchThread }
  | .launchThread =>
    { s with
      tap := { s.tap with capturePc := .checkRunning }
      joinable := true
      controlPc := .storeActive }
  | .storeActive => { s with control := s.control.activate.2, controlPc := .idle }
  | .stopLoadState =>
    if s.control.state = .Inactive then { s with controlPc := .idle }
    else { s with controlPc := .storeNotRunning }
  | .storeNotRunning => { s with tap := s.tap.stop, controlPc := .join }
  | .join =>
    if !s.joinable then { s with controlPc := .uninstallEventTap }
    else
      match s.tap.capturePc with
      | .done => { s with joinable := false, controlPc := .uninstallEventTap }
      | _ => s
  | .uninstallEventTap => { s with installed := false, controlPc := .storeInactive }
  | .storeInactive => { s with control := s.control.deactivate, controlPc := .idle }

end TapSessions

/-- The actions of the three threads. -/
inductive SessionAction where
  | cgEventCallback (flat : RawInputEventFlat)
  | stepEnqueue
  | stepCapture (osModifiers : ModifierState)
  | callStart (permitted : Bool)
  | callStop (handle : CaptureHandle)
  | stepControl (installs : Bool)

/-- The tap's thread, the capture thread and the thread that starts and stops captures, in every
interleaving. -/
def tapSessionsMachine : Lib.Machine TapSessions SessionAction where
  init := .init
  step s
    | .cgEventCallback flat => s.cgEventCallback flat
    | .stepEnqueue => s.setTap s.tap.stepEnqueue
    | .stepCapture osModifiers => s.stepCapture osModifiers
    | .callStart permitted => s.callStart permitted
    | .callStop handle => s.callStop handle
    | .stepControl installs => s.stepControl installs

end CrossFlow
