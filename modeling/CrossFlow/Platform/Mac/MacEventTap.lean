import CrossFlow.Platform.Mac.AuthoritativeResync
import CrossFlow.Platform.Mac.DualChannelSpsc

/-!
# `CrossFlow.Platform.Mac.MacEventTap`: the capture thread against the tap callback

The model of `MacEventTap::captureThreadLoop` (`platform/mac/mac_event_tap.cpp`), one atomic access
a step, beside the `enqueue` calls that the tap callback makes on its own thread. A step that
returns from a `tryPop` call also makes the next call, up to its first access.

The sleep of an idle iteration and `gotEvent`, which only decides it, have no step. The history
variables count the `resynchronize` calls begun, from their first store on, and date each
rejection by that count.
-/

set_option autoImplicit false

namespace CrossFlow

/-- Where `captureThreadLoop` stands. -/
inductive CapturePc where
  /-- `captureThreadRunning_.load()` of the loop condition -/
  | checkRunning
  /-- inside the first `tryPopState` of an iteration -/
  | popState
  /-- inside `tryPopData` -/
  | popData
  /-- `isStateChannelSaturated()` -/
  | poll
  /-- `resync_.state() == Idle` -/
  | checkIdle
  /-- `resync_.state() == Recovered` -/
  | checkRecovered
  /-- inside `resync_.resynchronize()` -/
  | resynchronize (pc : ResyncPc)
  /-- inside the `tryPopState` of the draining loop -/
  | drainState
  /-- `head_.load()` of `stateEmpty()` -/
  | loadEmptyHead
  /-- `tail_.load()` of `stateEmpty()` -/
  | loadEmptyTail (head : Nat)
  /-- `resync_.state() == RecoveryPending` -/
  | checkPending
  /-- inside `resync_.confirmRecovery()` -/
  | confirmRecovery (pc : ConfirmPc)
  /-- `clearStateChannelSaturated()` -/
  | clear
  /-- inside the `tryPopState` loop after the main loop -/
  | finalState
  /-- inside the `tryPopData` loop after the main loop -/
  | finalData
  /-- the thread has ended -/
  | done

/-- The shared state of a started `MacEventTap`, the capture thread, and the history. -/
structure MacEventTap where
  dualChannel : DualChannelSpsc
  resync : AuthoritativeResync
  captureThreadRunning : Bool
  capturePc : CapturePc
  /-- History: the events handed to `processEvent`. -/
  processed : List RawInputEventFlat
  /-- History: how many `resynchronize` calls have made their first store. -/
  resyncsBegun : Nat
  /-- History: `resyncsBegun` when the `tryPush` of the `enqueue` in progress returned false. -/
  rejectedAt : Nat
  /-- History: `rejectedAt` of each `enqueue` that returned `StateSaturated`. -/
  rejections : List Nat

namespace MacEventTap

/-- The state in which `start` has just launched the capture thread. -/
def init : MacEventTap where
  dualChannel := .init
  resync := .init
  captureThreadRunning := true
  capturePc := .checkRunning
  processed := []
  resyncsBegun := 0
  rejectedAt := 0
  rejections := []

/-- The tap callback calls `enqueue`, unless it is inside it. -/
def callEnqueue (t : MacEventTap) (event : RawInputEventFlat) : MacEventTap :=
  { t with dualChannel := t.dualChannel.callEnqueue event }

/-- The `enqueue` call in progress makes its next access. -/
def stepEnqueue (t : MacEventTap) : MacEventTap :=
  let d := t.dualChannel.stepEnqueue
  { t with
    dualChannel := d
    rejectedAt :=
      match t.dualChannel.enqueuePc, d.enqueuePc with
      | .tryPush _, .storeSaturated _ => t.resyncsBegun
      | _, _ => t.rejectedAt
    rejections :=
      match t.dualChannel.enqueuePc with
      | .countSaturated _ => t.rejections ++ [t.rejectedAt]
      | _ => t.rejections }

/-- `stop` stores `captureThreadRunning_`. -/
def stop (t : MacEventTap) : MacEventTap := { t with captureThreadRunning := false }

/-- The capture thread calls `tryPopState` at `pc`. -/
def callPopState (t : MacEventTap) (pc : CapturePc) : MacEventTap :=
  { t with dualChannel := t.dualChannel.callPopState, capturePc := pc }

/-- The capture thread calls `tryPopData` at `pc`. -/
def callPopData (t : MacEventTap) (pc : CapturePc) : MacEventTap :=
  { t with dualChannel := t.dualChannel.callPopData, capturePc := pc }

/-- `processEvent(flat)`. -/
def processEvent (t : MacEventTap) (flat : RawInputEventFlat) : MacEventTap :=
  { t with processed := t.processed ++ [flat] }

/-- A `tryPop` call that may have returned: it goes on, or the thread continues with `onFalse`, or
it hands the event to `processEvent` and continues with `onTrue`. -/
def afterPop (t : MacEventTap) (popped : DualChannelSpsc × Option (Option RawInputEventFlat))
    (onFalse onTrue : MacEventTap → MacEventTap) : MacEventTap :=
  let t := { t with dualChannel := popped.1 }
  match popped.2 with
  | none => t
  | some none => onFalse t
  | some (some flat) => onTrue (t.processEvent flat)

/-- The next access of `captureThreadLoop`. -/
def stepCapture (t : MacEventTap) (osModifiers : ModifierState) : MacEventTap :=
  match t.capturePc with
  | .checkRunning =>
    if t.captureThreadRunning then t.callPopState .popState else t.callPopState .finalState
  | .popState =>
    t.afterPop t.dualChannel.stepPopState (·.callPopData .popData) (·.callPopData .popData)
  | .popData =>
    t.afterPop t.dualChannel.stepPopData
      (fun t => { t with capturePc := .poll }) (fun t => { t with capturePc := .poll })
  | .poll =>
    if t.dualChannel.stateChannelSaturated then { t with capturePc := .checkIdle }
    else { t with capturePc := .checkRunning }
  | .checkIdle =>
    if t.resync.state = .Idle then { t with capturePc := .resynchronize .storeResynchronizing }
    else { t with capturePc := .checkRecovered }
  | .checkRecovered =>
    if t.resync.state = .Recovered then
      { t with capturePc := .resynchronize .storeResynchronizing }
    else t.callPopState .drainState
  | .resynchronize pc =>
    let begun :=
      match pc with
      | .storeResynchronizing => t.resyncsBegun + 1
      | _ => t.resyncsBegun
    match t.resync.stepResync osModifiers pc with
    | (resync, .inl pc) =>
      { t with resync := resync, capturePc := .resynchronize pc, resyncsBegun := begun }
    | (resync, .inr _) => { t with resync := resync }.callPopState .drainState
  | .drainState =>
    t.afterPop t.dualChannel.stepPopState
      (fun t => { t with capturePc := .loadEmptyHead }) (·.callPopState .drainState)
  | .loadEmptyHead =>
    { t with capturePc := .loadEmptyTail t.dualChannel.stateChannel.ring.head }
  | .loadEmptyTail head =>
    if head = t.dualChannel.stateChannel.ring.tail then { t with capturePc := .checkPending }
    else { t with capturePc := .checkRunning }
  | .checkPending =>
    if t.resync.state = .RecoveryPending then { t with capturePc := .confirmRecovery .loadState }
    else { t with capturePc := .clear }
  | .confirmRecovery pc =>
    match t.resync.stepConfirm pc with
    | (resync, .inl pc) => { t with resync := resync, capturePc := .confirmRecovery pc }
    | (resync, .inr _) => { t with resync := resync, capturePc := .clear }
  | .clear =>
    { t with dualChannel := t.dualChannel.clearStateChannelSaturated, capturePc := .checkRunning }
  | .finalState =>
    t.afterPop t.dualChannel.stepPopState (·.callPopData .finalData) (·.callPopState .finalState)
  | .finalData =>
    t.afterPop t.dualChannel.stepPopData
      (fun t => { t with capturePc := .done }) (·.callPopData .finalData)
  | .done => t

end MacEventTap

/-- The actions of the tap callback, of the capture thread, and of the thread that calls `stop`. -/
inductive TapAction where
  | callEnqueue (event : RawInputEventFlat)
  | stepEnqueue
  | stepCapture (osModifiers : ModifierState)
  | stop

/-- The tap callback against the capture thread, in every interleaving. -/
def tapMachine : Lib.Machine MacEventTap TapAction where
  init := .init
  step t
    | .callEnqueue event => t.callEnqueue event
    | .stepEnqueue => t.stepEnqueue
    | .stepCapture osModifiers => t.stepCapture osModifiers
    | .stop => t.stop

end CrossFlow
