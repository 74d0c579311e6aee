import CrossFlow.Core.Common.ReceivedEvent
import CrossFlow.Lib.Machine
import CrossFlow.Platform.Common.PlatformPorts

/-!
# `CrossFlow.Platform.Mac.ReleaseAllPressedExecutor`: releases against a deadline

The model of `platform/mac/release_all_pressed_executor.hpp` and `.cpp`. A point in time is a number
of nanoseconds. `s_eventId`, which is shared by all executors, is an argument and a result.

The trace of a call is what it asked of `clockFn` and `injectFn`, with the answers.
-/

set_option autoImplicit false

namespace CrossFlow

open Lib (Machine)

/-- The functions given to `execute`. The `k`th call of `clockFn` and the `k`th call of `injectFn`
return what they are at `k`. -/
structure ReleaseFns where
  clockFn : Nat → Int
  injectFn : Nat → ReceivedEvent → InjectResult

/-- A call that `execute` makes: it reads the clock, or injects. -/
inductive ReleaseCall where
  | clock (reading : Int)
  | inject (event : ReceivedEvent) (result : InjectResult)
  deriving DecidableEq

namespace ReleaseAllPressedExecutor

/-- What `execute` reports. -/
inductive Result where
  | Success
  | PartialRelease
  | DeadlineReached
  | Degraded
  deriving DecidableEq

/-- `milliseconds(kTotalDeadlineMs)` in nanoseconds. -/
def kTotalDeadline : Int := 100 * 1000000

end ReleaseAllPressedExecutor

/-- The executor with what its last call has found. -/
structure ReleaseAllPressedExecutor where
  lastResult : ReleaseAllPressedExecutor.Result
  releasedCount : UInt32
  totalElapsedMs : UInt32
  executionCount : UInt64
  deriving DecidableEq

namespace ReleaseAllPressedExecutor

/-- An executor that was just made. -/
def init : ReleaseAllPressedExecutor where
  lastResult := .Success
  releasedCount := 0
  totalElapsedMs := 0
  executionCount := 0

/-- Where a call of `execute` is: `s_eventId`, `released`, how often it has called the two
functions, and the trace. -/
structure Releasing where
  eventId : UInt64
  released : UInt32
  readings : Nat
  injections : Nat
  trace : List ReleaseCall
  deriving DecidableEq

namespace Releasing

/-- `clockFn()` -/
def readClock (s : Releasing) (fns : ReleaseFns) : Releasing × Int :=
  let now := fns.clockFn s.readings
  ({ s with readings := s.readings + 1, trace := s.trace ++ [.clock now] }, now)

/-- `injectFn(event)`, and `++released` if it was ok. -/
def inject (s : Releasing) (fns : ReleaseFns) (event : ReceivedEvent) : Releasing :=
  let r := fns.injectFn s.injections event
  { s with
    released := if r.ok then s.released + 1 else s.released
    injections := s.injections + 1
    trace := s.trace ++ [.inject event r] }

/-- The body of both loops. The flag is for `goto done`, with `DeadlineReached` stored. `release` is
the event, but for its id. -/
def releaseOne (s : Releasing) (fns : ReleaseFns) (tDeadline : Int) (release : ReceivedEvent) :
    Releasing × Bool :=
  let (s, now) := s.readClock fns
  if now ≥ tDeadline then (s, true)
  else
    let event := { release with eventId := s.eventId }
    let s := { s with eventId := s.eventId + 1 }.inject fns event
    let (s, now) := s.readClock fns
    (s, now ≥ tDeadline)

/-- The two loops, from the code `code` on. -/
def releaseLoop (fns : ReleaseFns) (tDeadline : Int) (isPressed : Nat → Bool)
    (release : Nat → ReceivedEvent) : List Nat → Releasing → Releasing × Bool
  | [], s => (s, false)
  | code :: codes, s =>
    if isPressed code then
      let (s, late) := s.releaseOne fns tDeadline (release code)
      if late then (s, true) else releaseLoop fns tDeadline isPressed release codes s
    else releaseLoop fns tDeadline isPressed release codes s

end Releasing

/-- The release of a button. The enumerator of `EventType::MouseButtonRelease` is 2. -/
def buttonRelease (sourceNodeId : NodeId) (nowNs : UInt64) (btn : Nat) : ReceivedEvent where
  eventId := 0
  sourceNodeId := sourceNodeId
  timestamp := nowNs
  eventType := 2
  payload := .mouseButton (UInt8.ofNat btn)

/-- The release of a key. The enumerator of `EventType::KeyRelease` is 5. -/
def keyRelease (sourceNodeId : NodeId) (nowNs : UInt64) (code : Nat) : ReceivedEvent where
  eventId := 0
  sourceNodeId := sourceNodeId
  timestamp := nowNs
  eventType := 5
  payload := .key { keyCode := UInt16.ofNat code }

/-- The loop over the buttons and the one over the keys. -/
def releaseLoops (snapshot : PressedStateSnapshot) (fns : ReleaseFns) (sourceNodeId : NodeId)
    (tStart : Int) (s : Releasing) : Releasing × Bool :=
  let tDeadline := tStart + kTotalDeadline
  let nowNs := UInt64.ofInt tStart
  let (s, late) := Releasing.releaseLoop fns tDeadline
    (fun btn => snapshot.pressedMouseButtons.isPressed (UInt8.ofNat btn))
    (buttonRelease sourceNodeId nowNs) (List.range 8) s
  if late then (s, true)
  else
    Releasing.releaseLoop fns tDeadline
      (fun code => snapshot.pressedKeys.isPressed (UInt16.ofNat code))
      (keyRelease sourceNodeId nowNs) (List.range 256) s

/-- The result when the deadline was not reached. -/
def classify (snapshot : PressedStateSnapshot) (released : UInt32) : Result :=
  let totalPressed := snapshot.pressedMouseButtons.count.toUInt32 +
    snapshot.pressedKeys.count.toUInt32
  if released = totalPressed ∧ totalPressed > 0 then .Success
  else if released > 0 then .PartialRelease
  else if totalPressed = 0 then .Success
  else .Degraded

/-- What a call leaves. -/
structure Executed where
  executor : ReleaseAllPressedExecutor
  eventId : UInt64
  result : Result
  trace : List ReleaseCall
  deriving DecidableEq

/-- The buttons and the keys of the snapshot are released, until the deadline. -/
def execute (e : ReleaseAllPressedExecutor) (eventId : UInt64) (snapshot : PressedStateSnapshot)
    (fns : ReleaseFns) (sourceNodeId : NodeId) : Executed :=
  let s : Releasing := { eventId, released := 0, readings := 0, injections := 0, trace := [] }
  let (s, tStart) := s.readClock fns
  let (s, late) := releaseLoops snapshot fns sourceNodeId tStart s
  let lastResult := if late then .DeadlineReached else e.lastResult
  -- The label `done`.
  let (s, tEnd) := s.readClock fns
  let elapsed := (tEnd - tStart).tdiv 1000000
  let lastResult :=
    if lastResult ≠ .DeadlineReached then classify snapshot s.released else lastResult
  { executor :=
      { lastResult
        releasedCount := s.released
        totalElapsedMs := UInt32.ofInt elapsed
        executionCount := e.executionCount + 1 }
    eventId := s.eventId
    result := lastResult
    trace := s.trace }

end ReleaseAllPressedExecutor

/-! ### One executor, called again and again -/

/-- The arguments of a call of `execute`. -/
structure ExecuteCall where
  snapshot : PressedStateSnapshot
  fns : ReleaseFns
  sourceNodeId : NodeId

/-- An executor and `s_eventId`. -/
structure ExecutorState where
  executor : ReleaseAllPressedExecutor
  eventId : UInt64
  deriving DecidableEq

namespace ExecutorState

/-- `execute`, in the state. -/
def execute (s : ExecutorState) (call : ExecuteCall) : ReleaseAllPressedExecutor.Executed :=
  s.executor.execute s.eventId call.snapshot call.fns call.sourceNodeId

/-- One call. -/
def step (s : ExecutorState) (call : ExecuteCall) : ExecutorState :=
  let done := s.execute call
  { executor := done.executor, eventId := done.eventId }

end ExecutorState

/-- `s_eventId` starts at 1, but other executors may have counted it up. -/
def executorMachine (eventId : UInt64) : Machine ExecutorState ExecuteCall where
  init := { executor := .init, eventId }
  step := ExecutorState.step

end CrossFlow
