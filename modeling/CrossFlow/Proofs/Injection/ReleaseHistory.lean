import CrossFlow.Proofs.Injection.ReleaseDeadline

/-!
# `CrossFlow.Proofs.Injection.ReleaseHistory`: one executor, called again

`execute` stores `DeadlineReached` when it stops at its deadline and leaves it there otherwise: the
classification is skipped when `lastResult_` is `DeadlineReached`, whoever stored it. So after one
call that reached its deadline every call says that it did (`lastResult_run_iff`). What is released
does not depend on the calls before (`sameReleases`).

* `history_independent_iff`: the calls that end as they would on a fresh executor.
* `deadline_sticks`: a call with nothing to release, after one that was late.
-/

set_option autoImplicit false

namespace CrossFlow

open Lib (Machine)

/-- A reading of the loops is at or past the deadline: they read the clock twice for everything that
is pressed. -/
def ExecuteCall.ReachesDeadline (call : ExecuteCall) : Prop :=
  ∃ k < 2 * (call.snapshot.pressedMouseButtons.count.toNat + call.snapshot.pressedKeys.count.toNat),
    ReleaseAllPressedExecutor.deadline call.fns ≤ call.fns.clockFn (1 + k)

/-- `injectFn` does not look at the id of an event. -/
def ReleaseFns.IgnoresIds (fns : ReleaseFns) : Prop :=
  ∀ k event id, fns.injectFn k { event with eventId := id } = fns.injectFn k event

namespace ReleaseAllPressedExecutor

/-- What a call returns, `releasedCount()` after it, and what it injected but for the ids. -/
structure Outcome where
  result : Result
  releasedCount : UInt32
  releases : List ReceivedEvent
  deriving DecidableEq

/-- The events that were injected, without their numbers. -/
def withoutIds (calls : List ReleaseCall) : List ReceivedEvent :=
  (injected calls).map fun event => { event with eventId := 0 }

/-- What is seen of a call, but for the numbers of its events. -/
def Executed.outcome (done : Executed) : Outcome where
  result := done.result
  releasedCount := done.executor.releasedCount
  releases := withoutIds done.trace

/-! ### What is released -/

/-- Events are seen one after the other. -/
theorem withoutIds_append (calls calls' : List ReleaseCall) :
    withoutIds (calls ++ calls') = withoutIds calls ++ withoutIds calls' := by
  simp [withoutIds, injected]

/-- The same but for the ids. -/
structure SameButIds (s s' : Releasing) : Prop where
  released : s'.released = s.released
  readings : s'.readings = s.readings
  injections : s'.injections = s.injections
  releases : withoutIds s'.trace = withoutIds s.trace

variable {s s' : Releasing}

/-- To read the clock keeps what is the same. -/
theorem SameButIds.readClock (h : SameButIds s s') (fns : ReleaseFns) :
    SameButIds (s.readClock fns).1 (s'.readClock fns).1 ∧
      (s'.readClock fns).2 = (s.readClock fns).2 := by
  simp only [Releasing.readClock, h.readings, and_true]
  constructor
  case releases => simp only [withoutIds_append, h.releases]
  case readings => rfl
  case released => exact h.released
  case injections => exact h.injections

/-- To inject keeps what is the same. -/
theorem SameButIds.inject (h : SameButIds s s') {fns : ReleaseFns} (hids : fns.IgnoresIds)
    (event : ReceivedEvent) :
    SameButIds
      ({ s with eventId := s.eventId + 1 }.inject fns { event with eventId := s.eventId })
      ({ s' with eventId := s'.eventId + 1 }.inject fns { event with eventId := s'.eventId }) := by
  simp only [Releasing.inject, h.injections, hids _ event]
  constructor
  case releases => simp only [withoutIds_append, h.releases]; rfl
  case released => simp only [h.released]
  case readings => exact h.readings
  case injections => rfl

/-- A release keeps what is the same. -/
theorem SameButIds.releaseOne (h : SameButIds s s') {fns : ReleaseFns} (hids : fns.IgnoresIds)
    (tDeadline : Int) (event : ReceivedEvent) :
    SameButIds (s.releaseOne fns tDeadline event).1 (s'.releaseOne fns tDeadline event).1 ∧
      (s'.releaseOne fns tDeadline event).2 = (s.releaseOne fns tDeadline event).2 := by
  obtain ⟨hfirst, hnow⟩ := h.readClock fns
  simp only [Releasing.releaseOne, hnow]
  split
  · exact ⟨hfirst, rfl⟩
  · obtain ⟨hlast, hthen⟩ := (hfirst.inject hids event).readClock fns
    exact ⟨hlast, by rw [hthen]⟩

/-- All releases keep what is the same. -/
theorem SameButIds.releaseEach (h : SameButIds s s') {fns : ReleaseFns} (hids : fns.IgnoresIds)
    (tDeadline : Int) (events : List ReceivedEvent) :
    SameButIds (Releasing.releaseEach fns tDeadline events s).1
        (Releasing.releaseEach fns tDeadline events s').1 ∧
      (Releasing.releaseEach fns tDeadline events s').2 =
        (Releasing.releaseEach fns tDeadline events s).2 := by
  induction events generalizing s s' with
  | nil => exact ⟨h, rfl⟩
  | cons event events ih =>
    obtain ⟨hone, hlate⟩ := h.releaseOne hids tDeadline event
    simp only [Releasing.releaseEach, hlate]
    split
    · exact ⟨hone, rfl⟩
    · exact ih hone

/-- The calls before leave no trace in what is released. -/
theorem sameReleases (e e' : ReleaseAllPressedExecutor) {eventId eventId' : UInt64}
    (snapshot : PressedStateSnapshot) (fns : ReleaseFns) (sourceNodeId : NodeId)
    (hids : fns.IgnoresIds ∨ eventId' = eventId) :
    (e'.execute eventId' snapshot fns sourceNodeId).executor.releasedCount =
        (e.execute eventId snapshot fns sourceNodeId).executor.releasedCount ∧
      withoutIds (e'.execute eventId' snapshot fns sourceNodeId).trace =
        withoutIds (e.execute eventId snapshot fns sourceNodeId).trace := by
  -- The loops are the same but for the ids, which nothing depends on.
  rcases hids with hids | rfl
  · have hstart : SameButIds
        { eventId := eventId, released := 0, readings := 0, injections := 0, trace := [] }
        { eventId := eventId', released := 0, readings := 0, injections := 0, trace := [] } :=
      ⟨rfl, rfl, rfl, rfl⟩
    obtain ⟨hfirst, hnow⟩ := hstart.readClock fns
    simp only [execute, releaseLoops_eq, hnow]
    have hloops := hfirst.releaseEach hids (fns.clockFn 0 + kTotalDeadline)
      (dueReleases snapshot sourceNodeId (UInt64.ofInt (fns.clockFn 0)))
    exact ⟨(hloops.1.readClock fns).1.released, (hloops.1.readClock fns).1.releases⟩
  · exact ⟨rfl, rfl⟩

/-! ### What is said of it -/

/-- The counts alone do not report a deadline. -/
theorem classify_ne_deadlineReached (snapshot : PressedStateSnapshot) (released : UInt32) :
    classify snapshot released ≠ .DeadlineReached := by
  simp only [classify]
  split
  · simp
  · split
    · simp
    · split <;> simp

/-- A call says that the deadline was reached when it was, or when an earlier call said so.
Otherwise it goes by what was released. -/
theorem result_execute (s : ExecutorState) (call : ExecuteCall) :
    (s.execute call).executor.lastResult = (s.execute call).result ∧
      (call.ReachesDeadline ∨ s.executor.lastResult = .DeadlineReached →
        (s.execute call).result = .DeadlineReached) ∧
      (¬ (call.ReachesDeadline ∨ s.executor.lastResult = .DeadlineReached) →
        (s.execute call).result =
          classify call.snapshot (s.execute call).executor.releasedCount) := by
  obtain ⟨first, last, late, calls, tEnd, -, -, hreadings, h, -, hcount, hlast, hresult⟩ :=
    s.executor.execute_cases s.eventId call.snapshot call.fns call.sourceNodeId
  -- The deadline is reached exactly if one of the readings of the loops is late.
  have hlate : call.ReachesDeadline ↔ late = true := by
    rw [h.readings, length_dueReleases, hreadings, ExecuteCall.ReachesDeadline]
  refine ⟨hlast, ?_, ?_⟩
  · intro hreached
    rw [hlate] at hreached
    rw [ExecutorState.execute, hresult, if_pos hreached]
  · intro hreached
    rw [hlate] at hreached
    rw [ExecutorState.execute, hresult, if_neg hreached, hcount]

/-- A deadline is reported by the call that reaches it, and by all later ones. -/
theorem result_eq_deadlineReached_iff (s : ExecutorState) (call : ExecuteCall) :
    (s.execute call).result = .DeadlineReached ↔
      call.ReachesDeadline ∨ s.executor.lastResult = .DeadlineReached := by
  obtain ⟨-, hreached, hnot⟩ := result_execute s call
  refine ⟨?_, hreached⟩
  intro hresult
  by_contra h
  rw [hnot h] at hresult
  exact classify_ne_deadlineReached _ _ hresult

/-- The executor remembers that one of its calls was late. -/
theorem lastResult_run_iff (eventId : UInt64) (history : List ExecuteCall) :
    ((executorMachine eventId).run history).executor.lastResult = .DeadlineReached ↔
      ∃ call ∈ history, call.ReachesDeadline := by
  induction history using List.reverseRecOn with
  | nil => simp [Machine.run, executorMachine, init]
  | append_singleton history call ih =>
    have hlast := (result_execute ((executorMachine eventId).run history) call).1
    rw [Machine.run_append_singleton]
    show (ExecutorState.execute _ call).executor.lastResult = _ ↔ _
    rw [hlast, result_eq_deadlineReached_iff, ih]
    simp only [List.mem_append, List.mem_singleton, or_and_right, exists_or, exists_eq_left,
      or_comm]

end ReleaseAllPressedExecutor

open ReleaseAllPressedExecutor

/-- A call ends as it would on a fresh executor when no earlier call reached its deadline, or when
it reaches its own. The fresh executor may come at a different `s_eventId`, if `injectFn` does not
look at the ids. -/
theorem history_independent_iff (eventId : UInt64) (history : List ExecuteCall)
    (call : ExecuteCall) (fresh : UInt64)
    (hids : call.fns.IgnoresIds ∨ fresh = ((executorMachine eventId).run history).eventId) :
    (((executorMachine eventId).run history).execute call).outcome =
        (ExecutorState.execute ⟨.init, fresh⟩ call).outcome ↔
      (∀ earlier ∈ history, ¬ earlier.ReachesDeadline) ∨ call.ReachesDeadline := by
  have hsticky := lastResult_run_iff eventId history
  generalize (executorMachine eventId).run history = s at hids hsticky
  have hfresh : (ExecutorState.mk .init fresh).executor.lastResult ≠ .DeadlineReached := by
    simp [init]
  obtain ⟨hcount, hreleases⟩ := sameReleases s.executor init call.snapshot call.fns
    call.sourceNodeId hids
  -- The counts and the releases are the same, so the outcomes differ in the result only.
  have houtcome : (s.execute call).outcome = (ExecutorState.execute ⟨.init, fresh⟩ call).outcome ↔
      (s.execute call).result = (ExecutorState.execute ⟨.init, fresh⟩ call).result := by
    constructor
    · exact congrArg Outcome.result
    · intro hresult
      exact Outcome.mk.injEq .. ▸ ⟨hresult, hcount.symm, hreleases.symm⟩
  rw [houtcome]
  obtain ⟨-, hreached, hnot⟩ := result_execute s call
  obtain ⟨-, hreached', hnot'⟩ := result_execute ⟨.init, fresh⟩ call
  by_cases hcall : call.ReachesDeadline
  · rw [hreached (.inl hcall), hreached' (.inl hcall)]
    exact iff_of_true rfl (.inr hcall)
  · have hsame : ¬ (call.ReachesDeadline ∨
        (ExecutorState.mk .init fresh).executor.lastResult = .DeadlineReached) :=
      not_or.mpr ⟨hcall, hfresh⟩
    rw [hnot' hsame]
    by_cases hlast : s.executor.lastResult = .DeadlineReached
    · -- The result of the earlier call is still there.
      obtain ⟨earlier, hmem, hlate⟩ := hsticky.mp hlast
      rw [hreached (.inr hlast)]
      refine iff_of_false (fun h => classify_ne_deadlineReached _ _ h.symm) ?_
      exact not_or.mpr ⟨fun h => h earlier hmem hlate, hcall⟩
    · -- No earlier result is left, and the counts classify both calls.
      rw [hnot (not_or.mpr ⟨hcall, hlast⟩)]
      refine iff_of_true ?_ (.inl fun earlier hmem hlate => hlast (hsticky.mpr ⟨_, hmem, hlate⟩))
      exact congrArg (classify call.snapshot) hcount.symm

/-- The left and the right button and key 65 are pressed, the clock goes on by 1 ms at every
reading, and the second release is refused. -/
def refusedCall : ExecuteCall where
  snapshot :=
    { PressedStateSnapshot.init with
      pressedMouseButtons := { bits := 3 }
      pressedKeys := PressedStateSnapshot.init.pressedKeys.setPressed 65 }
  fns :=
    { clockFn := fun k => k * 1000000
      injectFn := fun k _ => { ok := k ≠ 1, failedCount := 0, latencyUs := 0 } }
  sourceNodeId := ⟨0, 0⟩

/-- The middle button and the keys 16 and 65 are pressed, and every release is taken. -/
def takenCall : ExecuteCall where
  snapshot :=
    { PressedStateSnapshot.init with
      pressedMouseButtons := { bits := 4 }
      pressedKeys := (PressedStateSnapshot.init.pressedKeys.setPressed 16).setPressed 65 }
  fns :=
    { clockFn := fun k => k * 1000000
      injectFn := fun _ _ => { ok := true, failedCount := 0, latencyUs := 0 } }
  sourceNodeId := ⟨0, 0⟩

/-- Three releases after a call that released two of three. -/
theorem history_independent_refused :
    ((executorMachine 1).run [refusedCall]).executor =
        { lastResult := .PartialRelease, releasedCount := 2, totalElapsedMs := 7,
          executionCount := 1 } ∧
      (((executorMachine 1).run [refusedCall]).execute takenCall).executor.releasedCount = 3 ∧
      (((executorMachine 1).run [refusedCall]).execute takenCall).outcome =
        (ExecutorState.execute ⟨.init, 1⟩ takenCall).outcome := by
  refine ⟨by decide +kernel, by decide +kernel,
    (history_independent_iff 1 [refusedCall] takenCall 1 (.inl fun _ _ _ => rfl)).mpr (.inl ?_)⟩
  intro earlier hmem
  rw [List.mem_singleton.mp hmem]
  -- Six readings at most, so none is past 100 ms.
  rintro ⟨k, hk, hlate⟩
  have hcount : 2 * (refusedCall.snapshot.pressedMouseButtons.count.toNat +
      refusedCall.snapshot.pressedKeys.count.toNat) = 6 := by decide +kernel
  rw [hcount] at hk
  have hreading : (100 * 1000000 : Int) + 0 ≤ (1 + k : Nat) * 1000000 := by
    simpa [ReleaseAllPressedExecutor.deadline, refusedCall, kTotalDeadline] using hlate
  omega

/-- The left button is pressed, and the clock goes on by 100 ms at every reading. -/
def lateCall : ExecuteCall where
  snapshot := { PressedStateSnapshot.init with pressedMouseButtons := { bits := 1 } }
  fns :=
    { clockFn := fun k => k * 100000000
      injectFn := fun _ _ => { ok := true, failedCount := 0, latencyUs := 0 } }
  sourceNodeId := ⟨0, 0⟩

/-- Nothing is pressed. -/
def idleCall : ExecuteCall := { lateCall with snapshot := .init }

/-- After a call that was late, one with nothing to release says that it was late too. -/
theorem deadline_sticks :
    (((executorMachine 1).run [lateCall]).execute idleCall).outcome ≠
      (ExecutorState.execute ⟨.init, 1⟩ idleCall).outcome := by
  decide +kernel

end CrossFlow
