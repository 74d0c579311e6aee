import CrossFlow.Proofs.Identity.SessionFence

/-!
# `CrossFlow.Proofs.Identity.FenceEpochs`: the epoch of a fence over time

`updateEpoch` takes greater epochs only. `startNewSession` adds one to whatever is there, and the
greatest epoch becomes 0.

* `advances_iff`: the calls after which the epoch is greater, or the fence the same.
* `fence_epochs_iff`: the runs of such calls, in which no message that was once too old is accepted.
-/

set_option autoImplicit false

namespace CrossFlow

open Lib (Machine)

namespace SessionFenceImpl

/-- A call with what it returns. -/
def call (f : SessionFenceImpl) : SessionCall → SessionFenceImpl × Option ErrorCode
  | .startNewSession => f.startNewSession
  | .updateEpoch newEpoch => f.updateEpoch newEpoch

/-- A step is a call without its answer. -/
theorem step_eq_call (f : SessionFenceImpl) (c : SessionCall) : f.step c = (f.call c).1 := by
  cases c <;> rfl

/-- A call that succeeds leaves a greater epoch, and one that fails the fence. -/
def Advances (f : SessionFenceImpl) (c : SessionCall) : Prop :=
  ((f.call c).2 = none → f.fence.epoch.value < (f.call c).1.fence.epoch.value) ∧
    ((f.call c).2 ≠ none → (f.call c).1 = f)

/-- No new session is started at the greatest epoch. -/
def NoWrap (f : SessionFenceImpl) : SessionCall → Prop
  | .startNewSession => f.fence.epoch.value ≠ 0xFFFFFFFFFFFFFFFF
  | .updateEpoch _ => True

/-- The epoch is refused, or the later one. -/
theorem updateEpoch_cases (f : SessionFenceImpl) (newEpoch : SessionEpoch) :
    f.updateEpoch newEpoch = (f, some .SessStaleEpoch) ∨
      f.fence.epoch.value < newEpoch.value ∧
        f.updateEpoch newEpoch = ({ fence := { f.fence with epoch := newEpoch } }, none) := by
  unfold updateEpoch
  cases hafter : newEpoch.isMonotonicAfter f.fence.epoch with
  | false => exact .inl rfl
  | true => exact .inr ⟨of_decide_eq_true hafter, rfl⟩

/-- An epoch that is taken is later. -/
theorem updateEpoch_advances (f : SessionFenceImpl) (newEpoch : SessionEpoch) :
    f.Advances (.updateEpoch newEpoch) := by
  unfold Advances
  dsimp only [call]
  rcases f.updateEpoch_cases newEpoch with hupdate | ⟨hlt, hupdate⟩
  · rw [hupdate]
    exact ⟨fun h => absurd h (Option.some_ne_none _), fun _ => rfl⟩
  · rw [hupdate]
    exact ⟨fun _ => hlt, fun h => absurd rfl h⟩

/-- A call leads to a later epoch unless the number wraps around. -/
theorem advances_iff (f : SessionFenceImpl) (c : SessionCall) : f.Advances c ↔ f.NoWrap c := by
  cases c with
  | startNewSession =>
    -- It never fails, so all depends on the epoch that it leaves.
    have hepoch : f.Advances .startNewSession ↔
        f.fence.epoch.value < f.fence.epoch.increment.value :=
      ⟨fun h => h.1 rfl, fun h => ⟨fun _ => h, fun herr => absurd rfl herr⟩⟩
    exact hepoch.trans f.fence.epoch.lt_increment_iff
  | updateEpoch newEpoch => exact iff_of_true (f.updateEpoch_advances newEpoch) trivial

/-- The epoch does not go back. -/
theorem Advances.le {f : SessionFenceImpl} {c : SessionCall} (h : f.Advances c) :
    f.fence.epoch.value ≤ (f.step c).fence.epoch.value := by
  rw [step_eq_call]
  cases herr : (f.call c).2 with
  | none => exact UInt64.le_of_lt (h.1 herr)
  | some err =>
    rw [h.2 (by rw [herr]; exact Option.some_ne_none err)]
    exact UInt64.le_refl _

/-- A message of an older epoch is not accepted, whatever node and instance it names. -/
theorem checkIncoming_of_lt {f : SessionFenceImpl} {epoch : SessionEpoch}
    (h : epoch.value < f.fence.epoch.value) (nodeId : NodeId) (instanceId : SessionInstanceId) :
    f.checkIncoming nodeId epoch instanceId ≠ .Accept := by
  -- A message of another node is refused for that, and one of this node for its epoch.
  by_cases hunknown : nodeId.isNull = true ∨ nodeId ≠ f.fence.nodeId
  · rw [f.checkIncoming_of_unknown epoch instanceId hunknown]
    exact SessionFenceVerdict.noConfusion
  · obtain ⟨hnull, hnode⟩ := not_or.mp hunknown
    intro haccept
    have hle := ((f.checkIncoming_eq_accept_iff epoch instanceId (Bool.eq_false_iff.mpr hnull)
      (not_not.mp hnode)).mp haccept).2
    exact UInt64.not_le.mpr h hle

end SessionFenceImpl

open SessionFenceImpl

/-- Along calls that advance it, the epoch is never below what it was. -/
theorem epoch_le_runFrom {f start : SessionFenceImpl} {calls : List SessionCall}
    (h : (sessionFenceMachine start).Meets Advances f calls) :
    f.fence.epoch.value ≤ ((sessionFenceMachine start).runFrom f calls).fence.epoch.value := by
  refine Machine.runFrom_of_meets (P := fun g => f.fence.epoch.value ≤ g.fence.epoch.value)
    (fun g c hle hadvances => ?_) (UInt64.le_refl _) h
  exact UInt64.le_trans hle hadvances.le

/-- In a run, no message is accepted whose epoch was below that of the fence at an earlier moment. -/
def KeepsOut (start : SessionFenceImpl) (calls : List SessionCall) : Prop :=
  ∀ earlier later, earlier <+: later → later <+: calls →
    ∀ (nodeId : NodeId) (epoch : SessionEpoch) (instanceId : SessionInstanceId),
      epoch.value < ((sessionFenceMachine start).run earlier).fence.epoch.value →
        ((sessionFenceMachine start).run later).checkIncoming nodeId epoch instanceId ≠ .Accept

/-- When all calls lead to later epochs, an epoch that was left stays out. -/
theorem keepsOut_of_advances {start : SessionFenceImpl} {calls : List SessionCall}
    (h : (sessionFenceMachine start).Meets Advances start calls) : KeepsOut start calls := by
  rintro earlier _ ⟨between, rfl⟩ ⟨rest, rfl⟩ nodeId epoch instanceId hold
  -- The calls from the earlier moment to the later one do not set the epoch back.
  have hbetween := (Machine.meets_append.mp (Machine.meets_append.mp h).1).2
  have hle := epoch_le_runFrom hbetween
  refine checkIncoming_of_lt ?_ nodeId instanceId
  rw [Machine.run, Machine.runFrom_append]
  exact UInt64.lt_of_lt_of_le hold hle

/-- In a run from any fence, every successful call leaves a greater epoch, every other the fence,
and what was once too old is never accepted, exactly when no session is started at the greatest
epoch. -/
theorem fence_epochs_iff (start : SessionFenceImpl) (calls : List SessionCall) :
    (sessionFenceMachine start).Meets Advances start calls ∧ KeepsOut start calls ↔
      (sessionFenceMachine start).Meets NoWrap start calls := by
  rw [← Machine.meets_congr advances_iff]
  exact and_iff_left_of_imp keepsOut_of_advances

/-- At the greatest epoch a new session begins, of epoch 0, and messages of epoch 1 are accepted. -/
theorem fence_epoch_wraps :
    let node : NodeId := { high := 0, low := 1 }
    let calls : List SessionCall := [.updateEpoch { value := 0xFFFFFFFFFFFFFFFF }, .startNewSession]
    ¬ (sessionFenceMachine (.init node)).Meets Advances (.init node) calls ∧
      ¬ KeepsOut (.init node) calls := by
  intro node calls
  constructor
  · -- The second call succeeds, and 0 is not greater than the greatest epoch.
    rintro ⟨-, hadvances, -⟩
    exact absurd (hadvances.1 rfl) (by decide)
  · intro hkeeps
    have hrefused := hkeeps [.updateEpoch { value := 0xFFFFFFFFFFFFFFFF }] calls (by simp [calls])
      (List.prefix_refl _) node { value := 1 } { nodeId := node, createdAt := 1, isActive := true }
      (by decide)
    exact hrefused (by decide)

end CrossFlow
