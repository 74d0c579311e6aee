import CrossFlow.Core.Identity.SessionFence

/-!
# `CrossFlow.Proofs.Identity.SessionFence`: which messages the fence admits

`checkIncoming` looks at the instance before it looks at the epoch, so the first message of a node
that has restarted is a conflict; and it takes an instance for a conflict only when it is active and
names the sender, so at the recorded epoch any other one is admitted.

* `checkIncoming_eq_accept_iff`: the triples the code admits.
* `session_admission_iff`: the triples on which that is what admission should be.
* `restarted_node_refused`: the traffic of a node after it has started a new session.
-/

set_option autoImplicit false

namespace CrossFlow

namespace SessionFenceImpl

/-- The instance is the recorded one. -/
def IsRecorded (f : SessionFenceImpl) (instanceId : SessionInstanceId) : Prop :=
  instanceId.nodeId = f.fence.instanceId.nodeId ∧
    instanceId.createdAt = f.fence.instanceId.createdAt

/-- The instance is an active one of the sender, other than the recorded one. -/
def IsOther (f : SessionFenceImpl) (nodeId : NodeId) (instanceId : SessionInstanceId) : Prop :=
  instanceId.nodeId = nodeId ∧ instanceId.createdAt ≠ f.fence.instanceId.createdAt ∧
    instanceId.isActive = true

/-- The triple is to be admitted: it comes from the recorded node, in a newer session or in the
recorded one. -/
def Admissible (f : SessionFenceImpl) (nodeId : NodeId) (epoch : SessionEpoch)
    (instanceId : SessionInstanceId) : Prop :=
  nodeId.isNull = false ∧ nodeId = f.fence.nodeId ∧
    (epoch.value > f.fence.epoch.value ∨
      epoch.value = f.fence.epoch.value ∧ f.IsRecorded instanceId)

/-- The check is right about the triple. -/
def AdmitsRightly (f : SessionFenceImpl) (nodeId : NodeId) (epoch : SessionEpoch)
    (instanceId : SessionInstanceId) : Prop :=
  f.checkIncoming nodeId epoch instanceId = .Accept ↔ f.Admissible nodeId epoch instanceId

/-- The triple does not depend on the order of the two tests: it comes from another node or an
older session, or is newer without an instance of its own, or of the recorded epoch with the
recorded instance or one that conflicts with it. -/
def TestsAgree (f : SessionFenceImpl) (nodeId : NodeId) (epoch : SessionEpoch)
    (instanceId : SessionInstanceId) : Prop :=
  nodeId.isNull = true ∨ nodeId ≠ f.fence.nodeId ∨ epoch.value < f.fence.epoch.value ∨
    (epoch.value > f.fence.epoch.value ∧ ¬ f.IsOther nodeId instanceId) ∨
    (epoch.value = f.fence.epoch.value ∧
      (f.IsRecorded instanceId ∨ f.IsOther nodeId instanceId))

section
variable (f : SessionFenceImpl) {nodeId : NodeId} (epoch : SessionEpoch)
variable (instanceId : SessionInstanceId)

/-- A message of another node, or of none. -/
theorem checkIncoming_of_unknown (h : nodeId.isNull = true ∨ nodeId ≠ f.fence.nodeId) :
    f.checkIncoming nodeId epoch instanceId = .UnknownNode := by
  unfold checkIncoming
  rcases h with hnull | hne
  · rw [if_pos hnull]
  · rw [if_pos hne, ite_self]

/-- From the recorded node, every triple is admitted but an older epoch and another instance. -/
theorem checkIncoming_eq_accept_iff (hnull : nodeId.isNull = false)
    (hnode : nodeId = f.fence.nodeId) :
    f.checkIncoming nodeId epoch instanceId = .Accept ↔
      ¬ f.IsOther nodeId instanceId ∧ f.fence.epoch.value ≤ epoch.value := by
  unfold checkIncoming
  rw [if_neg (hnull ▸ Bool.false_ne_true), if_neg (not_not_intro hnode)]
  by_cases hother : instanceId.nodeId = nodeId ∧
      instanceId.createdAt ≠ f.fence.instanceId.createdAt ∧ instanceId.isActive = true
  · rw [if_pos hother]
    exact iff_of_false SessionFenceVerdict.noConfusion fun h => h.1 hother
  · rw [if_neg hother]
    -- Neither newer nor the same is older.
    have hold : (!epoch.isMonotonicAfter f.fence.epoch) = true ∧
        epoch.value ≠ f.fence.epoch.value ↔ ¬ f.fence.epoch.value ≤ epoch.value := by
      simp only [SessionEpoch.isMonotonicAfter, Bool.not_eq_true', decide_eq_false_iff_not]
      constructor
      · rintro ⟨hnewer, hne⟩ hle
        exact hnewer (UInt64.lt_of_le_of_ne hle (Ne.symm hne))
      · intro hlt
        exact ⟨fun h => hlt (UInt64.le_of_lt h), fun h => hlt (UInt64.le_of_eq h.symm)⟩
    by_cases hle : f.fence.epoch.value ≤ epoch.value
    · rw [if_neg (mt hold.mp (not_not_intro hle))]
      exact iff_of_true rfl ⟨hother, hle⟩
    · rw [if_pos (hold.mpr hle)]
      exact iff_of_false SessionFenceVerdict.noConfusion fun h => hle h.2

end

/-- The instance that is recorded is no other one. -/
theorem not_isOther_of_isRecorded {f : SessionFenceImpl} {nodeId : NodeId}
    {instanceId : SessionInstanceId} (h : f.IsRecorded instanceId) :
    ¬ f.IsOther nodeId instanceId := fun hother => hother.2.1 h.2

end SessionFenceImpl

open SessionFenceImpl

/-- In every state a run leads to, whatever it started from: the check admits a triple exactly when
it should if and only if the order of its tests does not matter for the triple. -/
theorem session_admission_iff (start : SessionFenceImpl) (calls : List SessionCall)
    (nodeId : NodeId) (epoch : SessionEpoch) (instanceId : SessionInstanceId) :
    let f := (sessionFenceMachine start).run calls
    f.AdmitsRightly nodeId epoch instanceId ↔ f.TestsAgree nodeId epoch instanceId := by
  intro f
  by_cases hunknown : nodeId.isNull = true ∨ nodeId ≠ f.fence.nodeId
  · -- Refused, as it should be.
    have hverdict := f.checkIncoming_of_unknown epoch instanceId hunknown
    refine iff_of_true (iff_of_false ?_ ?_) ?_
    · rw [hverdict]
      exact SessionFenceVerdict.noConfusion
    · rintro ⟨hnull, hnode, -⟩
      rcases hunknown with h | h
      · exact Bool.false_ne_true (hnull.symm.trans h)
      · exact h hnode
    · rcases hunknown with h | h
      · exact .inl h
      · exact .inr (.inl h)
  rw [not_or, not_not] at hunknown
  obtain ⟨hnull, hnode⟩ := hunknown
  -- For the fence's own node both sides come down to the epoch and the instance.
  have hadmissible : f.Admissible nodeId epoch instanceId ↔ epoch.value > f.fence.epoch.value ∨
      epoch.value = f.fence.epoch.value ∧ f.IsRecorded instanceId :=
    (and_iff_right (Bool.not_eq_true _ ▸ hnull)).trans (and_iff_right hnode)
  have htests : f.TestsAgree nodeId epoch instanceId ↔ epoch.value < f.fence.epoch.value ∨
      (epoch.value > f.fence.epoch.value ∧ ¬ f.IsOther nodeId instanceId) ∨
      (epoch.value = f.fence.epoch.value ∧
        (f.IsRecorded instanceId ∨ f.IsOther nodeId instanceId)) :=
    (or_iff_right hnull).trans (or_iff_right (not_not_intro hnode))
  rw [AdmitsRightly, f.checkIncoming_eq_accept_iff epoch instanceId (Bool.not_eq_true _ ▸ hnull)
    hnode, hadmissible, htests]
  by_cases heq : epoch.value = f.fence.epoch.value
  · -- The recorded epoch: admitted unless the instance is another, right with the recorded one.
    have hirrefl : ¬ f.fence.epoch.value < f.fence.epoch.value := UInt64.lt_irrefl _
    have hle : f.fence.epoch.value ≤ f.fence.epoch.value := UInt64.le_refl _
    simp only [heq, gt_iff_lt, hirrefl, hle, and_true, true_and, false_and, false_or]
    by_cases hrecorded : f.IsRecorded instanceId
    · have hother : ¬ f.IsOther nodeId instanceId := not_isOther_of_isRecorded hrecorded
      simp only [hrecorded, hother, not_false_eq_true, true_or]
    · simp only [hrecorded, iff_false, not_not, false_or]
  · rcases UInt64.lt_or_lt_of_ne heq with hlt | hgt
    · -- An older epoch is refused by both.
      have hle : ¬ f.fence.epoch.value ≤ epoch.value := UInt64.not_le.mpr hlt
      have hnot : ¬ epoch.value > f.fence.epoch.value := UInt64.lt_asymm hlt
      simp only [heq, hle, hnot, hlt, and_false, false_and, or_self, true_or]
    · -- A newer epoch is admitted, but for another instance, which is refused first.
      have hle : f.fence.epoch.value ≤ epoch.value := UInt64.le_of_lt hgt
      have hnot : ¬ epoch.value < f.fence.epoch.value := UInt64.lt_asymm hgt
      simp only [heq, gt_iff_lt, hgt, hle, hnot, and_true, true_and, false_and, false_or,
        or_false, iff_true]

/-- The first message of a node that has started a new session is refused by a fence that recorded
the one before. -/
theorem restarted_node_refused (f : SessionFenceImpl) (hnull : f.fence.nodeId.isNull = false)
    (hepoch : f.fence.epoch.value ≠ -1) :
    let g := f.startNewSession.1
    f.checkIncoming g.fence.nodeId g.fence.epoch g.fence.instanceId = .InstanceConflict ∧
      f.Admissible g.fence.nodeId g.fence.epoch g.fence.instanceId := by
  intro g
  have hcreated : f.fence.instanceId.createdAt + 1 ≠ f.fence.instanceId.createdAt := by
    rw [ne_eq, UInt64.add_eq_left]
    decide
  constructor
  · have hnode : ¬ g.fence.nodeId ≠ f.fence.nodeId := not_not_intro rfl
    have hactive : g.fence.nodeId.isNull ≠ true := hnull ▸ Bool.false_ne_true
    unfold checkIncoming
    rw [if_neg hactive, if_neg hnode]
    exact if_pos ⟨rfl, hcreated, rfl⟩
  · exact ⟨hnull, rfl, .inl (UInt64.lt_add_one hepoch)⟩

/-- A node that has restarted: its epoch is a newer one, and it is refused as a conflict. -/
theorem restart_is_conflict :
    ¬ ∀ (localNodeId : NodeId) (calls : List SessionCall) (nodeId : NodeId) (epoch : SessionEpoch)
      (instanceId : SessionInstanceId),
        ((sessionFenceMachine (.init localNodeId)).run calls).AdmitsRightly nodeId epoch
          instanceId := by
  intro hclaim
  let node : NodeId := { high := 1, low := 1 }
  let restarted := (SessionFenceImpl.init node).startNewSession.1.fence
  have hadmits := hclaim node [] node restarted.epoch restarted.instanceId
  exact absurd (hadmits.mpr ⟨rfl, rfl, .inl (by decide)⟩) (by decide)

end CrossFlow
