import CrossFlow.Proofs.Membership.SplitBrain

/-!
# `CrossFlow.Proofs.Membership.FollowerVersions`: where a committed version stays

A version becomes current in the manager that put it up, and that manager is the coordinator. There
is no call that hands a committed version to another manager. So of any number of managers with the
same first authority, the one whose own node is the authority is the only one that ever leaves the
version it was made with.

* `Follows`: what a manager that is not coordinator keeps; `Follows.call` for one call.
* `version_stays_at_the_authority`: for all managers together, in any run.
-/

set_option autoImplicit false

namespace CrossFlow

open TopologyVersionManager

/-- The manager has the version it was made with, and takes part in no commit. -/
structure TopologyVersionManager.Follows (m : TopologyVersionManager) : Prop where
  current : m.currentVersion = init.currentVersion
  state : m.commitState = .Active
  pending : m.pendingProposal = none

namespace TopologyVersionManager.Follows

variable {m m' : TopologyVersionManager}

/-- A manager that was just made follows. -/
theorem init : TopologyVersionManager.init.Follows where
  current := rfl
  state := rfl
  pending := rfl

/-- The ids and the state of the coordinator do not count. -/
theorem of_same (h : m.Follows) (hcurrent : m'.current = m.current) (hstate : m'.state = m.state)
    (hpending : m'.pendingProposal = m.pendingProposal) : m'.Follows where
  current := hcurrent.trans h.current
  state := hstate.trans h.state
  pending := hpending.trans h.pending

/-- A manager that follows is in no state but `Active`. -/
theorem state_ne (h : m.Follows) {state : TopologyCommitState} (hstate : m.state = state) :
    state = .Active := hstate.symm.trans h.state

/-- A call that is refused but in one state of a commit. -/
theorem of_other_state {refused done : Prop} (h : m.Follows) {state : TopologyCommitState}
    (hne : state ≠ .Active) (hcases : refused ∧ m' = m ∨ m.state = state ∧ done) : m'.Follows := by
  rcases hcases with ⟨-, hsame⟩ | ⟨hstate, -⟩
  · rw [hsame]
    exact h
  · exact absurd (h.state_ne hstate) hne

/-- No call begins a commit in a manager that is not coordinator. -/
theorem call (h : m.Follows) (hcoordinator : m.isCoordinator = false) (c : TopologyCall) :
    (m.call c).1.Follows := by
  cases c with
  | setLocalNodeId nodeId => exact h.of_same rfl rfl rfl
  | setTopologyAuthority authorityNodeId =>
    show (m.setTopologyAuthority authorityNodeId).1.Follows
    rcases m.setTopologyAuthority_cases authorityNodeId with hsame | ⟨-, -, hdone⟩
    · rw [hsame]
      exact h
    · rw [hdone]
      exact h.of_same rfl rfl rfl
  | setCoordinator authorityNodeId =>
    show (m.setCoordinator authorityNodeId).1.Follows
    rcases m.setCoordinator_cases authorityNodeId with hsame | ⟨-, hdone⟩
    · rw [hsame]
      exact h
    · rw [hdone]
      exact h.of_same rfl rfl rfl
  -- Only a coordinator can leave the state in which all other calls are refused.
  | proposeChange proposal =>
    show (m.proposeChange proposal).1.Follows
    rcases m.proposeChange_cases proposal with ⟨-, hsame⟩ | ⟨-, hother, -⟩
    · rw [hsame]
      exact h
    · exact absurd (hcoordinator.symm.trans hother) Bool.false_ne_true
  | validateProposal =>
    exact h.of_other_state (by decide) m.validateProposal_cases
  | prepareCommit =>
    exact h.of_other_state (by decide) m.prepareCommit_cases
  | authorizeActivation =>
    exact h.of_other_state (by decide) m.authorizeActivation_cases
  | activateVersion =>
    exact h.of_other_state (by decide) m.activateVersion_cases
  | abortCommit =>
    show m.abortCommit.1.Follows
    have hstate : m.state = .Active := h.state
    rw [abortCommit, if_pos hstate]
    exact h
  | markCoordinatorOffline =>
    show m.markCoordinatorOffline.1.Follows
    have hstate : m.state = .Active := h.state
    rw [markCoordinatorOffline]
    simp only [hstate, ne_eq, not_true_eq_false, if_false]
    exact h.of_same rfl hstate.symm rfl
  | markCoordinatorOnline =>
    show m.markCoordinatorOnline.1.Follows
    have hstate : m.state = .Active := h.state
    rw [markCoordinatorOnline]
    simp only [hstate, reduceCtorEq, if_false]
    exact h.of_same rfl hstate.symm rfl

end TopologyVersionManager.Follows

/-- The ids of a manager are those of the set-up, and it follows unless its node is the
authority. -/
structure FollowerInv (localId authority : NodeId) (m : TopologyVersionManager) : Prop where
  ids : AuthorityInv localId authority m
  follows : localId ≠ authority → m.Follows

/-- The invariant holds of a manager that was just made. -/
theorem followerInv_init (localId authority : NodeId) :
    FollowerInv localId authority TopologyVersionManager.init where
  ids := by
    refine ⟨?_, ?_, rfl⟩
    · exact fun _ h => absurd h.symm (Option.some_ne_none _)
    · exact fun _ h => absurd h.symm (Option.some_ne_none _)
  follows _ := .init

/-- The invariant holds of each manager in every run that respects the set-up. -/
theorem followerInv_run {ι : Type} [DecidableEq ι] {localId : ι → NodeId} {authority : NodeId}
    {calls : List (ι × TopologyCall)}
    (hcalls : (topologyMachine.family ι).Meets (RespectsSetUp localId authority)
      (topologyMachine.family ι).init calls) (i : ι) :
    FollowerInv (localId i) authority ((topologyMachine.family ι).run calls i) := by
  refine Lib.Machine.family_runFrom_of_meets
    (P := fun i m => FollowerInv (localId i) authority m) ?_ ?_ hcalls i
  · intro s i c h hc
    refine ⟨authorityInv_step h.ids hc, ?_⟩
    intro hne
    refine (h.follows hne).call (Bool.eq_false_iff.mpr ?_) c
    exact fun hcoordinator => hne (h.ids.localId_eq hcoordinator)
  · exact fun i => followerInv_init (localId i) authority

/-- For any managers with different local nodes and the same first authority, in any interleaving of
their calls: a manager whose node is not the authority keeps the version it was made with and never
takes part in a commit, so at most one manager has another version. -/
theorem version_stays_at_the_authority {ι : Type} [DecidableEq ι] (localId : ι → NodeId)
    (authority : NodeId) (hdistinct : ∀ i j, localId i = localId j → i = j)
    (calls : List (ι × TopologyCall))
    (hcalls : (topologyMachine.family ι).Meets (RespectsSetUp localId authority)
      (topologyMachine.family ι).init calls) :
    let s := (topologyMachine.family ι).run calls
    (∀ i, localId i ≠ authority →
      (s i).currentVersion = init.currentVersion ∧ (s i).commitState = .Active ∧
        (s i).pendingProposal = none) ∧
      ∀ i j, (s i).currentVersion ≠ init.currentVersion →
        (s j).currentVersion ≠ init.currentVersion → i = j := by
  intro s
  have hrun : ∀ i, FollowerInv (localId i) authority (s i) := followerInv_run hcalls
  have hother : ∀ i, (s i).currentVersion ≠ init.currentVersion → localId i = authority := by
    intro i hversion
    -- A manager that follows has the first version.
    by_contra hne
    exact hversion ((hrun i).follows hne).current
  constructor
  · intro i hne
    obtain ⟨hcurrent, hstate, hpending⟩ := (hrun i).follows hne
    exact ⟨hcurrent, hstate, hpending⟩
  · intro i j hi hj
    exact hdistinct i j ((hother i hi).trans (hother j hj).symm)

/-- The manager of the node 1 commits the version 7, and the one of the node 2 tries to. -/
def commitAtOne : List (Bool × TopologyCall) :=
  let proposal : TopologyChangeProposal :=
    { proposedVersion := { value := 7, topologyId := [], lastCommitAt := 0, commitState := .Proposed }
      membershipChange := []
      proposedBy := ⟨1, 1⟩
      proposedAt := 0 }
  [(true, .setLocalNodeId ⟨1, 1⟩), (false, .setLocalNodeId ⟨2, 2⟩),
    (true, .setTopologyAuthority ⟨1, 1⟩), (false, .setTopologyAuthority ⟨1, 1⟩),
    (true, .proposeChange proposal), (false, .proposeChange proposal),
    (true, .validateProposal), (false, .validateProposal),
    (true, .prepareCommit), (false, .prepareCommit),
    (true, .authorizeActivation), (false, .authorizeActivation),
    (true, .activateVersion), (false, .activateVersion)]

/-- Only one of the two managers has the version that was committed. -/
theorem version_stays_at_the_authority_two :
    let s := (topologyMachine.family Bool).run commitAtOne
    (s true).currentVersion.value = 7 ∧ (s false).currentVersion.value = 0 := by
  let localId : Bool → NodeId := fun i => if i then ⟨1, 1⟩ else ⟨2, 2⟩
  have hrun := version_stays_at_the_authority localId ⟨1, 1⟩ (by decide) commitAtOne (by decide)
  refine ⟨by decide, ?_⟩
  exact congrArg TopologyVersion.value (hrun.1 false (by decide)).1

end CrossFlow
