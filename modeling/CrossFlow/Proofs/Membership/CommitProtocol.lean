import CrossFlow.Core.Membership.TopologyVersionManager
import CrossFlow.Lib.PastTime

/-!
# `CrossFlow.Proofs.Membership.CommitProtocol`: the stages of a commit

A proposal goes through the states `Proposed`, `Validated`, `Prepared` and `ActivationAuthorized`,
one call each, until it is activated. Any other proposal, activation, abort or loss of the
coordinator ends it. `Commit.Stage` says this of the steps of a run, newest first, for each state.

* one lemma for each call with a guard (`proposeChange_cases` to `setCoordinator_cases`).
* `changes_call`: what any call can change.
* `commitInv_run`: in every run, the state and the pending proposal are what the history says.
* `commit_protocol`: what an activation makes current, and what has happened before it.
-/

set_option autoImplicit false

namespace CrossFlow

open Lib (Just Since)

namespace TopologyVersionManager

/-! ### One lemma for each call -/

/-- The manager is on the authority, and the coordinator online. -/
theorem isCoordinator_iff (m : TopologyVersionManager) :
    m.isCoordinator = true ↔ m.coordinatorOnline = true ∧
      ∃ authority, m.authorityNodeId = some authority ∧ m.localNodeId = some authority := by
  unfold isCoordinator
  cases m.coordinatorOnline with
  | false => simp
  | true =>
    cases m.authorityNodeId with
    | none => simp
    | some authority =>
      cases m.localNodeId with
      | none => simp
      | some localId => simp [eq_comm]

/-- `proposeChange` puts the proposal up, or fails and changes nothing. -/
theorem proposeChange_cases (m : TopologyVersionManager) (proposal : TopologyChangeProposal) :
    ((m.proposeChange proposal).2 ≠ none ∧ (m.proposeChange proposal).1 = m) ∨
    (m.isCommitLocked = false ∧ m.isCoordinator = true ∧ m.state = .Active ∧
      m.proposeChange proposal =
        ({ m with pendingProposal := some proposal, state := .Proposed }, none)) := by
  unfold proposeChange
  cases hlocked : m.isCommitLocked with
  | true => exact .inl ⟨Option.some_ne_none _, rfl⟩
  | false =>
    cases hcoordinator : m.isCoordinator with
    | false => exact .inl ⟨Option.some_ne_none _, rfl⟩
    | true =>
      by_cases hstate : m.state = .Active
      · refine .inr ⟨rfl, rfl, hstate, ?_⟩
        simp [hstate]
      · left
        simp [hstate]

/-- `validateProposal` is refused, or takes its transition. -/
theorem validateProposal_cases (m : TopologyVersionManager) :
    (m.validateProposal.2 ≠ none ∧ m.validateProposal.1 = m) ∨
    (m.state = .Proposed ∧ m.validateProposal = ({ m with state := .Validated }, none)) := by
  unfold validateProposal
  by_cases hguard : m.state ≠ .Proposed ∨ m.pendingProposal.isNone = true
  · rw [if_pos hguard]
    exact .inl ⟨Option.some_ne_none _, rfl⟩
  · rw [if_neg hguard]
    exact .inr ⟨not_not.mp (not_or.mp hguard).1, rfl⟩

/-- `prepareCommit` is refused, or takes its transition. -/
theorem prepareCommit_cases (m : TopologyVersionManager) :
    (m.prepareCommit.2 ≠ none ∧ m.prepareCommit.1 = m) ∨
    (m.state = .Validated ∧ m.prepareCommit = ({ m with state := .Prepared }, none)) := by
  unfold prepareCommit
  by_cases hstate : m.state = .Validated
  · rw [if_neg (not_not_intro hstate)]
    exact .inr ⟨hstate, rfl⟩
  · rw [if_pos hstate]
    exact .inl ⟨Option.some_ne_none _, rfl⟩

/-- `authorizeActivation` is refused, or takes its transition. -/
theorem authorizeActivation_cases (m : TopologyVersionManager) :
    (m.authorizeActivation.2 ≠ none ∧ m.authorizeActivation.1 = m) ∨
    (m.state = .Prepared ∧ m.isCoordinator = true ∧
      m.authorizeActivation = ({ m with state := .ActivationAuthorized }, none)) := by
  unfold authorizeActivation
  by_cases hstate : m.state = .Prepared
  · rw [if_neg (not_not_intro hstate)]
    cases hcoordinator : m.isCoordinator with
    | false => exact .inl ⟨Option.some_ne_none _, rfl⟩
    | true => exact .inr ⟨hstate, rfl, rfl⟩
  · rw [if_pos hstate]
    exact .inl ⟨Option.some_ne_none _, rfl⟩

/-- An activation without a pending proposal would only change the state. -/
theorem activateVersion_cases (m : TopologyVersionManager) :
    (m.activateVersion.2 ≠ none ∧ m.activateVersion.1 = m) ∨
    (m.state = .ActivationAuthorized ∧ m.activateVersion.2 = none ∧
      m.activateVersion.1.state = .Active ∧ m.activateVersion.1.pendingProposal = none ∧
      ∀ proposal, m.pendingProposal = some proposal →
        m.activateVersion.1.current =
          { proposal.proposedVersion with commitState := .Active }) := by
  unfold activateVersion
  by_cases hstate : m.state = .ActivationAuthorized
  · rw [if_neg (not_not_intro hstate)]
    right
    -- Without a proposal the state is left, and no version is set.
    cases hpending : m.pendingProposal with
    | none => exact ⟨hstate, rfl, rfl, rfl, fun p hp => absurd hp.symm (Option.some_ne_none p)⟩
    | some proposal =>
      refine ⟨hstate, rfl, rfl, rfl, ?_⟩
      intro p hp
      cases hp
      rfl
  · rw [if_pos hstate]
    exact .inl ⟨Option.some_ne_none _, rfl⟩

/-- An authority is refused or becomes authority and coordinator; a second one is refused. -/
theorem setTopologyAuthority_cases (m : TopologyVersionManager) (authorityNodeId : NodeId) :
    (m.setTopologyAuthority authorityNodeId).1 = m ∨
    (authorityNodeId.isNull = false ∧
      (∀ nodeId, m.authorityNodeId = some nodeId → nodeId = authorityNodeId) ∧
      (m.setTopologyAuthority authorityNodeId).1 =
        { m with
          authorityNodeId := some authorityNodeId
          coordinatorId_ := some authorityNodeId }) := by
  unfold setTopologyAuthority
  cases hnull : authorityNodeId.isNull with
  | true => exact .inl rfl
  | false =>
    by_cases hother : m.authorityNodeId.isSome = true ∧ m.authorityNodeId ≠ some authorityNodeId
    · left
      rw [if_neg Bool.false_ne_true, if_pos hother]
    · right
      rw [if_neg Bool.false_ne_true, if_neg hother]
      refine ⟨rfl, ?_, rfl⟩
      intro nodeId hnodeId
      -- A second authority is refused.
      by_contra hne
      refine hother ⟨hnodeId ▸ rfl, ?_⟩
      rw [hnodeId]
      exact fun h => hne (Option.some.inj h)

/-- Only the authority becomes coordinator. -/
theorem setCoordinator_cases (m : TopologyVersionManager) (authorityNodeId : NodeId) :
    (m.setCoordinator authorityNodeId).1 = m ∨
    (m.authorityNodeId = some authorityNodeId ∧ (m.setCoordinator authorityNodeId).1 =
      { m with coordinatorId_ := some authorityNodeId }) := by
  unfold setCoordinator
  cases hauthority : m.authorityNodeId with
  | none => exact .inl rfl
  | some authority =>
    dsimp only
    by_cases hne : authority ≠ authorityNodeId
    · rw [if_pos hne]
      exact .inl rfl
    · rw [if_neg hne]
      refine .inr ⟨congrArg some (not_not.mp hne), ?_⟩
      rw [← hauthority]

/-! ### What a call can change -/

/-- The call sets one of the ids. -/
def SetsId : TopologyCall → Prop
  | .setLocalNodeId _ | .setTopologyAuthority _ | .setCoordinator _ => True
  | _ => False

/-- The states a call can lead to, by what it changes. -/
inductive Changes (m : TopologyVersionManager) : TopologyCall → TopologyVersionManager → Prop where
  | nothing (c : TopologyCall) : Changes m c m
  | ids (c : TopologyCall) (hc : SetsId c)
      (localNodeId authorityNodeId coordinatorId_ : Option NodeId) :
      Changes m c { m with localNodeId, authorityNodeId, coordinatorId_ }
  | proposed (proposal : TopologyChangeProposal) :
      Changes m (.proposeChange proposal)
        { m with pendingProposal := some proposal, state := .Proposed }
  | state (c : TopologyCall) (state : TopologyCommitState) (coordinatorOnline : Bool) :
      Changes m c { m with state, coordinatorOnline }
  | dropped (c : TopologyCall) (state : TopologyCommitState) (coordinatorOnline : Bool) :
      Changes m c { m with pendingProposal := none, state, coordinatorOnline }
  | activated (hok : m.activateVersion.2 = none) (current : TopologyVersion) :
      Changes m .activateVersion { m with current, pendingProposal := none, state := .Active }

/-- What a call changes. -/
theorem changes_call (m : TopologyVersionManager) (c : TopologyCall) :
    Changes m c (m.call c).1 := by
  cases c with
  | setLocalNodeId nodeId =>
    exact .ids (.setLocalNodeId nodeId) trivial (some nodeId) m.authorityNodeId m.coordinatorId_
  | setTopologyAuthority authorityNodeId =>
    show Changes m _ (m.setTopologyAuthority authorityNodeId).1
    rcases m.setTopologyAuthority_cases authorityNodeId with hsame | ⟨-, -, hdone⟩
    · rw [hsame]
      exact .nothing _
    · rw [hdone]
      exact .ids (.setTopologyAuthority authorityNodeId) trivial m.localNodeId _ _
  | setCoordinator authorityNodeId =>
    show Changes m _ (m.setCoordinator authorityNodeId).1
    rcases m.setCoordinator_cases authorityNodeId with hsame | ⟨-, hdone⟩
    · rw [hsame]
      exact .nothing _
    · rw [hdone]
      exact .ids (.setCoordinator authorityNodeId) trivial m.localNodeId m.authorityNodeId _
  | proposeChange proposal =>
    show Changes m _ (m.proposeChange proposal).1
    rcases m.proposeChange_cases proposal with ⟨-, hsame⟩ | ⟨-, -, -, hdone⟩
    · rw [hsame]
      exact .nothing _
    · rw [hdone]
      exact .proposed proposal
  | validateProposal =>
    show Changes m _ m.validateProposal.1
    rcases m.validateProposal_cases with ⟨-, hsame⟩ | ⟨-, hdone⟩
    · rw [hsame]
      exact .nothing _
    · rw [hdone]
      exact .state _ _ m.coordinatorOnline
  | prepareCommit =>
    show Changes m _ m.prepareCommit.1
    rcases m.prepareCommit_cases with ⟨-, hsame⟩ | ⟨-, hdone⟩
    · rw [hsame]
      exact .nothing _
    · rw [hdone]
      exact .state _ _ m.coordinatorOnline
  | authorizeActivation =>
    show Changes m _ m.authorizeActivation.1
    rcases m.authorizeActivation_cases with ⟨-, hsame⟩ | ⟨-, -, hdone⟩
    · rw [hsame]
      exact .nothing _
    · rw [hdone]
      exact .state _ _ m.coordinatorOnline
  | activateVersion =>
    show Changes m _ m.activateVersion.1
    rcases m.activateVersion_cases with ⟨-, hsame⟩ | ⟨hstate, hok, -⟩
    · rw [hsame]
      exact .nothing _
    · have hactivated := Changes.activated hok
      unfold activateVersion
      rw [if_neg (not_not_intro hstate)]
      -- With and without a proposal that is pending.
      split
      · exact hactivated _
      · exact .state _ _ m.coordinatorOnline
  | abortCommit =>
    show Changes m _ m.abortCommit.1
    unfold abortCommit
    split
    · exact .nothing _
    · exact .dropped _ _ m.coordinatorOnline
  | markCoordinatorOffline =>
    show Changes m _ m.markCoordinatorOffline.1
    unfold markCoordinatorOffline
    dsimp only
    split
    · exact .dropped _ _ _
    · exact .state _ m.state _
  | markCoordinatorOnline =>
    show Changes m _ m.markCoordinatorOnline.1
    unfold markCoordinatorOnline
    dsimp only
    split
    · exact .state _ _ _
    · exact .state _ m.state _

/-- Only an activation that succeeds changes the current version. -/
theorem current_call (m : TopologyVersionManager) {c : TopologyCall}
    (hc : c = .activateVersion → (m.call c).2 ≠ none) : (m.call c).1.current = m.current := by
  have hchanges := m.changes_call c
  generalize (m.call c).1 = m' at hchanges ⊢
  cases hchanges with
  | nothing | ids _ _ _ _ _ | proposed _ | state _ _ _ | dropped _ _ _ => rfl
  | activated hok current => exact absurd hok (hc rfl)

/-- A call that puts no proposal up keeps the pending one or drops it. -/
theorem pendingProposal_call (m : TopologyVersionManager) {c : TopologyCall}
    (hc : ∀ proposal, c ≠ .proposeChange proposal) :
    (m.call c).1.pendingProposal = m.pendingProposal ∨ (m.call c).1.pendingProposal = none := by
  have hchanges := m.changes_call c
  generalize (m.call c).1 = m' at hchanges ⊢
  cases hchanges with
  | nothing | ids _ _ _ _ _ | state _ _ _ => exact .inl rfl
  | dropped _ _ _ | activated _ _ => exact .inr rfl
  | proposed proposal => exact absurd rfl (hc proposal)

/-- The three ids are the same in both states. -/
structure SameIds (m m' : TopologyVersionManager) : Prop where
  localNode : m'.localNodeId = m.localNodeId
  authority : m'.authorityNodeId = m.authorityNodeId
  coordinator : m'.coordinatorId_ = m.coordinatorId_

/-- The calls of the commit and of the coordinator's state leave the ids alone. -/
theorem sameIds_call (m : TopologyVersionManager) {c : TopologyCall} (hc : ¬ SetsId c) :
    SameIds m (m.call c).1 := by
  have hchanges := m.changes_call c
  generalize (m.call c).1 = m' at hchanges ⊢
  cases hchanges with
  | nothing | proposed _ | state _ _ _ | dropped _ _ _ | activated _ _ => exact ⟨rfl, rfl, rfl⟩
  | ids _ hset _ _ _ => exact absurd hset hc

end TopologyVersionManager

open TopologyVersionManager

/-! ### The history of a proposal -/

namespace Commit

/-- The call returns without an error. -/
def Succeeds (e : TopologyVersionManager × TopologyCall) : Prop := (e.1.call e.2).2 = none

/-- Whether a call succeeds can be looked up. -/
instance (e : TopologyVersionManager × TopologyCall) : Decidable (Succeeds e) :=
  inferInstanceAs (Decidable (_ = _))

/-- The call makes the proposal. -/
def Proposes (proposal : TopologyChangeProposal) (e : TopologyVersionManager × TopologyCall) :
    Prop :=
  e.2 = .proposeChange proposal ∧ Succeeds e

/-- The call activates a version. -/
def Activates (e : TopologyVersionManager × TopologyCall) : Prop :=
  e.2 = .activateVersion ∧ Succeeds e

/-- What ends a proposal: another one, an activation, an abort and the loss of the coordinator. -/
def Ends (e : TopologyVersionManager × TopologyCall) : Prop :=
  (∃ proposal, Proposes proposal e) ∨ Activates e ∨ e.2 = .abortCommit ∨
    e.2 = .markCoordinatorOffline

/-- The local node is the configured authority, and the coordinator is online. -/
def ByAuthority (e : TopologyVersionManager × TopologyCall) : Prop :=
  e.1.coordinatorOnline = true ∧
    ∃ authority, e.1.authorityNodeId = some authority ∧ e.1.localNodeId = some authority

/-- The authority put the proposal up, and nothing has ended it since. -/
def Proposed (proposal : TopologyChangeProposal) :
    List (TopologyVersionManager × TopologyCall) → Prop :=
  Since Ends (Just (fun e => Proposes proposal e ∧ ByAuthority e) fun _ => True)

/-- After that it was validated. -/
def Validated (proposal : TopologyChangeProposal) :
    List (TopologyVersionManager × TopologyCall) → Prop :=
  Since Ends (Just (fun e => e.2 = .validateProposal ∧ Succeeds e) (Proposed proposal))

/-- After that it was prepared. -/
def Prepared (proposal : TopologyChangeProposal) :
    List (TopologyVersionManager × TopologyCall) → Prop :=
  Since Ends (Just (fun e => e.2 = .prepareCommit ∧ Succeeds e) (Validated proposal))

/-- After that the authority authorised its activation. -/
def Authorized (proposal : TopologyChangeProposal) :
    List (TopologyVersionManager × TopologyCall) → Prop :=
  Since Ends
    (Just (fun e => e.2 = .authorizeActivation ∧ Succeeds e ∧ ByAuthority e) (Prepared proposal))

/-- What the state says about the pending proposal. -/
def Stage (proposal : TopologyChangeProposal) :
    TopologyCommitState → List (TopologyVersionManager × TopologyCall) → Prop
  | .Proposed => Proposed proposal
  | .Validated => Validated proposal
  | .Prepared => Prepared proposal
  | .ActivationAuthorized => Authorized proposal
  | _ => fun _ => False

section
variable {proposal : TopologyChangeProposal} {state : TopologyCommitState}
variable {m m' : TopologyVersionManager} {c : TopologyCall}
variable {e : TopologyVersionManager × TopologyCall}
variable {past : List (TopologyVersionManager × TopologyCall)}

/-- A step that does not end the proposal leaves it where it is. -/
theorem Stage.keep (hends : ¬ Ends e) (h : Stage proposal state past) :
    Stage proposal state (e :: past) := by
  cases state with
  | Proposed | Validated | Prepared | ActivationAuthorized => exact Since.keep hends h
  | Active | Committing | RolledBack | Locked => exact h.elim

/-- The coordinator is the authority. -/
theorem byAuthority_of_isCoordinator (h : m.isCoordinator = true) : ByAuthority (m, c) :=
  m.isCoordinator_iff.mp h

/-- A call that fails ends no proposal, unless it is an abort or the loss of the coordinator. -/
theorem not_ends_of_error (herr : (m.call c).2 ≠ none) (habort : c ≠ .abortCommit)
    (hoffline : c ≠ .markCoordinatorOffline) : ¬ Ends (m, c) := by
  rintro (⟨proposal, -, hok⟩ | ⟨-, hok⟩ | h | h)
  · exact herr hok
  · exact herr hok
  · exact habort h
  · exact hoffline h

/-- Nor does a call of another kind. -/
theorem not_ends_of_ne (hpropose : ∀ proposal, c ≠ .proposeChange proposal)
    (hactivate : c ≠ .activateVersion) (habort : c ≠ .abortCommit)
    (hoffline : c ≠ .markCoordinatorOffline) : ¬ Ends (m, c) := by
  rintro (⟨proposal, h, -⟩ | ⟨h, -⟩ | h | h)
  · exact hpropose proposal h
  · exact hactivate h
  · exact habort h
  · exact hoffline h

end

end Commit

open Commit

/-! ### The invariant -/

/-- Nothing is pending in `Active` and `Locked`. In any other state a proposal is, at the stage the
state names. -/
def CommitInv (m : TopologyVersionManager) (past : List (TopologyVersionManager × TopologyCall)) :
    Prop :=
  (m.pendingProposal = none ∧ (m.state = .Active ∨ m.state = .Locked)) ∨
    ∃ proposal, m.pendingProposal = some proposal ∧ Stage proposal m.state past

section
variable {m m' : TopologyVersionManager} {e : TopologyVersionManager × TopologyCall}
variable {past : List (TopologyVersionManager × TopologyCall)}

/-- A call that leaves the commit and ends none keeps the invariant. -/
theorem CommitInv.of_same (h : CommitInv m past) (hstate : m'.state = m.state)
    (hpending : m'.pendingProposal = m.pendingProposal) (hends : ¬ Ends e) :
    CommitInv m' (e :: past) := by
  unfold CommitInv
  rw [hstate, hpending]
  rcases h with hidle | ⟨proposal, hpending, hstage⟩
  · exact .inl hidle
  · exact .inr ⟨proposal, hpending, hstage.keep hends⟩

/-- A proposal is pending in the states of a commit. -/
theorem CommitInv.pending (h : CommitInv m past) (hactive : m.state ≠ .Active)
    (hlocked : m.state ≠ .Locked) :
    ∃ proposal, m.pendingProposal = some proposal ∧ Stage proposal m.state past := by
  rcases h with ⟨-, hstate | hstate⟩ | h
  · exact absurd hstate hactive
  · exact absurd hstate hlocked
  · exact h

/-- Nothing is pending in the other two. -/
theorem CommitInv.idle (h : CommitInv m past) (hstate : m.state = .Active ∨ m.state = .Locked) :
    m.pendingProposal = none := by
  rcases h with ⟨hnone, -⟩ | ⟨proposal, -, hstage⟩
  · exact hnone
  · rcases hstate with hstate | hstate <;> rw [hstate] at hstage <;> exact hstage.elim

/-- One call moves the commit on to the next stage. -/
theorem CommitInv.advance (h : CommitInv m past) {state state' : TopologyCommitState}
    (hstate : m.state = state) (hactive : state ≠ .Active) (hlocked : state ≠ .Locked)
    (hnext : ∀ proposal, Stage proposal state past → Stage proposal state' (e :: past)) :
    CommitInv { m with state := state' } (e :: past) := by
  obtain ⟨proposal, hpending, hstage⟩ := h.pending (hstate ▸ hactive) (hstate ▸ hlocked)
  exact .inr ⟨proposal, hpending, hnext proposal (hstate ▸ hstage)⟩

/-- Each call keeps the invariant. -/
theorem CommitInv.step (h : CommitInv m past) (c : TopologyCall) :
    CommitInv (m.call c).1 ((m, c) :: past) := by
  cases c with
  | setLocalNodeId nodeId =>
    exact h.of_same rfl rfl (not_ends_of_ne (by simp) (by simp) (by simp) (by simp))
  | setTopologyAuthority authorityNodeId =>
    have hends : ¬ Ends (m, .setTopologyAuthority authorityNodeId) :=
      not_ends_of_ne (by simp) (by simp) (by simp) (by simp)
    show CommitInv (m.setTopologyAuthority authorityNodeId).1 _
    rcases m.setTopologyAuthority_cases authorityNodeId with hsame | ⟨-, -, hdone⟩
    · rw [hsame]
      exact h.of_same rfl rfl hends
    · rw [hdone]
      exact h.of_same rfl rfl hends
  | setCoordinator authorityNodeId =>
    have hends : ¬ Ends (m, .setCoordinator authorityNodeId) :=
      not_ends_of_ne (by simp) (by simp) (by simp) (by simp)
    show CommitInv (m.setCoordinator authorityNodeId).1 _
    rcases m.setCoordinator_cases authorityNodeId with hsame | ⟨-, hdone⟩
    · rw [hsame]
      exact h.of_same rfl rfl hends
    · rw [hdone]
      exact h.of_same rfl rfl hends
  | proposeChange proposal =>
    show CommitInv (m.proposeChange proposal).1 _
    rcases m.proposeChange_cases proposal with ⟨herr, hsame⟩ | ⟨-, hcoordinator, -, hdone⟩
    · rw [hsame]
      exact h.of_same rfl rfl (not_ends_of_error herr (by simp) (by simp))
    · rw [hdone]
      -- The proposal is put up at this step, whatever was pending before.
      have hproposed : Proposed proposal ((m, .proposeChange proposal) :: past) :=
        Since.now ⟨⟨⟨rfl, congrArg Prod.snd hdone⟩, byAuthority_of_isCoordinator hcoordinator⟩,
          trivial⟩
      exact .inr ⟨proposal, rfl, hproposed⟩
  | validateProposal =>
    show CommitInv m.validateProposal.1 _
    rcases m.validateProposal_cases with ⟨herr, hsame⟩ | ⟨hstate, hdone⟩
    · rw [hsame]
      exact h.of_same rfl rfl (not_ends_of_error herr (by simp) (by simp))
    · rw [hdone]
      refine h.advance hstate (by decide) (by decide) ?_
      intro proposal hproposed
      exact Since.now ⟨⟨rfl, congrArg Prod.snd hdone⟩, hproposed⟩
  | prepareCommit =>
    show CommitInv m.prepareCommit.1 _
    rcases m.prepareCommit_cases with ⟨herr, hsame⟩ | ⟨hstate, hdone⟩
    · rw [hsame]
      exact h.of_same rfl rfl (not_ends_of_error herr (by simp) (by simp))
    · rw [hdone]
      refine h.advance hstate (by decide) (by decide) ?_
      intro proposal hvalidated
      exact Since.now ⟨⟨rfl, congrArg Prod.snd hdone⟩, hvalidated⟩
  | authorizeActivation =>
    show CommitInv m.authorizeActivation.1 _
    rcases m.authorizeActivation_cases with ⟨herr, hsame⟩ | ⟨hstate, hcoordinator, hdone⟩
    · rw [hsame]
      exact h.of_same rfl rfl (not_ends_of_error herr (by simp) (by simp))
    · rw [hdone]
      refine h.advance hstate (by decide) (by decide) ?_
      intro proposal hprepared
      exact Since.now
        ⟨⟨rfl, congrArg Prod.snd hdone, byAuthority_of_isCoordinator hcoordinator⟩, hprepared⟩
  | activateVersion =>
    show CommitInv m.activateVersion.1 _
    rcases m.activateVersion_cases with ⟨herr, hsame⟩ | ⟨-, -, hstate, hnone, -⟩
    · rw [hsame]
      exact h.of_same rfl rfl (not_ends_of_error herr (by simp) (by simp))
    · exact .inl ⟨hnone, .inl hstate⟩
  | abortCommit =>
    show CommitInv m.abortCommit.1 _
    unfold abortCommit
    split
    · -- Nothing was pending in `Active`.
      next hstate => exact .inl ⟨h.idle (.inl hstate), .inl hstate⟩
    · exact .inl ⟨rfl, .inl rfl⟩
  | markCoordinatorOffline =>
    show CommitInv m.markCoordinatorOffline.1 _
    unfold markCoordinatorOffline
    dsimp only
    split
    · exact .inl ⟨rfl, .inr rfl⟩
    · next hstate =>
      have hactive := not_not.mp hstate
      exact .inl ⟨h.idle (.inl hactive), .inl hactive⟩
  | markCoordinatorOnline =>
    have hends : ¬ Ends (m, .markCoordinatorOnline) :=
      not_ends_of_ne (by simp) (by simp) (by simp) (by simp)
    show CommitInv m.markCoordinatorOnline.1 _
    unfold markCoordinatorOnline
    dsimp only
    split
    · next hstate => exact .inl ⟨h.idle (.inr hstate), .inl rfl⟩
    · exact h.of_same rfl rfl hends

end

/-- The invariant holds after any calls. -/
theorem commitInv_run (calls : List TopologyCall) :
    CommitInv (topologyMachine.run calls) (topologyMachine.past calls) := by
  refine Lib.Machine.past_of_step ?_ ?_ calls
  · exact .inl ⟨rfl, .inl rfl⟩
  · intro m past c h
    exact h.step c

/-- A proposal that is authorised was put up, and nothing has ended it since. -/
theorem Commit.proposed_of_authorized {proposal : TopologyChangeProposal}
    {past : List (TopologyVersionManager × TopologyCall)} (h : Authorized proposal past) :
    Proposed proposal past := by
  have hprepared : Prepared proposal past := by
    refine Since.of_just ?_ h
    rintro ⟨m, c⟩ ⟨hc, -⟩
    cases hc
    exact not_ends_of_ne (by simp) (by simp) (by simp) (by simp)
  have hvalidated : Validated proposal past := by
    refine Since.of_just ?_ hprepared
    rintro ⟨m, c⟩ ⟨hc, -⟩
    cases hc
    exact not_ends_of_ne (by simp) (by simp) (by simp) (by simp)
  refine Since.of_just ?_ hvalidated
  rintro ⟨m, c⟩ ⟨hc, -⟩
  cases hc
  exact not_ends_of_ne (by simp) (by simp) (by simp) (by simp)

/-- In every reachable state. A proposal is pending exactly in the states of a commit. The current
version changes by a successful activation only. That makes the version of the last proposal
current, which has gone through all the stages since it was put up, and nothing has ended it. -/
theorem commit_protocol (calls : List TopologyCall) :
    let m := topologyMachine.run calls
    let past := topologyMachine.past calls
    (m.pendingProposal.isSome = true ↔ m.commitState ≠ .Active ∧ m.commitState ≠ .Locked) ∧
      (∀ c, (m.call c).1.currentVersion ≠ m.currentVersion → Activates (m, c)) ∧
      (Activates (m, .activateVersion) → ∃ proposal, Proposed proposal past ∧
        Authorized proposal past ∧ m.activateVersion.1.currentVersion =
          { proposal.proposedVersion with commitState := .Active }) := by
  intro m past
  have hinv : CommitInv m past := commitInv_run calls
  refine ⟨?_, ?_, ?_⟩
  · constructor
    · -- Nothing is pending while the state is `Active` or `Locked`.
      intro hsome
      obtain ⟨proposal, hproposal⟩ := Option.isSome_iff_exists.mp hsome
      refine not_or.mp fun hidle => ?_
      exact Option.some_ne_none proposal (hproposal.symm.trans (hinv.idle hidle))
    · rintro ⟨hactive, hlocked⟩
      obtain ⟨proposal, hproposal, -⟩ := hinv.pending hactive hlocked
      rw [hproposal]
      rfl
  · intro c hchanged
    by_contra hactivates
    -- Only an activation sets the current version.
    exact hchanged (m.current_call fun hc herr => hactivates ⟨hc, herr⟩)
  · rintro ⟨-, hok⟩
    rcases m.activateVersion_cases with ⟨herr, -⟩ | ⟨hstate, -, -, -, hcurrent⟩
    · exact absurd hok herr
    · -- In `ActivationAuthorized` a proposal is pending, and was authorized.
      obtain ⟨proposal, hpending, hstage⟩ := hinv.pending (hstate ▸ by decide) (hstate ▸ by decide)
      rw [hstate] at hstage
      exact ⟨proposal, proposed_of_authorized hstage, hstage, hcurrent proposal hpending⟩

/-- The commit state a proposal carries is not taken over. -/
theorem activated_version_ne_proposed :
    ¬ ∀ calls : List TopologyCall, Activates (topologyMachine.run calls, .activateVersion) →
      ∃ proposal, Proposed proposal (topologyMachine.past calls) ∧
        (topologyMachine.run calls).activateVersion.1.currentVersion =
          proposal.proposedVersion := by
  intro hclaim
  let node : NodeId := { high := 1, low := 1 }
  let change : TopologyChangeProposal :=
    { proposedVersion :=
        { value := 5, topologyId := [], lastCommitAt := 0, commitState := .Proposed }
      membershipChange := []
      proposedBy := node
      proposedAt := 0 }
  obtain ⟨proposal, hproposed, hcurrent⟩ := hclaim
    [ .setLocalNodeId node, .setTopologyAuthority node, .proposeChange change, .validateProposal,
      .prepareCommit, .authorizeActivation ] ⟨rfl, by decide⟩
  -- The only proposal of the run.
  simp only [Proposed, Proposes, Lib.Machine.past, Lib.Machine.pastFrom, Lib.since_cons,
    Lib.just_cons, reduceCtorEq, false_and, and_true, TopologyCall.proposeChange.injEq,
    Lib.since_nil, Lib.just_nil, and_false, or_self, or_false, false_or] at hproposed
  obtain ⟨-, -, -, ⟨rfl, -⟩, -⟩ := hproposed
  exact absurd (congrArg TopologyVersion.commitState hcurrent) (by decide)

end CrossFlow
