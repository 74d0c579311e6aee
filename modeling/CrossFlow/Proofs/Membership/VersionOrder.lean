import CrossFlow.Proofs.Membership.CommitProtocol

/-!
# `CrossFlow.Proofs.Membership.VersionOrder`: the order of the versions

The version an activation makes current is the one its proposal carries, and no call compares it
with the current one. So a version below the current one goes through the whole commit.

* `pendingFresh_run`: as long as only newer versions are put up, the pending one is newer.
* `activated_of_proposed`: any proposal that is put up can be activated.
* `version_monotone_iff`: the version never goes back exactly when only newer ones are put up.
-/

set_option autoImplicit false

namespace CrossFlow

open TopologyVersionManager
open Commit (Activates Succeeds)

/-- The call does not lower the version, and raises it if it is a successful activation. -/
def VersionRises (m : TopologyVersionManager) (c : TopologyCall) : Prop :=
  m.currentVersion.value ≤ (m.call c).1.currentVersion.value ∧
    (Activates (m, c) → m.currentVersion.value < (m.call c).1.currentVersion.value)

/-- Whether a call raises the version can be looked up. -/
instance (m : TopologyVersionManager) (c : TopologyCall) : Decidable (VersionRises m c) :=
  inferInstanceAs (Decidable (_ ∧ (_ ∧ _ → _)))

/-- A proposal that the manager takes has a version above the current one. -/
def FreshProposal (m : TopologyVersionManager) : TopologyCall → Prop
  | .proposeChange proposal =>
    m.isCommitLocked = true ∨ m.isCoordinator = false ∨ m.state ≠ .Active ∨
      m.currentVersion.value < proposal.proposedVersion.value
  | _ => True

/-! ### The pending proposal -/

/-- The pending version is above the current one. -/
def PendingFresh (m : TopologyVersionManager) : Prop :=
  ∀ proposal, m.pendingProposal = some proposal →
    m.currentVersion.value < proposal.proposedVersion.value

/-- A call with a fresh proposal keeps the pending one fresh. -/
theorem PendingFresh.step {m : TopologyVersionManager} (h : PendingFresh m) {c : TopologyCall}
    (hc : FreshProposal m c) : PendingFresh (m.call c).1 := by
  intro proposal hproposal
  by_cases hactivates : Activates (m, c)
  · -- Nothing is pending after an activation.
    obtain ⟨rfl, hok⟩ := hactivates
    rcases m.activateVersion_cases with ⟨herr, -⟩ | ⟨-, -, -, hnone, -⟩
    · exact absurd hok herr
    · exact absurd (hproposal.symm.trans hnone) (Option.some_ne_none proposal)
  have hcurrent : (m.call c).1.currentVersion = m.currentVersion :=
    m.current_call fun hc herr => hactivates ⟨hc, herr⟩
  rw [hcurrent]
  -- Only a proposal that is taken puts a version there.
  by_cases hpropose : ∀ proposal, c ≠ .proposeChange proposal
  · rcases m.pendingProposal_call hpropose with hsame | hnone
    · exact h proposal (hsame.symm.trans hproposal)
    · exact absurd (hproposal.symm.trans hnone) (Option.some_ne_none proposal)
  · rw [not_forall] at hpropose
    obtain ⟨change, hchange⟩ := hpropose
    rw [not_not] at hchange
    subst hchange
    rcases m.proposeChange_cases change with ⟨-, hsame⟩ | ⟨hunlocked, hcoordinator, hstate, hdone⟩
    · exact h proposal ((congrArg pendingProposal hsame).symm.trans hproposal)
    · -- The proposal was taken, so its version is above the current one.
      have hpending : some change = some proposal :=
        (congrArg (fun r => r.1.pendingProposal) hdone).symm.trans hproposal
      cases hpending
      rcases hc with hlocked | hother | hbusy | hnewer
      · exact absurd (hlocked.symm.trans hunlocked) Bool.false_ne_true.symm
      · exact absurd (hother.symm.trans hcoordinator) Bool.false_ne_true
      · exact absurd hstate hbusy
      · exact hnewer

/-- The pending proposal is fresh after calls with fresh proposals. -/
theorem pendingFresh_run {calls : List TopologyCall}
    (hcalls : topologyMachine.Meets FreshProposal topologyMachine.init calls) :
    PendingFresh (topologyMachine.run calls) := by
  refine Lib.Machine.invariant_of_meets ?_ (fun m c h hc => h.step hc) hcalls
  intro proposal hproposal
  exact absurd hproposal.symm (Option.some_ne_none proposal)

/-! ### The version -/

/-- A fresh proposal that is activated raises the version. -/
theorem versionRises_of_pendingFresh {m : TopologyVersionManager}
    {past : List (TopologyVersionManager × TopologyCall)} (hinv : CommitInv m past)
    (hfresh : PendingFresh m) (c : TopologyCall) : VersionRises m c := by
  by_cases hactivates : Activates (m, c)
  · have hrises : m.currentVersion.value < (m.call c).1.currentVersion.value := by
      obtain ⟨rfl, hok⟩ := hactivates
      rcases m.activateVersion_cases with ⟨herr, -⟩ | ⟨hstate, -, -, -, hcurrent⟩
      · exact absurd hok herr
      · obtain ⟨proposal, hpending, -⟩ := hinv.pending (hstate ▸ by decide) (hstate ▸ by decide)
        -- The version that is set is that of the pending proposal.
        show _ < m.activateVersion.1.current.value
        rw [hcurrent proposal hpending]
        exact hfresh proposal hpending
    exact ⟨UInt64.le_of_lt hrises, fun _ => hrises⟩
  · have hcurrent : (m.call c).1.currentVersion = m.currentVersion :=
      m.current_call fun hc herr => hactivates ⟨hc, herr⟩
    refine ⟨?_, fun h => absurd h hactivates⟩
    rw [hcurrent]
    exact UInt64.le_refl _

/-- The calls that take a proposal from `Proposed` to `ActivationAuthorized`. -/
def commitCalls : List TopologyCall := [.validateProposal, .prepareCommit, .authorizeActivation]

/-- Whatever its version, a proposal that the coordinator has put up can be authorised. -/
theorem authorized_of_proposed {m : TopologyVersionManager} (proposal : TopologyChangeProposal)
    (hcoordinator : m.isCoordinator = true) :
    topologyMachine.runFrom { m with pendingProposal := some proposal, state := .Proposed }
        commitCalls =
      { m with pendingProposal := some proposal, state := .ActivationAuthorized } := by
  set prepared : TopologyVersionManager :=
    { m with pendingProposal := some proposal, state := .Prepared }
  -- The checks of the first two calls are about the state alone.
  show prepared.authorizeActivation.1 = _
  have hstate : prepared.state = .Prepared := rfl
  have hauthority : prepared.isCoordinator = true := hcoordinator
  rw [authorizeActivation, if_neg (not_not_intro hstate), hauthority]
  rfl

/-- So every version that is taken becomes current if the commit goes on. -/
theorem activated_of_proposed {m : TopologyVersionManager} (proposal : TopologyChangeProposal)
    (hcoordinator : m.isCoordinator = true)
    (hrises : topologyMachine.Meets VersionRises
      { m with pendingProposal := some proposal, state := .Proposed }
      (commitCalls ++ [.activateVersion])) :
    m.currentVersion.value < proposal.proposedVersion.value := by
  have hactivate := (Lib.Machine.meets_append.mp hrises).2.1
  rw [authorized_of_proposed proposal hcoordinator] at hactivate
  exact hactivate.2 ⟨rfl, rfl⟩

/-- In a run, and in each that goes on from a part of it without another proposal, the version never
goes back and every activation raises it, exactly when each proposal that is taken has a version
above the current one. -/
theorem version_monotone_iff (calls : List TopologyCall) :
    topologyMachine.Meets FreshProposal topologyMachine.init calls ↔
      ∀ pre, pre <+: calls → ∀ rest : List TopologyCall,
        (∀ c ∈ rest, ∀ proposal, c ≠ .proposeChange proposal) →
          topologyMachine.Meets VersionRises topologyMachine.init (pre ++ rest) := by
  constructor
  · rintro hcalls pre ⟨after, rfl⟩ rest hrest
    have hfresh : topologyMachine.Meets FreshProposal topologyMachine.init (pre ++ rest) := by
      refine Lib.Machine.meets_append.mpr ⟨(Lib.Machine.meets_append.mp hcalls).1, ?_⟩
      refine Lib.Machine.meets_of_forall ?_
      intro c hc m
      cases c with
      | proposeChange proposal => exact absurd rfl (hrest _ hc proposal)
      | _ => trivial
    rw [Lib.Machine.meets_iff_forall]
    rintro done c ⟨todo, htodo⟩
    rw [← htodo, Lib.Machine.meets_append, Lib.Machine.meets_append] at hfresh
    exact versionRises_of_pendingFresh (commitInv_run done) (pendingFresh_run hfresh.1.1) c
  · intro hrises
    rw [Lib.Machine.meets_iff_forall]
    intro pre c hpre
    show FreshProposal (topologyMachine.run pre) c
    cases c with
    | proposeChange proposal =>
      by_contra hstale
      obtain ⟨hunlocked, hstale⟩ := not_or.mp hstale
      obtain ⟨hcoordinator, hstale⟩ := not_or.mp hstale
      obtain ⟨hstate, hstale⟩ := not_or.mp hstale
      rw [Bool.not_eq_false] at hcoordinator
      rw [not_not] at hstate
      -- The proposal is taken, and the rest of the commit activates it.
      have hcommit := hrises (pre ++ [.proposeChange proposal]) hpre
        (commitCalls ++ [.activateVersion]) (by simp [commitCalls])
      have htaken : topologyMachine.run (pre ++ [.proposeChange proposal]) =
          { topologyMachine.run pre with
            pendingProposal := some proposal
            state := .Proposed } := by
        rw [Lib.Machine.run_append_singleton]
        show ((topologyMachine.run pre).proposeChange proposal).1 = _
        rw [proposeChange, if_neg hunlocked, hcoordinator, if_neg (not_not_intro hstate)]
        rfl
      have hafter := (Lib.Machine.meets_append.mp hcommit).2
      rw [← Lib.Machine.run, htaken] at hafter
      exact hstale (activated_of_proposed proposal hcoordinator hafter)
    | _ => trivial

/-- Version 5 is followed by version 3. -/
theorem version_goes_back :
    ¬ ∀ calls : List TopologyCall,
      topologyMachine.Meets VersionRises topologyMachine.init calls := by
  intro hclaim
  let node : NodeId := { high := 1, low := 1 }
  let change : UInt64 → TopologyCall := fun value => .proposeChange
    { proposedVersion := { value, topologyId := [], lastCommitAt := 0, commitState := .Active }
      membershipChange := []
      proposedBy := node
      proposedAt := 0 }
  have hrises := hclaim
    [ .setLocalNodeId node, .setTopologyAuthority node, change 5, .validateProposal, .prepareCommit,
      .authorizeActivation, .activateVersion, change 3, .validateProposal, .prepareCommit,
      .authorizeActivation, .activateVersion ]
  exact absurd hrises (by decide)

end CrossFlow
