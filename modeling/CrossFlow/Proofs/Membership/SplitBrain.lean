import CrossFlow.Lib.Family
import CrossFlow.Proofs.Membership.CommitProtocol

/-!
# `CrossFlow.Proofs.Membership.SplitBrain`: one coordinator among the managers

Any number of managers, each with its own local node, that all have the same first authority. A
manager takes no second authority and no other coordinator than its authority, and is coordinator
only if its own node is the authority. So at most one of them is.

* `authorityInv_step`: what a call leaves of the three ids a manager holds.
* `no_split_brain`: the guarantees for all managers together, at every moment.
-/

set_option autoImplicit false

namespace CrossFlow

open TopologyVersionManager

/-- A call of the manager `i` respects the set-up: its local node is `localId i`, and the first
authority it accepts is `authority`. Later authorities may be any. -/
def RespectsSetUp {ι : Type} (localId : ι → NodeId) (authority : NodeId)
    (s : ι → TopologyVersionManager) : ι × TopologyCall → Prop
  | (i, .setLocalNodeId nodeId) => nodeId = localId i
  | (i, .setTopologyAuthority authorityNodeId) =>
    (s i).authorityNodeId = none → authorityNodeId.isNull = true ∨ authorityNodeId = authority
  | _ => True

/-- Whether a call respects the set-up can be looked up. -/
instance {ι : Type} (localId : ι → NodeId) (authority : NodeId) (s : ι → TopologyVersionManager) :
    ∀ c, Decidable (RespectsSetUp localId authority s c)
  | (i, .setLocalNodeId nodeId) => inferInstanceAs (Decidable (nodeId = localId i))
  | (i, .setTopologyAuthority authorityNodeId) =>
    inferInstanceAs (Decidable ((s i).authorityNodeId = none →
      authorityNodeId.isNull = true ∨ authorityNodeId = authority))
  | (_, .setCoordinator _) | (_, .proposeChange _) | (_, .validateProposal) | (_, .prepareCommit)
  | (_, .authorizeActivation) | (_, .activateVersion) | (_, .abortCommit)
  | (_, .markCoordinatorOffline) | (_, .markCoordinatorOnline) => .isTrue trivial

/-- The ids a manager holds are the ones of the set-up. -/
structure AuthorityInv (localId authority : NodeId) (m : TopologyVersionManager) : Prop where
  localNode : ∀ nodeId, m.localNodeId = some nodeId → nodeId = localId
  authority : ∀ nodeId, m.authorityNodeId = some nodeId → nodeId = authority
  coordinator : m.coordinatorId_ = m.authorityNodeId

/-- A call that leaves the ids keeps the invariant. -/
theorem AuthorityInv.of_same {localId authority : NodeId} {m m' : TopologyVersionManager}
    (h : AuthorityInv localId authority m) (hsame : SameIds m m') :
    AuthorityInv localId authority m' where
  localNode := by
    rw [hsame.localNode]
    exact h.localNode
  authority := by
    rw [hsame.authority]
    exact h.authority
  coordinator := by
    rw [hsame.coordinator, hsame.authority]
    exact h.coordinator

/-- The coordinator is hidden while it is offline, and never replaced. -/
theorem TopologyVersionManager.coordinatorId_of_some (m : TopologyVersionManager) {nodeId : NodeId}
    (h : m.coordinatorId = some nodeId) : m.coordinatorId_ = some nodeId := by
  unfold coordinatorId at h
  cases honline : m.coordinatorOnline with
  | false =>
    rw [honline] at h
    exact absurd h.symm (Option.some_ne_none nodeId)
  | true =>
    rw [honline] at h
    exact h

/-- An authority, once accepted, stays. -/
theorem authorityNodeId_call {m : TopologyVersionManager} {nodeId : NodeId} (c : TopologyCall)
    (h : m.authorityNodeId = some nodeId) : (m.call c).1.authorityNodeId = some nodeId := by
  cases c with
  | setLocalNodeId localNode => exact h
  | setTopologyAuthority authorityNodeId =>
    show (m.setTopologyAuthority authorityNodeId).1.authorityNodeId = some nodeId
    rcases m.setTopologyAuthority_cases authorityNodeId with hsame | ⟨-, hfirst, hdone⟩
    · rw [hsame, h]
    · rw [hdone, hfirst nodeId h]
  | setCoordinator authorityNodeId =>
    show (m.setCoordinator authorityNodeId).1.authorityNodeId = some nodeId
    rcases m.setCoordinator_cases authorityNodeId with hsame | ⟨-, hdone⟩
    · rw [hsame, h]
    · rw [hdone, h]
  | _ => exact (m.sameIds_call id).authority.trans h

section
variable {ι : Type} {localId : ι → NodeId} {authority : NodeId} {s : ι → TopologyVersionManager}

/-- A call that respects the set-up keeps the invariant. -/
theorem authorityInv_step {i : ι} {c : TopologyCall} (h : AuthorityInv (localId i) authority (s i))
    (hc : RespectsSetUp localId authority s (i, c)) :
    AuthorityInv (localId i) authority ((s i).call c).1 := by
  cases c with
  | setLocalNodeId nodeId =>
    refine ⟨?_, h.authority, h.coordinator⟩
    intro localNode hlocal
    cases hlocal
    exact hc
  | setTopologyAuthority authorityNodeId =>
    show AuthorityInv (localId i) authority ((s i).setTopologyAuthority authorityNodeId).1
    rcases (s i).setTopologyAuthority_cases authorityNodeId with hsame | ⟨hnull, hfirst, hdone⟩
    · rw [hsame]
      exact h
    · rw [hdone]
      refine ⟨h.localNode, ?_, rfl⟩
      intro nodeId hnodeId
      cases hnodeId
      -- The id is the authority there was, or the first one.
      cases hbefore : (s i).authorityNodeId with
      | some before =>
        rw [← hfirst before hbefore]
        exact h.authority before hbefore
      | none =>
        rcases hc hbefore with hnull' | heq
        · exact absurd (hnull.symm.trans hnull') Bool.false_ne_true
        · exact heq
  | setCoordinator authorityNodeId =>
    show AuthorityInv (localId i) authority ((s i).setCoordinator authorityNodeId).1
    rcases (s i).setCoordinator_cases authorityNodeId with hsame | ⟨hauthority, hdone⟩
    · rw [hsame]
      exact h
    · rw [hdone]
      exact ⟨h.localNode, h.authority, hauthority.symm⟩
  | _ => exact h.of_same ((s i).sameIds_call id)

/-- A coordinator is the manager whose own node is the authority. -/
theorem AuthorityInv.localId_eq {localNode : NodeId} {m : TopologyVersionManager}
    (h : AuthorityInv localNode authority m) (hcoordinator : m.isCoordinator = true) :
    localNode = authority := by
  obtain ⟨-, nodeId, hauthority, hlocal⟩ := m.isCoordinator_iff.mp hcoordinator
  exact (h.localNode nodeId hlocal).symm.trans (h.authority nodeId hauthority)

/-- The invariant holds of a manager that was just made. -/
theorem authorityInv_init (i : ι) :
    AuthorityInv (localId i) authority TopologyVersionManager.init :=
  ⟨fun _ h => absurd h.symm (Option.some_ne_none _),
    fun _ h => absurd h.symm (Option.some_ne_none _), rfl⟩

end

/-- For any managers with different local nodes and the same first authority, at every moment of any
interleaving of their calls: at most one is coordinator, no other can put up a proposal or authorise
one, an authority that was accepted is still the first one, and so is the coordinator where there is
one. -/
theorem no_split_brain {ι : Type} [DecidableEq ι] (localId : ι → NodeId) (authority : NodeId)
    (hdistinct : ∀ i j, localId i = localId j → i = j) (calls : List (ι × TopologyCall))
    (hcalls : (topologyMachine.family ι).Meets (RespectsSetUp localId authority)
      (topologyMachine.family ι).init calls) :
    let s := (topologyMachine.family ι).run calls
    (∀ i j, (s i).isCoordinator = true → (s j).isCoordinator = true → i = j) ∧
      (∀ i proposal, ((s i).proposeChange proposal).2 = none → (s i).isCoordinator = true) ∧
      (∀ i, (s i).authorizeActivation.2 = none → (s i).isCoordinator = true) ∧
      (∀ i pre, pre <+: calls → ((topologyMachine.family ι).run pre i).authorityNodeId ≠ none →
        (s i).authorityNodeId = some authority) ∧
      (∀ i nodeId, (s i).coordinatorId = some nodeId →
        nodeId = authority ∧ (s i).authorityNodeId = some nodeId) := by
  intro s
  have hinv : ∀ pre, pre <+: calls → ∀ i,
      AuthorityInv (localId i) authority ((topologyMachine.family ι).run pre i) := by
    rintro pre ⟨rest, rfl⟩
    exact Lib.Machine.family_runFrom_of_meets (fun s i c h hc => authorityInv_step h hc)
      authorityInv_init (Lib.Machine.meets_append.mp hcalls).1
  have hnow : ∀ i, AuthorityInv (localId i) authority (s i) := hinv calls (List.prefix_refl calls)
  refine ⟨?_, ?_, ?_, ?_, ?_⟩
  · intro i j hi hj
    exact hdistinct i j (((hnow i).localId_eq hi).trans ((hnow j).localId_eq hj).symm)
  · intro i proposal hok
    rcases (s i).proposeChange_cases proposal with ⟨herr, -⟩ | ⟨-, hcoordinator, -⟩
    · exact absurd hok herr
    · exact hcoordinator
  · intro i hok
    rcases (s i).authorizeActivation_cases with ⟨herr, -⟩ | ⟨-, hcoordinator, -⟩
    · exact absurd hok herr
    · exact hcoordinator
  · intro i pre hpre haccepted
    obtain ⟨nodeId, hnodeId⟩ := Option.ne_none_iff_exists'.mp haccepted
    rw [(hinv pre hpre i).authority nodeId hnodeId] at hnodeId
    obtain ⟨rest, rfl⟩ := hpre
    -- No call of the manager `i` after `pre` takes the authority away.
    show ((topologyMachine.family ι).run (pre ++ rest) i).authorityNodeId = some authority
    rw [Lib.Machine.run, Lib.Machine.runFrom_append]
    refine Lib.Machine.family_runFrom_of_meets (C := fun _ _ => True)
      (P := fun j (m : TopologyVersionManager) => j = i → m.authorityNodeId = some authority) ?_ ?_
      (Lib.Machine.meets_of_forall fun _ _ _ => trivial) i rfl
    · intro s' j c hbefore _ hj
      exact authorityNodeId_call c (hbefore hj)
    · rintro j rfl
      exact hnodeId
  · intro i nodeId hcoordinator
    have hauthority : (s i).authorityNodeId = some nodeId := by
      rw [← (hnow i).coordinator]
      exact (s i).coordinatorId_of_some hcoordinator
    exact ⟨(hnow i).authority nodeId hauthority, hauthority⟩

/-- Two managers take the authority of the one; the other refuses a second authority, and to make
itself coordinator. -/
def twoManagers : List (Bool × TopologyCall) :=
  [(true, .setLocalNodeId ⟨1, 1⟩), (false, .setLocalNodeId ⟨2, 2⟩),
    (true, .setTopologyAuthority ⟨1, 1⟩), (false, .setTopologyAuthority ⟨1, 1⟩),
    (false, .setTopologyAuthority ⟨2, 2⟩), (false, .setCoordinator ⟨2, 2⟩)]

/-- Only one of the two managers is the coordinator. -/
theorem no_split_brain_twoManagers :
    let s := (topologyMachine.family Bool).run twoManagers
    (s true).isCoordinator = true ∧ (s false).isCoordinator = false := by
  let localId : Bool → NodeId := fun i => if i then ⟨1, 1⟩ else ⟨2, 2⟩
  have hrun := no_split_brain localId ⟨1, 1⟩ (by decide) twoManagers (by decide)
  have hcoordinator :
      ((topologyMachine.family Bool).run twoManagers true).isCoordinator = true := by decide
  refine ⟨hcoordinator, Bool.eq_false_iff.mpr ?_⟩
  intro hother
  exact Bool.noConfusion (hrun.1 true false hcoordinator hother)

end CrossFlow
