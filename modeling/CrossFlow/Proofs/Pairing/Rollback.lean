import CrossFlow.Proofs.Pairing.HandshakeSteps

/-!
# `CrossFlow.Proofs.Pairing.Rollback`: what a rollback undoes

`rollbackHandshake` takes the peer back in the pairing state, clears its flags and removes it from
the trusted-node list. The registration manager is not told, so a peer that was registered stays so.

* `not_untrusted_run`: the pairing state always has a way back.
* `isRegistered_run`: who is registered after a run.
* `rollback_complete_iff`: for which peers a rollback undoes everything.
-/

set_option autoImplicit false

namespace CrossFlow

open PairingFsm

/-- The rollback leaves nothing of the handshake with the peer, and changes nothing about any other
peer. -/
structure RollsBack (o : HandshakeOrchestrator) (peer : NodeId) : Prop where
  state : (o.rollbackHandshake peer).1.pairingMgr.currentState peer = .Discovered ∨
    (o.rollbackHandshake peer).1.pairingMgr.currentState peer = .Rejected
  pairingDone : (o.rollbackHandshake peer).1.pairingDone peer = false
  registrationDone : (o.rollbackHandshake peer).1.registrationDone peer = false
  trusted : (o.rollbackHandshake peer).1.trustedList.isTrusted peer = false
  registered : (o.rollbackHandshake peer).1.regMgr.isRegistered peer = false
  frame : ∀ n, n ≠ peer → (o.rollbackHandshake peer).1.stateFor n = o.stateFor n

/-- The call is a registration request of the node with a valid identity. -/
def RegistersNode (n : NodeId) : HandshakeCall → Prop
  | .handleRegistrationRequest _ request =>
    request.identity.nodeId = n ∧ request.identity.isValid = true
  | _ => False

/-! ### The pairing state -/

/-- `rollbackHandshake` finds no way back from `Untrusted`, and leaves every other state. -/
theorem stateAfterRollback_eq_iff (state : PairingState) :
    HandshakeOrchestrator.stateAfterRollback state = .Untrusted ↔ state = .Untrusted := by
  cases state <;> decide

/-- A rollback ends in discovered or in rejected. -/
theorem stateAfterRollback_of_ne {state : PairingState} (h : state ≠ .Untrusted) :
    HandshakeOrchestrator.stateAfterRollback state = .Discovered ∨
      HandshakeOrchestrator.stateAfterRollback state = .Rejected := by
  revert h
  cases state <;> decide

/-- A rollback makes no peer untrusted. -/
theorem not_untrusted_rollbackHandshake {o : HandshakeOrchestrator} {peer : NodeId}
    (h : o.pairingMgr.currentState peer ≠ .Untrusted) :
    (o.rollbackHandshake peer).1.pairingMgr.currentState peer ≠ .Untrusted := by
  obtain ⟨hstate, -⟩ := o.rollbackHandshake_effect peer
  rw [hstate]
  exact mt (stateAfterRollback_eq_iff _).mp h

/-- No call leaves its peer `Untrusted`. -/
theorem not_untrusted_step {o : HandshakeOrchestrator} {c : HandshakeCall}
    (h : o.pairingMgr.currentState c.peer ≠ .Untrusted) :
    (o.step c).pairingMgr.currentState c.peer ≠ .Untrusted := by
  cases c with
  | initiateHandshake nid code =>
    show (o.initiateHandshake nid code).1.pairingMgr.currentState nid ≠ .Untrusted
    rcases o.initiateHandshake_cases nid code with hsame | ⟨-, hfsm, -⟩
    · rw [hsame]
      exact h
    · -- `Untrusted` is passed on the way to `Pairing`.
      rw [hfsm.currentState]
      exact PairingState.noConfusion
  | handlePairingRequest request =>
    show (o.pairingMgr.handlePairingRequest request).1.currentState request.requesterNodeId ≠ _
    -- A request makes the peer `Trusted`, or is refused.
    by_cases hcode : request.pairingCode = []
    · rw [o.pairingMgr.handlePairingRequest_empty request hcode]
      exact h
    · rw [(o.pairingMgr.handlePairingRequest_accepts request hcode).1.currentState]
      exact PairingState.noConfusion
  | handlePairingResponse now response =>
    show (o.handlePairingResponse now response).1.pairingMgr.currentState
      response.responderNodeId ≠ .Untrusted
    rcases o.handlePairingResponse_cases now response with
      ⟨-, hsame, -⟩ | ⟨-, -, -, -, p, -, ⟨-, hfsm, -⟩ | ⟨-, -, hfsm, -⟩⟩
    · rw [hsame]
      exact h
    · rw [hfsm.currentState]
      exact PairingState.noConfusion
    · rw [hfsm.currentState]
      exact PairingState.noConfusion
  | handleRegistrationRequest now request => exact h
  | handleRegistrationResponse response =>
    show (o.handleRegistrationResponse response).1.pairingMgr.currentState
      response.responderNodeId ≠ .Untrusted
    rw [HandshakeOrchestrator.handleRegistrationResponse]
    cases response.accepted with
    | false => exact not_untrusted_rollbackHandshake h
    | true => exact h
  | completeHandshake nid =>
    show (o.completeHandshake nid).1.pairingMgr.currentState nid ≠ .Untrusted
    rcases o.completeHandshake_cases nid with ⟨-, hsame⟩ | ⟨-, -, p, fsm, -, -, hfsm, hdone⟩
    · rw [hsame]
      exact h
    · -- The last state on the way is `Member`.
      rw [hdone]
      show fsm.currentState nid ≠ .Untrusted
      rw [hfsm.currentState]
      exact PairingState.noConfusion
  | rollbackHandshake nid => exact not_untrusted_rollbackHandshake h

/-- No run makes a peer untrusted. -/
theorem not_untrusted_run (m : NodeIdentityManager) (calls : List HandshakeCall) (n : NodeId) :
    ((handshakeMachine (.init m)).run calls).pairingMgr.currentState n ≠ .Untrusted := by
  have hinv : (handshakeMachine (.init m)).Invariant fun o =>
      ∀ n, o.pairingMgr.currentState n ≠ .Untrusted := by
    refine Lib.Machine.Invariant.of_step (fun n => PairingState.noConfusion) ?_
    intro o c h n
    show (o.step c).pairingMgr.currentState n ≠ .Untrusted
    by_cases hn : n = c.peer
    · rw [hn]
      exact not_untrusted_step (h c.peer)
    · rw [currentState_congr (congrArg Prod.fst (o.step_frame c hn))]
      exact h n
  exact hinv calls n

/-! ### The registrations -/

/-- Whether a node is registered is read from its record. -/
theorem isRegistered_congr {m m' : RegistrationManager} {n : NodeId} (h : m'.find n = m.find n) :
    m'.isRegistered n = m.isRegistered n := by
  rw [RegistrationManager.isRegistered, h, RegistrationManager.isRegistered]

/-- A request with a valid identity registers its sender, and no call ends a registration. -/
theorem isRegistered_step (o : HandshakeOrchestrator) (c : HandshakeCall) (n : NodeId) :
    (o.step c).regMgr.isRegistered n = true ↔
      o.regMgr.isRegistered n = true ∨ RegistersNode n c := by
  cases c with
  | handleRegistrationRequest now request =>
    -- A valid identity is registered under its own id.
    by_cases hn : n = request.identity.nodeId
    · subst hn
      show (o.regMgr.handleRegistrationRequest now request).1.isRegistered _ = true ↔ _
      rw [handleRegistrationRequest_fst]
      cases hvalid : request.identity.isValid with
      | false =>
        rw [RegistrationManager.registerPeer, hvalid]
        exact (or_iff_left fun h => Bool.false_ne_true (hvalid.symm.trans h.2)).symm
      | true =>
        obtain ⟨m', r, hregister, hfind, hstate, -⟩ := registerPeer_of_valid o.regMgr now hvalid
        rw [hregister]
        exact iff_of_true (isRegistered_of_find hfind hstate) (.inr ⟨rfl, hvalid⟩)
    · -- The request is of another node.
      have hsame := o.step_frame (.handleRegistrationRequest now request) hn
      rw [isRegistered_congr (congrArg (fun s => s.2.2.2) hsame)]
      exact (or_iff_left fun h => hn h.1.symm).symm
  | initiateHandshake _ _ | handlePairingRequest _ | handlePairingResponse _ _
  | handleRegistrationResponse _ | completeHandshake _ | rollbackHandshake _ =>
    rw [o.regMgr_step fun _ _ => HandshakeCall.noConfusion]
    exact (or_iff_left id).symm

/-- The nodes registered after a run are those a valid request of which it has handled. -/
theorem isRegistered_run (m : NodeIdentityManager) (calls : List HandshakeCall) (n : NodeId) :
    ((handshakeMachine (.init m)).run calls).regMgr.isRegistered n = true ↔
      ∃ c ∈ calls, RegistersNode n c := by
  induction calls using List.reverseRecOn with
  | nil => exact iff_of_false Bool.false_ne_true (by simp)
  | append_singleton calls c ih =>
    rw [Lib.Machine.run_append_singleton]
    show (HandshakeOrchestrator.step _ c).regMgr.isRegistered n = true ↔ _
    rw [isRegistered_step, ih]
    simp only [List.mem_append, List.mem_singleton, or_and_right, exists_or, exists_eq_left]

/-! ### Rollback -/

/-- What a rollback leaves, with the registration as the only open question. -/
theorem rollsBack_iff_isRegistered {o : HandshakeOrchestrator} {peer : NodeId}
    (hstate : o.pairingMgr.currentState peer ≠ .Untrusted) :
    RollsBack o peer ↔ o.regMgr.isRegistered peer = false := by
  obtain ⟨hafter, -, -, hself, -, htrust, hreg⟩ := o.rollbackHandshake_effect peer
  -- The registration is the one thing that a rollback leaves.
  constructor
  · intro h
    rw [← hreg]
    exact h.registered
  · intro hregistered
    constructor
    · rw [hafter]
      exact stateAfterRollback_of_ne hstate
    · rw [HandshakeOrchestrator.pairingDone, hself]
      cases o.findHandshake peer <;> rfl
    · rw [HandshakeOrchestrator.registrationDone, hself]
      cases o.findHandshake peer <;> rfl
    · rw [htrust, TrustedNodeList.isTrusted, TrustedNodeList.find_remove_self]
      rfl
    · rw [hreg]
      exact hregistered
    · intro n hn
      exact o.rollbackHandshake_frame hn

/-- In every reachable state, a rollback leaves nothing of the peer exactly when no registration
request of it with a valid identity has been handled. -/
theorem rollback_complete_iff (m : NodeIdentityManager) (calls : List HandshakeCall)
    (peer : NodeId) :
    RollsBack ((handshakeMachine (.init m)).run calls) peer ↔
      ∀ now request, .handleRegistrationRequest now request ∈ calls →
        request.identity.nodeId = peer → request.identity.isValid = false := by
  rw [rollsBack_iff_isRegistered (not_untrusted_run m calls peer), ← Bool.not_eq_true,
    isRegistered_run]
  constructor
  · intro hnone now request hmem hpeer
    rw [← Bool.not_eq_true]
    intro hvalid
    exact hnone ⟨_, hmem, hpeer, hvalid⟩
  · -- Only a registration request registers a node.
    rintro hinvalid ⟨c, hmem, hregisters⟩
    cases c with
    | handleRegistrationRequest now request =>
      have hfalse := hinvalid now request hmem hregisters.1
      exact Bool.false_ne_true (hfalse.symm.trans hregisters.2)
    | initiateHandshake _ _ | handlePairingRequest _ | handlePairingResponse _ _
    | handleRegistrationResponse _ | completeHandshake _ | rollbackHandshake _ => exact hregisters

/-- A peer that registered stays registered after the rollback. -/
theorem registered_after_rollback :
    ¬ ∀ (m : NodeIdentityManager) (calls : List HandshakeCall) (peer : NodeId),
      RollsBack ((handshakeMachine (.init m)).run calls) peer := by
  intro hclaim
  let peer : NodeId := { high := 2, low := 2 }
  have hrolled := hclaim { identity := none }
    [ .handlePairingRequest
        { requesterNodeId := peer
          pairingCode := StdString.lit "482913"
          fence := .newSession peer },
      .handleRegistrationRequest 5
        { identity := plainIdentity peer, fence := .newSession peer } ] peer
  exact absurd hrolled.registered (by decide)

end CrossFlow
