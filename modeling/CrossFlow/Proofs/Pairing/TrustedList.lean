import CrossFlow.Proofs.Pairing.HandshakeSteps

/-!
# `CrossFlow.Proofs.Pairing.TrustedList`: the trusted-node list and the pairing state

A node is on the trusted-node list while its pairing state is `Trusted` or one that follows. Two
calls write the state and not the list: a pairing request makes its sender `Trusted`, and a rejected
pairing response takes a trusted peer to `Rejected`.

* `trustConsistent_step_iff`: what one call does to the agreement of the two.
* `trustConsistent_iff`: the runs in which the two always agree.
-/

set_option autoImplicit false

namespace CrossFlow

open PairingFsm

/-- The states of a peer that is to be on the trusted-node list. -/
def Trusting (state : PairingState) : Prop :=
  state = .Trusted ∨ state = .Registering ∨ state = .Registered ∨ state = .Member

/-- Whether a state is one of trust can be looked up. -/
instance (state : PairingState) : Decidable (Trusting state) := inferInstanceAs (Decidable (_ ∨ _))

/-- The list and the state agree about the peer. -/
def ConsistentAt (o : HandshakeOrchestrator) (n : NodeId) : Prop :=
  o.trustedList.isTrusted n = true ↔ Trusting (o.pairingMgr.currentState n)

/-- The list and the states agree for every node. -/
def TrustConsistent (o : HandshakeOrchestrator) : Prop := ∀ n, ConsistentAt o n

/-- The call is not a pairing request of a peer that is not trusted, and not a rejection by one that
is. -/
def KeepsTrust (o : HandshakeOrchestrator) : HandshakeCall → Prop
  | .handlePairingRequest request =>
    request.pairingCode = [] ∨ Trusting (o.pairingMgr.currentState request.requesterNodeId)
  | .handlePairingResponse _ response =>
    response.accepted = true ∨ ¬ Trusting (o.pairingMgr.currentState response.responderNodeId)
  | _ => True

section
variable {o o' : HandshakeOrchestrator} {n : NodeId}

/-- A call that leaves the node leaves the two in agreement. -/
theorem ConsistentAt.of_same (h : ConsistentAt o n)
    (hfsm : o'.pairingMgr.findPeer n = o.pairingMgr.findPeer n)
    (htrust : o'.trustedList.find n = o.trustedList.find n) : ConsistentAt o' n := by
  rw [ConsistentAt, TrustedNodeList.isTrusted, htrust, currentState_congr hfsm]
  exact h

/-- Both sides are true. -/
theorem ConsistentAt.of_trusted (htrust : o.trustedList.isTrusted n = true)
    (hstate : Trusting (o.pairingMgr.currentState n)) : ConsistentAt o n :=
  iff_of_true htrust hstate

/-- Both sides are false. -/
theorem ConsistentAt.of_not_trusted (htrust : ¬ o.trustedList.isTrusted n = true)
    (hstate : ¬ Trusting (o.pairingMgr.currentState n)) : ConsistentAt o n :=
  iff_of_false htrust hstate

/-- A rollback ends in no state of trust. -/
theorem not_trusting_stateAfterRollback (state : PairingState) :
    ¬ Trusting (HandshakeOrchestrator.stateAfterRollback state) := by
  cases state <;> decide

/-- Pairing starts in no state of trust. -/
theorem PairingFsm.CanInitiate.not_trusting {state : PairingState} (h : CanInitiate state) :
    ¬ Trusting state := by
  rcases h with rfl | rfl | rfl <;> decide

/-- A registration starts in a state of trust. -/
theorem trusting_of_registering {state : PairingState}
    (h : isTransitionValid state .Registering = true) : Trusting state := by
  revert h
  cases state <;> decide

/-- After a rollback the list and the state agree. -/
theorem consistentAt_rollbackHandshake (o : HandshakeOrchestrator) (n : NodeId) :
    ConsistentAt (o.rollbackHandshake n).1 n := by
  obtain ⟨hstate, -, -, -, -, htrust, -⟩ := o.rollbackHandshake_effect n
  refine .of_not_trusted ?_ ?_
  · rw [htrust, TrustedNodeList.isTrusted, TrustedNodeList.find_remove_self]
    decide
  · rw [hstate]
    exact not_trusting_stateAfterRollback _

/-- A pairing request writes the state of its sender and not the list. -/
theorem consistentAt_handlePairingRequest_iff {request : PairingRequest}
    (h : ConsistentAt o request.requesterNodeId) :
    ConsistentAt (o.handlePairingRequest request).1 request.requesterNodeId ↔
      KeepsTrust o (.handlePairingRequest request) := by
  by_cases hcode : request.pairingCode = []
  · refine iff_of_true (h.of_same ?_ rfl) (.inl hcode)
    show (o.pairingMgr.handlePairingRequest request).1.findPeer _ = _
    rw [o.pairingMgr.handlePairingRequest_empty request hcode]
  · have hstate : (o.handlePairingRequest request).1.pairingMgr.currentState
        request.requesterNodeId = .Trusted :=
      (o.pairingMgr.handlePairingRequest_accepts request hcode).1.currentState
    have htrust : (o.handlePairingRequest request).1.trustedList = o.trustedList := rfl
    -- The state is `Trusted` now, so the two agree when the peer was on the list before.
    have htrusted : Trusting .Trusted := .inl rfl
    have hlist : o.trustedList.isTrusted request.requesterNodeId = true ↔
      Trusting (o.pairingMgr.currentState request.requesterNodeId) := h
    rw [ConsistentAt, hstate, htrust, iff_true_right htrusted, hlist]
    exact (or_iff_right hcode).symm

/-- A rejected pairing response of a known peer does the same. -/
theorem consistentAt_handlePairingResponse_iff {now : UInt64} {response : PairingResponse}
    (h : ConsistentAt o response.responderNodeId) :
    ConsistentAt (o.handlePairingResponse now response).1 response.responderNodeId ↔
      KeepsTrust o (.handlePairingResponse now response) := by
  rcases o.handlePairingResponse_cases now response with
    ⟨-, hsame, hwhy⟩ | ⟨-, -, -, -, p, -, ⟨hrej, hfsm, htrust⟩ | ⟨hacc, -, hfsm, htrust⟩⟩
  · -- The response is refused, for a peer unknown or not in `Pairing`.
    rw [hsame]
    refine iff_of_true h ?_
    rcases hwhy with hunknown | ⟨hacc, -⟩
    · right
      rw [currentState, hunknown]
      decide
    · exact .inl hacc
  · -- Rejected: the list still has the peer, if it was trusted before.
    have hnot : ¬ Trusting .Rejected := by decide
    have hlist : o.trustedList.isTrusted response.responderNodeId = true ↔
      Trusting (o.pairingMgr.currentState response.responderNodeId) := h
    rw [ConsistentAt, htrust, hfsm.currentState, iff_false_right hnot, hlist]
    exact (or_iff_right (hrej ▸ Bool.false_ne_true)).symm
  · -- Accepted: the peer is trusted by the list and by its state.
    refine iff_of_true (.of_trusted ?_ ?_) (.inl hacc)
    · rw [htrust, TrustedNodeList.isTrusted, TrustedNodeList.find_add_self]
      rfl
    · rw [hfsm.currentState]
      exact .inl rfl

/-- What a call does to the agreement about its own peer. -/
theorem consistentAt_step_iff (c : HandshakeCall) (h : ConsistentAt o c.peer) :
    ConsistentAt (o.step c) c.peer ↔ KeepsTrust o c := by
  cases c with
  | initiateHandshake nid code =>
    refine iff_of_true ?_ trivial
    show ConsistentAt (o.initiateHandshake nid code).1 nid
    rcases o.initiateHandshake_cases nid code with hsame | ⟨hcan, hfsm, -, -, htrust, -⟩
    · rw [hsame]
      exact h
    · -- The peer was not trusted, or the pairing would not start, and is in `Pairing` now.
      refine .of_not_trusted ?_ ?_
      · rw [htrust]
        exact mt h.mp hcan.not_trusting
      · rw [hfsm.currentState]
        show ¬ Trusting .Pairing
        decide
  | handlePairingRequest request => exact consistentAt_handlePairingRequest_iff h
  | handlePairingResponse now response => exact consistentAt_handlePairingResponse_iff h
  | handleRegistrationRequest now request => exact iff_of_true h trivial
  | handleRegistrationResponse response =>
    refine iff_of_true ?_ trivial
    show ConsistentAt (o.handleRegistrationResponse response).1 response.responderNodeId
    rw [HandshakeOrchestrator.handleRegistrationResponse]
    cases response.accepted with
    | false => exact consistentAt_rollbackHandshake o response.responderNodeId
    -- The answer that is accepted sets a flag only.
    | true => exact h
  | completeHandshake nid =>
    refine iff_of_true ?_ trivial
    show ConsistentAt (o.completeHandshake nid).1 nid
    rcases o.completeHandshake_cases nid with ⟨-, hsame⟩ | ⟨-, -, p, fsm, hp, hvalid, hfsm, hdone⟩
    · rw [hsame]
      exact h
    · -- The peer was trusted before and is a `Member` now.
      rw [← currentState_of_some hp] at hvalid
      rw [hdone]
      refine .of_trusted (h.mpr (trusting_of_registering hvalid)) ?_
      rw [show _ = PairingState.Member from hfsm.currentState]
      decide
  | rollbackHandshake nid => exact iff_of_true (consistentAt_rollbackHandshake o nid) trivial

end

/-- A call keeps the agreement exactly where it keeps the trust. -/
theorem trustConsistent_step_iff (o : HandshakeOrchestrator) (c : HandshakeCall)
    (h : TrustConsistent o) : TrustConsistent (o.step c) ↔ KeepsTrust o c := by
  rw [← consistentAt_step_iff c (h c.peer)]
  constructor
  · intro hall
    exact hall c.peer
  · intro hpeer n
    by_cases hn : n = c.peer
    · rw [hn]
      exact hpeer
    · -- Nothing changes about the other peers.
      have hsame := o.step_frame c hn
      exact (h n).of_same (congrArg Prod.fst hsame) (congrArg (fun s => s.2.2.1) hsame)

/-- The list and the state agree about every peer, in every state of a run, exactly when no call of
it is a pairing request of a peer that is not trusted or a rejection by one that is. -/
theorem trustConsistent_iff (m : NodeIdentityManager) (calls : List HandshakeCall) :
    (handshakeMachine (.init m)).Meets KeepsTrust (.init m) calls ↔
      ∀ pre, pre <+: calls → TrustConsistent ((handshakeMachine (.init m)).run pre) := by
  refine Lib.Machine.meets_iff_forall_run ?_ trustConsistent_step_iff
  intro n
  refine .of_not_trusted Bool.false_ne_true ?_
  show ¬ Trusting .Discovered
  decide

/-- A node that asks for pairing is `Trusted` and not on the list. -/
theorem requester_not_on_trustedList :
    ¬ ∀ (m : NodeIdentityManager) (calls : List HandshakeCall),
      TrustConsistent ((handshakeMachine (.init m)).run calls) := by
  intro hclaim
  let peer : NodeId := { high := 2, low := 2 }
  have hconsistent := hclaim { identity := none }
    [.handlePairingRequest
      { requesterNodeId := peer
        pairingCode := StdString.lit "482913"
        fence := .newSession peer }] peer
  exact absurd (hconsistent.mpr (by decide)) (by decide)

end CrossFlow
