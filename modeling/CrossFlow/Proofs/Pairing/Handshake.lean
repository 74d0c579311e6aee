import CrossFlow.Proofs.Pairing.HandshakeSteps
import CrossFlow.Proofs.Pairing.Registration

/-!
# `CrossFlow.Proofs.Pairing.Handshake`: a handshake between two nodes

`exchange` is the handshake of two nodes that have just started: the first initiates it, the second
answers its pairing request and its registration request, and the messages arrive in order. Both
answers carry the requester's own id as `responderNodeId`, so the first node looks for itself among
its peers and the handshake stays where `initiateHandshake` left it.

* `exchange_stuck`: where the first node is at the end.
* `exchange_never_agrees`: so the handshake of two different nodes never completes.
* `completes_of_responderId`: with the responder's id in the answers it does.
-/

set_option autoImplicit false

namespace CrossFlow

open PairingFsm

/-- A message is handled by the node it was sent to; a call that failed sends none. -/
def deliver {α : Type} (o : HandshakeOrchestrator) (answer : Except ErrorCode α)
    (handle : HandshakeOrchestrator → α → HandshakeOrchestrator × Option ErrorCode) :
    HandshakeOrchestrator :=
  match answer with
  | .ok message => (handle o message).1
  | .error _ => o

/-- The first node after the pairing response and at the end, and what `completeHandshake` says. -/
structure Exchange where
  start : HandshakeOrchestrator
  paired : HandshakeOrchestrator
  completed : HandshakeOrchestrator
  result : Option ErrorCode

/-- The handshake of the nodes with the identities `a` and `b`, initiated by the first. The fences
of its requests and the clocks are arbitrary. -/
def exchange (a b : NodeIdentity) (code : StdString) (pairingFence registrationFence : SessionFence)
    (pairedAt registeredAt : UInt64) : Exchange :=
  let start := HandshakeOrchestrator.init { identity := some a }
  let responder := HandshakeOrchestrator.init { identity := some b }
  let initiated := (start.initiateHandshake b.nodeId code).1
  let pairing := responder.handlePairingRequest
    { requesterNodeId := a.nodeId, pairingCode := code, fence := pairingFence }
  let paired := deliver initiated pairing.2 fun o => o.handlePairingResponse pairedAt
  let registration := pairing.1.handleRegistrationRequest registeredAt
    { identity := a, fence := registrationFence }
  let registered := deliver paired registration.2 fun o => o.handleRegistrationResponse
  let completion := registered.completeHandshake b.nodeId
  { start, paired, completed := completion.1, result := completion.2 }

/-- The first node trusts the second after the pairing response, completes the handshake, and has
changed nothing about any other node. -/
def Exchange.Agrees (e : Exchange) (peer : NodeId) : Prop :=
  e.paired.pairingMgr.currentState peer = .Trusted ∧ e.result = none ∧
    ∀ n, n ≠ peer → e.completed.stateFor n = e.start.stateFor n

/-! ### Steps of the first node -/

/-- `initiateHandshake` of a node that has just started. -/
theorem initiateHandshake_init (m : NodeIdentityManager) (peer : NodeId) {code : StdString}
    (hcode : code ≠ []) :
    ∃ fsm, Updated PairingFsm.init peer { nodeId := peer, state := .Pairing, pairingCode := code }
        fsm ∧
      (HandshakeOrchestrator.init m).initiateHandshake peer code =
        ({ HandshakeOrchestrator.init m with
            pairingMgr := fsm
            activeHandshakes :=
              [{ peerNodeId := peer, pairingDone := false, registrationDone := false }] },
          none) := by
  rcases PairingFsm.init.initiatePairing_cases peer code with
    ⟨hok, -, -, hdone⟩ | ⟨-, -, hempty | hstuck⟩
  -- A new peer counts as `Discovered`, so the call succeeds; no handshake is active yet.
  · refine ⟨_, hdone, ?_⟩
    have hpairing : (HandshakeOrchestrator.init m).pairingMgr.initiatePairing peer code =
        ((PairingFsm.init.initiatePairing peer code).1, none) := Prod.ext rfl hok
    rw [HandshakeOrchestrator.initiateHandshake, hpairing]
    rfl
  · exact absurd hempty hcode
  · exact absurd (.inl rfl) hstuck

/-- A response of a peer that is not known changes nothing. -/
theorem handlePairingResponse_unknown (o : HandshakeOrchestrator) (now : UInt64)
    (response : PairingResponse)
    (hunknown : o.pairingMgr.findPeer response.responderNodeId = none) :
    o.handlePairingResponse now response = (o, some .PairUnpaired) := by
  have hpairing : o.pairingMgr.handlePairingResponse response =
      (o.pairingMgr, some .PairUnpaired) := by
    rw [PairingFsm.handlePairingResponse, hunknown]
  rw [HandshakeOrchestrator.handlePairingResponse, hpairing]

/-- An answer to a registration request accepts it, and carries the requester's id. -/
theorem registrationResponse_of_ok {o : HandshakeOrchestrator} {now : UInt64}
    {request : RegistrationRequest} {response : RegistrationResponse}
    (h : (o.handleRegistrationRequest now request).2 = .ok response) :
    response.responderNodeId = request.identity.nodeId ∧ response.accepted = true := by
  have hanswer : (o.regMgr.handleRegistrationRequest now request).2 = .ok response := h
  unfold RegistrationManager.handleRegistrationRequest at hanswer
  split at hanswer
  · cases hanswer
  · split at hanswer
    · cases hanswer
    · cases hanswer
      exact ⟨rfl, rfl⟩

/-- A registration response of a node no handshake is active with changes nothing. -/
theorem handleRegistrationResponse_unknown (o : HandshakeOrchestrator)
    (response : RegistrationResponse) (hacc : response.accepted = true)
    (hunknown : ∀ hs ∈ o.activeHandshakes, hs.peerNodeId ≠ response.responderNodeId) :
    (o.handleRegistrationResponse response).1 = o := by
  rw [HandshakeOrchestrator.handleRegistrationResponse, hacc]
  show o.modifyHandshake response.responderNodeId _ = o
  rw [HandshakeOrchestrator.modifyHandshake, Lib.KeyedList.modify_of_not_mem _ hunknown]

/-! ### The exchange -/

section

variable {a b : NodeIdentity} {code : StdString} (pairingFence registrationFence : SessionFence)
variable (pairedAt registeredAt : UInt64)

/-- The first node is left with the second in `Pairing` and neither part of the handshake done. -/
theorem exchange_stuck (hab : a.nodeId ≠ b.nodeId) (hcode : code ≠ []) :
    let e := exchange a b code pairingFence registrationFence pairedAt registeredAt
    e.paired.pairingMgr.currentState b.nodeId = .Pairing ∧ e.result = some .PairUnpaired := by
  intro e
  obtain ⟨fsm, hfsm, hinitiated⟩ := initiateHandshake_init { identity := some a } b.nodeId hcode
  set initiated : HandshakeOrchestrator :=
    { HandshakeOrchestrator.init { identity := some a } with
      pairingMgr := fsm
      activeHandshakes :=
        [{ peerNodeId := b.nodeId, pairingDone := false, registrationDone := false }] }
  -- The pairing response names the first node, which is none of its own peers.
  have hpaired : e.paired = initiated := by
    have hanswer : ((HandshakeOrchestrator.init { identity := some b }).handlePairingRequest
        { requesterNodeId := a.nodeId, pairingCode := code, fence := pairingFence }).2 = .ok _ :=
      (PairingFsm.init.handlePairingRequest_accepts _ hcode).2
    -- `initiateHandshake` has added the second node and no other.
    have hunknown : initiated.pairingMgr.findPeer a.nodeId = none := hfsm.frame a.nodeId hab
    dsimp only [e, exchange]
    rw [hanswer, hinitiated]
    show (initiated.handlePairingResponse pairedAt _).1 = initiated
    rw [handlePairingResponse_unknown _ _ _ hunknown]
  -- So does the registration response, and no handshake is active with the first node itself.
  have hregistered : ∀ o request, request.identity = a →
      deliver initiated (HandshakeOrchestrator.handleRegistrationRequest o registeredAt request).2
        (fun o => o.handleRegistrationResponse) = initiated := by
    intro o request hrequest
    cases hanswer : (o.handleRegistrationRequest registeredAt request).2 with
    | error err => rfl
    | ok response =>
      obtain ⟨hnode, hacc⟩ := registrationResponse_of_ok hanswer
      refine handleRegistrationResponse_unknown initiated response hacc ?_
      intro hs hmem
      rw [List.mem_singleton.mp hmem, hnode, hrequest]
      exact Ne.symm hab
  constructor
  · rw [hpaired]
    exact hfsm.currentState
  -- Neither part of the handshake is done, so `completeHandshake` refuses.
  · show (HandshakeOrchestrator.completeHandshake (deliver e.paired _ _) b.nodeId).2 = _
    rw [hpaired, hregistered _ _ rfl]
    simp [HandshakeOrchestrator.completeHandshake, HandshakeOrchestrator.findHandshake, initiated,
      Lib.KeyedList.find_cons]

/-- Two different nodes never agree, whatever the code. -/
theorem exchange_never_agrees (hab : a.nodeId ≠ b.nodeId) (hcode : code ≠ []) :
    ¬ (exchange a b code pairingFence registrationFence pairedAt registeredAt).Agrees b.nodeId := by
  intro hagrees
  have hstuck := exchange_stuck pairingFence registrationFence pairedAt registeredAt hab hcode
  have hstate := hagrees.1.symm.trans hstuck.1
  exact absurd hstate (by decide)

end

/-- Two nodes with valid identities and a code. -/
theorem exchange_never_agrees_desk :
    ¬ (exchange (plainIdentity { high := 1, low := 1 }) (plainIdentity { high := 2, low := 2 })
      (StdString.lit "482913") (.newSession { high := 1, low := 1 })
      (.newSession { high := 1, low := 1 }) 5 6).Agrees { high := 2, low := 2 } :=
  exchange_never_agrees _ _ 5 6 (by decide) (by decide)

/-- An exchange does not agree with the responder, for some nodes and code. -/
theorem exchange_does_not_agree :
    ¬ ∀ (a b : NodeIdentity) (code : StdString) (pairingFence registrationFence : SessionFence)
      (pairedAt registeredAt : UInt64), a.nodeId ≠ b.nodeId → code ≠ [] →
        (exchange a b code pairingFence registrationFence pairedAt registeredAt).Agrees
          b.nodeId := by
  intro hclaim
  have hagrees := hclaim (plainIdentity { high := 1, low := 1 })
    (plainIdentity { high := 2, low := 2 }) (StdString.lit "482913")
    (.newSession { high := 1, low := 1 }) (.newSession { high := 1, low := 1 }) 5 6
    (by decide) (by decide)
  exact absurd hagrees.1 (by decide)

/-! ### With the responder's id -/

/-- The answers with the responder's own id take the first node through the whole handshake. -/
theorem completes_of_responderId (m : NodeIdentityManager) {peer : NodeId} {code : StdString}
    (hcode : code ≠ []) (now : UInt64) {pairing : PairingResponse}
    {registration : RegistrationResponse} (hpairing : pairing.responderNodeId = peer)
    (hpairingAcc : pairing.accepted = true) (hregistration : registration.responderNodeId = peer)
    (hregistrationAcc : registration.accepted = true) :
    let initiated := ((HandshakeOrchestrator.init m).initiateHandshake peer code).1
    let paired := (initiated.handlePairingResponse now pairing).1
    let registered := (paired.handleRegistrationResponse registration).1
    let completion := registered.completeHandshake peer
    paired.pairingMgr.currentState peer = .Trusted ∧ completion.2 = none ∧
      completion.1.pairingMgr.currentState peer = .Member := by
  intro initiated paired registered completion
  obtain ⟨fsm, hfsm, hinitiated⟩ := initiateHandshake_init m peer hcode
  -- `Trusted` is an edge from `Pairing`.
  have hresponse : fsm.handlePairingResponse pairing = (fsm.setState peer .Trusted, none) := by
    rw [PairingFsm.handlePairingResponse, hpairing, hfsm.self, hpairingAcc]
    rfl
  have htrusted := (updated_setState .Trusted hfsm.self).self
  -- There is one active handshake, the one with `peer`.
  have hmodify : ∀ hs : HandshakeState, hs.peerNodeId = peer → ∀ f,
      Lib.KeyedList.modify HandshakeState.peerNodeId peer f [hs] = [f hs] := by
    intro hs hpeer f
    rw [Lib.KeyedList.modify, if_pos hpeer]
  have hpaired : paired.pairingMgr = fsm.setState peer .Trusted ∧ paired.activeHandshakes =
      [{ peerNodeId := peer, pairingDone := true, registrationDone := false }] := by
    simp only [paired, initiated, hinitiated, HandshakeOrchestrator.handlePairingResponse,
      HandshakeOrchestrator.modifyHandshake, hresponse, hpairing, currentState_of_some htrusted,
      if_true, hmodify, and_self]
  have hregistered : registered.pairingMgr = fsm.setState peer .Trusted ∧
      registered.activeHandshakes =
        [{ peerNodeId := peer, pairingDone := true, registrationDone := true }] := by
    simp only [registered, HandshakeOrchestrator.handleRegistrationResponse, hregistrationAcc,
      HandshakeOrchestrator.modifyHandshake, hregistration, hpaired, hmodify]
    simp
  have hcompletion : completion =
      registered.forceTransitions peer [.Registering, .Registered, .Member] := by
    simp [completion, HandshakeOrchestrator.completeHandshake, HandshakeOrchestrator.findHandshake,
      hregistered.2, Lib.KeyedList.find_cons]
  -- The path `completeHandshake` forces the peer along.
  have hpath : [PairingState.Trusted, .Registering, .Registered, .Member].IsChain
      fun s t => isTransitionValid s t = true := by decide
  obtain ⟨fsm', hforced, hdone⟩ := HandshakeOrchestrator.forceTransitions_of_isChain registered
    (hregistered.1 ▸ htrusted) hpath
  refine ⟨?_, ?_, ?_⟩
  · rw [hpaired.1]
    exact currentState_of_some htrusted
  · rw [hcompletion, hforced]
  · rw [hcompletion, hforced]
    exact hdone.currentState

end CrossFlow
