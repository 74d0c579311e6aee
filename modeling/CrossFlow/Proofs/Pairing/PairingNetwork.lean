import CrossFlow.Core.Pairing.PairingNetwork
import CrossFlow.Proofs.Pairing.HandshakeSteps

/-!
# `CrossFlow.Proofs.Pairing.PairingNetwork`: whom the nodes come to trust

Every answer carries the requester's own id as `responderNodeId`, and goes to the requester. So a
node that gets an answer looks for itself among its peers, whatever the network did to the messages
on the way.

* `answers_name_the_receiver`: the invariant of the nodes and of the messages.
* `nobody_is_trusted`: so no run makes a node trust another one or complete a handshake with it.
-/

set_option autoImplicit false

namespace CrossFlow

open PairingFsm

/-- An answer names the node that it goes to. Nothing is said of the requests. -/
def PairingPacket.NamesReceiver (node : NodeId) : PairingPacket → Prop
  | .pairingResponse response => response.responderNodeId = node
  | .registrationResponse response => response.responderNodeId = node
  | .pairingRequest _ | .registrationRequest _ => True

/-- The states a peer may be in without an answer of it. -/
def PairingState.BeforeAnswer (s : PairingState) : Prop :=
  s = .Discovered ∨ s = .Untrusted ∨ s = .Pairing ∨ s = .Trusted

/-- What a node knows about a peer that has never answered it. A request of the peer may have made
it `Trusted` in the pairing state. -/
structure HandshakeOrchestrator.Unanswered (o : HandshakeOrchestrator) (peer : NodeId) : Prop where
  state : (o.pairingMgr.currentState peer).BeforeAnswer
  pairingDone : o.pairingDone peer = false
  registrationDone : o.registrationDone peer = false
  untrusted : o.trustedList.find peer = none

namespace HandshakeOrchestrator

/-- At the start no peer was answered. -/
theorem unanswered_init (m : NodeIdentityManager) (peer : NodeId) :
    (HandshakeOrchestrator.init m).Unanswered peer where
  state := .inl rfl
  pairingDone := rfl
  registrationDone := rfl
  untrusted := rfl

/-- It depends on what the node knows about the peer, and on nothing else. -/
theorem Unanswered.of_stateFor {o o' : HandshakeOrchestrator} {peer : NodeId}
    (h : o.Unanswered peer) (hsame : o'.stateFor peer = o.stateFor peer) : o'.Unanswered peer := by
  simp only [stateFor, Prod.mk.injEq] at hsame
  obtain ⟨hfsm, hflags, htrust, -⟩ := hsame
  constructor
  · rw [currentState_congr hfsm]
    exact h.state
  · rw [HandshakeOrchestrator.pairingDone, hflags]
    exact h.pairingDone
  · rw [HandshakeOrchestrator.registrationDone, hflags]
    exact h.registrationDone
  · rw [htrust]
    exact h.untrusted

/-- Two calls of `initiateHandshake` leave the flags of the first. -/
theorem Unanswered.initiateHandshake {o : HandshakeOrchestrator} {nid : NodeId}
    (h : o.Unanswered nid) (code : StdString) :
    (o.initiateHandshake nid code).1.Unanswered nid := by
  rcases o.initiateHandshake_cases nid code with hsame | ⟨-, hfsm, hflags, -, htrust, -⟩
  · rw [hsame]
    exact h
  · have hpairing := h.pairingDone
    have hregistration := h.registrationDone
    constructor
    · rw [hfsm.currentState]
      exact .inr (.inr (.inl rfl))
    · rw [HandshakeOrchestrator.pairingDone, hflags]
      -- A handshake that is found again keeps its flags, and a new one has none.
      cases hfind : o.findHandshake nid with
      | none => rfl
      | some hs =>
        rw [HandshakeOrchestrator.pairingDone, hfind] at hpairing
        exact hpairing
    · rw [HandshakeOrchestrator.registrationDone, hflags]
      cases hfind : o.findHandshake nid with
      | none => rfl
      | some hs =>
        rw [HandshakeOrchestrator.registrationDone, hfind] at hregistration
        exact hregistration
    · rw [htrust]
      exact h.untrusted

/-- A request can make the requester `Trusted` in the pairing state, and nothing more. -/
theorem Unanswered.handlePairingRequest {o : HandshakeOrchestrator} {request : PairingRequest}
    (h : o.Unanswered request.requesterNodeId) :
    (o.handlePairingRequest request).1.Unanswered request.requesterNodeId := by
  have hstate : ((o.handlePairingRequest request).1.pairingMgr.currentState
      request.requesterNodeId).BeforeAnswer := by
    show ((o.pairingMgr.handlePairingRequest request).1.currentState _).BeforeAnswer
    -- A request without a code is refused.
    by_cases hcode : request.pairingCode = []
    · rw [handlePairingRequest_empty _ _ hcode]
      exact h.state
    · rw [(handlePairingRequest_accepts _ _ hcode).1.currentState]
      exact .inr (.inr (.inr rfl))
  exact
    { state := hstate
      pairingDone := h.pairingDone
      registrationDone := h.registrationDone
      untrusted := h.untrusted }

/-- A handshake that is not done cannot be completed. -/
theorem Unanswered.completeHandshake {o : HandshakeOrchestrator} {nid : NodeId}
    (h : o.Unanswered nid) :
    (o.completeHandshake nid).2 ≠ none ∧ (o.completeHandshake nid).1 = o := by
  rcases o.completeHandshake_cases nid with hfails | ⟨-, ⟨hs, hfind, hdone, -⟩, -⟩
  · exact hfails
  · have hpairing := h.pairingDone
    rw [HandshakeOrchestrator.pairingDone, hfind, Option.any_some, hdone] at hpairing
    exact absurd hpairing (by decide)

/-- A rollback answers no one. -/
theorem Unanswered.rollbackHandshake {o : HandshakeOrchestrator} {nid : NodeId}
    (h : o.Unanswered nid) : (o.rollbackHandshake nid).1.Unanswered nid := by
  obtain ⟨hstate, -, -, hflags, -, htrust, -⟩ := o.rollbackHandshake_effect nid
  constructor
  · rw [hstate]
    rcases h.state with h | h | h | h <;> rw [h]
    · exact .inl rfl
    · exact .inr (.inl rfl)
    · exact .inl rfl
    · exact .inl rfl
  · rw [HandshakeOrchestrator.pairingDone, hflags]
    cases o.findHandshake nid <;> rfl
  · rw [HandshakeOrchestrator.registrationDone, hflags]
    cases o.findHandshake nid <;> rfl
  · rw [htrust]
    exact o.trustedList.find_remove_self nid

/-- What a node does about one peer keeps what it knows about all other peers. -/
theorem unanswered_step {o : HandshakeOrchestrator} {node : NodeId} (c : HandshakeCall)
    (h : ∀ peer, peer ≠ node → o.Unanswered peer)
    (hself : c.peer ≠ node → (o.step c).Unanswered c.peer) :
    ∀ peer, peer ≠ node → (o.step c).Unanswered peer := by
  intro peer hpeer
  -- A call is about one peer, and leaves what is known about the others.
  by_cases heq : peer = c.peer
  · subst heq
    exact hself hpeer
  · exact (h peer hpeer).of_stateFor (o.step_frame c heq)

end HandshakeOrchestrator

/-! ### Runs -/

/-- The two handlers answer to the node that the answer names. -/
theorem namesReceiver_answerTo {α : Type} {node : NodeId} {packet : α → PairingPacket}
    {answer : Except ErrorCode α}
    (h : ∀ response, answer = .ok response → (packet response).NamesReceiver node) (n : NodeId)
    (m : PairingPacket) (hm : (n, m) ∈ answerTo node packet answer) : m.NamesReceiver n := by
  cases answer with
  | error _ => exact absurd hm List.not_mem_nil
  | ok response =>
    obtain ⟨rfl, rfl⟩ := Prod.mk.inj (List.mem_singleton.mp hm)
    exact h response rfl

/-- In every run each answer on its way names the node it goes to, and no node has an answer of
another one. -/
theorem answers_name_the_receiver (identityMgr : NodeId → NodeIdentityManager) :
    (pairingProtocol identityMgr).network.Invariant
      (Lib.Protocol.Holds (fun node o => ∀ peer, peer ≠ node → o.Unanswered peer)
        fun node m => m.NamesReceiver node) := by
  refine Lib.Protocol.nodes_and_packets_run ?_ ?_ ?_
  · exact fun node peer _ => HandshakeOrchestrator.unanswered_init (identityMgr node) peer
  -- A node sends requests of its own accord, and no answers.
  · intro node o a ho
    cases a with
    | initiateHandshake peerNodeId pairingCode fence =>
      have hkeeps := HandshakeOrchestrator.unanswered_step
        (.initiateHandshake peerNodeId pairingCode) ho
        fun hne => (ho peerNodeId hne).initiateHandshake pairingCode
      show (∀ peer, _ → (HandshakeOrchestrator.input node o _).1.Unanswered peer) ∧ _
      simp only [HandshakeOrchestrator.step, pairingProtocol, HandshakeOrchestrator.input]
        at hkeeps ⊢
      split
      · rename_i o' _ hcall
        rw [hcall] at hkeeps
        exact ⟨hkeeps, fun n m hm => absurd hm List.not_mem_nil⟩
      · rename_i o' hcall
        rw [hcall] at hkeeps
        refine ⟨hkeeps, ?_⟩
        intro n m hm
        obtain ⟨rfl, rfl⟩ := Prod.mk.inj (List.mem_singleton.mp hm)
        trivial
    | requestRegistration peerNodeId request =>
      refine ⟨ho, ?_⟩
      intro n m hm
      obtain ⟨rfl, rfl⟩ := Prod.mk.inj (List.mem_singleton.mp hm)
      trivial
    | completeHandshake peerNodeId =>
      refine ⟨?_, fun n m hm => absurd hm List.not_mem_nil⟩
      refine HandshakeOrchestrator.unanswered_step (.completeHandshake peerNodeId) ho fun hne => ?_
      show (o.completeHandshake peerNodeId).1.Unanswered peerNodeId
      rw [(ho peerNodeId hne).completeHandshake.2]
      exact ho peerNodeId hne
    | rollbackHandshake peerNodeId =>
      refine ⟨?_, fun n m hm => absurd hm List.not_mem_nil⟩
      exact HandshakeOrchestrator.unanswered_step (.rollbackHandshake peerNodeId) ho
        fun hne => (ho peerNodeId hne).rollbackHandshake
  -- An answer names the node that gets it, so it says nothing about another one.
  · intro node o m now ho hm
    cases m with
    | pairingRequest request =>
      constructor
      · exact HandshakeOrchestrator.unanswered_step (.handlePairingRequest request) ho
          fun hne => (ho request.requesterNodeId hne).handlePairingRequest
      · refine namesReceiver_answerTo fun response hresponse => ?_
        show response.responderNodeId = request.requesterNodeId
        have hanswer : (o.pairingMgr.handlePairingRequest request).2 = .ok response := hresponse
        rw [PairingFsm.handlePairingRequest] at hanswer
        split at hanswer
        · cases hanswer
        · cases hanswer
          rfl
    | pairingResponse response =>
      refine ⟨?_, fun n m hm => absurd hm List.not_mem_nil⟩
      exact HandshakeOrchestrator.unanswered_step (.handlePairingResponse now response) ho
        fun hne => absurd hm hne
    | registrationRequest request =>
      constructor
      · refine HandshakeOrchestrator.unanswered_step (.handleRegistrationRequest now request) ho
          fun hne => ?_
        have hpeer := ho request.identity.nodeId hne
        exact
          { state := hpeer.state
            pairingDone := hpeer.pairingDone
            registrationDone := hpeer.registrationDone
            untrusted := hpeer.untrusted }
      · refine namesReceiver_answerTo fun response hresponse => ?_
        show response.responderNodeId = request.identity.nodeId
        have hanswer : (o.regMgr.handleRegistrationRequest now request).2 = .ok response :=
          hresponse
        unfold RegistrationManager.handleRegistrationRequest at hanswer
        split at hanswer
        · cases hanswer
        · split at hanswer
          · cases hanswer
          · cases hanswer
            rfl
    | registrationResponse response =>
      refine ⟨?_, fun n m hm => absurd hm List.not_mem_nil⟩
      exact HandshakeOrchestrator.unanswered_step (.handleRegistrationResponse response) ho
        fun hne => absurd hm hne

/-- In every run of any number of nodes, over a network that may lose, delay, repeat and reorder
the messages, a node has no other node in its trusted-node list, is done with no handshake with
another node, and cannot complete one; in the pairing state no other node gets past `Trusted`. -/
theorem nobody_is_trusted (identityMgr : NodeId → NodeIdentityManager)
    (acts : List (Lib.NetworkAction NodeId PairingInput UInt64)) (node peer : NodeId)
    (hpeer : peer ≠ node) :
    let o := ((pairingProtocol identityMgr).network.run acts).nodes node
    o.trustedList.isTrusted peer = false ∧ o.isHandshakeComplete peer = false ∧
      (o.completeHandshake peer).2 ≠ none ∧ (o.pairingMgr.currentState peer).BeforeAnswer := by
  intro o
  have hpeer := (answers_name_the_receiver identityMgr acts).node node peer hpeer
  refine ⟨?_, ?_, hpeer.completeHandshake.1, hpeer.state⟩
  · rw [TrustedNodeList.isTrusted, hpeer.untrusted]
    rfl
  · have hdone := hpeer.pairingDone
    rw [HandshakeOrchestrator.pairingDone] at hdone
    unfold HandshakeOrchestrator.isHandshakeComplete
    -- There is no handshake, or one in which the pairing is not done.
    cases hfind : o.findHandshake peer with
    | none => rfl
    | some hs =>
      rw [hfind, Option.any_some] at hdone
      show (hs.pairingDone && hs.registrationDone) = false
      rw [hdone, Bool.false_and]

/-- The first node asks the second to pair, which answers; the answer comes twice. -/
theorem nobody_is_trusted_twice_answered :
    let first : NodeId := { high := 1, low := 1 }
    let second : NodeId := { high := 2, low := 2 }
    let o := ((pairingProtocol fun _ => { identity := none }).network.run
      [.input first (.initiateHandshake second (StdString.lit "482913") (.newSession first)),
        .deliver 0 5, .deliver 1 6, .deliver 1 7]).nodes first
    o.trustedList.isTrusted second = false ∧ o.isHandshakeComplete second = false ∧
      (o.completeHandshake second).2 ≠ none ∧ (o.pairingMgr.currentState second).BeforeAnswer :=
  nobody_is_trusted _ _ _ _ (by decide)

end CrossFlow
