import CrossFlow.Core.Pairing.PairingFsm

/-!
# `CrossFlow.Proofs.Pairing.PairingFsm`: what each operation does to `findPeer`

The entry of the peer an operation is about is given by `Updated`, which also says that no other
peer's entry changes. There is one lemma for each operation: `initiatePairing_cases`,
`handlePairingRequest_accepts`, `handlePairingResponse_cases`, `forceTransition_cases`. From them,
for a call of any of the four:

* `call_frame`: no peer but the call's own is touched.
* `call_of_error`: a call that fails changes nothing.
-/

set_option autoImplicit false

namespace CrossFlow

namespace PairingFsm

/-! ### What the writes do to `findPeer` -/

/-- A peer that is found has the id it was looked up by. -/
theorem nodeId_of_findPeer {fsm : PairingFsm} {nid : NodeId} {p : PeerState}
    (h : fsm.findPeer nid = some p) : p.nodeId = nid :=
  Lib.KeyedList.key_of_find h

/-- The peer whose state is set. -/
theorem findPeer_setState_self (fsm : PairingFsm) (nid : NodeId) (state : PairingState) :
    (fsm.setState nid state).findPeer nid = (fsm.findPeer nid).map fun p => { p with state } := by
  unfold setState findPeer
  exact Lib.KeyedList.find_modify_self PeerState.nodeId (by simp) fsm.peers

/-- Setting a state leaves the other peers. -/
theorem findPeer_setState_ne (fsm : PairingFsm) {nid n : NodeId} (state : PairingState)
    (hn : n ≠ nid) : (fsm.setState nid state).findPeer n = fsm.findPeer n := by
  unfold setState findPeer
  exact Lib.KeyedList.find_modify_ne PeerState.nodeId (by simp) hn fsm.peers

/-- The peer whose code is set. -/
theorem findPeer_setPairingCode_self (fsm : PairingFsm) (nid : NodeId) (pairingCode : StdString) :
    (fsm.setPairingCode nid pairingCode).findPeer nid =
      (fsm.findPeer nid).map fun p => { p with pairingCode } := by
  unfold setPairingCode findPeer
  exact Lib.KeyedList.find_modify_self PeerState.nodeId (by simp) fsm.peers

/-- Setting a code leaves the other peers. -/
theorem findPeer_setPairingCode_ne (fsm : PairingFsm) {nid n : NodeId} (pairingCode : StdString)
    (hn : n ≠ nid) : (fsm.setPairingCode nid pairingCode).findPeer n = fsm.findPeer n := by
  unfold setPairingCode findPeer
  exact Lib.KeyedList.find_modify_ne PeerState.nodeId (by simp) hn fsm.peers

/-- A peer that is known is left as it is. -/
theorem ensurePeer_of_some {fsm : PairingFsm} {nid : NodeId} {p : PeerState}
    (state : PairingState) (h : fsm.findPeer nid = some p) : fsm.ensurePeer nid state = fsm := by
  rw [ensurePeer, h]

/-- A peer that is not known is added. -/
theorem findPeer_ensurePeer_of_none {fsm : PairingFsm} {nid : NodeId} (state : PairingState)
    (h : fsm.findPeer nid = none) :
    (fsm.ensurePeer nid state).findPeer nid = some { nodeId := nid, state, pairingCode := [] } := by
  rw [ensurePeer, h]
  exact Lib.KeyedList.find_append_self PeerState.nodeId (by rfl) h

/-- Adding a peer leaves the others. -/
theorem findPeer_ensurePeer_ne (fsm : PairingFsm) {nid n : NodeId} (state : PairingState)
    (hn : n ≠ nid) : (fsm.ensurePeer nid state).findPeer n = fsm.findPeer n := by
  unfold ensurePeer
  split
  · rfl
  · exact Lib.KeyedList.find_append_ne PeerState.nodeId (Ne.symm hn)

/-- The state of a peer that is known. -/
theorem currentState_of_some {fsm : PairingFsm} {nid : NodeId} {p : PeerState}
    (h : fsm.findPeer nid = some p) : fsm.currentState nid = p.state := by
  rw [currentState, h]

/-- The state is read from the peer. -/
theorem currentState_congr {fsm fsm' : PairingFsm} {nid : NodeId}
    (h : fsm'.findPeer nid = fsm.findPeer nid) : fsm'.currentState nid = fsm.currentState nid := by
  rw [currentState, h, currentState]

/-! ### One lemma for each operation -/

/-- The peer entry is the one given, and every other peer's is as before. -/
structure Updated (fsm : PairingFsm) (nid : NodeId) (p : PeerState) (fsm' : PairingFsm) : Prop where
  self : fsm'.findPeer nid = some p
  frame : ∀ n, n ≠ nid → fsm'.findPeer n = fsm.findPeer n

/-- Setting a state updates one peer. -/
theorem updated_setState {fsm : PairingFsm} {nid : NodeId} {p : PeerState} (state : PairingState)
    (h : fsm.findPeer nid = some p) :
    Updated fsm nid { p with state } (fsm.setState nid state) where
  self := by rw [findPeer_setState_self, h, Option.map_some]
  frame n hn := fsm.findPeer_setState_ne state hn

/-- Adding a peer updates one peer. -/
theorem updated_ensurePeer (fsm : PairingFsm) (nid : NodeId) (state : PairingState) :
    Updated fsm nid ((fsm.findPeer nid).getD { nodeId := nid, state, pairingCode := [] })
      (fsm.ensurePeer nid state) where
  self := by
    cases h : fsm.findPeer nid with
    | some p => rw [ensurePeer_of_some state h, h, Option.getD_some]
    | none => rw [findPeer_ensurePeer_of_none state h, Option.getD_none]
  frame n hn := fsm.findPeer_ensurePeer_ne state hn

/-- The states `initiatePairing` starts from. -/
def CanInitiate (state : PairingState) : Prop :=
  state = .Discovered ∨ state = .Untrusted ∨ state = .Pairing

/-- From every state but discovered, a pairing is a valid transition where one can be initiated. -/
theorem isTransitionValid_pairing {state : PairingState} (hne : state ≠ .Discovered) :
    isTransitionValid state .Pairing = true ↔ CanInitiate state := by
  cases state <;> simp_all [isTransitionValid, CanInitiate]

/-- An update followed by setting a state is an update. -/
theorem Updated.setState {fsm fsm' : PairingFsm} {nid : NodeId} {p : PeerState}
    (h : Updated fsm nid p fsm') (state : PairingState) :
    Updated fsm nid { p with state } (fsm'.setState nid state) where
  self := by rw [findPeer_setState_self, h.self, Option.map_some]
  frame n hn := (fsm'.findPeer_setState_ne state hn).trans (h.frame n hn)

/-- An update followed by setting a code is an update. -/
theorem Updated.setPairingCode {fsm fsm' : PairingFsm} {nid : NodeId} {p : PeerState}
    (h : Updated fsm nid p fsm') (pairingCode : StdString) :
    Updated fsm nid { p with pairingCode } (fsm'.setPairingCode nid pairingCode) where
  self := by rw [findPeer_setPairingCode_self, h.self, Option.map_some]
  frame n hn := (fsm'.findPeer_setPairingCode_ne pairingCode hn).trans (h.frame n hn)

/-- Leaving a peer as it is is an update. -/
theorem Updated.refl {fsm : PairingFsm} {nid : NodeId} {p : PeerState}
    (h : fsm.findPeer nid = some p) : Updated fsm nid p fsm := ⟨h, fun _ _ => rfl⟩

/-- The state of a peer that was updated. -/
theorem Updated.currentState {fsm fsm' : PairingFsm} {nid : NodeId} {p : PeerState}
    (h : Updated fsm nid p fsm') : fsm'.currentState nid = p.state :=
  currentState_of_some h.self

/-- The entry of a peer once it is ensured has the state the peer had. -/
theorem ensurePeer_discovered (fsm : PairingFsm) (nid : NodeId) :
    ∃ p, Updated fsm nid p (fsm.ensurePeer nid .Discovered) ∧ p.nodeId = nid ∧
      p.state = fsm.currentState nid := by
  refine ⟨_, updated_ensurePeer fsm nid .Discovered, ?_, ?_⟩
  · cases h : fsm.findPeer nid with
    | some p => exact nodeId_of_findPeer h
    | none => rfl
  · cases h : fsm.findPeer nid with
    | some p => exact (currentState_of_some h).symm
    | none => rw [PairingFsm.currentState, h, Option.getD_none]

/-- `initiatePairing` either enters `Pairing` with the code, or fails and changes nothing. It fails
without a code, and from a state that does not lead to `Pairing`. -/
theorem initiatePairing_cases (fsm : PairingFsm) (nid : NodeId) (code : StdString) :
    ((fsm.initiatePairing nid code).2 = none ∧ code ≠ [] ∧ CanInitiate (fsm.currentState nid) ∧
      Updated fsm nid { nodeId := nid, state := .Pairing, pairingCode := code }
        (fsm.initiatePairing nid code).1) ∨
    ((fsm.initiatePairing nid code).2 ≠ none ∧ (fsm.initiatePairing nid code).1 = fsm ∧
      (code = [] ∨ ¬ CanInitiate (fsm.currentState nid))) := by
  unfold initiatePairing
  by_cases hcode : code = []
  · rw [if_pos hcode]
    exact .inr ⟨Option.some_ne_none _, rfl, .inl hcode⟩
  obtain ⟨p, hp, hnode, hstate⟩ := ensurePeer_discovered fsm nid
  rw [if_neg hcode]
  dsimp only
  rw [hp.currentState, hstate]
  by_cases hdisc : fsm.currentState nid = .Discovered
  · -- `Discovered` becomes `Untrusted` first, from where `Pairing` is an edge.
    have huntrusted := hp.setState .Untrusted
    rw [if_pos hdisc, huntrusted.currentState]
    have hdone := (huntrusted.setState .Pairing).setPairingCode code
    exact .inl ⟨rfl, hcode, .inl hdisc, hnode ▸ hdone⟩
  · rw [if_neg hdisc, hp.currentState, hstate]
    -- An unknown peer counts as `Discovered`, so this one is known and `ensurePeer` adds nothing.
    have hsome : ∃ q, fsm.findPeer nid = some q := by
      cases h : fsm.findPeer nid with
      | some q => exact ⟨q, rfl⟩
      | none => exact absurd (by rw [PairingFsm.currentState, h]) hdisc
    obtain ⟨q, hq⟩ := hsome
    by_cases hvalid : isTransitionValid (fsm.currentState nid) .Pairing = true
    · have hdone := (hp.setState .Pairing).setPairingCode code
      rw [hvalid]
      exact .inl ⟨rfl, hcode, (isTransitionValid_pairing hdisc).mp hvalid, hnode ▸ hdone⟩
    · have hstuck := mt (isTransitionValid_pairing hdisc).mpr hvalid
      rw [Bool.eq_false_iff.mpr hvalid, ensurePeer_of_some .Discovered hq]
      exact .inr ⟨Option.some_ne_none _, rfl, .inr hstuck⟩

/-- A pairing request with a code is always accepted, and makes its sender `Trusted`. -/
theorem handlePairingRequest_accepts (fsm : PairingFsm) (request : PairingRequest)
    (hcode : request.pairingCode ≠ []) :
    Updated fsm request.requesterNodeId
        { (fsm.findPeer request.requesterNodeId).getD
            { nodeId := request.requesterNodeId, state := .Untrusted, pairingCode := [] } with
          state := .Trusted }
        (fsm.handlePairingRequest request).1 ∧
      (fsm.handlePairingRequest request).2 =
        .ok
          { responderNodeId := request.requesterNodeId
            accepted := true
            identity := none
            fence := request.fence } := by
  have hdone := (updated_ensurePeer fsm request.requesterNodeId .Untrusted).setState .Trusted
  rw [handlePairingRequest, if_neg hcode]
  exact ⟨hdone, rfl⟩

/-- A request without a code is refused and changes nothing. -/
theorem handlePairingRequest_empty (fsm : PairingFsm) (request : PairingRequest)
    (hcode : request.pairingCode = []) :
    fsm.handlePairingRequest request = (fsm, .error .PairCodeMismatch) := by
  rw [handlePairingRequest, if_pos hcode]

/-- A response fails for an unknown peer, and for an accepted one where `Trusted` is no edge. -/
theorem handlePairingResponse_cases (fsm : PairingFsm) (response : PairingResponse) :
    ((fsm.handlePairingResponse response).2 ≠ none ∧
      (fsm.handlePairingResponse response).1 = fsm ∧
      (fsm.findPeer response.responderNodeId = none ∨ response.accepted = true ∧
        isTransitionValid (fsm.currentState response.responderNodeId) .Trusted = false)) ∨
    ∃ p, fsm.findPeer response.responderNodeId = some p ∧
      (fsm.handlePairingResponse response).2 = none ∧
      ((response.accepted = false ∧ Updated fsm response.responderNodeId
          { p with state := .Rejected } (fsm.handlePairingResponse response).1) ∨
        (response.accepted = true ∧ isTransitionValid p.state .Trusted = true ∧
          Updated fsm response.responderNodeId { p with state := .Trusted }
            (fsm.handlePairingResponse response).1)) := by
  unfold handlePairingResponse
  cases hp : fsm.findPeer response.responderNodeId with
  | none => exact .inl ⟨Option.some_ne_none _, rfl, .inl rfl⟩
  | some p =>
    dsimp only
    cases hacc : response.accepted with
    | false => exact .inr ⟨p, rfl, rfl, .inl ⟨rfl, updated_setState .Rejected hp⟩⟩
    | true =>
      cases hvalid : isTransitionValid p.state .Trusted with
      -- Accepted, but `Trusted` is no edge from the peer's state.
      | false =>
        rw [← currentState_of_some hp] at hvalid
        exact .inl ⟨Option.some_ne_none _, rfl, .inr ⟨rfl, hvalid⟩⟩
      | true => exact .inr ⟨p, rfl, rfl, .inr ⟨rfl, hvalid, updated_setState .Trusted hp⟩⟩

/-- `forceTransition` follows an edge, or fails and changes nothing. -/
theorem forceTransition_cases (fsm : PairingFsm) (nid : NodeId) (newState : PairingState) :
    ((fsm.forceTransition nid newState).2 ≠ none ∧ (fsm.forceTransition nid newState).1 = fsm) ∨
    ∃ p, fsm.findPeer nid = some p ∧ isTransitionValid p.state newState = true ∧
      (fsm.forceTransition nid newState).2 = none ∧
      Updated fsm nid { p with state := newState } (fsm.forceTransition nid newState).1 := by
  unfold forceTransition
  cases hp : fsm.findPeer nid with
  | none => exact .inl ⟨Option.some_ne_none _, rfl⟩
  | some p =>
    dsimp only
    cases hvalid : isTransitionValid p.state newState with
    | false => exact .inl ⟨Option.some_ne_none _, rfl⟩
    | true => exact .inr ⟨p, rfl, hvalid, rfl, updated_setState newState hp⟩

/-! ### Any call -/

/-- A call leaves the peers it is not about. -/
theorem call_frame (fsm : PairingFsm) (c : PairingCall) {n : NodeId} (hn : n ≠ c.peer) :
    (fsm.call c).1.findPeer n = fsm.findPeer n := by
  cases c with
  | initiatePairing nid code =>
    show (fsm.initiatePairing nid code).1.findPeer n = fsm.findPeer n
    rcases fsm.initiatePairing_cases nid code with ⟨-, -, -, h⟩ | ⟨-, h, -⟩
    · exact h.frame n hn
    · rw [h]
  | handlePairingRequest request =>
    show (fsm.handlePairingRequest request).1.findPeer n = fsm.findPeer n
    by_cases hcode : request.pairingCode = []
    -- Refused without a code; with one only the requester's entry is written.
    · rw [fsm.handlePairingRequest_empty request hcode]
    · exact (fsm.handlePairingRequest_accepts request hcode).1.frame n hn
  | handlePairingResponse response =>
    show (fsm.handlePairingResponse response).1.findPeer n = fsm.findPeer n
    rcases fsm.handlePairingResponse_cases response with
      ⟨-, h, -⟩ | ⟨p, -, -, ⟨-, h⟩ | ⟨-, -, h⟩⟩
    · rw [h]
    · exact h.frame n hn
    · exact h.frame n hn
  | forceTransition nid newState =>
    show (fsm.forceTransition nid newState).1.findPeer n = fsm.findPeer n
    rcases fsm.forceTransition_cases nid newState with ⟨-, h⟩ | ⟨p, -, -, -, h⟩
    · rw [h]
    · exact h.frame n hn

/-- A call that fails changes nothing. -/
theorem call_of_error (fsm : PairingFsm) (c : PairingCall) (herr : (fsm.call c).2 ≠ none) :
    (fsm.call c).1 = fsm := by
  cases c with
  | initiatePairing nid code =>
    rcases fsm.initiatePairing_cases nid code with ⟨hok, -⟩ | ⟨-, h, -⟩
    · exact absurd hok herr
    · exact h
  | handlePairingRequest request =>
    by_cases hcode : request.pairingCode = []
    · show (fsm.handlePairingRequest request).1 = fsm
      rw [fsm.handlePairingRequest_empty request hcode]
    -- A request with a code never fails.
    · have hok := (fsm.handlePairingRequest_accepts request hcode).2
      exact absurd (congrArg errorOf hok) herr
  | handlePairingResponse response =>
    rcases fsm.handlePairingResponse_cases response with ⟨-, h, -⟩ | ⟨p, -, hok, -⟩
    · exact h
    · exact absurd hok herr
  | forceTransition nid newState =>
    rcases fsm.forceTransition_cases nid newState with ⟨-, h⟩ | ⟨p, -, -, hok, -⟩
    · exact h
    · exact absurd hok herr

end PairingFsm

end CrossFlow
