import CrossFlow.Proofs.Pairing.PairingFsm
import CrossFlow.Proofs.Pairing.Registration

/-!
# `CrossFlow.Proofs.Pairing.HandshakeSteps`: what each call does to the stores

One lemma for each operation of the orchestrator: `initiateHandshake_cases`,
`handlePairingResponse_cases`, `rollbackHandshake_effect`, `completeHandshake_cases`. Each says what
becomes of the pairing state, the flags, the trusted-node list and the registrations.

* `step_frame`: a call changes nothing about any peer but its own.
-/

set_option autoImplicit false

namespace CrossFlow

open PairingFsm

namespace TrustedNodeList

/-- An entry that was added is found. -/
theorem find_add_self (l : TrustedNodeList) (entry : TrustedNodeEntry) :
    (l.add entry).find entry.nodeId = some entry := by
  unfold add find
  cases h : Lib.KeyedList.find TrustedNodeEntry.nodeId entry.nodeId l.entries with
  | some old =>
    dsimp only
    rw [Lib.KeyedList.find_modify_self TrustedNodeEntry.nodeId (fun _ _ => rfl), h]
    rfl
  | none => exact Lib.KeyedList.find_append_self TrustedNodeEntry.nodeId rfl h

/-- Adding an entry leaves the others. -/
theorem find_add_ne (l : TrustedNodeList) (entry : TrustedNodeEntry) {n : NodeId}
    (hn : n ≠ entry.nodeId) : (l.add entry).find n = l.find n := by
  unfold add find
  cases Lib.KeyedList.find TrustedNodeEntry.nodeId entry.nodeId l.entries with
  | some old =>
    exact Lib.KeyedList.find_modify_ne TrustedNodeEntry.nodeId (fun _ _ => rfl) hn l.entries
  | none => exact Lib.KeyedList.find_append_ne TrustedNodeEntry.nodeId hn.symm

/-- A node that was removed is not found. -/
theorem find_remove_self (l : TrustedNodeList) (n : NodeId) : (l.remove n).find n = none :=
  Lib.KeyedList.find_erase_self TrustedNodeEntry.nodeId l.entries

/-- Removing a node leaves the others. -/
theorem find_remove_ne (l : TrustedNodeList) {n n' : NodeId} (hn : n' ≠ n) :
    (l.remove n).find n' = l.find n' :=
  Lib.KeyedList.find_erase_ne TrustedNodeEntry.nodeId hn l.entries

end TrustedNodeList

/-- The peer has an entry. -/
def PairingFsm.Knows (fsm : PairingFsm) (nid : NodeId) : Prop := ∃ p, fsm.findPeer nid = some p

namespace HandshakeOrchestrator

/-- The flag `pairingDone` of the handshake with the peer. -/
def pairingDone (o : HandshakeOrchestrator) (nid : NodeId) : Bool :=
  (o.findHandshake nid).any HandshakeState.pairingDone

/-- The flag `registrationDone` of the handshake with the peer. -/
def registrationDone (o : HandshakeOrchestrator) (nid : NodeId) : Bool :=
  (o.findHandshake nid).any HandshakeState.registrationDone

/-- A handshake that was changed is found as it was changed. -/
theorem findHandshake_modify_self (o : HandshakeOrchestrator) (nid : NodeId)
    {f : HandshakeState → HandshakeState} (hf : ∀ hs, (f hs).peerNodeId = hs.peerNodeId) :
    (o.modifyHandshake nid f).findHandshake nid = (o.findHandshake nid).map f :=
  Lib.KeyedList.find_modify_self HandshakeState.peerNodeId (fun hs h => (hf hs).trans h)
    o.activeHandshakes

/-- Changing a handshake leaves the others. -/
theorem findHandshake_modify_ne (o : HandshakeOrchestrator) {nid n : NodeId}
    {f : HandshakeState → HandshakeState} (hf : ∀ hs, (f hs).peerNodeId = hs.peerNodeId)
    (hn : n ≠ nid) : (o.modifyHandshake nid f).findHandshake n = o.findHandshake n :=
  Lib.KeyedList.find_modify_ne HandshakeState.peerNodeId (fun hs h => (hf hs).trans h) hn
    o.activeHandshakes

/-- Setting `registrationDone` leaves `pairingDone` as it is. -/
theorem pairingDone_setRegistrationDone (o : HandshakeOrchestrator) (nid : NodeId) :
    (o.modifyHandshake nid fun hs => { hs with registrationDone := true }).pairingDone nid =
      o.pairingDone nid := by
  have hself := o.findHandshake_modify_self nid
    (f := fun hs => { hs with registrationDone := true }) fun hs => rfl
  rw [pairingDone, hself, pairingDone]
  cases o.findHandshake nid <;> rfl

/-- Setting `registrationDone` sets it where there is a handshake. -/
theorem registrationDone_setRegistrationDone {o : HandshakeOrchestrator} {nid : NodeId}
    (hdone : o.pairingDone nid = true) :
    (o.modifyHandshake nid fun hs => { hs with registrationDone := true }).registrationDone nid =
      true := by
  obtain ⟨hs, hfind, -⟩ := (Option.any_eq_true _ _).mp hdone
  have hself := o.findHandshake_modify_self nid
    (f := fun hs => { hs with registrationDone := true }) fun hs => rfl
  rw [registrationDone, hself, hfind]
  rfl

/-- The handshake `initiateHandshake` starts with. -/
def freshHandshake (nid : NodeId) : HandshakeState where
  peerNodeId := nid
  pairingDone := false
  registrationDone := false

/-- `initiateHandshake` enters `Pairing`, and a handshake already active keeps its flags; or it
fails and changes nothing. -/
theorem initiateHandshake_cases (o : HandshakeOrchestrator) (nid : NodeId) (code : StdString) :
    let o' := (o.initiateHandshake nid code).1
    o' = o ∨
    (CanInitiate (o.pairingMgr.currentState nid) ∧
      Updated o.pairingMgr nid { nodeId := nid, state := .Pairing, pairingCode := code }
        o'.pairingMgr ∧
      o'.findHandshake nid = some ((o.findHandshake nid).getD (freshHandshake nid)) ∧
      (∀ n, n ≠ nid → o'.findHandshake n = o.findHandshake n) ∧
      o'.trustedList = o.trustedList ∧ o'.regMgr = o.regMgr) := by
  intro o'
  rcases o.pairingMgr.initiatePairing_cases nid code with ⟨hok, -, hcan, hdone⟩ | ⟨herr, hsame, -⟩
  · have hpairing : o.pairingMgr.initiatePairing nid code =
        ((o.pairingMgr.initiatePairing nid code).1, none) := Prod.ext rfl hok
    right
    cases hfind : o.findHandshake nid with
    | some hs =>
      -- The handshake is active already, with the flags it has.
      have ho' : o' = { o with pairingMgr := (o.pairingMgr.initiatePairing nid code).1 } := by
        show (o.initiateHandshake nid code).1 = _
        rw [initiateHandshake, hpairing, hfind]
      rw [ho']
      exact ⟨hcan, hdone, hfind, fun n _ => rfl, rfl, rfl⟩
    | none =>
      have ho' : o' = { o with
          pairingMgr := (o.pairingMgr.initiatePairing nid code).1
          activeHandshakes := o.activeHandshakes ++ [freshHandshake nid] } := by
        show (o.initiateHandshake nid code).1 = _
        rw [initiateHandshake, hpairing, hfind]
        rfl
      rw [ho']
      refine ⟨hcan, hdone, ?_, ?_, rfl, rfl⟩
      · exact Lib.KeyedList.find_append_self HandshakeState.peerNodeId rfl hfind
      · intro n hn
        exact Lib.KeyedList.find_append_ne HandshakeState.peerNodeId (Ne.symm hn)
  · -- Without an entry in the pairing state there is nothing to start.
    left
    have hpairing : ∃ err, o.pairingMgr.initiatePairing nid code = (o.pairingMgr, some err) := by
      obtain ⟨err, herr⟩ := Option.ne_none_iff_exists'.mp herr
      exact ⟨err, Prod.ext hsame herr⟩
    obtain ⟨err, hpairing⟩ := hpairing
    show (o.initiateHandshake nid code).1 = o
    rw [initiateHandshake, hpairing]

/-- A pairing response that succeeds sets the pairing flag, whether it accepts or rejects; it puts
the peer on the trusted-node list when it accepts. One that fails changes nothing. -/
theorem handlePairingResponse_cases (o : HandshakeOrchestrator) (now : UInt64)
    (response : PairingResponse) :
    let nid := response.responderNodeId
    let o' := (o.handlePairingResponse now response).1
    ((o.handlePairingResponse now response).2 ≠ none ∧ o' = o ∧
      (o.pairingMgr.findPeer nid = none ∨ response.accepted = true ∧
        isTransitionValid (o.pairingMgr.currentState nid) .Trusted = false)) ∨
    ((o.handlePairingResponse now response).2 = none ∧
      (o'.findHandshake nid = (o.findHandshake nid).map fun hs => { hs with pairingDone := true }) ∧
      (∀ n, n ≠ nid → o'.findHandshake n = o.findHandshake n) ∧ o'.regMgr = o.regMgr ∧
      ∃ p, o.pairingMgr.findPeer nid = some p ∧
        ((response.accepted = false ∧ Updated o.pairingMgr nid { p with state := .Rejected }
            o'.pairingMgr ∧ o'.trustedList = o.trustedList) ∨
          (response.accepted = true ∧ isTransitionValid p.state .Trusted = true ∧
            Updated o.pairingMgr nid { p with state := .Trusted } o'.pairingMgr ∧
            o'.trustedList = o.trustedList.add
              { nodeId := nid
                pairedAt := now
                lastSeenEpoch := o.identityMgr.currentEpoch }))) := by
  intro nid o'
  rcases o.pairingMgr.handlePairingResponse_cases response with
    ⟨herr, hsame, hwhy⟩ | ⟨p, hp, hok, hanswer⟩
  · -- The response is refused, and nothing has changed.
    left
    obtain ⟨err, herr⟩ := Option.ne_none_iff_exists'.mp herr
    have hpairing : o.pairingMgr.handlePairingResponse response = (o.pairingMgr, some err) :=
      Prod.ext hsame herr
    have hcall : o.handlePairingResponse now response = (o, some err) := by
      rw [handlePairingResponse, hpairing]
    rw [show o' = o from congrArg Prod.fst hcall, hcall]
    exact ⟨Option.some_ne_none err, rfl, hwhy⟩
  · right
    have hpairing : o.pairingMgr.handlePairingResponse response =
        ((o.pairingMgr.handlePairingResponse response).1, none) := Prod.ext rfl hok
    set flagged : HandshakeOrchestrator :=
      modifyHandshake { o with pairingMgr := (o.pairingMgr.handlePairingResponse response).1 } nid
        fun hs => { hs with pairingDone := true } with hflagged
    have hself : flagged.findHandshake nid =
        (o.findHandshake nid).map fun hs => { hs with pairingDone := true } :=
      findHandshake_modify_self _ nid fun hs => rfl
    have hframe : ∀ n, n ≠ nid → flagged.findHandshake n = o.findHandshake n := by
      intro n hn
      exact findHandshake_modify_ne _ (fun hs => rfl) hn
    rcases hanswer with ⟨hacc, hdone⟩ | ⟨hacc, hvalid, hdone⟩
    · -- Rejected: the peer is not `Trusted` now, so the list is left alone.
      have hstate : flagged.pairingMgr.currentState nid ≠ .Trusted := by
        rw [show flagged.pairingMgr.currentState nid = .Rejected from hdone.currentState]
        decide
      have hcall : o.handlePairingResponse now response = (flagged, none) := by
        rw [handlePairingResponse, hpairing]
        exact if_neg hstate
      rw [show o' = flagged from congrArg Prod.fst hcall, hcall]
      exact ⟨rfl, hself, hframe, rfl, p, hp, .inl ⟨hacc, hdone, rfl⟩⟩
    · -- Accepted: the peer is `Trusted`, and is added to the list.
      have hstate : flagged.pairingMgr.currentState nid = .Trusted := hdone.currentState
      have hcall : o.handlePairingResponse now response =
          ({ flagged with
              trustedList := o.trustedList.add
                { nodeId := nid, pairedAt := now, lastSeenEpoch := o.identityMgr.currentEpoch } },
            none) := by
        rw [handlePairingResponse, hpairing]
        exact if_pos hstate
      rw [show o' = _ from congrArg Prod.fst hcall, hcall]
      exact ⟨rfl, hself, hframe, rfl, p, hp, .inr ⟨hacc, hvalid, hdone, rfl⟩⟩

/-! ### Rollback -/

/-- Where `rollbackHandshake` leaves a peer in the state. From `Untrusted` neither `Rollback` nor
`Discovered` is an edge. -/
def stateAfterRollback : PairingState → PairingState
  | .Rejected => .Rejected
  | .Untrusted => .Untrusted
  | _ => .Discovered

/-- Forcing a state leaves the other peers. -/
theorem findPeer_forceTransition_ne (fsm : PairingFsm) {nid n : NodeId} (newState : PairingState)
    (hn : n ≠ nid) : (fsm.forceTransition nid newState).1.findPeer n = fsm.findPeer n :=
  fsm.call_frame (.forceTransition nid newState) hn

/-- `forceTransition` of a known peer, whether the edge exists or not. -/
theorem findPeer_forceTransition (fsm : PairingFsm) {nid : NodeId} (newState : PairingState)
    {p : PeerState} (hp : fsm.findPeer nid = some p) :
    ∃ q, (fsm.forceTransition nid newState).1.findPeer nid = some q ∧
      q.state = if isTransitionValid p.state newState = true then newState else p.state := by
  rw [PairingFsm.forceTransition, hp]
  dsimp only
  cases hvalid : isTransitionValid p.state newState with
  | false => exact ⟨p, hp, rfl⟩
  | true => exact ⟨_, (updated_setState newState hp).self, rfl⟩

/-- A peer that does not count as `Discovered` is known. -/
theorem knows_of_state_ne {fsm : PairingFsm} {nid : NodeId}
    (hstate : fsm.currentState nid ≠ .Discovered) : fsm.Knows nid := by
  cases hp : fsm.findPeer nid with
  | some p => exact ⟨p, hp⟩
  | none => exact absurd (by rw [currentState, hp]) hstate

/-- The state the two `forceTransition` calls of a rollback lead to. -/
theorem currentState_rollback (fsm : PairingFsm) (nid : NodeId)
    (hdisc : fsm.currentState nid ≠ .Discovered) (hrej : fsm.currentState nid ≠ .Rejected) :
    let back := (fsm.forceTransition nid .Rollback).1
    (back.forceTransition nid .Discovered).1.Knows nid ∧
      (back.forceTransition nid .Discovered).1.currentState nid =
        stateAfterRollback (fsm.currentState nid) := by
  intro back
  obtain ⟨p, hp⟩ := knows_of_state_ne hdisc
  obtain ⟨q, hq, hqstate⟩ := findPeer_forceTransition fsm .Rollback hp
  obtain ⟨r, hr, hrstate⟩ := findPeer_forceTransition back .Discovered hq
  refine ⟨⟨r, hr⟩, ?_⟩
  rw [currentState_of_some hr, hrstate, hqstate]
  rw [currentState_of_some hp] at hdisc hrej ⊢
  revert hdisc hrej
  cases p.state <;> decide

/-- What a rollback does to the peer, and that it leaves the other nodes. -/
theorem rollbackHandshake_effect (o : HandshakeOrchestrator) (nid : NodeId) :
    let o' := (o.rollbackHandshake nid).1
    o'.pairingMgr.currentState nid = stateAfterRollback (o.pairingMgr.currentState nid) ∧
      (o.pairingMgr.Knows nid → o'.pairingMgr.Knows nid) ∧
      (∀ n, n ≠ nid → o'.pairingMgr.findPeer n = o.pairingMgr.findPeer n) ∧
      (o'.findHandshake nid = (o.findHandshake nid).map fun hs =>
        { hs with pairingDone := false, registrationDone := false }) ∧
      (∀ n, n ≠ nid → o'.findHandshake n = o.findHandshake n) ∧
      o'.trustedList = o.trustedList.remove nid ∧ o'.regMgr = o.regMgr := by
  intro o'
  set cleared := o.modifyHandshake nid fun hs =>
    { hs with pairingDone := false, registrationDone := false } with hcleared
  have hself : cleared.findHandshake nid = (o.findHandshake nid).map fun hs =>
      { hs with pairingDone := false, registrationDone := false } :=
    findHandshake_modify_self o nid fun hs => rfl
  have hframe : ∀ n, n ≠ nid → cleared.findHandshake n = o.findHandshake n := by
    intro n hn
    exact findHandshake_modify_ne o (fun hs => rfl) hn
  by_cases hstate : o.pairingMgr.currentState nid ≠ .Discovered ∧
      o.pairingMgr.currentState nid ≠ .Rejected
  · set back := (o.pairingMgr.forceTransition nid .Rollback).1 with hback
    have ho' : o' = { cleared with
        pairingMgr := (back.forceTransition nid .Discovered).1
        trustedList := o.trustedList.remove nid } := by
      have hcond : cleared.pairingMgr.currentState nid ≠ .Discovered ∧
        cleared.pairingMgr.currentState nid ≠ .Rejected := hstate
      show (o.rollbackHandshake nid).1 = _
      unfold rollbackHandshake
      simp only [← hcleared, if_pos hcond]
      rfl
    rw [ho']
    obtain ⟨hknown, hafter⟩ := currentState_rollback o.pairingMgr nid hstate.1 hstate.2
    refine ⟨hafter, fun _ => hknown, ?_, hself, hframe, rfl, rfl⟩
    intro n hn
    exact (findPeer_forceTransition_ne back .Discovered hn).trans
      (findPeer_forceTransition_ne o.pairingMgr .Rollback hn)
  · have ho' : o' = { cleared with trustedList := o.trustedList.remove nid } := by
      have hcond : ¬ (cleared.pairingMgr.currentState nid ≠ .Discovered ∧
        cleared.pairingMgr.currentState nid ≠ .Rejected) := hstate
      show (o.rollbackHandshake nid).1 = _
      unfold rollbackHandshake
      simp only [← hcleared, if_neg hcond]
      rfl
    rw [ho']
    refine ⟨?_, id, fun n _ => rfl, hself, hframe, rfl, rfl⟩
    -- `Discovered` and `Rejected` stay as they are.
    show o.pairingMgr.currentState nid = _
    revert hstate
    cases o.pairingMgr.currentState nid <;> decide

/-! ### Completion -/

/-- `forceTransition` along a path of edges reaches its end, and writes nothing else. -/
theorem forceTransitions_of_isChain (o : HandshakeOrchestrator) {peer : NodeId} {p : PeerState}
    {states : List PairingState} (hp : o.pairingMgr.findPeer peer = some p)
    (hpath : (p.state :: states).IsChain fun s t => isTransitionValid s t = true) :
    ∃ fsm, o.forceTransitions peer states = ({ o with pairingMgr := fsm }, none) ∧
      Updated o.pairingMgr peer { p with state := states.getLastD p.state } fsm := by
  induction states generalizing o p with
  | nil => exact ⟨o.pairingMgr, rfl, .refl hp⟩
  | cons newState states ih =>
    rw [List.isChain_cons_cons] at hpath
    -- The first edge of the path; the induction hypothesis follows the rest.
    have hforce : o.pairingMgr.forceTransition peer newState =
        (o.pairingMgr.setState peer newState, none) := by
      rw [PairingFsm.forceTransition, hp]
      simp [hpath.1]
    have hnext := updated_setState newState hp
    obtain ⟨fsm, hrest, hdone⟩ :=
      ih { o with pairingMgr := o.pairingMgr.setState peer newState } hnext.self hpath.2
    rw [HandshakeOrchestrator.forceTransitions, hforce, List.getLastD_cons]
    refine ⟨fsm, hrest, hdone.self, ?_⟩
    intro n hn
    exact (hdone.frame n hn).trans (hnext.frame n hn)

/-- `completeHandshake` takes the peer to `Member`, or fails and changes nothing. -/
theorem completeHandshake_cases (o : HandshakeOrchestrator) (nid : NodeId) :
    let o' := (o.completeHandshake nid).1
    ((o.completeHandshake nid).2 ≠ none ∧ o' = o) ∨
    ((o.completeHandshake nid).2 = none ∧
      (∃ hs, o.findHandshake nid = some hs ∧ hs.pairingDone = true ∧
        hs.registrationDone = true) ∧
      ∃ p fsm, o.pairingMgr.findPeer nid = some p ∧
        isTransitionValid p.state .Registering = true ∧
        Updated o.pairingMgr nid { p with state := .Member } fsm ∧
        o' = { o with pairingMgr := fsm }) := by
  intro o'
  -- The handshake has to be there with both flags set, and is looked at in this order.
  cases hfind : o.findHandshake nid with
  | none =>
    have hcall : o.completeHandshake nid = (o, some .PairUnpaired) := by
      rw [completeHandshake, hfind]
    rw [show o' = o from congrArg Prod.fst hcall, hcall]
    exact .inl ⟨Option.some_ne_none _, rfl⟩
  | some hs =>
    cases hpairing : hs.pairingDone with
    | false =>
      have hcall : o.completeHandshake nid = (o, some .PairUnpaired) := by
        rw [completeHandshake, hfind]
        simp [hpairing]
      rw [show o' = o from congrArg Prod.fst hcall, hcall]
      exact .inl ⟨Option.some_ne_none _, rfl⟩
    | true =>
      cases hregistration : hs.registrationDone with
      | false =>
        have hcall : o.completeHandshake nid = (o, some .RegUndiscovered) := by
          rw [completeHandshake, hfind]
          simp [hpairing, hregistration]
        rw [show o' = o from congrArg Prod.fst hcall, hcall]
        exact .inl ⟨Option.some_ne_none _, rfl⟩
      | true =>
        have hforced : o.completeHandshake nid =
            o.forceTransitions nid [.Registering, .Registered, .Member] := by
          rw [completeHandshake, hfind]
          simp [hpairing, hregistration]
        rcases o.pairingMgr.forceTransition_cases nid .Registering with
          ⟨herr, hsame⟩ | ⟨p, hp, hvalid, -, -⟩
        · -- The first of the three transitions fails.
          obtain ⟨err, herr⟩ := Option.ne_none_iff_exists'.mp herr
          have hcall : o.completeHandshake nid = (o, some err) := by
            rw [hforced, forceTransitions, show o.pairingMgr.forceTransition nid .Registering =
              (o.pairingMgr, some err) from Prod.ext hsame herr]
          rw [show o' = o from congrArg Prod.fst hcall, hcall]
          exact .inl ⟨Option.some_ne_none _, rfl⟩
        · -- From `Registering` on every edge exists.
          have hpath : [p.state, .Registering, .Registered, .Member].IsChain
              fun s t => isTransitionValid s t = true :=
            List.isChain_cons_cons.mpr ⟨hvalid, by decide⟩
          obtain ⟨fsm, hrest, hdone⟩ := forceTransitions_of_isChain o hp hpath
          have hcall : o.completeHandshake nid = ({ o with pairingMgr := fsm }, none) :=
            hforced.trans hrest
          rw [show o' = _ from congrArg Prod.fst hcall, hcall]
          exact .inr ⟨rfl, ⟨hs, rfl, hpairing, hregistration⟩, p, fsm, hp, hvalid, hdone, rfl⟩

/-- With both flags set, a `Trusted` peer becomes a member. -/
theorem completeHandshake_of_flags {o : HandshakeOrchestrator} {nid : NodeId}
    (hpairing : o.pairingDone nid = true) (hregistration : o.registrationDone nid = true)
    (hstate : o.pairingMgr.currentState nid = .Trusted) :
    (o.completeHandshake nid).2 = none := by
  obtain ⟨hs, hfind, hpaired⟩ := (Option.any_eq_true _ _).mp hpairing
  have hregistered : hs.registrationDone = true := by
    rw [registrationDone, hfind] at hregistration
    exact hregistration
  obtain ⟨p, hp⟩ : o.pairingMgr.Knows nid := by
    refine knows_of_state_ne ?_
    rw [hstate]
    decide
  -- From `Trusted` every edge of the path exists.
  have hpath : [p.state, .Registering, .Registered, .Member].IsChain
      fun s t => isTransitionValid s t = true := by
    rw [← currentState_of_some hp, hstate]
    decide
  obtain ⟨fsm, hrest, -⟩ := forceTransitions_of_isChain o hp hpath
  rw [completeHandshake, hfind]
  simp [hpaired, hregistered, hrest]

/-! ### Any call -/

/-- What a node knows about another. -/
def stateFor (o : HandshakeOrchestrator) (n : NodeId) :
    Option PeerState × Option HandshakeState × Option TrustedNodeEntry ×
      Option RegistrationRecord :=
  (o.pairingMgr.findPeer n, o.findHandshake n, o.trustedList.find n, o.regMgr.find n)

end HandshakeOrchestrator

/-- The peer the call is about. -/
def HandshakeCall.peer : HandshakeCall → NodeId
  | .initiateHandshake peerNodeId _ => peerNodeId
  | .handlePairingRequest request => request.requesterNodeId
  | .handlePairingResponse _ response => response.responderNodeId
  | .handleRegistrationRequest _ request => request.identity.nodeId
  | .handleRegistrationResponse response => response.responderNodeId
  | .completeHandshake peerNodeId => peerNodeId
  | .rollbackHandshake peerNodeId => peerNodeId

namespace HandshakeOrchestrator

/-- What is held for a node is read from its four entries. -/
theorem stateFor_congr {o o' : HandshakeOrchestrator} {n : NodeId}
    (hfsm : o'.pairingMgr.findPeer n = o.pairingMgr.findPeer n)
    (hflags : o'.findHandshake n = o.findHandshake n)
    (htrust : o'.trustedList.find n = o.trustedList.find n)
    (hreg : o'.regMgr.find n = o.regMgr.find n) : o'.stateFor n = o.stateFor n := by
  rw [stateFor, hfsm, hflags, htrust, hreg, stateFor]

/-- A rollback leaves what is held for the other nodes. -/
theorem rollbackHandshake_frame (o : HandshakeOrchestrator) {nid n : NodeId} (hn : n ≠ nid) :
    (o.rollbackHandshake nid).1.stateFor n = o.stateFor n := by
  obtain ⟨-, -, hfsm, -, hflags, htrust, hreg⟩ := o.rollbackHandshake_effect nid
  refine stateFor_congr (hfsm n hn) (hflags n hn) ?_ ?_
  · rw [htrust]
    exact o.trustedList.find_remove_ne hn
  · rw [hreg]

/-- An answer to a registration leaves what is held for the other nodes. -/
theorem handleRegistrationResponse_frame (o : HandshakeOrchestrator)
    (response : RegistrationResponse) {n : NodeId} (hn : n ≠ response.responderNodeId) :
    (o.handleRegistrationResponse response).1.stateFor n = o.stateFor n := by
  cases hacc : response.accepted with
  | false =>
    rw [handleRegistrationResponse, hacc]
    exact o.rollbackHandshake_frame hn
  | true =>
    rw [handleRegistrationResponse, hacc]
    exact stateFor_congr rfl (findHandshake_modify_ne o (fun hs => rfl) hn) rfl rfl

/-- A call leaves what is held for the nodes it is not about. -/
theorem step_frame (o : HandshakeOrchestrator) (c : HandshakeCall) {n : NodeId}
    (hn : n ≠ c.peer) : (o.step c).stateFor n = o.stateFor n := by
  cases c with
  | initiateHandshake nid code =>
    show (o.initiateHandshake nid code).1.stateFor n = o.stateFor n
    rcases o.initiateHandshake_cases nid code with
      hsame | ⟨-, hfsm, -, hflags, htrust, hreg⟩
    · rw [hsame]
    · exact stateFor_congr (hfsm.frame n hn) (hflags n hn) (by rw [htrust]) (by rw [hreg])
  | handlePairingRequest request =>
    -- A request changes the state of its own peer only.
    exact stateFor_congr (o.pairingMgr.call_frame (.handlePairingRequest request) hn) rfl rfl rfl
  | handlePairingResponse now response =>
    show (o.handlePairingResponse now response).1.stateFor n = o.stateFor n
    rcases o.handlePairingResponse_cases now response with
      ⟨-, hsame, -⟩ | ⟨-, -, hflags, hreg, p, -, ⟨-, hfsm, htrust⟩ | ⟨-, -, hfsm, htrust⟩⟩
    · rw [hsame]
    · exact stateFor_congr (hfsm.frame n hn) (hflags n hn) (by rw [htrust]) (by rw [hreg])
    · -- The one that is added to the trusted list is the peer.
      refine stateFor_congr (hfsm.frame n hn) (hflags n hn) ?_ (by rw [hreg])
      rw [htrust]
      exact o.trustedList.find_add_ne _ hn
  | handleRegistrationRequest now request =>
    refine stateFor_congr rfl rfl rfl ?_
    show (o.regMgr.handleRegistrationRequest now request).1.find n = o.regMgr.find n
    rw [handleRegistrationRequest_fst]
    exact find_registerPeer_ne o.regMgr now request.identity hn
  | handleRegistrationResponse response => exact o.handleRegistrationResponse_frame response hn
  | completeHandshake nid =>
    show (o.completeHandshake nid).1.stateFor n = o.stateFor n
    rcases o.completeHandshake_cases nid with ⟨-, hsame⟩ | ⟨-, -, p, fsm, -, -, hfsm, hdone⟩
    · rw [hsame]
    · rw [hdone]
      -- The three transitions are of one peer.
      exact stateFor_congr (hfsm.frame n hn) rfl rfl rfl
  | rollbackHandshake nid => exact o.rollbackHandshake_frame hn

/-- Only a registration request reaches the registration manager. -/
theorem regMgr_step (o : HandshakeOrchestrator) {c : HandshakeCall}
    (hc : ∀ now request, c ≠ .handleRegistrationRequest now request) :
    (o.step c).regMgr = o.regMgr := by
  -- Only a registration request, and nothing else, is handed to the registration manager.
  cases c with
  | initiateHandshake nid code =>
    show (o.initiateHandshake nid code).1.regMgr = o.regMgr
    rcases o.initiateHandshake_cases nid code with hsame | ⟨-, -, -, -, -, hreg⟩
    · rw [hsame]
    · exact hreg
  | handlePairingRequest request => rfl
  | handlePairingResponse now response =>
    show (o.handlePairingResponse now response).1.regMgr = o.regMgr
    rcases o.handlePairingResponse_cases now response with ⟨-, hsame, -⟩ | ⟨-, -, -, hreg, -⟩
    · rw [hsame]
    · exact hreg
  | handleRegistrationRequest now request => exact absurd rfl (hc now request)
  | handleRegistrationResponse response =>
    show (o.handleRegistrationResponse response).1.regMgr = o.regMgr
    rw [handleRegistrationResponse]
    cases response.accepted with
    | false => exact (o.rollbackHandshake_effect response.responderNodeId).2.2.2.2.2.2
    | true => rfl
  | completeHandshake nid =>
    show (o.completeHandshake nid).1.regMgr = o.regMgr
    rcases o.completeHandshake_cases nid with ⟨-, hsame⟩ | ⟨-, -, p, fsm, -, -, -, hdone⟩
    · rw [hsame]
    · rw [hdone]
  | rollbackHandshake nid => exact (o.rollbackHandshake_effect nid).2.2.2.2.2.2

end HandshakeOrchestrator

end CrossFlow
