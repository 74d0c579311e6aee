import CrossFlow.Lib.PastTime
import CrossFlow.Proofs.Pairing.HandshakeSteps

/-!
# `CrossFlow.Proofs.Pairing.Membership`: when a handshake completes

The flags `pairingDone` and `registrationDone` stand for what has happened with a peer since it was
last rejected or rolled back: an accepted pairing response, and an accepted registration response
after it (`Earned`). Two calls break that. A rejected pairing response sets `pairingDone` as an
accepted one does, so that a pairing request from the rejected peer makes the flag count; and a
registration response sets `registrationDone` also before the pairing.

* `pairedInv_run`: what the history says about the state, in every run.
* `flagsInv_run`: what the flags say about the history, as long as no such call is made.
* `membership_earned_iff`: completion is earned exactly in the runs without such a call.
-/

set_option autoImplicit false

namespace CrossFlow

open Lib (Just Since)
open PairingFsm

/-! ### The history of a peer -/

/-- The step handles an accepted pairing response of the peer. -/
def AcceptsPairing (peer : NodeId) : HandshakeOrchestrator × HandshakeCall → Prop
  | (o, .handlePairingResponse now response) =>
    response.responderNodeId = peer ∧ response.accepted = true ∧
      (o.handlePairingResponse now response).2 = none
  | _ => False

/-- The step handles an accepted registration response of the peer. -/
def AcceptsRegistration (peer : NodeId) : HandshakeOrchestrator × HandshakeCall → Prop
  | (_, .handleRegistrationResponse response) =>
    response.responderNodeId = peer ∧ response.accepted = true
  | _ => False

/-- The step is a rejected response of the peer, or rolls its handshake back. -/
def StartsOver (peer : NodeId) : HandshakeOrchestrator × HandshakeCall → Prop
  | (_, .handlePairingResponse _ response) =>
    response.responderNodeId = peer ∧ response.accepted = false
  | (_, .handleRegistrationResponse response) =>
    response.responderNodeId = peer ∧ response.accepted = false
  | (_, .rollbackHandshake peerNodeId) => peerNodeId = peer
  | _ => False

/-- Since the peer's last rejected response or rollback, an accepted pairing response of it was
handled. -/
def Paired (peer : NodeId) : List (HandshakeOrchestrator × HandshakeCall) → Prop :=
  Since (StartsOver peer) (Just (AcceptsPairing peer) fun _ => True)

/-- Since the peer's last rejected response or rollback, an accepted pairing response of it was
handled, and then an accepted registration response. -/
def Earned (peer : NodeId) : List (HandshakeOrchestrator × HandshakeCall) → Prop :=
  Since (StartsOver peer) (Just (AcceptsRegistration peer) (Paired peer))

/-- After the run, a handshake that completes is earned. -/
def EarnedAfter (m : NodeIdentityManager) (calls : List HandshakeCall) : Prop :=
  ∀ peer, (((handshakeMachine (.init m)).run calls).completeHandshake peer).2 = none →
    Earned peer ((handshakeMachine (.init m)).past calls)

/-- The call leaves the flags true to the history: it is not a pairing request from a rejected peer
with `pairingDone` set, and not an accepted pairing response that finds `registrationDone` set
before `pairingDone`. -/
def KeepsFlagsTrue (o : HandshakeOrchestrator) : HandshakeCall → Prop
  | .handlePairingRequest request =>
    request.pairingCode = [] ∨ o.pairingMgr.currentState request.requesterNodeId ≠ .Rejected ∨
      o.pairingDone request.requesterNodeId = false
  | .handlePairingResponse _ response =>
    response.accepted = false ∨
      isTransitionValid (o.pairingMgr.currentState response.responderNodeId) .Trusted = false ∨
      o.registrationDone response.responderNodeId = false ∨
      o.pairingDone response.responderNodeId = true
  | _ => True

section
variable {peer : NodeId} {o : HandshakeOrchestrator} {c : HandshakeCall}
variable {past : List (HandshakeOrchestrator × HandshakeCall)}

/-- A pairing accepted in the last call, or before it and not started over. -/
theorem paired_cons {e : HandshakeOrchestrator × HandshakeCall} :
    Paired peer (e :: past) ↔ AcceptsPairing peer e ∨ ¬ StartsOver peer e ∧ Paired peer past := by
  unfold Paired
  rw [Lib.since_cons, Lib.just_cons, and_true]

/-- A registration accepted in the last call, or before it and not started over. -/
theorem earned_cons {e : HandshakeOrchestrator × HandshakeCall} :
    Earned peer (e :: past) ↔
      AcceptsRegistration peer e ∧ Paired peer past ∨ ¬ StartsOver peer e ∧ Earned peer past := by
  unfold Earned
  rw [Lib.since_cons, Lib.just_cons]

/-- Accepting a registration does not start over. -/
theorem not_startsOver_of_acceptsRegistration {e : HandshakeOrchestrator × HandshakeCall}
    (h : AcceptsRegistration peer e) : ¬ StartsOver peer e := by
  obtain ⟨o, c⟩ := e
  cases c with
  | handleRegistrationResponse response =>
    intro hover
    exact Bool.false_ne_true (hover.2.symm.trans h.2)
  | initiateHandshake _ _ | handlePairingRequest _ | handlePairingResponse _ _
  | handleRegistrationRequest _ _ | completeHandshake _ | rollbackHandshake _ => exact h.elim

/-- A peer that earned its membership was paired. -/
theorem paired_of_earned (h : Earned peer past) : Paired peer past :=
  Since.of_just (fun _ => not_startsOver_of_acceptsRegistration) h

/-- A call about another peer is no part of the history. -/
theorem not_startsOver_of_ne (hpeer : peer ≠ c.peer) : ¬ StartsOver peer (o, c) := by
  intro h
  cases c with
  | handlePairingResponse now response => exact hpeer h.1.symm
  | handleRegistrationResponse response => exact hpeer h.1.symm
  | rollbackHandshake nid => exact hpeer h.symm
  | initiateHandshake _ _ | handlePairingRequest _ | handleRegistrationRequest _ _
  | completeHandshake _ => exact h

/-- A call about another peer accepts no pairing of this one. -/
theorem not_acceptsPairing_of_ne (hpeer : peer ≠ c.peer) : ¬ AcceptsPairing peer (o, c) := by
  intro h
  cases c with
  | handlePairingResponse now response => exact hpeer h.1.symm
  | handleRegistrationResponse _ | rollbackHandshake _ | initiateHandshake _ _
  | handlePairingRequest _ | handleRegistrationRequest _ _ | completeHandshake _ => exact h

/-- A pairing lasts until a call starts over. -/
theorem Paired.keep (hpeer : ¬ StartsOver peer (o, c)) (h : Paired peer past) :
    Paired peer ((o, c) :: past) := paired_cons.mpr (.inr ⟨hpeer, h⟩)

/-- What was earned lasts until a call starts over. -/
theorem Earned.keep (hpeer : ¬ StartsOver peer (o, c)) (h : Earned peer past) :
    Earned peer ((o, c) :: past) := earned_cons.mpr (.inr ⟨hpeer, h⟩)

/-- A step that is no accepted response leaves the peer paired only if it was. -/
theorem paired_of_cons {e : HandshakeOrchestrator × HandshakeCall} (hacc : ¬ AcceptsPairing peer e)
    (h : Paired peer (e :: past)) : Paired peer past := ((paired_cons.mp h).resolve_left hacc).2

/-- After a call that starts over the peer is not paired. -/
theorem not_paired_of_startsOver {e : HandshakeOrchestrator × HandshakeCall}
    (hacc : ¬ AcceptsPairing peer e) (hover : StartsOver peer e) : ¬ Paired peer (e :: past) := by
  intro h
  exact ((paired_cons.mp h).resolve_left hacc).1 hover

end

/-! ### What the history says about the state -/

/-- Pairing starts in none of the states trusted, member and rejected. -/
theorem PairingFsm.CanInitiate.ne {state : PairingState} (h : CanInitiate state) :
    state ≠ .Trusted ∧ state ≠ .Member ∧ state ≠ .Rejected := by
  rcases h with rfl | rfl | rfl <;> decide

/-- A paired peer is `Trusted` or a `Member`, and its handshake has `pairingDone` set. -/
structure PairedInv (peer : NodeId) (o : HandshakeOrchestrator)
    (past : List (HandshakeOrchestrator × HandshakeCall)) : Prop where
  known : o.findHandshake peer ≠ none → o.pairingMgr.Knows peer
  state : Paired peer past →
    o.pairingMgr.currentState peer = .Trusted ∨ o.pairingMgr.currentState peer = .Member
  flag : Paired peer past → ∀ hs, o.findHandshake peer = some hs → hs.pairingDone = true

section
variable {peer : NodeId} {o o' : HandshakeOrchestrator} {e : HandshakeOrchestrator × HandshakeCall}
variable {past : List (HandshakeOrchestrator × HandshakeCall)}

/-- A call that leaves the peer keeps the invariant. -/
theorem PairedInv.of_same (h : PairedInv peer o past)
    (hfsm : o'.pairingMgr.findPeer peer = o.pairingMgr.findPeer peer)
    (hfind : o'.findHandshake peer = o.findHandshake peer) (hacc : ¬ AcceptsPairing peer e) :
    PairedInv peer o' (e :: past) where
  known hhs := by
    rw [hfind] at hhs
    rw [Knows, hfsm]
    exact h.known hhs
  state hpaired := by
    rw [currentState_congr hfsm]
    exact h.state (paired_of_cons hacc hpaired)
  flag hpaired := by
    rw [hfind]
    exact h.flag (paired_of_cons hacc hpaired)

/-- Of a peer that is not paired only its handshake is asked for. -/
theorem PairedInv.of_not_paired (hknown : o.findHandshake peer ≠ none → o.pairingMgr.Knows peer)
    (hnot : ¬ Paired peer past) : PairedInv peer o past :=
  ⟨hknown, fun h => absurd h hnot, fun h => absurd h hnot⟩

/-- A peer that is neither trusted nor a member is not paired. -/
theorem PairedInv.not_paired (h : PairedInv peer o past)
    (hstate : o.pairingMgr.currentState peer ≠ .Trusted)
    (hmember : o.pairingMgr.currentState peer ≠ .Member) : ¬ Paired peer past := by
  intro hpaired
  rcases h.state hpaired with hs | hs
  · exact hstate hs
  · exact hmember hs

/-- A rollback of the peer keeps the invariant. -/
theorem PairedInv.rollbackHandshake (h : PairedInv peer o past) (hacc : ¬ AcceptsPairing peer e)
    (hover : StartsOver peer e) : PairedInv peer (o.rollbackHandshake peer).1 (e :: past) := by
  obtain ⟨-, hknown, -, hself, -, -, -⟩ := o.rollbackHandshake_effect peer
  refine .of_not_paired ?_ (not_paired_of_startsOver hacc hover)
  intro hhs
  rw [hself, ne_eq, Option.map_eq_none_iff] at hhs
  exact hknown (h.known hhs)

/-- A call keeps the invariant. -/
theorem PairedInv.step (h : PairedInv peer o past) (c : HandshakeCall) :
    PairedInv peer (o.step c) ((o, c) :: past) := by
  by_cases hpeer : peer = c.peer
  · cases c with
    | initiateHandshake nid code =>
      obtain rfl : peer = nid := hpeer
      show PairedInv peer (o.initiateHandshake peer code).1 _
      rcases o.initiateHandshake_cases peer code with hsame | ⟨hcan, hfsm, -, -, -, -⟩
      · rw [hsame]
        exact h.of_same rfl rfl id
      · -- A paired peer is in no state that leads to `Pairing`.
        refine .of_not_paired (fun _ => ⟨_, hfsm.self⟩) ?_
        intro hpaired
        obtain ⟨htrusted, hmember, -⟩ := hcan.ne
        exact h.not_paired htrusted hmember (paired_of_cons id hpaired)
    | handlePairingRequest request =>
      obtain rfl : peer = request.requesterNodeId := hpeer
      by_cases hcode : request.pairingCode = []
      · refine h.of_same ?_ rfl id
        show (o.pairingMgr.handlePairingRequest request).1.findPeer _ = _
        rw [o.pairingMgr.handlePairingRequest_empty request hcode]
      · have hfsm := (o.pairingMgr.handlePairingRequest_accepts request hcode).1
        exact ⟨fun _ => ⟨_, hfsm.self⟩, fun _ => .inl hfsm.currentState,
          fun hpaired => h.flag (paired_of_cons id hpaired)⟩
    | handlePairingResponse now response =>
      obtain rfl : peer = response.responderNodeId := hpeer
      show PairedInv response.responderNodeId (o.handlePairingResponse now response).1 _
      rcases o.handlePairingResponse_cases now response with
        ⟨herr, hsame, -⟩ | ⟨hok, hself, -, -, p, hp, ⟨hrej, hfsm, -⟩ | ⟨hacc, -, hfsm, -⟩⟩
      · rw [hsame]
        exact h.of_same rfl rfl fun hacc => herr hacc.2.2
      · refine .of_not_paired (fun _ => ⟨_, hfsm.self⟩) (not_paired_of_startsOver ?_ ⟨rfl, hrej⟩)
        exact fun hacc => Bool.false_ne_true (hrej.symm.trans hacc.2.1)
      · refine ⟨fun _ => ⟨_, hfsm.self⟩, fun _ => .inl hfsm.currentState, ?_⟩
        intro _ hs hfind
        rw [hself, Option.map_eq_some_iff] at hfind
        obtain ⟨old, -, rfl⟩ := hfind
        rfl
    | handleRegistrationRequest now request => exact h.of_same rfl rfl id
    | handleRegistrationResponse response =>
      obtain rfl : peer = response.responderNodeId := hpeer
      show PairedInv response.responderNodeId (o.handleRegistrationResponse response).1 _
      rw [HandshakeOrchestrator.handleRegistrationResponse]
      cases hacc : response.accepted with
      | false => exact h.rollbackHandshake id ⟨rfl, hacc⟩
      | true =>
        -- Only `registrationDone` changes.
        have hself := o.findHandshake_modify_self response.responderNodeId
          (f := fun hs => { hs with registrationDone := true }) fun hs => rfl
        refine ⟨?_, fun hpaired => h.state (paired_of_cons id hpaired), ?_⟩
        · intro hhs
          refine h.known ?_
          intro hnone
          exact hhs (hself.trans (Option.map_eq_none_iff.mpr hnone))
        · intro hpaired hs hfind
          obtain ⟨old, hold, rfl⟩ := Option.map_eq_some_iff.mp (hself.symm.trans hfind)
          exact h.flag (paired_of_cons id hpaired) old hold
    | completeHandshake nid =>
      obtain rfl : peer = nid := hpeer
      show PairedInv peer (o.completeHandshake peer).1 _
      rcases o.completeHandshake_cases peer with ⟨-, hsame⟩ | ⟨-, -, p, fsm, -, -, hfsm, hdone⟩
      · rw [hsame]
        exact h.of_same rfl rfl id
      · rw [hdone]
        exact ⟨fun _ => ⟨_, hfsm.self⟩, fun _ => .inr hfsm.currentState,
          fun hpaired => h.flag (paired_of_cons id hpaired)⟩
    | rollbackHandshake nid =>
      obtain rfl : peer = nid := hpeer
      exact h.rollbackHandshake id rfl
  · have hsame := o.step_frame c hpeer
    exact h.of_same (congrArg Prod.fst hsame) (congrArg (fun s => s.2.1) hsame)
      (not_acceptsPairing_of_ne hpeer)

end

/-- The invariant holds after every run. -/
theorem pairedInv_run (m : NodeIdentityManager) (calls : List HandshakeCall) (peer : NodeId) :
    PairedInv peer ((handshakeMachine (.init m)).run calls)
      ((handshakeMachine (.init m)).past calls) := by
  refine Lib.Machine.past_of_step ?_ ?_ calls
  · exact .of_not_paired (fun h => absurd rfl h) id
  · intro o past c h
    exact h.step c

/-! ### What the flags say about the history -/

/-- The flags of a peer that is not `Rejected` are true to its history. -/
structure FlagsInv (peer : NodeId) (o : HandshakeOrchestrator)
    (past : List (HandshakeOrchestrator × HandshakeCall)) : Prop where
  paired : o.pairingDone peer = true → o.pairingMgr.currentState peer ≠ .Rejected →
    Paired peer past
  earned : o.pairingDone peer = true → o.registrationDone peer = true →
    o.pairingMgr.currentState peer ≠ .Rejected → Earned peer past

section
variable {peer : NodeId} {o o' : HandshakeOrchestrator} {e : HandshakeOrchestrator × HandshakeCall}
variable {past : List (HandshakeOrchestrator × HandshakeCall)}

/-- The flag of the pairing is read from the handshake. -/
theorem pairingDone_congr (hfind : o'.findHandshake peer = o.findHandshake peer) :
    o'.pairingDone peer = o.pairingDone peer := by
  rw [HandshakeOrchestrator.pairingDone, hfind, HandshakeOrchestrator.pairingDone]

/-- The flag of the registration is read from the handshake. -/
theorem registrationDone_congr (hfind : o'.findHandshake peer = o.findHandshake peer) :
    o'.registrationDone peer = o.registrationDone peer := by
  rw [HandshakeOrchestrator.registrationDone, hfind, HandshakeOrchestrator.registrationDone]

/-- A step that leaves the flags, and a peer that was not `Rejected`, as they are. -/
theorem FlagsInv.of_flags (h : FlagsInv peer o past)
    (hpairing : o'.pairingDone peer = o.pairingDone peer)
    (hregistration : o'.registrationDone peer = o.registrationDone peer)
    (hover : ¬ StartsOver peer e)
    (hstate : o'.pairingMgr.currentState peer ≠ .Rejected → o.pairingDone peer = true →
      o.pairingMgr.currentState peer ≠ .Rejected) : FlagsInv peer o' (e :: past) where
  paired hdone hs := by
    rw [hpairing] at hdone
    exact paired_cons.mpr (.inr ⟨hover, h.paired hdone (hstate hs hdone)⟩)
  earned hdone hreg hs := by
    rw [hpairing] at hdone
    rw [hregistration] at hreg
    exact earned_cons.mpr (.inr ⟨hover, h.earned hdone hreg (hstate hs hdone)⟩)

/-- A call that leaves the peer keeps the invariant of the flags. -/
theorem FlagsInv.of_same (h : FlagsInv peer o past)
    (hfsm : o'.pairingMgr.findPeer peer = o.pairingMgr.findPeer peer)
    (hfind : o'.findHandshake peer = o.findHandshake peer) (hover : ¬ StartsOver peer e) :
    FlagsInv peer o' (e :: past) := by
  refine h.of_flags (pairingDone_congr hfind) (registrationDone_congr hfind) hover ?_
  intro hs _
  rwa [currentState_congr hfsm] at hs

/-- Cleared flags ask for nothing. -/
theorem FlagsInv.of_cleared (hdone : o.pairingDone peer = false) : FlagsInv peer o past where
  paired h := absurd (hdone.symm.trans h) Bool.false_ne_true
  earned h := absurd (hdone.symm.trans h) Bool.false_ne_true

/-- Of a rejected peer the flags ask for nothing. -/
theorem FlagsInv.of_rejected (hstate : o.pairingMgr.currentState peer = .Rejected) :
    FlagsInv peer o past :=
  ⟨fun _ h => absurd hstate h, fun _ _ h => absurd hstate h⟩

/-- A rollback of the peer establishes the invariant of the flags. -/
theorem FlagsInv.rollbackHandshake : FlagsInv peer (o.rollbackHandshake peer).1 past := by
  obtain ⟨-, -, -, hself, -, -, -⟩ := o.rollbackHandshake_effect peer
  refine .of_cleared ?_
  rw [HandshakeOrchestrator.pairingDone, hself]
  cases o.findHandshake peer <;> rfl

/-- The response of the peer: an accepted one is the pairing of its history. -/
theorem FlagsInv.handlePairingResponse {now : UInt64} {response : PairingResponse}
    (h : FlagsInv response.responderNodeId o past) (hp : PairedInv response.responderNodeId o past)
    (hc : KeepsFlagsTrue o (.handlePairingResponse now response)) :
    FlagsInv response.responderNodeId (o.handlePairingResponse now response).1
      ((o, .handlePairingResponse now response) :: past) := by
  rcases o.handlePairingResponse_cases now response with
    ⟨herr, hsame, hwhy⟩ | ⟨hok, hself, -, -, p, hfind, ⟨-, hfsm, -⟩ |
      ⟨hacc, hvalid, hfsm, -⟩⟩
  · rw [hsame]
    cases hacc : response.accepted with
    | true => exact h.of_same rfl rfl fun hover => Bool.false_ne_true (hover.2.symm.trans hacc)
    | false =>
      -- The response of an unknown peer: there is no handshake with it.
      refine .of_cleared ?_
      cases hhs : o.findHandshake response.responderNodeId with
      | none => rw [HandshakeOrchestrator.pairingDone, hhs, Option.any_none]
      | some hs =>
        obtain ⟨q, hq⟩ := hp.known (hhs ▸ Option.some_ne_none hs)
        rcases hwhy with hunknown | ⟨hacc', -⟩
        · exact absurd (hq.symm.trans hunknown) (Option.some_ne_none q)
        · exact absurd (hacc.symm.trans hacc') Bool.false_ne_true
  · exact .of_rejected hfsm.currentState
  · have hpaired : Paired response.responderNodeId
        ((o, .handlePairingResponse now response) :: past) :=
      paired_cons.mpr (.inl ⟨rfl, hacc, hok⟩)
    refine ⟨fun _ _ => hpaired, ?_⟩
    intro _ hreg _
    have hregistered : o.registrationDone response.responderNodeId = true := by
      rw [HandshakeOrchestrator.registrationDone, hself] at hreg
      rw [HandshakeOrchestrator.registrationDone]
      cases hhs : o.findHandshake response.responderNodeId <;> rw [hhs] at hreg <;> exact hreg
    -- `registrationDone` was set before, so `pairingDone` was too.
    rw [← currentState_of_some hfind] at hvalid
    rcases hc with hrej | hinvalid | hcleared | hdone
    · exact absurd (hrej.symm.trans hacc) Bool.false_ne_true
    · exact absurd (hinvalid.symm.trans hvalid) Bool.false_ne_true
    · exact absurd (hcleared.symm.trans hregistered) Bool.false_ne_true
    · refine (h.earned hdone hregistered ?_).keep ?_
      · intro hstate
        rw [hstate] at hvalid
        exact absurd hvalid (by decide)
      · exact fun hover => Bool.false_ne_true (hover.2.symm.trans hacc)

/-- A call that keeps the flags true keeps the invariant of the flags. -/
theorem FlagsInv.step (h : FlagsInv peer o past) (hp : PairedInv peer o past) (c : HandshakeCall)
    (hc : KeepsFlagsTrue o c) : FlagsInv peer (o.step c) ((o, c) :: past) := by
  by_cases hpeer : peer = c.peer
  · cases c with
    | initiateHandshake nid code =>
      obtain rfl : peer = nid := hpeer
      show FlagsInv peer (o.initiateHandshake peer code).1 _
      rcases o.initiateHandshake_cases peer code with hsame | ⟨hcan, hfsm, hself, -, -, -⟩
      · rw [hsame]
        exact h.of_same rfl rfl id
      · -- A new handshake has no flag set, one that was there keeps its flags.
        refine h.of_flags ?_ ?_ id fun _ _ => hcan.ne.2.2
        · rw [HandshakeOrchestrator.pairingDone, hself, HandshakeOrchestrator.pairingDone]
          cases o.findHandshake peer <;> rfl
        · rw [HandshakeOrchestrator.registrationDone, hself, HandshakeOrchestrator.registrationDone]
          cases o.findHandshake peer <;> rfl
    | handlePairingRequest request =>
      obtain rfl : peer = request.requesterNodeId := hpeer
      by_cases hcode : request.pairingCode = []
      · -- Without a code the request is refused.
        refine h.of_same ?_ rfl id
        show (o.pairingMgr.handlePairingRequest request).1.findPeer _ = _
        rw [o.pairingMgr.handlePairingRequest_empty request hcode]
      · -- The peer becomes `Trusted`, which the condition allows only if no flag is true yet.
        refine h.of_flags rfl rfl id ?_
        intro _ hdone
        rcases hc with hempty | hstate | hcleared
        · exact absurd hempty hcode
        · exact hstate
        · exact absurd (hcleared.symm.trans hdone) Bool.false_ne_true
    | handlePairingResponse now response =>
      obtain rfl : peer = response.responderNodeId := hpeer
      exact h.handlePairingResponse hp hc
    | handleRegistrationRequest now request => exact h.of_same rfl rfl id
    | handleRegistrationResponse response =>
      obtain rfl : peer = response.responderNodeId := hpeer
      show FlagsInv response.responderNodeId (o.handleRegistrationResponse response).1 _
      rw [HandshakeOrchestrator.handleRegistrationResponse]
      cases hacc : response.accepted with
      | false => exact .rollbackHandshake
      -- The flag of the registration is set by the answer that earns it.
      | true =>
        have hpairing := o.pairingDone_setRegistrationDone response.responderNodeId
        have hover : ¬ StartsOver response.responderNodeId
            (o, .handleRegistrationResponse response) :=
          fun hover => Bool.false_ne_true (hover.2.symm.trans hacc)
        constructor
        · intro hdone hs
          exact (h.paired (hpairing.symm.trans hdone) hs).keep hover
        · intro hdone _ hs
          exact earned_cons.mpr (.inl ⟨⟨rfl, hacc⟩, h.paired (hpairing.symm.trans hdone) hs⟩)
    | completeHandshake nid =>
      obtain rfl : peer = nid := hpeer
      show FlagsInv peer (o.completeHandshake peer).1 _
      rcases o.completeHandshake_cases peer with
        ⟨-, hsame⟩ | ⟨-, -, p, fsm, hfind, hvalid, -, hdone⟩
      · rw [hsame]
        exact h.of_same rfl rfl id
      · -- The peer is a member now, and the flags are what they were.
        rw [hdone]
        refine h.of_flags rfl rfl id ?_
        intro _ _ hstate
        rw [← currentState_of_some hfind, hstate] at hvalid
        exact absurd hvalid (by decide)
    | rollbackHandshake nid =>
      obtain rfl : peer = nid := hpeer
      exact .rollbackHandshake
  · -- The call is about another peer.
    have hsame := o.step_frame c hpeer
    exact h.of_same (congrArg Prod.fst hsame) (congrArg (fun s => s.2.1) hsame)
      (not_startsOver_of_ne hpeer)

end

/-- Both invariants hold after a run whose calls keep the flags true. -/
theorem flagsInv_run (m : NodeIdentityManager) {calls : List HandshakeCall} (peer : NodeId)
    (hcalls : (handshakeMachine (.init m)).Meets KeepsFlagsTrue (.init m) calls) :
    PairedInv peer ((handshakeMachine (.init m)).run calls)
        ((handshakeMachine (.init m)).past calls) ∧
      FlagsInv peer ((handshakeMachine (.init m)).run calls)
        ((handshakeMachine (.init m)).past calls) := by
  refine Lib.Machine.past_of_meets
    (P := fun o past => PairedInv peer o past ∧ FlagsInv peer o past) ?_ ?_ hcalls
  · exact ⟨.of_not_paired (fun h => absurd rfl h) id, .of_cleared rfl⟩
  · intro o past c h hc
    exact ⟨h.1.step c, h.2.step h.1 c hc⟩

/-- Where every call keeps the flags true, members have earned it. -/
theorem earnedAfter_of_meets (m : NodeIdentityManager) {calls : List HandshakeCall}
    (hcalls : (handshakeMachine (.init m)).Meets KeepsFlagsTrue (.init m) calls) :
    EarnedAfter m calls := by
  intro peer hcomplete
  obtain ⟨-, hflags⟩ := flagsInv_run m peer hcalls
  rcases ((handshakeMachine (.init m)).run calls).completeHandshake_cases peer with
    ⟨herr, -⟩ | ⟨-, ⟨hs, hfind, hpairing, hregistration⟩, p, fsm, hp, hvalid, -, -⟩
  · exact absurd hcomplete herr
  · -- The handshake completes with both flags set, from a state other than `Rejected`.
    refine hflags.earned ?_ ?_ ?_
    · exact (Option.any_eq_true _ _).mpr ⟨hs, hfind, hpairing⟩
    · exact (Option.any_eq_true _ _).mpr ⟨hs, hfind, hregistration⟩
    · intro hstate
      rw [← currentState_of_some hp, hstate] at hvalid
      exact absurd hvalid (by decide)

/-! ### The calls that make the flags untrue -/

section
variable {o : HandshakeOrchestrator} {past : List (HandshakeOrchestrator × HandshakeCall)}

/-- A rejected peer with `pairingDone` set becomes a member by a pairing request and a registration
response, without an accepted pairing response. -/
theorem unearned_of_request {request : PairingRequest} (response : RegistrationResponse)
    (hinv : PairedInv request.requesterNodeId o past) (hcode : request.pairingCode ≠ [])
    (hstate : o.pairingMgr.currentState request.requesterNodeId = .Rejected)
    (hdone : o.pairingDone request.requesterNodeId = true)
    (hresponse : response.responderNodeId = request.requesterNodeId)
    (hacc : response.accepted = true) :
    let trusted := o.step (.handlePairingRequest request)
    let registered := trusted.step (.handleRegistrationResponse response)
    (registered.completeHandshake request.requesterNodeId).2 = none ∧
      ¬ Earned request.requesterNodeId
        ((trusted, .handleRegistrationResponse response) ::
          (o, .handlePairingRequest request) :: past) := by
  intro trusted registered
  have hnot : ¬ Paired request.requesterNodeId ((o, .handlePairingRequest request) :: past) := by
    intro hpaired
    -- A node that was paired is not `Rejected`.
    refine hinv.not_paired ?_ ?_ (paired_of_cons id hpaired) <;> rw [hstate] <;> decide
  have htrusted : trusted.pairingMgr.currentState request.requesterNodeId = .Trusted :=
    (o.pairingMgr.handlePairingRequest_accepts request hcode).1.currentState
  have hregistered : registered = trusted.modifyHandshake request.requesterNodeId fun hs =>
      { hs with registrationDone := true } := by
    show (trusted.handleRegistrationResponse response).1 = _
    rw [HandshakeOrchestrator.handleRegistrationResponse, hacc, hresponse]
    rfl
  constructor
  · rw [hregistered]
    refine HandshakeOrchestrator.completeHandshake_of_flags ?_ ?_ htrusted
    · exact (trusted.pairingDone_setRegistrationDone _).trans hdone
    · exact HandshakeOrchestrator.registrationDone_setRegistrationDone hdone
  · intro hearned
    rcases earned_cons.mp hearned with ⟨-, hpaired⟩ | ⟨-, hearned⟩
    · exact hnot hpaired
    · exact hnot (paired_of_earned hearned)

/-- An accepted pairing response completes a handshake whose registration response came first. -/
theorem unearned_of_response (now : UInt64) {response : PairingResponse}
    (hinv : PairedInv response.responderNodeId o past) (hacc : response.accepted = true)
    (hvalid :
      isTransitionValid (o.pairingMgr.currentState response.responderNodeId) .Trusted = true)
    (hregistered : o.registrationDone response.responderNodeId = true)
    (hdone : o.pairingDone response.responderNodeId = false) :
    let paired := o.step (.handlePairingResponse now response)
    (paired.completeHandshake response.responderNodeId).2 = none ∧
      ¬ Earned response.responderNodeId ((o, .handlePairingResponse now response) :: past) := by
  intro paired
  obtain ⟨hs, hfind, hreg⟩ := (Option.any_eq_true _ _).mp hregistered
  have hnot : ¬ Paired response.responderNodeId past := by
    intro hpaired
    -- A pairing sets the flag of the handshake, which is not set.
    have hflag := hinv.flag hpaired hs hfind
    rw [HandshakeOrchestrator.pairingDone, hfind] at hdone
    exact Bool.false_ne_true (hdone.symm.trans hflag)
  constructor
  · show ((o.handlePairingResponse now response).1.completeHandshake _).2 = none
    rcases o.handlePairingResponse_cases now response with
      ⟨-, -, hunknown | ⟨-, hinvalid⟩⟩ | ⟨-, hself, -, -, p, hp, ⟨hrej, -, -⟩ | ⟨-, -, hfsm, -⟩⟩
    · obtain ⟨q, hq⟩ := hinv.known (hfind ▸ Option.some_ne_none hs)
      exact absurd (hq.symm.trans hunknown) (Option.some_ne_none q)
    · exact absurd (hinvalid.symm.trans hvalid) Bool.false_ne_true
    · exact absurd (hrej.symm.trans hacc) Bool.false_ne_true
    · rw [hfind] at hself
      refine HandshakeOrchestrator.completeHandshake_of_flags ?_ ?_ hfsm.currentState
      · rw [HandshakeOrchestrator.pairingDone, hself]
        rfl
      · rw [HandshakeOrchestrator.registrationDone, hself]
        exact hreg
  · intro hearned
    rcases earned_cons.mp hearned with ⟨hreg, -⟩ | ⟨-, hearned⟩
    · exact hreg
    · exact hnot (paired_of_earned hearned)

end

/-- A handshake completes only when it is earned, in the run and in each that goes on from it by one
registration response, exactly when every call of the run leaves the flags true. -/
theorem membership_earned_iff (m : NodeIdentityManager) (calls : List HandshakeCall) :
    (handshakeMachine (.init m)).Meets KeepsFlagsTrue (.init m) calls ↔
      ∀ pre, pre <+: calls → EarnedAfter m pre ∧
        ∀ response, EarnedAfter m (pre ++ [.handleRegistrationResponse response]) := by
  constructor
  · rintro hcalls pre ⟨rest, rfl⟩
    have hpre := (Lib.Machine.meets_append.mp hcalls).1
    refine ⟨earnedAfter_of_meets m hpre, ?_⟩
    intro response
    exact earnedAfter_of_meets m (Lib.Machine.meets_append.mpr ⟨hpre, trivial, trivial⟩)
  · intro hearned
    rw [Lib.Machine.meets_iff_forall]
    intro pre c hpre
    have hinv := pairedInv_run m pre
    obtain ⟨hafter, hlate⟩ := hearned (pre ++ [c]) hpre
    by_contra hc
    -- A call that does not leave the flags true leads to a handshake that completes unearned.
    cases c with
    | handlePairingRequest request =>
      obtain ⟨hcode, hc⟩ := not_or.mp hc
      obtain ⟨hstate, hdone⟩ := not_or.mp hc
      let response : RegistrationResponse :=
        { responderNodeId := request.requesterNodeId
          accepted := true
          membership := none
          fence := request.fence }
      obtain ⟨hcomplete, hnot⟩ := unearned_of_request response (hinv request.requesterNodeId)
        hcode (not_not.mp hstate) (Bool.not_eq_false _ ▸ hdone) rfl rfl
      have hclaim := hlate response request.requesterNodeId
      rw [Lib.Machine.run_append_singleton, Lib.Machine.past_append_singleton,
        Lib.Machine.run_append_singleton, Lib.Machine.past_append_singleton] at hclaim
      exact hnot (hclaim hcomplete)
    | handlePairingResponse now response =>
      obtain ⟨hacc, hc⟩ := not_or.mp hc
      obtain ⟨hvalid, hc⟩ := not_or.mp hc
      obtain ⟨hregistered, hdone⟩ := not_or.mp hc
      rw [Bool.not_eq_false] at hacc hvalid hregistered
      rw [Bool.not_eq_true] at hdone
      obtain ⟨hcomplete, hnot⟩ := unearned_of_response now
        (hinv response.responderNodeId) hacc hvalid hregistered hdone
      have hclaim := hafter response.responderNodeId
      rw [Lib.Machine.run_append_singleton, Lib.Machine.past_append_singleton] at hclaim
      exact hnot (hclaim hcomplete)
    | initiateHandshake _ _ | handleRegistrationRequest _ _ | handleRegistrationResponse _
    | completeHandshake _ | rollbackHandshake _ => exact hc trivial

/-- A peer that rejected the pairing becomes a member by asking for one itself. -/
theorem rejected_peer_completes :
    ¬ ∀ (m : NodeIdentityManager) (calls : List HandshakeCall), EarnedAfter m calls := by
  intro hclaim
  let peer : NodeId := { high := 2, low := 2 }
  let calls : List HandshakeCall :=
    [ .initiateHandshake peer (StdString.lit "482913"),
      .handlePairingResponse 5
        { responderNodeId := peer, accepted := false, identity := none, fence := .newSession peer },
      .handlePairingRequest
        { requesterNodeId := peer
          pairingCode := StdString.lit "482913"
          fence := .newSession peer },
      .handleRegistrationResponse
        { responderNodeId := peer
          accepted := true
          membership := none
          fence := .newSession peer } ]
  have hearned := hclaim { identity := none } calls peer (by decide)
  -- The only pairing response of the peer is a rejection.
  have hpaired := paired_of_earned hearned
  simp [calls, Lib.Machine.past, Lib.Machine.pastFrom, paired_cons, AcceptsPairing, StartsOver]
    at hpaired

end CrossFlow
