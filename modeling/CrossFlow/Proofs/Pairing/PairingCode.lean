import CrossFlow.Proofs.Pairing.PairingFsm

/-!
# `CrossFlow.Proofs.Pairing.PairingCode`: the code of a pairing request

`PairingHistory` keeps beside the state machine the code of the last successful `initiatePairing` of
each peer. That is the code the machine holds for the peer (`heldCode_run`), but
`handlePairingRequest` only looks whether the request has a code at all.

* `pairingCode_checked_iff`: for which requests the answer respects the held code.
* `pairingCode_not_checked`: a request with a wrong code that is accepted.
-/

set_option autoImplicit false

namespace CrossFlow

open Lib (Machine)
open PairingFsm

/-- The code `initiatePairing` has stored for the peer. -/
def PairingFsm.heldCode (fsm : PairingFsm) (peerNodeId : NodeId) : StdString :=
  match fsm.findPeer peerNodeId with
  | some p => p.pairingCode
  | none => []

/-- The state machine, with the code of the last successful `initiatePairing` of each peer. -/
structure PairingHistory where
  fsm : PairingFsm
  lastInitiated : NodeId → StdString

/-- A call, and the code it initiates a pairing with if it succeeds. -/
def PairingHistory.step (h : PairingHistory) (c : PairingCall) : PairingHistory where
  fsm := (h.fsm.call c).1
  lastInitiated :=
    match c with
    | .initiatePairing peerNodeId pairingCode =>
      if (h.fsm.call c).2 = none then Function.update h.lastInitiated peerNodeId pairingCode
      else h.lastInitiated
    | _ => h.lastInitiated

/-- The state machine of pairing, with the codes that were given. -/
def pairingHistory : Machine PairingHistory PairingCall where
  init := { fsm := PairingFsm.init, lastInitiated := fun _ => [] }
  step := PairingHistory.step

/-- The request is answered with `accepted = true`. -/
def Accepts (fsm : PairingFsm) (request : PairingRequest) : Prop :=
  ∃ response, (fsm.handlePairingRequest request).2 = .ok response ∧ response.accepted = true

/-- The request makes its sender `Trusted`. -/
def MakesTrusted (fsm : PairingFsm) (request : PairingRequest) : Prop :=
  fsm.currentState request.requesterNodeId ≠ .Trusted ∧
    (fsm.handlePairingRequest request).1.currentState request.requesterNodeId = .Trusted

/-- The request is accepted, or its sender trusted, only with the code held for the sender. -/
def CodeChecked (h : PairingHistory) (request : PairingRequest) : Prop :=
  Accepts h.fsm request ∨ MakesTrusted h.fsm request →
    request.pairingCode = h.fsm.heldCode request.requesterNodeId ∧
      request.pairingCode = h.lastInitiated request.requesterNodeId

/-- The request has no code, or the one that is held for its sender. -/
def CodeGiven (h : PairingHistory) (request : PairingRequest) : Prop :=
  request.pairingCode = [] ∨ request.pairingCode = h.fsm.heldCode request.requesterNodeId

/-- Whether a request carries the code that was given can be looked up. -/
instance (h : PairingHistory) (request : PairingRequest) : Decidable (CodeGiven h request) :=
  inferInstanceAs (Decidable (_ ∨ _))

/-! ### The held code -/

/-- The code held for a peer that is known. -/
theorem heldCode_of_some {fsm : PairingFsm} {nid : NodeId} {p : PeerState}
    (h : fsm.findPeer nid = some p) : fsm.heldCode nid = p.pairingCode := by
  rw [heldCode, h]

/-- The held code is read from the peer. -/
theorem heldCode_congr {fsm fsm' : PairingFsm} {nid : NodeId}
    (h : fsm'.findPeer nid = fsm.findPeer nid) : fsm'.heldCode nid = fsm.heldCode nid := by
  rw [heldCode, h, heldCode]

/-- A request leaves the code of its sender as it is, and gives a new peer none. -/
theorem heldCode_handlePairingRequest (fsm : PairingFsm) (request : PairingRequest) :
    (fsm.handlePairingRequest request).1.heldCode request.requesterNodeId =
      fsm.heldCode request.requesterNodeId := by
  by_cases hcode : request.pairingCode = []
  · rw [fsm.handlePairingRequest_empty request hcode]
  · have hdone := (fsm.handlePairingRequest_accepts request hcode).1
    rw [heldCode_of_some hdone.self]
    -- `ensurePeer` keeps a known peer's code and gives a new one the empty code.
    cases hp : fsm.findPeer request.requesterNodeId with
    | some p => exact (heldCode_of_some hp).symm
    | none => rw [PairingFsm.heldCode, hp, Option.getD_none]

/-- A call other than `initiatePairing` changes no code. -/
theorem heldCode_call (fsm : PairingFsm) (c : PairingCall) (n : NodeId)
    (hc : ∀ code, c ≠ .initiatePairing n code) : (fsm.call c).1.heldCode n = fsm.heldCode n := by
  by_cases hn : n = c.peer
  -- The peer of the call: only its state is written.
  · subst hn
    cases c with
    | initiatePairing nid code => exact absurd rfl (hc code)
    | handlePairingRequest request => exact heldCode_handlePairingRequest fsm request
    | handlePairingResponse response =>
      show (fsm.handlePairingResponse response).1.heldCode _ = _
      rcases fsm.handlePairingResponse_cases response with
        ⟨-, hsame, -⟩ | ⟨p, hp, -, ⟨-, hdone⟩ | ⟨-, -, hdone⟩⟩
      · rw [hsame]
      · exact (heldCode_of_some hdone.self).trans (heldCode_of_some hp).symm
      · exact (heldCode_of_some hdone.self).trans (heldCode_of_some hp).symm
    | forceTransition nid newState =>
      show (fsm.forceTransition nid newState).1.heldCode _ = _
      rcases fsm.forceTransition_cases nid newState with ⟨-, hsame⟩ | ⟨p, hp, -, -, hdone⟩
      · rw [hsame]
      · exact (heldCode_of_some hdone.self).trans (heldCode_of_some hp).symm
  · exact heldCode_congr (fsm.call_frame c hn)

/-- The code held is the one given to the last `initiatePairing` that succeeded. -/
theorem heldCode_run (calls : List PairingCall) (n : NodeId) :
    (pairingHistory.run calls).fsm.heldCode n = (pairingHistory.run calls).lastInitiated n := by
  have hinv : pairingHistory.Invariant fun h => ∀ n, h.fsm.heldCode n = h.lastInitiated n := by
    refine Machine.Invariant.of_step (fun n => rfl) ?_
    intro h c hh n
    show (h.fsm.call c).1.heldCode n = (h.step c).lastInitiated n
    cases c with
    | initiatePairing nid code =>
      rcases h.fsm.initiatePairing_cases nid code with
        ⟨hok, -, -, hdone⟩ | ⟨herr, hsame, -⟩
      · have hlast : (h.step (.initiatePairing nid code)).lastInitiated =
            Function.update h.lastInitiated nid code := if_pos hok
        rw [hlast]
        -- The call succeeded: the machine and the history both take the new code.
        by_cases hn : n = nid
        · subst hn
          rw [Function.update_self]
          exact heldCode_of_some hdone.self
        · rw [Function.update_of_ne hn, ← hh n]
          exact heldCode_congr (hdone.frame n hn)
      -- It failed: neither changes.
      · have hlast : (h.step (.initiatePairing nid code)).lastInitiated = h.lastInitiated :=
          if_neg herr
        rw [hlast, ← hh n]
        exact congrArg (fun fsm => fsm.heldCode n) hsame
    | handlePairingRequest request =>
      exact (heldCode_call h.fsm _ n (by simp)).trans (hh n)
    | handlePairingResponse response =>
      exact (heldCode_call h.fsm _ n (by simp)).trans (hh n)
    | forceTransition nid newState =>
      exact (heldCode_call h.fsm _ n (by simp)).trans (hh n)
  exact hinv calls n

/-! ### The answer to a request -/

/-- Any code at all is accepted. -/
theorem accepts_iff (fsm : PairingFsm) (request : PairingRequest) :
    Accepts fsm request ↔ request.pairingCode ≠ [] := by
  by_cases hcode : request.pairingCode = []
  · refine iff_of_false ?_ (not_not_intro hcode)
    rintro ⟨response, hresponse, -⟩
    rw [fsm.handlePairingRequest_empty request hcode] at hresponse
    cases hresponse
  · have hok := (fsm.handlePairingRequest_accepts request hcode).2
    exact iff_of_true ⟨_, hok, rfl⟩ hcode

/-- A request without a code makes no one trusted. -/
theorem not_makesTrusted_of_empty {fsm : PairingFsm} {request : PairingRequest}
    (hcode : request.pairingCode = []) : ¬ MakesTrusted fsm request := by
  rintro ⟨hne, heq⟩
  rw [fsm.handlePairingRequest_empty request hcode] at heq
  exact hne heq

/-- The code of a request is checked exactly if it is the one that was given. -/
theorem codeChecked_iff (calls : List PairingCall) (request : PairingRequest) :
    CodeChecked (pairingHistory.run calls) request ↔
      CodeGiven (pairingHistory.run calls) request := by
  constructor
  · intro hchecked
    -- A request with a code is accepted, so a checked one has the held code.
    by_cases hcode : request.pairingCode = []
    · exact .inl hcode
    · exact .inr (hchecked (.inl ((accepts_iff _ request).mpr hcode))).1
  · rintro (hempty | hheld) hanswer
    · rcases hanswer with haccepts | htrusted
      · exact absurd hempty ((accepts_iff _ request).mp haccepts)
      · exact absurd htrusted (not_makesTrusted_of_empty hempty)
    · exact ⟨hheld, hheld.trans (heldCode_run calls _)⟩

/-- In every reachable state, for two requests that differ in the code alone: both are checked
against the held code and not both are accepted exactly when neither has another code than it. -/
theorem pairingCode_checked_iff (calls : List PairingCall) (request : PairingRequest)
    (otherCode : StdString) :
    let h := pairingHistory.run calls
    let other := { request with pairingCode := otherCode }
    (CodeChecked h request ∧ CodeChecked h other ∧
      ¬ (request.pairingCode ≠ otherCode ∧ Accepts h.fsm request ∧ Accepts h.fsm other)) ↔
        CodeGiven h request ∧ CodeGiven h other := by
  intro h other
  rw [codeChecked_iff calls request, codeChecked_iff calls other, accepts_iff, accepts_iff]
  constructor
  · rintro ⟨hrequest, hother, -⟩
    exact ⟨hrequest, hother⟩
  · rintro ⟨hrequest, hother⟩
    refine ⟨hrequest, hother, ?_⟩
    rintro ⟨hne, hcode, hotherCode⟩
    -- Both codes are the one held, so they are the same.
    exact hne ((hrequest.resolve_left hcode).trans (hother.resolve_left hotherCode).symm)

/-- The code of a request is not always checked. -/
theorem pairingCode_not_checked :
    ¬ ∀ (calls : List PairingCall) (request : PairingRequest),
      CodeChecked (pairingHistory.run calls) request := by
  intro hclaim
  let peer : NodeId := { high := 1, low := 1 }
  let request : PairingRequest :=
    { requesterNodeId := peer
      pairingCode := StdString.lit "000000"
      fence := .newSession peer }
  have hchecked := hclaim [.initiatePairing peer (StdString.lit "482913")] request
  rw [codeChecked_iff] at hchecked
  exact absurd hchecked (by decide)

end CrossFlow
