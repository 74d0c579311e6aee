import CrossFlow.Proofs.Pairing.PairingFsm

/-!
# `CrossFlow.Proofs.Pairing.Transitions`: which transitions a call makes

Two of the four operations write a state without asking `isTransitionValid`: a pairing request with
a code makes its sender `Trusted` from any state, and a rejected response makes a known peer
`Rejected` from any state. `Guarded` says that neither happens where the transition is not an edge.

* `soundCall_iff_guarded`: a call is sound exactly when it is guarded.
* `pairing_transitions_sound_iff`: the same for the calls of a run.
* `pairingRequest_skips_pairing`: a run with a call that is not sound.
-/

set_option autoImplicit false

namespace CrossFlow

open Lib (Machine)
open PairingFsm

/-- The call initiates a pairing. -/
def PairingCall.IsInitiate : PairingCall → Prop
  | .initiatePairing _ _ => True
  | _ => False

/-- The change the call `c` may make to the state of its peer. -/
def Admitted (c : PairingCall) (src dst : PairingState) : Prop :=
  isTransitionValid src dst = true ∨ (c.IsInitiate ∧ src = .Discovered ∧ dst = .Pairing)

/-- The call changes its own peer's state along an edge, no other peer's, and none if it fails. -/
def SoundCall (fsm : PairingFsm) (c : PairingCall) : Prop :=
  Admitted c (fsm.currentState c.peer) ((fsm.call c).1.currentState c.peer) ∧
    (∀ n, n ≠ c.peer → (fsm.call c).1.currentState n = fsm.currentState n) ∧
    ((fsm.call c).2 ≠ none → ∀ n, (fsm.call c).1.currentState n = fsm.currentState n)

/-- Where an operation writes without the guard, the state it starts from has the edge. -/
def Guarded (fsm : PairingFsm) : PairingCall → Prop
  | .handlePairingRequest request =>
    request.pairingCode ≠ [] → fsm.currentState request.requesterNodeId ∈ [.Pairing, .Trusted]
  | .handlePairingResponse response =>
    response.accepted = false → fsm.findPeer response.responderNodeId ≠ none →
      fsm.currentState response.responderNodeId ∈ [.Discovered, .Untrusted, .Pairing, .Rejected]
  | _ => True

/-! ### One call -/

/-- Staying in a state is valid. -/
theorem isTransitionValid_refl (state : PairingState) : isTransitionValid state state = true :=
  if_pos rfl

/-- The states from which trusted is a valid transition. -/
theorem isTransitionValid_trusted (state : PairingState) :
    isTransitionValid state .Trusted = true ↔ state ∈ [.Pairing, .Trusted] := by
  cases state <;> decide

/-- The states from which rejected is a valid transition. -/
theorem isTransitionValid_rejected (state : PairingState) :
    isTransitionValid state .Rejected = true ↔
      state ∈ [.Discovered, .Untrusted, .Pairing, .Rejected] := by
  cases state <;> decide

/-- A call that changes nothing makes an admitted transition. -/
theorem Admitted.of_same {c : PairingCall} {fsm fsm' : PairingFsm} (h : fsm' = fsm) :
    Admitted c (fsm.currentState c.peer) (fsm'.currentState c.peer) := by
  rw [h]
  exact .inl (isTransitionValid_refl _)

/-- The frame and the failing calls are always sound; what is left is the change of the peer. -/
theorem soundCall_iff_admitted (fsm : PairingFsm) (c : PairingCall) :
    SoundCall fsm c ↔
      Admitted c (fsm.currentState c.peer) ((fsm.call c).1.currentState c.peer) := by
  constructor
  · intro h
    exact h.1
  · intro h
    refine ⟨h, ?_, ?_⟩
    · intro n hn
      exact currentState_congr (fsm.call_frame c hn)
    · intro herr n
      rw [fsm.call_of_error c herr]

/-- Initiating a pairing makes an admitted transition. -/
theorem admitted_initiatePairing (fsm : PairingFsm) (nid : NodeId) (code : StdString) :
    Admitted (.initiatePairing nid code) (fsm.currentState nid)
      ((fsm.initiatePairing nid code).1.currentState nid) := by
  rcases fsm.initiatePairing_cases nid code with ⟨-, -, hcan, hdone⟩ | ⟨-, hsame, -⟩
  · rw [hdone.currentState]
    -- From `Discovered` the call composes two edges; from the others it takes one, or stays.
    rcases hcan with hstate | hstate | hstate
    · exact .inr ⟨trivial, hstate, rfl⟩
    · rw [hstate]
      exact .inl rfl
    · rw [hstate]
      exact .inl rfl
  · exact .of_same (c := .initiatePairing nid code) hsame

/-- A forced transition is admitted, as it is checked. -/
theorem admitted_forceTransition (fsm : PairingFsm) (nid : NodeId) (newState : PairingState) :
    Admitted (.forceTransition nid newState) (fsm.currentState nid)
      ((fsm.forceTransition nid newState).1.currentState nid) := by
  rcases fsm.forceTransition_cases nid newState with ⟨-, hsame⟩ | ⟨p, hp, hvalid, -, hdone⟩
  · exact .of_same (c := .forceTransition nid newState) hsame
  · rw [hdone.currentState, currentState_of_some hp]
    exact .inl hvalid

/-- A request makes an admitted transition exactly where it is guarded. -/
theorem admitted_handlePairingRequest_iff (fsm : PairingFsm) (request : PairingRequest) :
    Admitted (.handlePairingRequest request) (fsm.currentState request.requesterNodeId)
      ((fsm.handlePairingRequest request).1.currentState request.requesterNodeId) ↔
        Guarded fsm (.handlePairingRequest request) := by
  by_cases hcode : request.pairingCode = []
  · have hsame : (fsm.handlePairingRequest request).1 = fsm := by
      rw [fsm.handlePairingRequest_empty request hcode]
    exact iff_of_true (.of_same (c := .handlePairingRequest request) hsame) fun h => absurd hcode h
  · have hdone := (fsm.handlePairingRequest_accepts request hcode).1
    rw [hdone.currentState, Guarded, ← isTransitionValid_trusted]
    -- The exception of `Admitted` is for `initiatePairing` only.
    constructor
    · rintro (hvalid | ⟨himpossible, -⟩) -
      · exact hvalid
      · exact himpossible.elim
    · intro hguard
      exact .inl (hguard hcode)

/-- A response makes an admitted transition exactly where it is guarded. -/
theorem admitted_handlePairingResponse_iff (fsm : PairingFsm) (response : PairingResponse) :
    Admitted (.handlePairingResponse response) (fsm.currentState response.responderNodeId)
      ((fsm.handlePairingResponse response).1.currentState response.responderNodeId) ↔
        Guarded fsm (.handlePairingResponse response) := by
  rw [Guarded, ← isTransitionValid_rejected]
  rcases fsm.handlePairingResponse_cases response with
    ⟨-, hsame, hreason⟩ | ⟨p, hp, -, ⟨hacc, hdone⟩ | ⟨hacc, hvalid, hdone⟩⟩
  -- The call failed, and then the response was not a rejection of a known peer.
  · refine iff_of_true (.of_same (c := .handlePairingResponse response) hsame) ?_
    intro hrej hknown
    rcases hreason with hnone | ⟨hacc, -⟩
    · exact absurd hnone hknown
    · exact absurd (hrej.symm.trans hacc) (by decide)
  · rw [hdone.currentState, currentState_of_some hp, hp]
    constructor
    · rintro (hvalid | ⟨himpossible, -⟩) - -
      · exact hvalid
      · exact himpossible.elim
    · intro hguard
      exact .inl (hguard hacc (Option.some_ne_none p))
  · rw [hdone.currentState, currentState_of_some hp]
    refine iff_of_true (.inl hvalid) ?_
    intro hrej
    exact absurd (hrej.symm.trans hacc) (by decide)

/-- A call is sound exactly where it is guarded. -/
theorem soundCall_iff_guarded (fsm : PairingFsm) (c : PairingCall) :
    SoundCall fsm c ↔ Guarded fsm c := by
  rw [soundCall_iff_admitted]
  cases c with
  | initiatePairing nid code => exact iff_of_true (admitted_initiatePairing fsm nid code) trivial
  | handlePairingRequest request => exact admitted_handlePairingRequest_iff fsm request
  | handlePairingResponse response => exact admitted_handlePairingResponse_iff fsm response
  | forceTransition nid newState =>
    exact iff_of_true (admitted_forceTransition fsm nid newState) trivial

/-! ### Runs -/

/-- The calls of a run are all sound exactly when they are all guarded. -/
theorem pairing_transitions_sound_iff (calls : List PairingCall) :
    pairingMachine.Meets SoundCall pairingMachine.init calls ↔
      pairingMachine.Meets Guarded pairingMachine.init calls :=
  Lib.Machine.meets_congr soundCall_iff_guarded

/-- A first pairing request takes its sender from `Discovered` to `Trusted`. -/
theorem pairingRequest_skips_pairing :
    ¬ ∀ calls : List PairingCall, pairingMachine.Meets SoundCall pairingMachine.init calls := by
  intro hclaim
  let peer : NodeId := { high := 1, low := 1 }
  let request : PairingRequest :=
    { requesterNodeId := peer
      pairingCode := StdString.lit "482913"
      fence := .newSession peer }
  have hsound := (hclaim [.handlePairingRequest request]).1
  rw [soundCall_iff_guarded] at hsound
  exact absurd (hsound (by decide)) (by decide)

end CrossFlow
