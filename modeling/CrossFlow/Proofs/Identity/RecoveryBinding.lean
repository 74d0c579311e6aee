import CrossFlow.Core.Identity.IdentityRecoveryManager
import CrossFlow.Lib.PastTime

/-!
# `CrossFlow.Proofs.Identity.RecoveryBinding`: a recovery answers a request

An identity is returned only while a recovery of the responder is in progress, and it ends that
recovery. Whose identity the response carries is not looked at.

* `isRecoveryInProgress_step`: what each call does to the recoveries in progress.
* `bindingInv_run`: a recovery in progress was asked for, and each is completed once.
* `recovery_bound_iff`: the runs in which also the identities are the responders' own.
-/

set_option autoImplicit false

namespace CrossFlow

open IdentityRecoveryManager
open Lib (Just Since)

/-- A call in the state it was made in. -/
abbrev RecoveryStep : Type := IdentityRecoveryManager × RecoveryCall

/-- A recovery of the peer is asked for, and the peer is trusted. -/
def initiates (nid : NodeId) (e : RecoveryStep) : Bool :=
  match e.2 with
  | .initiateRecovery peerNodeId _ => peerNodeId = nid && e.1.trustedList.isTrusted nid
  | _ => false

/-- An identity is returned for a response of the peer. -/
def completes (nid : NodeId) (e : RecoveryStep) : Bool :=
  match e.2 with
  | .handleRecoveryResponse response =>
    response.responderNodeId = nid && (e.1.handleRecoveryResponse response).2.isSome
  | _ => false

/-- The recovery of the peer is cancelled, by a call or by the peer. -/
def cancels (nid : NodeId) (e : RecoveryStep) : Bool :=
  match e.2 with
  | .cancelRecovery peerNodeId => peerNodeId = nid
  | .handleRecoveryResponse response => response.responderNodeId = nid && !response.recovered
  | _ => false

/-- A recovery of the peer was asked for while the peer was trusted, and neither cancelled nor
completed since. -/
def AskedFor (nid : NodeId) (past : List RecoveryStep) : Prop :=
  Since (fun e => (cancels nid e || completes nid e) = true)
    (Just (fun e => initiates nid e = true) fun _ => True) past

/-- What is returned for the response, after the calls in `past`, is asked for, is not more than
one identity for each call that asked, and is the responder's. -/
structure Bound (past : List RecoveryStep) (response : IdentityRecoveryResponse)
    (identity : NodeIdentity) : Prop where
  askedFor : AskedFor response.responderNodeId past
  once : past.countP (completes response.responderNodeId) <
    past.countP (initiates response.responderNodeId)
  responder : identity.nodeId = response.responderNodeId

/-- In a run from `start`, whatever a response returns is bound to a request. -/
def ResponsesBound (start : IdentityRecoveryManager) (calls : List RecoveryCall) : Prop :=
  ∀ pre response identity, pre ++ [.handleRecoveryResponse response] <+: calls →
    (((recoveryMachine start).run pre).handleRecoveryResponse response).2 = some identity →
      Bound ((recoveryMachine start).past pre) response identity

/-- A response in a recovery that is in progress carries the responder's identity, or none. -/
def NamesResponder (m : IdentityRecoveryManager) : RecoveryCall → Prop
  | .handleRecoveryResponse response =>
    response.recovered = true → m.isRecoveryInProgress response.responderNodeId = true →
      ∀ identity, response.identity = some identity → identity.nodeId = response.responderNodeId
  | _ => True

variable {m : IdentityRecoveryManager} {nid : NodeId}

/-- A recovery is in progress when it is found. -/
theorem isRecoveryInProgress_eq (m : IdentityRecoveryManager) (nid : NodeId) :
    m.isRecoveryInProgress nid = (m.findRecovery nid).isSome := by
  rw [Bool.eq_iff_iff, findRecovery, Lib.KeyedList.find, List.find?_isSome]
  exact List.any_eq_true

/-- When a response gives an identity. -/
theorem handleRecoveryResponse_eq_some {response : IdentityRecoveryResponse}
    {identity : NodeIdentity} :
    (m.handleRecoveryResponse response).2 = some identity ↔
      response.recovered = true ∧ m.isRecoveryInProgress response.responderNodeId = true ∧
        response.identity = some identity := by
  rw [isRecoveryInProgress_eq, handleRecoveryResponse]
  cases response.recovered with
  | false => simp
  | true =>
    cases m.findRecovery response.responderNodeId with
    | none => simp
    | some r => cases response.identity <;> simp

/-- A response ends the recovery when it cancels it and when it returns an identity. -/
theorem handleRecoveryResponse_fst (m : IdentityRecoveryManager)
    (response : IdentityRecoveryResponse) :
    (m.handleRecoveryResponse response).1 =
      if response.recovered = false ∨ (m.handleRecoveryResponse response).2.isSome = true then
        m.cancelRecovery response.responderNodeId
      else m := by
  unfold handleRecoveryResponse
  cases hrecovered : response.recovered with
  | false => simp
  | true =>
    cases hfind : m.findRecovery response.responderNodeId with
    | none => simp
    | some r => cases hidentity : response.identity <;> simp [cancelRecovery]

/-- A recovery that is given up is not in progress. -/
theorem isRecoveryInProgress_cancelRecovery (m : IdentityRecoveryManager) (peerNodeId nid : NodeId) :
    (m.cancelRecovery peerNodeId).isRecoveryInProgress nid =
      if peerNodeId = nid then false else m.isRecoveryInProgress nid := by
  rw [isRecoveryInProgress_eq, isRecoveryInProgress_eq, findRecovery, cancelRecovery]
  by_cases hpeer : peerNodeId = nid
  · rw [if_pos hpeer, hpeer, Lib.KeyedList.find_erase_self]
    rfl
  · rw [if_neg hpeer, Lib.KeyedList.find_erase_ne _ (Ne.symm hpeer)]
    rfl

/-- A recovery for a trusted peer is in progress once it was initiated. -/
theorem isRecoveryInProgress_initiateRecovery (m : IdentityRecoveryManager) (peerNodeId : NodeId)
    (now : UInt64) (nid : NodeId) :
    (m.initiateRecovery peerNodeId now).1.isRecoveryInProgress nid =
      ((decide (peerNodeId = nid) && m.trustedList.isTrusted nid) ||
        m.isRecoveryInProgress nid) := by
  rw [initiateRecovery, ← isRecoveryInProgress_eq]
  -- A recovery is begun once for a trusted peer, and there may be one already.
  by_cases hpeer : peerNodeId = nid
  · subst hpeer
    cases htrusted : m.trustedList.isTrusted peerNodeId with
    | false => simp
    | true =>
      cases hfound : m.isRecoveryInProgress peerNodeId with
      | true => simp [hfound]
      | false => simp [isRecoveryInProgress]
  · -- Another recovery than the peer's.
    rw [decide_eq_false hpeer, Bool.false_and, Bool.false_or]
    split
    · rfl
    · split
      · rfl
      · simp [isRecoveryInProgress, hpeer]

/-- The recoveries that are in progress after a call. -/
theorem isRecoveryInProgress_step (m : IdentityRecoveryManager) (c : RecoveryCall) (nid : NodeId) :
    (m.step c).isRecoveryInProgress nid =
      (!(cancels nid (m, c) || completes nid (m, c)) &&
        (initiates nid (m, c) || m.isRecoveryInProgress nid)) := by
  cases c with
  | initiateRecovery peerNodeId now => exact isRecoveryInProgress_initiateRecovery m _ now nid
  | cancelRecovery peerNodeId =>
    show (m.cancelRecovery peerNodeId).isRecoveryInProgress nid = _
    rw [isRecoveryInProgress_cancelRecovery]
    simp [cancels, completes, initiates]
  | setTrustedList trustedList => rfl
  | setIdentity identityMgr => rfl
  | handleRecoveryResponse response =>
    show (m.handleRecoveryResponse response).1.isRecoveryInProgress nid = _
    rw [handleRecoveryResponse_fst]
    simp only [cancels, completes, initiates]
    -- The recovery ends exactly if the response is returned.
    cases hrecovered : response.recovered <;>
      cases hreturned : (m.handleRecoveryResponse response).2.isSome <;>
      simp [isRecoveryInProgress_cancelRecovery]

/-- Only a recovery in progress is completed. -/
theorem completes_cases {c : RecoveryCall} (h : completes nid (m, c) = true) :
    m.isRecoveryInProgress nid = true ∧ initiates nid (m, c) = false := by
  cases c with
  | handleRecoveryResponse response =>
    simp only [completes, Bool.and_eq_true, decide_eq_true_eq, Option.isSome_iff_exists] at h
    obtain ⟨rfl, identity, hreturned⟩ := h
    exact ⟨(handleRecoveryResponse_eq_some.mp hreturned).2.1, rfl⟩
  | _ => exact absurd h Bool.false_ne_true

/-! ### Every run -/

/-- The recoveries in progress are those that were asked for, and each identity that was returned
ended one of them. -/
structure BindingInv (m : IdentityRecoveryManager) (past : List RecoveryStep) : Prop where
  askedFor : ∀ nid, m.isRecoveryInProgress nid = true → AskedFor nid past
  once : ∀ nid, past.countP (completes nid) + (m.isRecoveryInProgress nid).toNat ≤
    past.countP (initiates nid)

/-- Each call keeps the invariant. -/
theorem bindingInv_step {past : List RecoveryStep} (h : BindingInv m past) (c : RecoveryCall) :
    BindingInv (m.step c) ((m, c) :: past) := by
  constructor
  · intro nid hprogress
    rw [isRecoveryInProgress_step, Bool.and_eq_true, Bool.or_eq_true] at hprogress
    obtain ⟨hkept, hinitiates | hbefore⟩ := hprogress
    · exact .now ⟨hinitiates, trivial⟩
    · exact (h.askedFor nid hbefore).keep (by simpa using hkept)
  · intro nid
    have hbefore := h.once nid
    rw [isRecoveryInProgress_step, List.countP_cons, List.countP_cons]
    cases hcompletes : completes nid (m, c) with
    | true =>
      -- What is completed was in progress.
      obtain ⟨hprogress, hinitiates⟩ := completes_cases hcompletes
      rw [hprogress] at hbefore
      simpa [hinitiates] using hbefore
    | false =>
      have hbound : ∀ cancelled initiated progress : Bool,
          (!(cancelled || false) && (initiated || progress)).toNat ≤
            progress.toNat + if initiated = true then 1 else 0 := by decide
      have hnow := hbound (cancels nid (m, c)) (initiates nid (m, c)) (m.isRecoveryInProgress nid)
      rw [if_neg Bool.false_ne_true]
      omega

/-- The invariant holds after any calls. -/
theorem bindingInv_run (identityMgr : NodeIdentityManager) (trustedList : TrustedNodeList)
    (calls : List RecoveryCall) :
    BindingInv ((recoveryMachine (.init identityMgr trustedList)).run calls)
      ((recoveryMachine (.init identityMgr trustedList)).past calls) := by
  refine Lib.Machine.past_of_step (P := BindingInv) ⟨?_, ?_⟩
    (fun m past c h => bindingInv_step h c) calls
  · exact fun nid h => absurd h Bool.false_ne_true
  · exact fun nid => Nat.le_refl 0

/-- In every run an identity is returned only for a recovery that was asked for, and once for each.
It is the responder's own in exactly the runs in which the responses carry that. -/
theorem recovery_bound_iff (identityMgr : NodeIdentityManager) (trustedList : TrustedNodeList)
    (calls : List RecoveryCall) :
    ResponsesBound (.init identityMgr trustedList) calls ↔
      (recoveryMachine (.init identityMgr trustedList)).Meets NamesResponder
        (.init identityMgr trustedList) calls := by
  have hrun := bindingInv_run identityMgr trustedList
  generalize IdentityRecoveryManager.init identityMgr trustedList = start at hrun ⊢
  rw [Lib.Machine.meets_iff_forall]
  constructor
  · -- The condition is about responses only.
    intro hbound pre c hpre
    cases c with
    | handleRecoveryResponse response =>
      intro hrecovered hprogress identity hidentity
      exact (hbound pre response identity hpre
        (handleRecoveryResponse_eq_some.mpr ⟨hrecovered, hprogress, hidentity⟩)).responder
    | _ => trivial
  · -- The response is for a recovery that was begun once, and it names its responder.
    intro hnames pre response identity hpre hreturned
    obtain ⟨hrecovered, hprogress, hidentity⟩ := handleRecoveryResponse_eq_some.mp hreturned
    have hinv := hrun pre
    refine ⟨hinv.askedFor _ hprogress, ?_, ?_⟩
    · have honce := hinv.once response.responderNodeId
      rw [hprogress] at honce
      exact honce
    · exact hnames pre (.handleRecoveryResponse response) hpre hrecovered hprogress identity
        hidentity

/-- What `handleRecoveryRequest` answers carries the responder's own identity. -/
theorem handleRecoveryRequest_names {request : IdentityRecoveryRequest}
    {outResponse response : IdentityRecoveryResponse}
    (h : m.handleRecoveryRequest request outResponse = (none, response)) :
    ∃ identity, response.identity = some identity ∧
      identity.nodeId = response.responderNodeId := by
  unfold handleRecoveryRequest at h
  split at h
  · exact absurd (congrArg Prod.fst h) (Option.some_ne_none _)
  · split at h
    · exact absurd (congrArg Prod.fst h) (Option.some_ne_none _)
    · obtain rfl := congrArg Prod.snd h
      exact ⟨_, rfl, rfl⟩

/-- The trusted peer 2 answers with the identity of node 7. -/
theorem foreign_identity_returned :
    ¬ ∀ (identityMgr : NodeIdentityManager) (trustedList : TrustedNodeList)
      (calls : List RecoveryCall), ResponsesBound (.init identityMgr trustedList) calls := by
  intro hclaim
  let peer : NodeId := { high := 2, low := 2 }
  let foreign : NodeIdentity := { NodeIdentity.init with nodeId := { high := 7, low := 7 } }
  let response : IdentityRecoveryResponse :=
    { responderNodeId := peer
      recovered := true
      identity := some foreign
      fence := .newSession peer }
  have hbound := hclaim { identity := none }
    { entries := [{ nodeId := peer, pairedAt := 0, lastSeenEpoch := { value := 1 } }] }
    [.initiateRecovery peer 0, .handleRecoveryResponse response]
    [.initiateRecovery peer 0] response foreign (List.prefix_refl _) (by decide)
  exact absurd hbound.responder (by decide)

end CrossFlow
