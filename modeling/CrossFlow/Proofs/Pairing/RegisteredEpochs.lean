import CrossFlow.Proofs.Pairing.Registration

/-!
# `CrossFlow.Proofs.Pairing.RegisteredEpochs`: the session epochs of the registered peers

A registration of a peer that is registered takes the place of the old one, whatever the epochs of
the two are.

* `step_cases`: what a call does to the records.
* `epochsKept_iff`: the runs in which no epoch goes back.
-/

set_option autoImplicit false

namespace CrossFlow

namespace RegistrationCall

/-- The identity that the call registers, if it is valid. -/
def identity : RegistrationCall → Option NodeIdentity
  | .registerPeer _ peerIdentity => if peerIdentity.isValid then some peerIdentity else none
  | .unregisterPeer _ => none
  | .handleRegistrationRequest _ request =>
    if request.identity.isValid then some request.identity else none

end RegistrationCall

namespace RegistrationManager

/-- No peer has two records. -/
def OneRecordEach (m : RegistrationManager) : Prop :=
  (m.records.map RegistrationRecord.peerNodeId).Nodup

/-- The session epoch that is recorded of the peer. -/
def epochOf (m : RegistrationManager) (n : NodeId) : Option UInt64 :=
  (m.find n).map fun r => r.peerIdentity.sessionEpoch.value

/-- The call does not register a registered peer with an epoch before the one recorded. -/
def RespectsEpoch (m : RegistrationManager) (c : RegistrationCall) : Prop :=
  ∀ identity, c.identity = some identity → m.isRegistered identity.nodeId = true →
    ∀ e, m.epochOf identity.nodeId = some e → e ≤ identity.sessionEpoch.value

variable {m m' : RegistrationManager} {n : NodeId}

/-- A node that is registered has an epoch. -/
theorem epochOf_of_isRegistered (h : m.isRegistered n = true) : ∃ e, m.epochOf n = some e := by
  unfold isRegistered at h
  unfold epochOf
  cases hfind : m.find n with
  | none =>
    rw [hfind] at h
    exact absurd h Bool.false_ne_true
  | some r => exact ⟨_, rfl⟩

/-- Registering keeps one record for each node. -/
theorem OneRecordEach.registerPeer (h : m.OneRecordEach) (now : UInt64) (identity : NodeIdentity) :
    (m.registerPeer now identity).1.OneRecordEach := by
  unfold RegistrationManager.registerPeer
  split
  · exact h
  · cases hfind : m.find identity.nodeId with
    | some existing =>
      exact Lib.KeyedList.nodup_modify RegistrationRecord.peerNodeId
        (f := renewRecord now identity) (fun _ hid => hid) h
    | none => exact Lib.KeyedList.nodup_append RegistrationRecord.peerNodeId h hfind

/-- A request registers its identity. -/
theorem step_handleRegistrationRequest (m : RegistrationManager) (now : UInt64)
    (request : RegistrationRequest) :
    registrationMachine.step m (.handleRegistrationRequest now request) =
      (m.registerPeer now request.identity).1 := handleRegistrationRequest_fst m now request

/-- A call keeps one record for each node. -/
theorem OneRecordEach.step (h : m.OneRecordEach) (c : RegistrationCall) :
    (registrationMachine.step m c).OneRecordEach := by
  cases c with
  | registerPeer now peerIdentity => exact h.registerPeer now peerIdentity
  | unregisterPeer peerNodeId => exact Lib.KeyedList.nodup_erase RegistrationRecord.peerNodeId h
  | handleRegistrationRequest now request =>
    rw [step_handleRegistrationRequest]
    exact h.registerPeer now request.identity

/-! ### Steps -/

/-- A valid identity is registered, at the epoch it declares. -/
theorem registerPeer_self (m : RegistrationManager) (now : UInt64) {identity : NodeIdentity}
    (hvalid : identity.isValid = true) :
    (m.registerPeer now identity).1.epochOf identity.nodeId = some identity.sessionEpoch.value ∧
      (m.registerPeer now identity).1.isRegistered identity.nodeId = true := by
  obtain ⟨m', r, hregister, hfind, hstate, hrecorded⟩ := registerPeer_of_valid m now hvalid
  rw [hregister]
  refine ⟨?_, isRegistered_of_find hfind hstate⟩
  rw [epochOf, hfind, Option.map_some, hrecorded]

/-- Registering leaves the records of the other nodes. -/
theorem registerPeer_other (m : RegistrationManager) (now : UInt64) {identity : NodeIdentity}
    (h : identity.isValid = true → identity.nodeId ≠ n) :
    (m.registerPeer now identity).1.find n = m.find n := by
  cases hvalid : identity.isValid with
  | false =>
    rw [registerPeer, hvalid]
    rfl
  | true => exact find_registerPeer_ne m now identity (h hvalid).symm

/-- The identity that a call registers is recorded, in the place of any other of its peer. -/
theorem step_of_identity (m : RegistrationManager) {c : RegistrationCall} {identity : NodeIdentity}
    (h : c.identity = some identity) :
    (registrationMachine.step m c).epochOf identity.nodeId = some identity.sessionEpoch.value ∧
      (registrationMachine.step m c).isRegistered identity.nodeId = true := by
  cases c with
  | registerPeer now peerIdentity =>
    rw [RegistrationCall.identity, Option.ite_none_right_eq_some] at h
    obtain ⟨hvalid, heq⟩ := h
    cases heq
    exact m.registerPeer_self now hvalid
  | unregisterPeer peerNodeId => exact absurd h (by simp [RegistrationCall.identity])
  | handleRegistrationRequest now request =>
    rw [RegistrationCall.identity, Option.ite_none_right_eq_some] at h
    obtain ⟨hvalid, heq⟩ := h
    cases heq
    rw [step_handleRegistrationRequest]
    exact m.registerPeer_self now hvalid

/-- A call that does not register the peer leaves its record or removes it. -/
theorem step_other (m : RegistrationManager) {c : RegistrationCall}
    (h : ∀ identity, c.identity = some identity → identity.nodeId ≠ n) :
    (registrationMachine.step m c).find n = none ∨
      (registrationMachine.step m c).find n = m.find n := by
  cases c with
  | registerPeer now peerIdentity =>
    right
    -- An identity that is not valid registers nobody.
    refine m.registerPeer_other now fun hvalid => h peerIdentity ?_
    rw [RegistrationCall.identity, if_pos hvalid]
  | unregisterPeer peerNodeId =>
    by_cases hn : n = peerNodeId
    · left
      rw [hn]
      exact Lib.KeyedList.find_erase_self RegistrationRecord.peerNodeId m.records
    · right
      exact Lib.KeyedList.find_erase_ne RegistrationRecord.peerNodeId hn m.records
  | handleRegistrationRequest now request =>
    right
    rw [step_handleRegistrationRequest]
    refine m.registerPeer_other now fun hvalid => h request.identity ?_
    rw [RegistrationCall.identity, if_pos hvalid]

/-- A call under the condition does not set back the epoch of a peer that stays registered. -/
theorem epochOf_step (m : RegistrationManager) {c : RegistrationCall} (hc : m.RespectsEpoch c)
    (hbefore : m.isRegistered n = true)
    (hafter : (registrationMachine.step m c).isRegistered n = true) :
    ∃ e e', m.epochOf n = some e ∧ (registrationMachine.step m c).epochOf n = some e' ∧ e ≤ e' := by
  obtain ⟨e, he⟩ := epochOf_of_isRegistered hbefore
  -- The call registers the node again, or it is about others.
  by_cases hregisters : ∃ identity, c.identity = some identity ∧ identity.nodeId = n
  · obtain ⟨identity, hidentity, rfl⟩ := hregisters
    exact ⟨e, identity.sessionEpoch.value, he, (m.step_of_identity hidentity).1,
      hc identity hidentity hbefore e he⟩
  · have hother : ∀ identity, c.identity = some identity → identity.nodeId ≠ n :=
      fun identity hidentity hn => hregisters ⟨identity, hidentity, hn⟩
    -- The record was erased, which `hafter` excludes.
    rcases m.step_other hother with hnone | hsame
    · obtain ⟨e', he'⟩ := epochOf_of_isRegistered hafter
      rw [epochOf, hnone] at he'
      exact absurd he' (by simp)
    · refine ⟨e, e, he, ?_, UInt64.le_refl e⟩
      rw [epochOf, hsame]
      exact he

/-! ### Runs -/

/-- In every state of the run each peer has one record, and from one state to a later one, between
which the peer is always registered, the epoch recorded of it does not go back. -/
def EpochsKept (calls : List RegistrationCall) : Prop :=
  (∀ pre, pre <+: calls → (registrationMachine.run pre).OneRecordEach) ∧
    ∀ n pre mid, pre ++ mid <+: calls →
      (∀ k, k <+: mid → (registrationMachine.run (pre ++ k)).isRegistered n = true) →
        ∃ e e', (registrationMachine.run pre).epochOf n = some e ∧
          (registrationMachine.run (pre ++ mid)).epochOf n = some e' ∧ e ≤ e'

/-- While a node stays registered its epoch does not decrease. -/
theorem epochOf_runFrom {calls : List RegistrationCall}
    (hcalls : registrationMachine.Meets RespectsEpoch m calls)
    (hregistered : ∀ k, k <+: calls → (registrationMachine.runFrom m k).isRegistered n = true) :
    ∃ e e', m.epochOf n = some e ∧ (registrationMachine.runFrom m calls).epochOf n = some e' ∧
      e ≤ e' := by
  induction calls generalizing m with
  | nil =>
    obtain ⟨e, he⟩ := epochOf_of_isRegistered (hregistered [] List.nil_prefix)
    exact ⟨e, e, he, he, UInt64.le_refl e⟩
  | cons c calls ih =>
    obtain ⟨hc, hcalls⟩ := hcalls
    have hnext : ∀ k, k <+: calls →
        (registrationMachine.runFrom (registrationMachine.step m c) k).isRegistered n = true :=
      fun k hk => hregistered (c :: k) (List.cons_prefix_cons.mpr ⟨rfl, hk⟩)
    obtain ⟨e, e₁, he, he₁, hle⟩ :=
      -- The first call does not take the epoch back, and neither do the others.
      m.epochOf_step hc (hregistered [] List.nil_prefix) (hnext [] List.nil_prefix)
    obtain ⟨e₁', e', he₁', he', hle'⟩ := ih hcalls hnext
    rw [he₁] at he₁'
    cases he₁'
    exact ⟨e, e', he, he', UInt64.le_trans hle hle'⟩

/-- Each peer has one record and its epoch is kept, in every state of a run, exactly when no call
registers a registered peer with an older epoch. -/
theorem epochsKept_iff (calls : List RegistrationCall) :
    EpochsKept calls ↔ registrationMachine.Meets RespectsEpoch .init calls := by
  constructor
  · rintro ⟨-, hkept⟩
    rw [Lib.Machine.meets_iff_forall]
    intro pre c hpre identity hidentity hregistered e he
    -- The call is a step between two states in which the peer is registered.
    have hself := RegistrationManager.step_of_identity (registrationMachine.run pre) hidentity
    have hrun := registrationMachine.run_append_singleton pre c
    obtain ⟨e₀, e', he₀, he', hle⟩ := hkept identity.nodeId pre [c] hpre (by
      intro k hk
      rcases List.sublist_singleton.mp hk.sublist with rfl | rfl
      · rw [List.append_nil]
        exact hregistered
      · rw [hrun]
        exact hself.2)
    rw [hrun, hself.1] at he'
    cases he'
    cases he.symm.trans he₀
    exact hle
  · intro hmeets
    refine ⟨?_, ?_⟩
    · intro pre _
      exact Lib.Machine.Invariant.of_step (m := registrationMachine) (P := OneRecordEach)
        List.nodup_nil (fun _ c h => h.step c) pre
    · intro n pre mid hpre hregistered
      obtain ⟨rest, rfl⟩ := hpre
      rw [Lib.Machine.meets_append, Lib.Machine.meets_append] at hmeets
      obtain ⟨⟨-, hmid⟩, -⟩ := hmeets
      have hrun : ∀ k, registrationMachine.run (pre ++ k) =
          registrationMachine.runFrom (registrationMachine.run pre) k :=
        fun k => registrationMachine.runFrom_append .init pre k
      rw [hrun]
      refine epochOf_runFrom hmid ?_
      intro k hk
      rw [← hrun]
      exact hregistered k hk

/-- A request with an older epoch takes the place of a newer registration. -/
theorem older_epoch_registered : ¬ ∀ calls, EpochsKept calls := by
  intro hclaim
  let peer : NodeId := { high := 2, low := 2 }
  let newer : NodeIdentity := { plainIdentity peer with sessionEpoch := { value := 5 } }
  let older : RegistrationRequest :=
    { identity := plainIdentity peer, fence := .newSession peer }
  obtain ⟨e, e', he, he', hle⟩ := (hclaim [.registerPeer 0 newer,
    .handleRegistrationRequest 1 older]).2 peer [.registerPeer 0 newer]
      [.handleRegistrationRequest 1 older] (List.prefix_refl _) (by
        intro k hk
        rcases List.sublist_singleton.mp hk.sublist with rfl | rfl <;> decide)
  have h₅ : e = 5 := Option.some_inj.mp (he.symm.trans (by decide))
  have h₁ : e' = 1 := Option.some_inj.mp (he'.symm.trans (by decide))
  rw [h₅, h₁] at hle
  exact absurd hle (by decide)

end RegistrationManager

end CrossFlow
