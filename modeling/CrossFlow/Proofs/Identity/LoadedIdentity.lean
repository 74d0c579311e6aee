import CrossFlow.Proofs.Identity.EpochOrder

/-!
# `CrossFlow.Proofs.Identity.LoadedIdentity`: what loading and recovering do to the identity

`load` writes the node id and the epoch before it reads the membership, and creates an identity when
there is none. A created identity has the capabilities of `NodeIdentity{}`, which are not valid.

* `failed_load_unchanged_iff`: the files that leave the identity when they cannot be loaded.
* `identity_valid_iff`: the runs in which a present identity is always valid.
-/

set_option autoImplicit false

namespace CrossFlow

open StdString (lit)
open PersistentIdentityManager

/-! ### Failed loads -/

namespace PersistentIdentityManager

/-- The call leaves the identity when it returns an error. -/
def Undisturbed (m : PersistentIdentityManager)
    (result : PersistentIdentityManager × Option ErrorCode) : Prop :=
  result.2 ≠ none → result.1.identity = m.identity

/-- What can be read of the file can be read to its end, or is what the identity says. -/
def LoadsWhole (m : PersistentIdentityManager) (file : Option StdString) : Prop :=
  m.persistPath = [] ∨ ∀ nid epochVal, FileSays file nid epochVal →
    FileReads file nid epochVal ∨
      ∃ own, m.identity = some own ∧ own.nodeId = nid ∧ own.sessionEpoch.value = epochVal

/-- Without a path nothing is loaded. -/
theorem load_of_no_path {m : PersistentIdentityManager} (hpath : m.persistPath = [])
    (file : Option StdString) : m.load file = (m, some .SessPersistCorrupt) := if_pos hpath

/-- `load` leaves what was in memory, or loads the whole file. -/
theorem undisturbed_load_iff (m : PersistentIdentityManager) (file : Option StdString) :
    m.Undisturbed (m.load file) ↔ m.LoadsWhole file := by
  by_cases hpath : m.persistPath = []
  · refine iff_of_true (fun _ => ?_) (.inl hpath)
    rw [load_of_no_path hpath]
  rw [LoadsWhole, or_iff_right hpath]
  -- The file gives no identity and nothing is written, or the one it gives is.
  rcases load_cases hpath file with ⟨hsame, -, hnone⟩ | ⟨identity, hload, hgives, hreads, hover⟩
  · refine iff_of_true (fun _ => ?_) fun nid epochVal hgives => absurd hgives (hnone nid epochVal)
    rw [hsame]
  · unfold Undisturbed
    rw [hload]
    constructor
    · intro hundisturbed nid epochVal hgives'
      obtain ⟨rfl, rfl⟩ := hgives.unique hgives'
      -- The file reads whole, or nothing was written that differs from what there was.
      by_cases hfile : FileReads file identity.nodeId identity.sessionEpoch.value
      · exact .inl hfile
      · exact .inr ⟨identity, (hundisturbed (mt hreads.mp hfile)).symm, rfl, rfl⟩
    · intro hwhole herr
      rcases hwhole _ _ hgives with hfile | ⟨own, hown, hnid, hepoch⟩
      · exact absurd (hreads.mpr hfile) herr
      · -- The three members that are written are what they were.
        have hrest := hover.rest
        have hmembership := hover.membership herr
        have hsession : identity.sessionEpoch = own.sessionEpoch :=
          congrArg SessionEpoch.mk hepoch.symm
        rw [hown, Option.getD_some] at hrest hmembership
        rw [hown, hrest, ← hnid, hsession, hmembership]

/-- `recoverNodeId` has the error of `load`. -/
theorem recoverNodeId_snd (m : PersistentIdentityManager) (file : Option StdString) :
    (m.recoverNodeId file).2 = (m.load file).2 := by
  unfold recoverNodeId
  dsimp only
  cases herr : (m.load file).2 with
  | some err => rfl
  | none =>
    have hpath : m.persistPath ≠ [] := by
      intro hpath
      rw [load_of_no_path hpath] at herr
      exact Option.some_ne_none _ herr
    rcases load_cases hpath file with ⟨-, hfails, -⟩ | ⟨identity, hload, -, hreads, -⟩
    · exact absurd herr hfails
    · -- What was loaded is not null.
      have hid := (hreads.mp herr).not_isNull
      rw [hload, if_neg (by decide), if_neg]
      rw [getNodeId_of_some rfl, hid]
      exact Bool.false_ne_true

end PersistentIdentityManager

/-- A load and a recovery that fail leave the identity exactly when what they can read of the file
is all of it, or what the identity says already. -/
theorem failed_load_unchanged_iff (m : PersistentIdentityManager) (file : Option StdString) :
    (m.Undisturbed (m.load file) ↔ m.LoadsWhole file) ∧
      (m.Undisturbed (m.recoverNodeId file) ↔ m.LoadsWhole file) := by
  refine ⟨undisturbed_load_iff m file, ?_⟩
  rw [← undisturbed_load_iff, Undisturbed, Undisturbed, recoverNodeId_snd, recoverNodeId_fst]

/-- The file of another node, without the membership that it promises. -/
theorem failed_load_disturbs :
    let m : PersistentIdentityManager :=
      { init (lit "node.id") with identity := some (epochIdentity 5) }
    (m.load (some (lit "7 8 9 1"))).2 = some .SessPersistCorrupt ∧
      ¬ m.Undisturbed (m.load (some (lit "7 8 9 1"))) ∧
      ¬ m.Undisturbed (m.recoverNodeId (some (lit "7 8 9 1"))) := by
  intro m
  refine ⟨by decide +kernel, fun h => ?_, fun h => ?_⟩
  · exact absurd (h (by decide +kernel)) (by decide +kernel)
  · exact absurd (h (by decide +kernel)) (by decide +kernel)

/-! ### Valid identities -/

/-- A generated id is not null. -/
theorem NodeId.generate_not_isNull (random : UInt64 × UInt64) :
    (NodeId.generate random).isNull = false := by
  -- The variant bits are set.
  have hlow : random.2 &&& 0x3FFFFFFFFFFFFFFF ||| 0x8000000000000000 ≠ 0 := by
    intro hzero
    have hzero := congrArg UInt64.toNat hzero
    rw [UInt64.toNat_or, UInt64.toNat_zero, Nat.or_eq_zero_iff] at hzero
    exact absurd hzero.2 (by decide)
  exact decide_eq_false fun hnull => hlow hnull.2

/-- An identity is valid when there is a node and it is capable of something. -/
theorem NodeIdentity.isValid_iff (identity : NodeIdentity) :
    identity.isValid = true ↔
      identity.nodeId.isNull = false ∧ identity.capabilities.isValid = true := by
  unfold NodeIdentity.isValid
  rw [decide_eq_true_iff, Bool.not_eq_true']

/-- An identity that is there is valid. -/
def NodeIdentityManager.HoldsValid (m : NodeIdentityManager) : Prop :=
  ∀ identity, m.identity = some identity → identity.isValid = true

namespace NodeIdentityManager

variable {m : NodeIdentityManager}

/-- An update that does not bear on validity keeps a valid identity. -/
theorem HoldsValid.updateIdentity (h : m.HoldsValid) {update : NodeIdentity → NodeIdentity}
    (hupdate : ∀ identity, (update identity).isValid = identity.isValid) :
    (m.updateIdentity update).1.HoldsValid := by
  unfold NodeIdentityManager.updateIdentity
  cases hidentity : m.identity with
  | none => exact h
  | some identity =>
    rintro _ ⟨rfl⟩
    exact (hupdate identity).trans (h identity hidentity)

/-- Only a valid identity is taken over. -/
theorem HoldsValid.initializeIdentity (h : m.HoldsValid) (identity : NodeIdentity) :
    (m.initializeIdentity identity).1.HoldsValid := by
  rcases m.initializeIdentity_cases identity with ⟨hrefused, -⟩ | ⟨hvalid, hset⟩
  · rw [hrefused]
    exact h
  · intro identity' hidentity'
    rw [hset] at hidentity'
    exact Option.some.inj hidentity' ▸ hvalid

/-- Only valid capabilities are taken over. -/
theorem HoldsValid.updateCapabilities (h : m.HoldsValid) (caps : Capabilities) :
    (m.updateCapabilities caps).1.HoldsValid := by
  unfold NodeIdentityManager.updateCapabilities
  cases hidentity : m.identity with
  | none => exact h
  | some identity =>
    dsimp only
    cases hcaps : caps.isValid with
    | false => exact h
    | true =>
      rintro _ ⟨rfl⟩
      -- The new capabilities were checked, and the node id stays.
      have hnode := (NodeIdentity.isValid_iff identity).mp (h identity hidentity)
      exact (NodeIdentity.isValid_iff _).mpr ⟨hnode.1, hcaps⟩

/-- The next epoch keeps a valid identity. -/
theorem HoldsValid.incrementEpoch (h : m.HoldsValid) : m.incrementEpoch.1.HoldsValid := by
  unfold NodeIdentityManager.incrementEpoch
  cases hidentity : m.identity with
  | none => exact h
  | some identity =>
    rintro _ ⟨rfl⟩
    exact h identity hidentity

end NodeIdentityManager

namespace PersistentIdentityManager

/-- A manager whose identity is not of the null node, with the capabilities. -/
def Created (m : PersistentIdentityManager) (capabilities : Capabilities) : Prop :=
  ∃ identity, m.identity = some identity ∧ identity.nodeId.isNull = false ∧
    identity.capabilities = capabilities

/-- An identity that was created is valid when its capabilities are. -/
theorem Created.holdsValid_iff {m : PersistentIdentityManager} {capabilities : Capabilities}
    (h : m.Created capabilities) : m.HoldsValid ↔ capabilities.isValid = true := by
  obtain ⟨identity, hidentity, hnid, rfl⟩ := h
  constructor
  · intro hvalid
    exact ((NodeIdentity.isValid_iff identity).mp (hvalid identity hidentity)).2
  · intro hcaps identity' hidentity'
    rw [hidentity] at hidentity'
    exact Option.some.inj hidentity' ▸ (NodeIdentity.isValid_iff identity).mpr ⟨hnid, hcaps⟩

/-- The capabilities that an identity has after it was loaded or recovered. -/
def keptCapabilities (m : PersistentIdentityManager) : Capabilities :=
  (m.identity.getD .init).capabilities

/-- There are valid ones only where there is an identity. -/
theorem keptCapabilities_isValid_iff {m : PersistentIdentityManager} (h : m.HoldsValid) :
    m.keptCapabilities.isValid = true ↔ m.identity ≠ none := by
  unfold keptCapabilities
  cases hidentity : m.identity with
  | none =>
    -- Those of `NodeIdentity{}`.
    exact iff_of_false (by decide) fun hne => hne rfl
  | some identity =>
    refine iff_of_true ?_ (Option.some_ne_none identity)
    exact ((NodeIdentity.isValid_iff identity).mp (h identity hidentity)).2

/-- Nothing can be loaded of the file. -/
def SaysNothing (m : PersistentIdentityManager) (file : Option StdString) : Prop :=
  m.persistPath = [] ∨ ∀ nid epochVal, ¬ FileSays file nid epochVal

/-- `load` leaves the identity, or creates one from the file. -/
theorem load_created (m : PersistentIdentityManager) (file : Option StdString) :
    m.SaysNothing file ∧ (m.load file).1 = m ∧ (m.load file).2 ≠ none ∨
      ¬ m.SaysNothing file ∧ (m.load file).1.Created m.keptCapabilities := by
  by_cases hpath : m.persistPath = []
  · refine .inl ⟨.inl hpath, ?_⟩
    rw [load_of_no_path hpath]
    exact ⟨rfl, Option.some_ne_none _⟩
  · rcases load_cases hpath file with ⟨hsame, herr, hnone⟩ | ⟨identity, hload, hgives, -, hover⟩
    · exact .inl ⟨.inr hnone, hsame, herr⟩
    · refine .inr ⟨fun hnothing => ?_, ?_⟩
      · exact hnothing.elim hpath fun hnone => hnone _ _ hgives
      · obtain ⟨_, _, -, -, hnid, -⟩ := hgives
        -- `load` writes no capabilities.
        have hcaps : identity.capabilities = m.keptCapabilities :=
          Eq.trans (congrArg NodeIdentity.capabilities hover.rest) rfl
        rw [hload]
        exact ⟨identity, rfl, hnid, hcaps⟩

/-- The recovery creates an identity, with the capabilities there were. -/
theorem recoverFromCorruption_created (m : PersistentIdentityManager) (file : Option StdString)
    (opens : Bool) (random : UInt64 × UInt64) :
    (m.recoverFromCorruption file opens random).1.Created m.keptCapabilities := by
  have hload := load_created { m with lastRecovery := .init } file
  cases herr : ({ m with lastRecovery := .init }.load file).2 with
  | some err =>
    -- The identity is made anew, over what the failed load has left.
    have hkept : ({ m with lastRecovery := .init }.load file).1.keptCapabilities =
        m.keptCapabilities := by
      rcases hload with ⟨-, hsame, -⟩ | ⟨-, loaded, hidentity, -, hcaps⟩
      · rw [hsame]
        rfl
      · rw [keptCapabilities, hidentity]
        exact hcaps
    obtain ⟨identity, hidentity, hnid, -, hcaps⟩ := regenerate_identity
      ({ m with lastRecovery := .init }.load file).1 opens random
    refine ⟨identity, ?_, hnid ▸ NodeId.generate_not_isNull random, hcaps.trans hkept⟩
    rw [recoverFromCorruption]
    dsimp only
    rw [herr]
    exact hidentity
  | none =>
    rcases hload with ⟨-, -, hfails⟩ | ⟨-, loaded, hidentity, hnid, hcaps⟩
    · exact absurd herr hfails
    · obtain ⟨identity, hidentity', hnid', -, -, hcaps'⟩ :=
        recover_of_loaded herr hidentity hnid opens random
      exact ⟨identity, hidentity', hnid' ▸ hnid, hcaps'.trans hcaps⟩

/-- Without an identity, nothing is loaded and nothing recovered. -/
def CreatesNone (m : PersistentIdentityManager) : ManagerCall → Prop
  | .load file | .recoverNodeId file => m.identity = none → m.SaysNothing file
  | .recoverFromCorruption _ _ _ => m.identity ≠ none
  | _ => True

/-- `load` keeps a valid identity unless it creates the first one. -/
theorem holdsValid_load_iff {m : PersistentIdentityManager} (h : m.HoldsValid)
    (file : Option StdString) :
    (m.load file).1.HoldsValid ↔ (m.identity = none → m.SaysNothing file) := by
  rcases m.load_created file with ⟨hnothing, hsame, -⟩ | ⟨hgives, hcreated⟩
  · rw [hsame]
    exact iff_of_true h fun _ => hnothing
  · rw [hcreated.holdsValid_iff, keptCapabilities_isValid_iff h]
    exact ⟨fun hsome hnone => absurd hnone hsome, fun hnothing hnone => hgives (hnothing hnone)⟩

/-- A call leaves an identity valid exactly when it does not create one. -/
theorem holdsValid_step_iff {m : PersistentIdentityManager} (h : m.HoldsValid) (c : ManagerCall) :
    (m.step c).HoldsValid ↔ m.CreatesNone c := by
  -- A call that creates no identity keeps a valid one; the others are compared with what they load.
  cases c with
  | initializeIdentity identity => exact iff_of_true (h.initializeIdentity identity) trivial
  | updatePublicKey newKey => exact iff_of_true (h.updateIdentity fun _ => rfl) trivial
  | updateCapabilities caps => exact iff_of_true (h.updateCapabilities caps) trivial
  | addEndpointAddress addr =>
    refine iff_of_true (h.updateIdentity fun identity => ?_) trivial
    split <;> rfl
  | removeEndpointAddress addr => exact iff_of_true (h.updateIdentity fun _ => rfl) trivial
  | joinTopology membership => exact iff_of_true (h.updateIdentity fun _ => rfl) trivial
  | leaveTopology => exact iff_of_true (h.updateIdentity fun _ => rfl) trivial
  | incrementEpoch => exact iff_of_true h.incrementEpoch trivial
  | persist opens => exact iff_of_true h trivial
  | load file => exact holdsValid_load_iff h file
  | recoverNodeId file =>
    show (m.recoverNodeId file).1.HoldsValid ↔ _
    rw [recoverNodeId_fst]
    exact holdsValid_load_iff h file
  | recoverFromCorruption file opens random =>
    exact (recoverFromCorruption_created m file opens random).holdsValid_iff.trans
      (keptCapabilities_isValid_iff h)

end PersistentIdentityManager

/-- In a run from construction a present identity is valid at every moment exactly when no call
creates one from a file, or in place of it. -/
theorem identity_valid_iff (persistPath : StdString) (calls : List ManagerCall) :
    (∀ pre, pre <+: calls → ((managerMachine persistPath).run pre).HoldsValid) ↔
      (managerMachine persistPath).Meets CreatesNone (.init persistPath) calls := by
  have hinit : (PersistentIdentityManager.init persistPath).HoldsValid :=
    fun _ h => absurd h (Option.some_ne_none _).symm
  have hruns : (managerMachine persistPath).Meets CreatesNone (.init persistPath) calls ↔
      ∀ pre, pre <+: calls → ((managerMachine persistPath).run pre).HoldsValid :=
    Lib.Machine.meets_iff_forall_run
      (P := fun m : PersistentIdentityManager => m.HoldsValid) hinit
      fun m c h => holdsValid_step_iff h c
  exact hruns.symm

/-- The file of a node, without a topology, is loaded before anything else. -/
theorem loaded_identity_not_valid :
    let calls := [ManagerCall.load (some (lit "5 6\n1\n0\n"))]
    ¬ ∀ pre, pre <+: calls → ((managerMachine (lit "node.id")).run pre).HoldsValid := by
  intro calls hvalid
  have hloaded : ((managerMachine (lit "node.id")).run calls).identity =
      some { NodeIdentity.init with
        nodeId := { high := 5, low := 6 }, sessionEpoch := { value := 1 } } := by
    decide +kernel
  exact absurd (hvalid calls (List.prefix_refl _) _ hloaded) (by decide)

end CrossFlow
