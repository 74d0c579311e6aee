import CrossFlow.Proofs.Identity.IdentityFile

/-!
# `CrossFlow.Proofs.Identity.EpochOrder`: the session epoch of a node id

Four calls write the epoch, and none compares it with the one that is there: `initialize` takes its
argument's, the loads take the file's, a recovery resets it, and `incrementEpoch` wraps around.

* `load_cases`: what a `load` makes of a file.
* `epochKept_step_iff`: the calls that do not set an epoch back.
* `epochs_kept_iff`: the runs in which none does.
-/

set_option autoImplicit false

namespace CrossFlow

open StdString (extractInt lit)
open PersistentIdentityManager

/-- The file begins with the node id and the epoch, and with the digit of a topology. -/
def FileSays (file : Option StdString) (nid : NodeId) (epochVal : UInt64) : Prop :=
  ∃ ifs tail, file = some ifs ∧ readNumbers ifs = some (nid, epochVal, tail) ∧
    nid.isNull = false ∧ (extractInt tail).isSome = true

/-- The file reads to its end, with the node id and the epoch. -/
def FileReads (file : Option StdString) (nid : NodeId) (epochVal : UInt64) : Prop :=
  ∃ ifs tail, file = some ifs ∧ readNumbers ifs = some (nid, epochVal, tail) ∧
    nid.isNull = false ∧ TopologyReads tail

/-- A file says one id and one epoch. -/
theorem FileSays.unique {file : Option StdString} {nid nid' : NodeId} {epochVal epochVal' : UInt64}
    (h : FileSays file nid epochVal) (h' : FileSays file nid' epochVal') :
    nid' = nid ∧ epochVal' = epochVal := by
  obtain ⟨ifs, tail, rfl, hread, -, -⟩ := h
  obtain ⟨ifs', tail', heq, hread', -, -⟩ := h'
  cases heq
  rw [hread] at hread'
  cases hread'
  exact ⟨rfl, rfl⟩

/-- The id of a file that reads is not null. -/
theorem FileReads.not_isNull {file : Option StdString} {nid : NodeId} {epochVal : UInt64}
    (h : FileReads file nid epochVal) : nid.isNull = false := by
  obtain ⟨_, _, -, -, hnid, -⟩ := h
  exact hnid

/-- A file with an id reads when its topology does. -/
theorem fileReads_iff {ifs tail : StdString} {nid : NodeId} {epochVal : UInt64}
    (hnumbers : readNumbers ifs = some (nid, epochVal, tail)) (hnid : nid.isNull = false) :
    FileReads (some ifs) nid epochVal ↔ TopologyReads tail := by
  constructor
  · rintro ⟨ifs', tail', hfile, hread, -, hreads⟩
    cases hfile
    rw [hnumbers] at hread
    cases hread
    exact hreads
  · exact fun hreads => ⟨ifs, tail, rfl, hnumbers, hnid, hreads⟩

/-- What a file says is what is read from it. -/
theorem fileSays_iff {ifs tail : StdString} {nid nid' : NodeId} {epochVal epochVal' : UInt64}
    (hnumbers : readNumbers ifs = some (nid, epochVal, tail)) :
    FileSays (some ifs) nid' epochVal' ↔
      nid' = nid ∧ epochVal' = epochVal ∧ nid.isNull = false ∧ (extractInt tail).isSome = true := by
  constructor
  · rintro ⟨ifs', tail', hfile, hread, hrest⟩
    cases hfile
    rw [hnumbers] at hread
    cases hread
    exact ⟨rfl, rfl, hrest⟩
  · rintro ⟨rfl, rfl, hrest⟩
    exact ⟨ifs, tail, rfl, hnumbers, hrest⟩

/-- A file that reads says what is read. -/
theorem FileReads.fileSays {file : Option StdString} {nid : NodeId} {epochVal : UInt64}
    (h : FileReads file nid epochVal) : FileSays file nid epochVal := by
  obtain ⟨ifs, tail, hfile, hread, hnid, hasTopology, rest, hint, -⟩ := h
  exact ⟨ifs, tail, hfile, hread, hnid, by rw [hint]; rfl⟩

/-- A valid identity is stored, unless the manager has another node id. -/
theorem NodeIdentityManager.initializeIdentity_cases (m : NodeIdentityManager)
    (identity : NodeIdentity) :
    (m.initializeIdentity identity).1 = m ∧
        (identity.isValid = true → ∃ own, m.identity = some own ∧ own.nodeId ≠ identity.nodeId) ∨
      identity.isValid = true ∧ (m.initializeIdentity identity).1.identity = some identity := by
  unfold initializeIdentity
  cases hvalid : identity.isValid with
  | false => exact .inl ⟨rfl, fun h => absurd h Bool.false_ne_true⟩
  | true =>
    rw [if_neg (by decide)]
    split
    · next hforeign =>
      obtain ⟨own, hown, hne⟩ := (Option.any_eq_true _ _).mp hforeign
      exact .inl ⟨rfl, fun _ => ⟨own, hown, of_decide_eq_true hne⟩⟩
    · exact .inr ⟨rfl, rfl⟩

namespace PersistentIdentityManager

/-- A `load` that returns `err` writes the node id, the epoch and the membership, and the membership
only when there is no error. Without an identity the rest is that of `NodeIdentity{}`. -/
structure LoadedOver (m : PersistentIdentityManager) (err : Option ErrorCode)
    (identity : NodeIdentity) : Prop where
  rest : identity =
    { m.identity.getD .init with
      nodeId := identity.nodeId
      sessionEpoch := identity.sessionEpoch
      topologyMembership := identity.topologyMembership }
  membership : err ≠ none →
    identity.topologyMembership = (m.identity.getD .init).topologyMembership

/-- The node id and the epoch are stored, also when the topology after them does not read. -/
theorem loadFields_of_not_isNull (m : PersistentIdentityManager) {nid : NodeId}
    (hnid : nid.isNull = false) (epochVal : UInt64) (hasTopology : Int) (rest : StdString) :
    ∃ identity, (m.loadFields nid epochVal hasTopology rest).1 =
        { m with identity := some identity } ∧
      identity.nodeId = nid ∧ identity.sessionEpoch.value = epochVal ∧
      ((m.loadFields nid epochVal hasTopology rest).2 = none ↔
        (hasTopology = 1 → (readMembership rest).isSome = true)) ∧
      m.LoadedOver (m.loadFields nid epochVal hasTopology rest).2 identity := by
  rw [loadFields, if_neg (Bool.eq_false_iff.mp hnid)]
  by_cases hone : hasTopology = 1
  · simp only [if_pos hone]
    cases readMembership rest with
    | none => exact ⟨_, rfl, rfl, rfl, by simp [hone], rfl, fun _ => rfl⟩
    | some tm => exact ⟨_, rfl, rfl, rfl, by simp, rfl, fun h => absurd rfl h⟩
  · simp only [if_neg hone]
    exact ⟨_, rfl, rfl, rfl, by simp [hone], rfl, fun h => absurd rfl h⟩

/-- A file of which nothing is loaded, or the node id and the epoch are, also when what follows
them does not read. -/
theorem load_cases {m : PersistentIdentityManager} (hpath : m.persistPath ≠ [])
    (file : Option StdString) :
    ((m.load file).1 = m ∧ (m.load file).2 ≠ none ∧ ∀ nid epochVal, ¬ FileSays file nid epochVal) ∨
      ∃ identity, (m.load file).1 = { m with identity := some identity } ∧
        FileSays file identity.nodeId identity.sessionEpoch.value ∧
        ((m.load file).2 = none ↔
          FileReads file identity.nodeId identity.sessionEpoch.value) ∧
        m.LoadedOver (m.load file).2 identity := by
  rw [show m.load file = _ from if_neg hpath]
  cases file with
  | none =>
    refine .inl ⟨rfl, Option.some_ne_none _, ?_⟩
    rintro nid epochVal ⟨ifs, tail, hfile, -⟩
    exact absurd hfile.symm (Option.some_ne_none ifs)
  | some ifs =>
    dsimp only
    cases hnumbers : readNumbers ifs with
    | none =>
      refine .inl ⟨rfl, Option.some_ne_none _, ?_⟩
      rintro nid epochVal ⟨ifs', tail, hfile, hread, -⟩
      cases hfile
      rw [hnumbers] at hread
      exact absurd hread.symm (Option.some_ne_none _)
    | some r =>
      obtain ⟨nid, epochVal, tail⟩ := r
      dsimp only
      cases hint : extractInt tail with
      | none =>
        refine .inl ⟨rfl, Option.some_ne_none _, ?_⟩
        intro nid' epochVal' hfile
        have hsome := ((fileSays_iff hnumbers).mp hfile).2.2.2
        rw [hint] at hsome
        exact Bool.false_ne_true hsome
      | some r =>
        obtain ⟨hasTopology, rest⟩ := r
        dsimp only
        cases hnid : nid.isNull with
        | true =>
          refine .inl ⟨by rw [loadFields, if_pos hnid], by simp [loadFields, hnid], ?_⟩
          intro nid' epochVal' hfile
          exact Bool.false_ne_true (((fileSays_iff hnumbers).mp hfile).2.2.1.symm.trans hnid)
        | false =>
          -- From here on the identity is written, whatever the membership is.
          obtain ⟨identity, hload, rfl, rfl, hreads, hover⟩ :=
            m.loadFields_of_not_isNull hnid epochVal hasTopology rest
          refine .inr ⟨identity, hload, ?_, ?_, hover⟩
          · exact (fileSays_iff hnumbers).mpr ⟨rfl, rfl, hnid, by rw [hint]; rfl⟩
          · rw [fileReads_iff hnumbers hnid, topologyReads_iff hint]
            exact hreads

/-- `recoverNodeId` leaves what `load` leaves. -/
theorem recoverNodeId_fst (m : PersistentIdentityManager) (file : Option StdString) :
    (m.recoverNodeId file).1 = (m.load file).1 := by
  unfold recoverNodeId
  dsimp only
  split
  · rfl
  · split <;> rfl

/-- A regenerated identity has a new id, the first epoch, and the capabilities there were. -/
theorem regenerate_identity (m : PersistentIdentityManager) (opens : Bool)
    (random : UInt64 × UInt64) :
    ∃ identity, (m.regenerate opens random).1.identity = some identity ∧
      identity.nodeId = .generate random ∧ identity.sessionEpoch = { value := 1 } ∧
      identity.capabilities = (m.identity.getD .init).capabilities := by
  unfold regenerate
  dsimp only
  split
  · exact ⟨_, rfl, rfl, rfl, rfl⟩
  · exact ⟨_, rfl, rfl, rfl, rfl⟩

/-- A file that reads gives the node id and the epoch, which is 1 when the file says 0. Any other
file gives a new node id. -/
def RecoveredFrom (file : Option StdString) (random : UInt64 × UInt64)
    (identity : NodeIdentity) : Prop :=
  (∃ epochVal, FileReads file identity.nodeId epochVal ∧
      identity.sessionEpoch.value = if epochVal = 0 then 1 else epochVal) ∨
    (∀ nid epochVal, ¬ FileReads file nid epochVal) ∧
      identity.nodeId = .generate random ∧ identity.sessionEpoch.value = 1

/-- A recovery takes the identity from the file, or makes a new one. -/
theorem recoveredFrom {m : PersistentIdentityManager} (hpath : m.persistPath ≠ [])
    (file : Option StdString) (opens : Bool) (random : UInt64 × UInt64) :
    ∃ identity, (m.recoverFromCorruption file opens random).1.identity = some identity ∧
      RecoveredFrom file random identity := by
  have hfails : ({ m with lastRecovery := .init }.load file).2 ≠ none →
      (∀ nid epochVal, ¬ FileReads file nid epochVal) →
      ∃ identity, (m.recoverFromCorruption file opens random).1.identity = some identity ∧
        RecoveredFrom file random identity := by
    intro herr hnone
    rw [recoverFromCorruption]
    dsimp only
    rw [if_pos (Option.isSome_iff_ne_none.mpr herr)]
    obtain ⟨identity, hidentity, hnid, hepoch, -⟩ := regenerate_identity
      ({ m with lastRecovery := .init }.load file).1 opens random
    exact ⟨identity, hidentity, .inr ⟨hnone, hnid, by rw [hepoch]⟩⟩
  rcases load_cases (m := { m with lastRecovery := .init }) hpath file with
    ⟨-, herr, hnone⟩ | ⟨loaded, hload, hmeans, hreads, -⟩
  · exact hfails herr fun nid epochVal h => hnone nid epochVal h.fileSays
  · by_cases hfile : FileReads file loaded.nodeId loaded.sessionEpoch.value
    · have hnid := hfile.not_isNull
      obtain ⟨identity, hidentity, hsame, hzero, hkept, -⟩ :=
        recover_of_loaded (hreads.mpr hfile) (by rw [hload]) hnid opens random
      refine ⟨identity, hidentity, .inl ⟨loaded.sessionEpoch.value, hsame ▸ hfile, ?_⟩⟩
      split
      · next h => rw [hzero h]
      · next h => rw [hkept h]
    · refine hfails (mt hreads.mp hfile) fun nid epochVal h => hfile ?_
      -- A file says one node id and one epoch.
      obtain ⟨rfl, rfl⟩ := hmeans.unique h.fileSays
      exact h

end PersistentIdentityManager

namespace IdentityRun

/-- If the manager has the node id that it had last, its epoch is not below the one of then. -/
def EpochKept (s : IdentityRun) (c : IdentityCall) : Prop :=
  ∀ nid epoch, s.held = some (nid, epoch) → (s.step c).manager.identity ≠ none →
    (s.step c).manager.getNodeId = nid → epoch.value ≤ (s.step c).manager.currentEpoch.value

/-- The epoch is not below the one that the manager had last with the node id. -/
def NotBelow (s : IdentityRun) (nid : NodeId) (epochVal : UInt64) : Prop :=
  ∀ epoch, s.held = some (nid, epoch) → epoch.value ≤ epochVal

/-- What keeps the epoch of a node id from going back. -/
def KeepsEpoch (s : IdentityRun) : IdentityCall → Prop
  | .initializeIdentity identity =>
    identity.isValid = true → s.NotBelow identity.nodeId identity.sessionEpoch.value
  | .incrementEpoch =>
    ∀ identity, s.manager.identity = some identity →
      identity.sessionEpoch.value ≠ 0xFFFFFFFFFFFFFFFF
  | .persist _ => True
  | .load opens | .recoverNodeId opens =>
    ∀ nid epochVal, FileSays (s.read opens) nid epochVal → s.NotBelow nid epochVal
  | .recoverFromCorruption opens _ random =>
    (∀ nid epochVal, FileReads (s.read opens) nid epochVal →
        s.NotBelow nid (if epochVal = 0 then 1 else epochVal)) ∧
      ((∀ nid epochVal, ¬ FileReads (s.read opens) nid epochVal) →
        s.NotBelow (.generate random) 1)
  | .restart => True

/-- What the manager has is what it had last. -/
structure Holds (s : IdentityRun) : Prop where
  path : s.manager.persistPath ≠ []
  held : ∀ identity, s.manager.identity = some identity →
    s.held = some (identity.nodeId, identity.sessionEpoch)

variable {s : IdentityRun} {c : IdentityCall}

/-- A call that leaves the identity keeps the epoch. -/
theorem epochKept_of_same (h : s.Holds)
    (hsame : (s.step c).manager.identity = s.manager.identity) : s.EpochKept c := by
  intro nid epoch hheld hsome hnid
  obtain ⟨identity, hidentity⟩ := Option.ne_none_iff_exists'.mp hsome
  rw [h.held identity (hsame ▸ hidentity)] at hheld
  cases hheld
  rw [currentEpoch_of_some hidentity]
  exact UInt64.le_refl _

/-- A call that writes a node id and an epoch. -/
theorem epochKept_iff {identity : NodeIdentity}
    (hidentity : (s.step c).manager.identity = some identity) :
    s.EpochKept c ↔ s.NotBelow identity.nodeId identity.sessionEpoch.value := by
  have hsome : (s.step c).manager.identity ≠ none := by
    rw [hidentity]
    exact Option.some_ne_none identity
  unfold EpochKept NotBelow
  rw [getNodeId_of_some hidentity, currentEpoch_of_some hidentity]
  constructor
  · exact fun h epoch hheld => h _ epoch hheld hsome rfl
  · rintro h nid epoch hheld - rfl
    exact h epoch hheld

/-! ### The calls -/

/-- `load` leaves the path. -/
@[simp] theorem load_persistPath (m : PersistentIdentityManager) (file : Option StdString) :
    (m.load file).1.persistPath = m.persistPath := by
  by_cases hpath : m.persistPath = []
  · rw [show m.load file = _ from if_pos hpath]
  · rcases load_cases hpath file with ⟨hsame, -⟩ | ⟨identity, hloaded, -⟩
    · rw [hsame]
    · rw [hloaded]

/-- `regenerate` leaves the path. -/
@[simp] theorem regenerate_persistPath (m : PersistentIdentityManager) (opens : Bool)
    (random : UInt64 × UInt64) : (m.regenerate opens random).1.persistPath = m.persistPath := by
  unfold regenerate
  dsimp only
  split <;> rfl

/-- The repair of a null id leaves the path. -/
@[simp] theorem recoverNullNodeId_persistPath (m : PersistentIdentityManager)
    (random : UInt64 × UInt64) : (m.recoverNullNodeId random).persistPath = m.persistPath := by
  unfold recoverNullNodeId
  split <;> rfl

/-- The repair of an epoch leaves the path. -/
@[simp] theorem recoverZeroEpoch_persistPath (m : PersistentIdentityManager) :
    m.recoverZeroEpoch.persistPath = m.persistPath := by
  unfold recoverZeroEpoch
  split
  · rfl
  · split <;> rfl

/-- The repair of a membership leaves the path. -/
@[simp] theorem recoverEmptyTopologyId_persistPath (m : PersistentIdentityManager) :
    m.recoverEmptyTopologyId.persistPath = m.persistPath := by
  unfold recoverEmptyTopologyId
  split
  · rfl
  · split <;> rfl

/-- The recovery leaves the path. -/
@[simp] theorem recoverFromCorruption_persistPath (m : PersistentIdentityManager)
    (file : Option StdString) (opens : Bool) (random : UInt64 × UInt64) :
    (m.recoverFromCorruption file opens random).1.persistPath = m.persistPath := by
  unfold recoverFromCorruption
  dsimp only
  split
  · simp
  · split <;> simp

/-- No call changes the path. -/
theorem step_persistPath (s : IdentityRun) (c : IdentityCall) :
    (s.step c).manager.persistPath = s.manager.persistPath := by
  cases c with
  | load opens => exact load_persistPath _ _
  | recoverNodeId opens =>
    show (s.manager.recoverNodeId _).1.persistPath = _
    rw [recoverNodeId_fst]
    exact load_persistPath _ _
  | recoverFromCorruption opens reopens random => exact recoverFromCorruption_persistPath _ _ _ _
  | _ => rfl

/-- What holds of a run holds after the next call. -/
theorem Holds.step (h : s.Holds) (c : IdentityCall) : (s.step c).Holds where
  path := by
    rw [step_persistPath]
    exact h.path
  held := by
    intro identity hidentity
    have hcalled : ∀ manager written, manager.identity = some identity →
        (s.called manager written).held = some (identity.nodeId, identity.sessionEpoch) := by
      intro manager written hmanager
      rw [called, nodeIdAndEpoch, hmanager]
      rfl
    cases c with
    | restart => exact absurd hidentity (Option.some_ne_none identity).symm
    | _ => exact hcalled _ _ hidentity

/-- A call that loads keeps the epoch when the file says none below it. -/
theorem epochKept_load_iff (h : s.Holds) {file : Option StdString}
    (hmanager : (s.step c).manager = (s.manager.load file).1) :
    s.EpochKept c ↔ ∀ nid epochVal, FileSays file nid epochVal → s.NotBelow nid epochVal := by
  rcases load_cases h.path file with ⟨hsame, -, hnone⟩ | ⟨identity, hloaded, hmeans, -⟩
  · refine iff_of_true (epochKept_of_same h ?_) fun nid epochVal hmeans => ?_
    · rw [hmanager, hsame]
    · exact absurd hmeans (hnone nid epochVal)
  · have hset : (s.step c).manager.identity = some identity := by rw [hmanager, hloaded]
    rw [epochKept_iff hset]
    constructor
    · intro hbelow nid epochVal hmeans'
      obtain ⟨rfl, rfl⟩ := hmeans.unique hmeans'
      exact hbelow
    · exact fun hkeeps => hkeeps _ _ hmeans

/-- A call sets no epoch back exactly when it meets the condition. -/
theorem epochKept_step_iff (h : s.Holds) (c : IdentityCall) : s.EpochKept c ↔ s.KeepsEpoch c := by
  cases c with
  | initializeIdentity identity =>
    rcases s.manager.toNodeIdentityManager.initializeIdentity_cases identity with
      ⟨hrefused, hforeign⟩ | ⟨hvalid, hset⟩
    · refine iff_of_true (epochKept_of_same h (congrArg (·.identity) hrefused)) ?_
      -- What the manager had last has its own node id.
      intro hvalid epoch hheld
      obtain ⟨own, hown, hne⟩ := hforeign hvalid
      rw [h.held own hown] at hheld
      exact absurd (congrArg Prod.fst (Option.some.inj hheld)) hne
    · have hset' : (s.step (.initializeIdentity identity)).manager.identity = some identity := hset
      rw [epochKept_iff hset']
      exact ⟨fun hbelow _ => hbelow, fun hkeeps => hkeeps hvalid⟩
  | incrementEpoch =>
    cases hidentity : s.manager.identity with
    | none =>
      refine iff_of_true (epochKept_of_same h ?_) fun _ hsome => ?_
      · simp [step, called, NodeIdentityManager.incrementEpoch, hidentity]
      · exact absurd (hidentity.symm.trans hsome) (Option.some_ne_none _).symm
    | some identity =>
      have hset : (s.step .incrementEpoch).manager.identity =
          some { identity with sessionEpoch := identity.sessionEpoch.increment } := by
        simp [step, called, NodeIdentityManager.incrementEpoch, hidentity]
      rw [epochKept_iff hset, NotBelow, h.held identity hidentity]
      simp only [KeepsEpoch, hidentity, Option.some.injEq, Prod.mk.injEq, true_and, forall_eq']
      exact identity.sessionEpoch.le_increment_iff
  | persist opens => exact iff_of_true (epochKept_of_same h rfl) trivial
  | load opens => exact epochKept_load_iff h rfl
  | recoverNodeId opens => exact epochKept_load_iff h (recoverNodeId_fst _ _)
  | recoverFromCorruption opens reopens random =>
    obtain ⟨identity, hidentity, hrecovered⟩ :=
      recoveredFrom h.path (s.read opens) reopens random
    have hset : (s.step (.recoverFromCorruption opens reopens random)).manager.identity =
        some identity := hidentity
    rw [epochKept_iff hset]
    rcases hrecovered with ⟨epochVal, hreads, hepoch⟩ | ⟨hnone, hnid, hepoch⟩
    · rw [hepoch]
      constructor
      · intro hbelow
        refine ⟨?_, fun hnone => absurd hreads (hnone _ _)⟩
        intro nid epochVal' hreads'
        obtain ⟨rfl, rfl⟩ := hreads.fileSays.unique hreads'.fileSays
        exact hbelow
      · exact fun hkeeps => hkeeps.1 _ _ hreads
    · rw [hnid, hepoch]
      exact ⟨fun hbelow => ⟨fun _ _ hreads => absurd hreads (hnone _ _), fun _ => hbelow⟩,
        fun hkeeps => hkeeps.2 hnone⟩
  | restart => exact iff_of_true (fun _ _ _ hsome => absurd rfl hsome) trivial

end IdentityRun

open IdentityRun

/-- The epoch of a node id goes back in no step of a run, exactly when no call writes one that is
below the last. -/
theorem epochs_kept_iff {persistPath : StdString} (hpath : persistPath ≠ [])
    (file : Option StdString) (calls : List IdentityCall) :
    (identityMachine persistPath file).Meets KeepsEpoch (.init persistPath file) calls ↔
      (identityMachine persistPath file).Meets EpochKept (.init persistPath file) calls := by
  have hinit : (IdentityRun.init persistPath file).Holds :=
    ⟨hpath, fun _ h => absurd h (Option.some_ne_none _).symm⟩
  exact Lib.Machine.meets_congr_of_invariant hinit (fun s c h => h.step c)
    fun s c h => (epochKept_step_iff h c).symm

/-- An identity that `initialize` takes. -/
def epochIdentity (epochVal : UInt64) : NodeIdentity :=
  { NodeIdentity.init with
    nodeId := { high := 5, low := 6 }
    capabilities :=
      { supportedInputTypes := [.Mouse]
        screenBoundary := { width := 1920, height := 1080, originX := 0, originY := 0 }
        supportsCircular := false
        protocolVersion := 1 }
    sessionEpoch := { value := epochVal } }

/-- The epoch is incremented and persisted, and loaded after a restart. -/
theorem epochs_kept_restart :
    (identityMachine (lit "node.id") none).Meets EpochKept (.init (lit "node.id") none)
      [.initializeIdentity (epochIdentity 5), .incrementEpoch, .persist true, .restart,
        .load true] := by
  refine (epochs_kept_iff (by decide) none _).mp ⟨?_, ?_, trivial, trivial, ?_, trivial⟩
  · exact fun _ epoch hheld => absurd hheld.symm (Option.some_ne_none _)
  · rintro identity hidentity
    cases hidentity
    decide
  · rintro nid epochVal ⟨ifs, tail, hfile, hread, -⟩ epoch hheld
    cases hfile
    cases hheld
    have hsix : readNumbers (fileText (epochIdentity 6)) =
        some ({ high := 5, low := 6 }, 6, lit "\n0\n") := by decide +kernel
    cases hsix.symm.trans hread
    exact UInt64.le_refl 6

/-- `initialize` with the node id that the manager has and an older epoch. -/
theorem epoch_goes_back :
    ¬ ∀ (persistPath : StdString) (file : Option StdString) (calls : List IdentityCall),
      persistPath ≠ [] →
        (identityMachine persistPath file).Meets EpochKept (.init persistPath file) calls := by
  intro hclaim
  have hkept := (hclaim (lit "node.id") none
    [.initializeIdentity (epochIdentity 5), .initializeIdentity (epochIdentity 3)] (by decide)).2.1
  exact absurd (hkept _ _ rfl (Option.some_ne_none _) rfl) (by decide)

end CrossFlow
