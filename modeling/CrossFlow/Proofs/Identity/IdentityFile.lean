import CrossFlow.Core.Identity.IdentityFile

/-!
# `CrossFlow.Proofs.Identity.IdentityFile`: what survives in the identity file

* `load_persist_iff`: a persisted identity is loaded again when its topology id is one word.
* `recover_keeps_iff`: the node id and the epoch of a file are kept when a topology can be read
  after them.
* `recover_cut_iff`: the same for a file that was cut off while it was written.
-/

set_option autoImplicit false

namespace CrossFlow

open StdString (extractU64 extractU32 extractInt extractWord isSpace lit IsWord)

namespace PersistentIdentityManager

/-! ### The numbers -/

/-- The header is three numbers, with a space or a line end after each of the first two. -/
theorem headerText_append (identity : NodeIdentity) (tail : StdString) :
    headerText identity ++ tail =
      StdString.toString identity.nodeId.high.toNat ++ 32 ::
        (StdString.toString identity.nodeId.low.toNat ++ 10 ::
          (StdString.toString identity.sessionEpoch.value.toNat ++ 10 :: tail)) := by
  simp [headerText, lit]

/-- The length of a header, by that of its numbers. -/
theorem length_headerText (identity : NodeIdentity) :
    (headerText identity).length =
      (StdString.toString identity.nodeId.high.toNat).length + 1 +
        (StdString.toString identity.nodeId.low.toNat).length + 1 +
          (StdString.toString identity.sessionEpoch.value.toNat).length + 1 := by
  simp only [headerText, lit, List.length_append, List.length_map]
  rfl

/-- The only character of a text of one is the one. -/
theorem isSpace_of_mem_singleton {c : UInt8} (hc : isSpace c = true) :
    ∀ c' ∈ ([c] : StdString), isSpace c' = true := by
  intro c' hc'
  rw [List.mem_singleton.mp hc']
  exact hc

/-- The numbers of a file that is cut off behind them. -/
theorem readNumbers_take (identity : NodeIdentity) (tail : StdString) {n : Nat}
    (hn : (headerText identity).length ≤ n) :
    readNumbers ((headerText identity ++ tail).take n) =
      some (identity.nodeId, identity.sessionEpoch.value,
        10 :: tail.take (n - (headerText identity).length)) := by
  have hlength := length_headerText identity
  -- The three numbers are read one after the other, each with the white space before it.
  rw [headerText_append, readNumbers, ← List.nil_append (List.take _ _),
    StdString.extractU64_take (List.forall_mem_nil _) _ (by decide) _ (by omega)]
  dsimp only [Option.bind_eq_bind, Option.bind_some]
  rw [← List.singleton_append,
    StdString.extractU64_take (isSpace_of_mem_singleton (by decide)) _ (by decide) _ (by omega)]
  dsimp only [Option.bind_some]
  rw [← List.singleton_append,
    StdString.extractU64_take (isSpace_of_mem_singleton (by decide)) _ (by decide) _ (by omega)]
  dsimp only [Option.bind_some]
  -- What is left begins after the three numbers and what ends them.
  have hcut : n - (StdString.toString identity.nodeId.high.toNat).length - 1 -
      (StdString.toString identity.nodeId.low.toNat).length - 1 -
        (StdString.toString identity.sessionEpoch.value.toNat).length - 1 =
      n - (headerText identity).length := by omega
  rw [hcut]
  rfl

/-- A file that is cut off before the end of the second line has nothing after its numbers. -/
theorem readNumbers_cut (identity : NodeIdentity) (tail : StdString) {n : Nat}
    (hn : n < (headerText identity).length) {r : NodeId × UInt64 × StdString}
    (h : readNumbers ((headerText identity ++ tail).take n) = some r) : r.2.2 = [] := by
  have hlength := length_headerText identity
  rw [headerText_append, readNumbers] at h
  obtain ⟨⟨high, afterHigh⟩, hhigh, h⟩ := Option.bind_eq_some_iff.mp h
  obtain ⟨⟨low, afterLow⟩, hlow, h⟩ := Option.bind_eq_some_iff.mp h
  obtain ⟨⟨epochVal, afterEpoch⟩, hepoch, h⟩ := Option.bind_eq_some_iff.mp h
  cases h
  dsimp only at hhigh hlow hepoch ⊢
  rw [← List.nil_append (List.take _ _)] at hhigh
  -- The number that the cut falls into is the last one that is read.
  by_cases hcutHigh : n ≤ (StdString.toString identity.nodeId.high.toNat).length
  · have hnil := StdString.extractU64_cut (List.forall_mem_nil _) _ _ hcutHigh hhigh
    rw [hnil] at hlow
    exact absurd hlow (by simp [StdString.extractU64_nil])
  · -- The first number is whole, and the second begins after a blank.
    rw [StdString.extractU64_take (List.forall_mem_nil _) _ (by decide) _ (by omega)] at hhigh
    cases hhigh
    rw [← List.singleton_append] at hlow
    by_cases hcutLow : n - (StdString.toString identity.nodeId.high.toNat).length - 1 ≤
        (StdString.toString identity.nodeId.low.toNat).length
    · have hnil := StdString.extractU64_cut (isSpace_of_mem_singleton (by decide)) _ _ hcutLow hlow
      rw [hnil] at hepoch
      exact absurd hepoch (by simp [StdString.extractU64_nil])
    · -- The second number is whole, so the cut is in the third.
      rw [StdString.extractU64_take (isSpace_of_mem_singleton (by decide)) _ (by decide) _
        (by omega)] at hlow
      cases hlow
      rw [← List.singleton_append] at hepoch
      exact StdString.extractU64_cut (isSpace_of_mem_singleton (by decide)) _ _ (by omega) hepoch

/-! ### The topology -/

/-- What follows the epoch reads as a topology, or as none. -/
def TopologyReads (tail : StdString) : Prop :=
  ∃ hasTopology rest, extractInt tail = some (hasTopology, rest) ∧
    (hasTopology = 1 → (readMembership rest).isSome = true)

/-- Where there is no number, no topology reads. -/
theorem not_topologyReads_of_none {tail : StdString} (h : extractInt tail = none) :
    ¬ TopologyReads tail := by
  rintro ⟨_, _, hread, -⟩
  rw [h] at hread
  exact absurd hread (by simp)

/-- A topology reads when it is none, or its membership reads. -/
theorem topologyReads_iff {tail : StdString} {hasTopology : Int} {rest : StdString}
    (h : extractInt tail = some (hasTopology, rest)) :
    TopologyReads tail ↔ (hasTopology = 1 → (readMembership rest).isSome = true) := by
  constructor
  · rintro ⟨_, _, hread, hmembership⟩
    rw [h] at hread
    cases hread
    exact hmembership
  · exact fun hmembership => ⟨hasTopology, rest, h, hmembership⟩

/-- `load` of a file that begins with a node id and an epoch. -/
theorem load_iff {m : PersistentIdentityManager} (hpath : m.persistPath ≠ []) {ifs : StdString}
    {nid : NodeId} {epochVal : UInt64} {tail : StdString}
    (hnumbers : readNumbers ifs = some (nid, epochVal, tail)) (hnid : nid.isNull = false) :
    ((m.load (some ifs)).2 = none ↔ TopologyReads tail) ∧
      (TopologyReads tail → ∃ identity, (m.load (some ifs)).1.identity = some identity ∧
        identity.nodeId = nid ∧ identity.sessionEpoch = { value := epochVal }) := by
  rw [load, if_neg hpath, hnumbers]
  dsimp only
  -- Without a number for the topology the stream fails, and so does the load.
  cases hint : extractInt tail with
  | none =>
    have hnot := not_topologyReads_of_none hint
    exact ⟨iff_of_false (by simp) hnot, fun h => absurd h hnot⟩
  | some r =>
    obtain ⟨hasTopology, rest⟩ := r
    rw [topologyReads_iff hint]
    dsimp only
    rw [loadFields, if_neg (by simp [hnid])]
    -- Only a 1 announces a membership, and any other number ends the reading.
    by_cases hone : hasTopology = 1
    · rw [if_pos hone]
      cases hread : readMembership rest with
      | none => simp [hone]
      | some tm => exact ⟨iff_of_true rfl fun _ => rfl, fun _ => ⟨_, rfl, rfl, rfl⟩⟩
    · rw [if_neg hone]
      exact ⟨iff_of_true rfl fun h => absurd h hone, fun _ => ⟨_, rfl, rfl, rfl⟩⟩

/-! ### Recovery -/

/-- The id of a regenerated identity. -/
theorem regenerate_nodeId (m : PersistentIdentityManager) (opens : Bool)
    (random : UInt64 × UInt64) :
    (m.regenerate opens random).1.getNodeId = .generate random := by
  unfold regenerate
  dsimp only
  split
  · rfl
  · rfl

/-- The repair of an epoch changes only an epoch of 0. -/
theorem recoverZeroEpoch_keeps {m : PersistentIdentityManager} {identity : NodeIdentity}
    (h : m.identity = some identity) :
    ∃ identity', m.recoverZeroEpoch.identity = some identity' ∧
      identity'.nodeId = identity.nodeId ∧
      (identity.sessionEpoch.value = 0 → identity'.sessionEpoch = { value := 1 }) ∧
      (identity.sessionEpoch.value ≠ 0 → identity'.sessionEpoch = identity.sessionEpoch) ∧
      identity'.capabilities = identity.capabilities := by
  rw [recoverZeroEpoch, h]
  dsimp only
  split
  · next hzero => exact ⟨_, rfl, rfl, fun _ => rfl, fun hne => absurd hzero hne, rfl⟩
  · next hne => exact ⟨identity, h, rfl, fun hzero => absurd hzero hne, fun _ => rfl, rfl⟩

/-- The repair of a membership changes only the membership. -/
theorem recoverEmptyTopologyId_keeps {m : PersistentIdentityManager} {identity : NodeIdentity}
    (h : m.identity = some identity) :
    ∃ identity', m.recoverEmptyTopologyId.identity = some identity' ∧
      identity'.nodeId = identity.nodeId ∧ identity'.sessionEpoch = identity.sessionEpoch ∧
      identity'.capabilities = identity.capabilities := by
  rw [recoverEmptyTopologyId, h]
  dsimp only
  split
  · exact ⟨_, rfl, rfl, rfl, rfl⟩
  · exact ⟨identity, h, rfl, rfl, rfl⟩

/-- A `load` that succeeds decides the node id and the epoch, which is 1 if it loads 0. -/
theorem recover_of_loaded {m : PersistentIdentityManager} {file : Option StdString}
    (hload : ({ m with lastRecovery := .init }.load file).2 = none) {identity : NodeIdentity}
    (hidentity : ({ m with lastRecovery := .init }.load file).1.identity = some identity)
    (hnid : identity.nodeId.isNull = false) (opens : Bool) (random : UInt64 × UInt64) :
    ∃ identity', (m.recoverFromCorruption file opens random).1.identity = some identity' ∧
      identity'.nodeId = identity.nodeId ∧
      (identity.sessionEpoch.value = 0 → identity'.sessionEpoch = { value := 1 }) ∧
      (identity.sessionEpoch.value ≠ 0 → identity'.sessionEpoch = identity.sessionEpoch) ∧
      identity'.capabilities = identity.capabilities := by
  rw [recoverFromCorruption]
  dsimp only
  rw [hload, if_neg (by simp)]
  generalize { m with lastRecovery := .init }.load file = loaded at hidentity
  -- The id is not null, so no new one is taken.
  have hnull : loaded.1.recoverNullNodeId random = loaded.1 := by
    rw [recoverNullNodeId, getNodeId, hidentity]
    exact if_neg (by simp [hnid])
  rw [hnull]
  obtain ⟨identity₁, h₁, hnid₁, hzero₁, hepoch₁, hcaps₁⟩ := recoverZeroEpoch_keeps hidentity
  obtain ⟨identity₂, h₂, hnid₂, hepoch₂, hcaps₂⟩ := recoverEmptyTopologyId_keeps h₁
  -- Only an epoch of 0 is changed on the way.
  have hkept : identity₂.nodeId = identity.nodeId ∧
      (identity.sessionEpoch.value = 0 → identity₂.sessionEpoch = { value := 1 }) ∧
      (identity.sessionEpoch.value ≠ 0 → identity₂.sessionEpoch = identity.sessionEpoch) ∧
      identity₂.capabilities = identity.capabilities :=
    ⟨hnid₂.trans hnid₁, fun hzero => hepoch₂.trans (hzero₁ hzero),
      fun hne => hepoch₂.trans (hepoch₁ hne), hcaps₂.trans hcaps₁⟩
  split
  · exact ⟨identity₂, h₂, hkept⟩
  · exact ⟨identity₂, h₂, hkept⟩

/-- A `load` that fails gives another node id, for some random numbers. -/
theorem exists_recover_ne {m : PersistentIdentityManager} {file : Option StdString}
    (hload : ({ m with lastRecovery := .init }.load file).2 ≠ none) (opens : Bool) (nid : NodeId) :
    ∃ random, (m.recoverFromCorruption file opens random).1.getNodeId ≠ nid := by
  have hrecover : ∀ random,
      (m.recoverFromCorruption file opens random).1.getNodeId = .generate random := by
    intro random
    rw [recoverFromCorruption]
    dsimp only
    rw [if_pos (Option.isSome_iff_ne_none.mpr hload)]
    exact regenerate_nodeId _ opens random
  by_cases hzero : NodeId.generate (0, 0) = nid
  · refine ⟨(1, 0), ?_⟩
    rw [hrecover, ← hzero]
    decide
  · refine ⟨(0, 0), ?_⟩
    rw [hrecover]
    exact hzero

/-- The id is that of the identity in memory. -/
theorem getNodeId_of_some {m : PersistentIdentityManager} {identity : NodeIdentity}
    (h : m.identity = some identity) : m.getNodeId = identity.nodeId := by
  rw [getNodeId, h]

/-- The epoch is that of the identity in memory. -/
theorem currentEpoch_of_some {m : PersistentIdentityManager} {identity : NodeIdentity}
    (h : m.identity = some identity) : m.currentEpoch = identity.sessionEpoch := by
  rw [NodeIdentityManager.currentEpoch, h]

/-- The node id is kept, whatever `NodeId::generate` would return, when what follows the numbers
reads. -/
theorem recover_nodeId_iff {m : PersistentIdentityManager} (hpath : m.persistPath ≠ [])
    {ifs : StdString} {nid : NodeId} {epochVal : UInt64} {tail : StdString}
    (hnumbers : readNumbers ifs = some (nid, epochVal, tail)) (hnid : nid.isNull = false) :
    (∀ opens random, (m.recoverFromCorruption (some ifs) opens random).1.getNodeId = nid) ↔
      TopologyReads tail := by
  obtain ⟨hload, hloaded⟩ := load_iff (m := { m with lastRecovery := .init }) hpath hnumbers hnid
  constructor
  · intro hkeeps
    by_contra hnot
    obtain ⟨random, hne⟩ := exists_recover_ne (mt hload.mp hnot) true nid
    exact hne (hkeeps true random)
  · intro hreads opens random
    obtain ⟨identity, hidentity, hid, -⟩ := hloaded hreads
    obtain ⟨identity', hidentity', hid', -⟩ :=
      recover_of_loaded (hload.mpr hreads) hidentity (by rw [hid, hnid]) opens random
    rw [getNodeId_of_some hidentity', hid', hid]

/-! ### The main results -/

/-- The node id and the epoch that a file begins with are kept when what follows them reads as a
topology or as none. -/
theorem recover_keeps_iff {m : PersistentIdentityManager} (hpath : m.persistPath ≠ [])
    {ifs : StdString} {nid : NodeId} {epochVal : UInt64} {tail : StdString}
    (hnumbers : readNumbers ifs = some (nid, epochVal, tail)) (hnid : nid.isNull = false)
    (hepoch : 1 ≤ epochVal) :
    (∀ opens random, (m.recoverFromCorruption (some ifs) opens random).1.getNodeId = nid ∧
        (m.recoverFromCorruption (some ifs) opens random).1.currentEpoch =
          { value := epochVal }) ↔
      TopologyReads tail := by
  rw [← recover_nodeId_iff hpath hnumbers hnid]
  constructor
  · exact fun h opens random => (h opens random).1
  · intro h opens random
    refine ⟨h opens random, ?_⟩
    -- The file loads, as its topology reads.
    have hreads := (recover_nodeId_iff hpath hnumbers hnid).mp h
    obtain ⟨hload, hloaded⟩ := load_iff (m := { m with lastRecovery := .init }) hpath hnumbers hnid
    obtain ⟨identity, hidentity, hid, hvalue⟩ := hloaded hreads
    obtain ⟨identity', hidentity', -, -, hkept, -⟩ :=
      recover_of_loaded (hload.mpr hreads) hidentity (by rw [hid, hnid]) opens random
    have hne : identity.sessionEpoch.value ≠ 0 := by
      rw [hvalue]
      intro hzero
      change epochVal = 0 at hzero
      rw [hzero] at hepoch
      exact absurd hepoch (by decide)
    rw [currentEpoch_of_some hidentity', hkept hne, hvalue]

/-- A file whose topology is damaged: where a 1 was, there is a 7, and no id follows. -/
theorem recover_keeps_nodeId :
    readNumbers (lit "5 6\n3\n7 #\n") = some ({ high := 5, low := 6 }, 3, lit "\n7 #\n") ∧
      ∀ opens random,
        ((init (lit "node.id")).recoverFromCorruption (some (lit "5 6\n3\n7 #\n")) opens
          random).1.getNodeId = { high := 5, low := 6 } ∧
        ((init (lit "node.id")).recoverFromCorruption (some (lit "5 6\n3\n7 #\n")) opens
          random).1.currentEpoch = { value := 3 } := by
  have hnumbers : readNumbers (lit "5 6\n3\n7 #\n") =
      some ({ high := 5, low := 6 }, 3, lit "\n7 #\n") := by decide +kernel
  exact ⟨hnumbers, (recover_keeps_iff (by decide) hnumbers (by decide) (by decide)).mpr
    ⟨7, lit " #\n", by decide +kernel, by decide⟩⟩

/-- A file in which the topology ends after its digit. -/
theorem recover_loses_nodeId :
    ¬ ∀ (m : PersistentIdentityManager) (ifs : StdString) (nid : NodeId) (epochVal : UInt64)
      (tail : StdString), m.persistPath ≠ [] → readNumbers ifs = some (nid, epochVal, tail) →
      nid.isNull = false → 1 ≤ epochVal → ∀ opens random,
        (m.recoverFromCorruption (some ifs) opens random).1.getNodeId = nid ∧
          (m.recoverFromCorruption (some ifs) opens random).1.currentEpoch =
            { value := epochVal } := by
  intro h
  have hkeeps := h (.init (lit "node.id")) (lit "5 6\n1\n1\n") { high := 5, low := 6 } 1
    (lit "\n1\n") (by decide) (by decide +kernel) (by decide) (by decide) true (0, 0)
  exact absurd hkeeps.1 (by decide +kernel)

/-! ### Cut files -/

/-- What is left of a topology that is cut off `n` bytes after it begins: the digit, and after a 1 a
word and a number. -/
def CutReads (membership : Option TopologyMembership) (n : Nat) : Prop :=
  0 < n ∧ ∀ tm, membership = some tm →
    (readMembership ((membershipText tm).take (n - 1))).isSome = true

/-- A number before a space ends also when the rest is cut. -/
theorem endsNumber_take {c : UInt8} (hc : isSpace c = true) (rest : StdString) (n : Nat) :
    StdString.EndsNumber ((c :: rest).take n) := by
  cases n with
  | zero => exact StdString.endsNumber_nil
  | succ n => exact StdString.endsNumber_cons hc (rest.take n)

/-- The digit of a topology that is cut off behind it. -/
theorem extractInt_take_none (n : Nat) :
    extractInt (10 :: (topologyText none).take (n + 1)) = some (0, (lit "\n").take n) := by
  have htake : (topologyText none).take (n + 1) =
      StdString.toString 0 ++ (lit "\n").take n := rfl
  rw [htake, ← List.singleton_append]
  exact StdString.extractInt_toString (isSpace_of_mem_singleton (by decide)) (by decide)
    (endsNumber_take (by decide) [] n)

/-- Of a membership that is cut, the flag is read. -/
theorem extractInt_take_some (tm : TopologyMembership) (n : Nat) :
    extractInt (10 :: (topologyText (some tm)).take (n + 1)) =
      some (1, (membershipText tm).take n) := by
  have htake : (topologyText (some tm)).take (n + 1) =
      StdString.toString 1 ++ (membershipText tm).take n := rfl
  rw [htake, ← List.singleton_append]
  exact StdString.extractInt_toString (isSpace_of_mem_singleton (by decide)) (by decide)
    (endsNumber_take (by decide) _ n)

/-- When a topology that is cut reads. -/
theorem topologyReads_cut_iff (membership : Option TopologyMembership) (n : Nat) :
    TopologyReads (10 :: (topologyText membership).take n) ↔ CutReads membership n := by
  cases n with
  | zero =>
    have hnone : extractInt (10 :: (topologyText membership).take 0) = none := rfl
    exact iff_of_false (not_topologyReads_of_none hnone) fun h => absurd h.1 (by decide)
  | succ n =>
    rw [CutReads, and_iff_right (Nat.succ_pos n), Nat.add_sub_cancel]
    cases membership with
    | none =>
      rw [topologyReads_iff (extractInt_take_none n)]
      simp
    | some tm =>
      rw [topologyReads_iff (extractInt_take_some tm n)]
      simp

/-- A membership is a word and a number, with spaces between. -/
theorem membershipText_eq (tm : TopologyMembership) :
    membershipText tm =
      [32] ++ (tm.topologyId ++ 32 :: (StdString.toString tm.segmentIndex.toNat ++ [10])) := by
  simp [membershipText, lit]

/-- With a topology id of one word, a cut has to leave the first digit of the segment. -/
theorem cutReads_iff_of_isWord {tm : TopologyMembership} (hword : IsWord tm.topologyId) (n : Nat) :
    CutReads (some tm) n ↔ tm.topologyId.length + 3 < n := by
  have hws : ∀ c ∈ ([32] : StdString), isSpace c = true := isSpace_of_mem_singleton (by decide)
  have hcut : CutReads (some tm) n ↔
      0 < n ∧ (readMembership ((membershipText tm).take (n - 1))).isSome = true := by
    rw [CutReads]
    simp
  rw [hcut, membershipText_eq]
  by_cases hspace : n ≤ 1
  · -- Not even the blank after the digit.
    have hnil : ([32] ++ (tm.topologyId ++
        32 :: (StdString.toString tm.segmentIndex.toNat ++ [10]))).take (n - 1) = [] := by
      rw [Nat.sub_eq_zero_of_le hspace, List.take_zero]
    rw [hnil]
    exact iff_of_false (fun h => absurd h.2 (by decide)) (by omega)
  · obtain ⟨k, rfl⟩ : ∃ k, n = k + 2 := ⟨n - 2, by omega⟩
    have htake : ([32] ++ (tm.topologyId ++
        32 :: (StdString.toString tm.segmentIndex.toNat ++ [10]))).take (k + 2 - 1) =
        [32] ++ (tm.topologyId ++
          32 :: (StdString.toString tm.segmentIndex.toNat ++ [10])).take k := rfl
    rw [htake, and_iff_right (by omega)]
    -- A cut inside the id leaves no number after it.
    by_cases hinside : k ≤ tm.topologyId.length
    · refine iff_of_false ?_ (by omega)
      intro hread
      obtain ⟨_, hread⟩ := Option.isSome_iff_exists.mp hread
      obtain ⟨⟨word, rest⟩, hextract, hread⟩ := Option.bind_eq_some_iff.mp hread
      dsimp only at hread
      rw [StdString.extractWord_cut hws hword _ hinside hextract, StdString.extractU32_nil] at hread
      exact absurd hread (by simp)
    · obtain ⟨j, rfl⟩ : ∃ j, k = tm.topologyId.length + (j + 1) :=
        ⟨k - tm.topologyId.length - 1, by omega⟩
      rw [List.take_length_add_append, List.take_succ_cons, readMembership,
        StdString.extractWord_eq hws hword (by decide)]
      dsimp only [Option.bind_eq_bind, Option.bind_some]
      rw [← List.singleton_append]
      cases j with
      | zero =>
        -- After the id and its blank nothing is left to read.
        have hnone : extractU32 ([32] ++ []) = none := rfl
        rw [List.take_zero, hnone]
        exact iff_of_false (by simp) (by omega)
      | succ j =>
        -- The beginning of a number is a number.
        have hsegment := StdString.extractU32_take_isSome hws tm.segmentIndex
          (show isSpace 10 = true by decide) [] (Nat.succ_pos j)
        obtain ⟨segment, hsegment⟩ := Option.isSome_iff_exists.mp hsegment
        rw [hsegment]
        exact iff_of_true rfl (by omega)

/-- A file without a flag is not loaded without an error. -/
theorem load_of_no_topology (m : PersistentIdentityManager) {ifs : StdString}
    (h : ∀ r, readNumbers ifs = some r → extractInt r.2.2 = none) :
    (m.load (some ifs)).2 ≠ none := by
  rw [load]
  split
  · simp
  · cases hnumbers : readNumbers ifs with
    | none => simp
    | some r =>
      dsimp only
      rw [h r hnumbers]
      simp

/-- What `persist` writes when it succeeds. -/
theorem persist_eq {m : PersistentIdentityManager} {identity : NodeIdentity}
    (hidentity : m.identity = some identity) (hpath : m.persistPath ≠ []) {opens : Bool}
    {file : StdString} (hpersist : m.persist opens = (none, some file)) :
    file = fileText identity := by
  rw [persist, hidentity] at hpersist
  dsimp only at hpersist
  rw [if_neg hpath] at hpersist
  split at hpersist
  · exact absurd (congrArg Prod.fst hpersist) (by simp)
  · exact (Option.some.inj (congrArg Prod.snd hpersist)).symm

/-- The next start after a crash keeps the node id when the topology digit was written, and when
after a 1 a word and a number can be read. -/
theorem recover_cut_iff {m : PersistentIdentityManager} {identity : NodeIdentity}
    (hidentity : m.identity = some identity) (hnid : identity.nodeId.isNull = false)
    (hpath : m.persistPath ≠ []) {opens : Bool} {file : StdString}
    (hpersist : m.persist opens = (none, some file)) (n : Nat) :
    (∀ opens random, ((init m.persistPath).recoverFromCorruption (some (file.take n)) opens
        random).1.getNodeId = identity.nodeId) ↔
      CutReads identity.topologyMembership (n - (headerText identity).length) := by
  rw [persist_eq hidentity hpath hpersist, fileText]
  by_cases hcut : n < (headerText identity).length
  · constructor
    · intro hkeeps
      have hnone : ∀ r, readNumbers ((headerText identity ++
          topologyText identity.topologyMembership).take n) = some r → extractInt r.2.2 = none := by
        intro r hr
        rw [readNumbers_cut identity _ hcut hr]
        rfl
      -- A cut in the first line leaves no file that loads, and a new id is taken.
      have hload := load_of_no_topology { init m.persistPath with lastRecovery := .init } hnone
      obtain ⟨random, hne⟩ := exists_recover_ne hload true identity.nodeId
      exact absurd (hkeeps true random) hne
    · rintro ⟨hpos, -⟩
      omega
  · -- After the first line only the topology is cut.
    have hnumbers := readNumbers_take identity (topologyText identity.topologyMembership)
      (Nat.not_lt.mp hcut)
    rw [← topologyReads_cut_iff]
    exact recover_nodeId_iff (m := init m.persistPath) hpath hnumbers hnid

/-- A node in a topology. -/
def deskIdentity (topologyId : StdString) : NodeIdentity :=
  { NodeIdentity.init with
    nodeId := { high := 5, low := 6 }
    sessionEpoch := { value := 3 }
    topologyMembership :=
      some { topologyId, leftNeighbor := none, rightNeighbor := none, segmentIndex := 12 } }

/-- A manager with the identity of a desk. -/
def deskManager (topologyId : StdString) : PersistentIdentityManager :=
  { init (lit "node.id") with identity := some (deskIdentity topologyId) }

/-- The identity of the desk is in memory. -/
theorem identity_deskManager (topologyId : StdString) :
    (deskManager topologyId).identity = some (deskIdentity topologyId) := rfl

/-- The file of the desk is its text. -/
theorem persist_deskManager (topologyId : StdString) :
    (deskManager topologyId).persist true =
      (none, some (fileText (deskIdentity topologyId))) := rfl

/-- The file ends after the first digit of the segment. -/
theorem recover_cut_segment :
    (fileText (deskIdentity (lit "desk"))).take 14 = lit "5 6\n3\n1 desk 1" ∧
      ∀ opens random, ((init (lit "node.id")).recoverFromCorruption
        (some ((fileText (deskIdentity (lit "desk"))).take 14)) opens random).1.getNodeId =
          { high := 5, low := 6 } := by
  refine ⟨by decide +kernel, (recover_cut_iff (identity_deskManager (lit "desk")) (by decide)
    (by decide) (persist_deskManager (lit "desk")) 14).mpr ⟨by decide +kernel, ?_⟩⟩
  intro tm htm
  cases htm
  decide +kernel

/-- The file was truncated, and nothing was written. -/
theorem recover_cut_loses_nodeId :
    ¬ ∀ (m : PersistentIdentityManager) (identity : NodeIdentity), m.identity = some identity →
      identity.nodeId.isNull = false → m.persistPath ≠ [] → ∀ (opens : Bool) (file : StdString),
      m.persist opens = (none, some file) → ∀ (n : Nat) (opens : Bool) (random : UInt64 × UInt64),
        ((init m.persistPath).recoverFromCorruption (some (file.take n)) opens
          random).1.getNodeId = identity.nodeId := by
  intro h
  have hkeeps := h _ _ rfl (by decide) (by decide) true _ (persist_deskManager (lit "desk")) 0 true
    (0, 0)
  exact absurd hkeeps (by decide +kernel)

/-! ### Round trips -/

/-- A membership whose id is a word is read back without its neighbours. -/
theorem readMembership_membershipText {tm : TopologyMembership} (h : IsWord tm.topologyId) :
    readMembership (membershipText tm) =
      some { tm with leftNeighbor := none, rightNeighbor := none } := by
  have hws : ∀ c ∈ ([32] : StdString), isSpace c = true := isSpace_of_mem_singleton (by decide)
  rw [membershipText_eq, readMembership, StdString.extractWord_eq hws h (by decide)]
  dsimp only [Option.bind_eq_bind, Option.bind_some]
  rw [← List.singleton_append,
    StdString.extractU32_toString hws _ (StdString.endsNumber_cons (by decide) [])]
  rfl

/-- The id of a membership that was read is a word. -/
theorem isWord_of_readMembership {ifs : StdString} {tm : TopologyMembership}
    (h : readMembership ifs = some tm) : IsWord tm.topologyId := by
  obtain ⟨⟨word, rest⟩, hword, h⟩ := Option.bind_eq_some_iff.mp h
  obtain ⟨⟨segmentIndex, rest'⟩, -, h⟩ := Option.bind_eq_some_iff.mp h
  cases h
  exact StdString.isWord_of_extractWord hword

/-- The numbers of a file are read back. -/
theorem readNumbers_fileText (identity : NodeIdentity) :
    readNumbers (fileText identity) = some (identity.nodeId, identity.sessionEpoch.value,
      10 :: topologyText identity.topologyMembership) := by
  have hlength : (fileText identity).length = (headerText identity).length +
      (topologyText identity.topologyMembership).length := by
    rw [fileText, List.length_append]
  have hnumbers := readNumbers_take identity (topologyText identity.topologyMembership)
    (n := (fileText identity).length) (by omega)
  rw [← fileText, List.take_length] at hnumbers
  rw [hnumbers, List.take_of_length_le (by omega)]

/-- The flag of no membership is 0. -/
theorem extractInt_none : extractInt (10 :: topologyText none) = some (0, lit "\n") := rfl

/-- The flag of a membership is 1. -/
theorem extractInt_some (tm : TopologyMembership) :
    extractInt (10 :: topologyText (some tm)) = some (1, membershipText tm) := by
  have hint := extractInt_take_some tm (membershipText tm).length
  have hlength : (topologyText (some tm)).length = (membershipText tm).length + 1 :=
    List.length_cons
  rwa [List.take_of_length_le (Nat.le_of_eq hlength), List.take_length] at hint

/-- What `load` has to restore. -/
def Restores (identity : NodeIdentity)
    (result : PersistentIdentityManager × Option ErrorCode) : Prop :=
  result.2 = none ∧ ∃ loaded, result.1.identity = some loaded ∧
    loaded.nodeId = identity.nodeId ∧ loaded.sessionEpoch = identity.sessionEpoch ∧
    loaded.topologyMembership.map (fun tm => (tm.topologyId, tm.segmentIndex)) =
      identity.topologyMembership.map fun tm => (tm.topologyId, tm.segmentIndex)

/-- A persisted identity is restored when the topology id is one word. -/
theorem load_persist_iff {m : PersistentIdentityManager} {identity : NodeIdentity}
    (hidentity : m.identity = some identity) (hnid : identity.nodeId.isNull = false)
    (hpath : m.persistPath ≠ []) {opens : Bool} {file : StdString}
    (hpersist : m.persist opens = (none, some file)) :
    Restores identity ((init m.persistPath).load (some file)) ↔
      ∀ tm, identity.topologyMembership = some tm → IsWord tm.topologyId := by
  have hpath' : (init m.persistPath).persistPath ≠ [] := hpath
  rw [persist_eq hidentity hpath hpersist, load, if_neg hpath', readNumbers_fileText]
  dsimp only
  cases hmembership : identity.topologyMembership with
  | none =>
    rw [extractInt_none]
    dsimp only
    rw [loadFields, if_neg (by simp [hnid]), if_neg (by decide)]
    refine iff_of_true ⟨rfl, _, rfl, rfl, rfl, ?_⟩ (by simp)
    rw [hmembership]
  | some tm =>
    rw [extractInt_some]
    dsimp only
    rw [loadFields, if_neg (by simp [hnid]), if_pos rfl]
    by_cases hword : IsWord tm.topologyId
    · rw [readMembership_membershipText hword]
      refine iff_of_true ⟨rfl, _, rfl, rfl, rfl, ?_⟩ (by simpa using hword)
      rw [hmembership]
      rfl
    · refine iff_of_false ?_ fun h => hword (h tm rfl)
      cases hread : readMembership (membershipText tm) with
      | none => exact fun h => absurd h.1 (by simp)
      | some tm' =>
        -- The word that is read is another topology id.
        rintro ⟨-, loaded, hloaded, -, -, hsame⟩
        cases hloaded
        rw [hmembership] at hsame
        have hid : tm'.topologyId = tm.topologyId :=
          congrArg Prod.fst (Option.some.inj hsame)
        exact hword (hid ▸ isWord_of_readMembership hread)

/-- The identity of the desk is loaded as it was written. -/
theorem load_persist_desk :
    Restores (deskIdentity (lit "desk"))
      ((init (lit "node.id")).load (some (fileText (deskIdentity (lit "desk"))))) := by
  have hspace : (lit "desk").all (fun c => !isSpace c) = true := by decide
  refine (load_persist_iff (identity_deskManager (lit "desk")) (by decide) (by decide)
    (persist_deskManager (lit "desk"))).mpr fun tm htm => ?_
  cases htm
  refine ⟨by decide, fun c hc => ?_⟩
  simpa using List.all_eq_true.mp hspace c hc

/-- A topology id of two words. -/
theorem load_persist_two_words :
    ¬ ∀ (m : PersistentIdentityManager) (identity : NodeIdentity), m.identity = some identity →
      identity.nodeId.isNull = false → m.persistPath ≠ [] → ∀ (opens : Bool) (file : StdString),
      m.persist opens = (none, some file) →
        Restores identity ((init m.persistPath).load (some file)) := by
  intro h
  have hpersist := persist_deskManager (lit "my desk")
  have hrestores := h _ _ rfl (by decide) (by decide) true _ hpersist
  have hword := (load_persist_iff rfl (by decide) (by decide) hpersist).mp hrestores _ rfl
  exact absurd (hword.2 32 (by decide)) (by decide)

end PersistentIdentityManager

end CrossFlow
