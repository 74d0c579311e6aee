import CrossFlow.Integration.E2EEvidenceCollector
import Mathlib.Data.List.Induction
import Mathlib.Order.Lattice

/-!
# `CrossFlow.Proofs.Integration.Correlation`: what a passing correlation says of the records

`verifyCorrelation` keeps the last capture and the last injection of each identifier, and compares
these. Its last loop counts the identifiers up to the greatest one with an inclusive bound.

* `getElem?_ofRecords`: the maps hold the last records.
* `returns_iff`: the lists of records for which it returns.
* `pass_iff_lastRecordsCorrespond`: it passes when the last records correspond.
* `pass_iff_realEvidence_iff`: the lists for which that is the same for all records.
-/

set_option autoImplicit false

namespace CrossFlow

open Std (TreeMap)

/-! ### The records of an identifier -/

/-- The records of one type and identifier, in their order. -/
def recordsOf (type : EvidenceType) (records : List PhysicalEvidenceRecord) (id : UInt64) :
    List PhysicalEvidenceRecord :=
  records.filter fun rec => rec.type = type ∧ rec.eventId = id

/-- The injection is the evidence for the capture. -/
def Corresponds (capture injection : PhysicalEvidenceRecord) : Prop :=
  injection.eventId = capture.eventId ∧ injection.payload = capture.payload ∧
    capture.timestampUs < injection.timestampUs

/-- Whether an injection corresponds to a capture can be looked up. -/
instance (capture injection : PhysicalEvidenceRecord) : Decidable (Corresponds capture injection) :=
  inferInstanceAs (Decidable (_ ∧ _ ∧ _))

/-- A capture or an injection has the identifier. -/
def UsesId (records : List PhysicalEvidenceRecord) (id : UInt64) : Prop :=
  recordsOf .Capture records id ≠ [] ∨ recordsOf .Injection records id ≠ []

/-- The identifiers in use have no gap. -/
def ConsecutiveIds (records : List PhysicalEvidenceRecord) : Prop :=
  ∀ first last id, UsesId records first → UsesId records last → first ≤ id → id ≤ last →
    UsesId records id

/-- Each capture has exactly one injection of its identifier, which is the evidence for it, each
injection exactly one capture, and the identifiers have no gap. -/
structure RealEvidence (records : List PhysicalEvidenceRecord) : Prop where
  captures : ∀ c ∈ records, c.type = .Capture →
    ∃ i, recordsOf .Injection records c.eventId = [i] ∧ Corresponds c i
  injections : ∀ i ∈ records, i.type = .Injection →
    ∃ c, recordsOf .Capture records i.eventId = [c] ∧ Corresponds c i
  consecutive : ConsecutiveIds records

/-- The weaker reading: each capture has exactly one injection that is the evidence for it, whatever
other injections have its identifier, each injection exactly one such capture, and the identifiers
have no gap. -/
structure OneToOneEvidence (records : List PhysicalEvidenceRecord) : Prop where
  captures : ∀ c ∈ records, c.type = .Capture →
    ∃ i, (records.filter fun rec => rec.type = .Injection ∧ Corresponds c rec) = [i]
  injections : ∀ i ∈ records, i.type = .Injection →
    ∃ c, (records.filter fun rec => rec.type = .Capture ∧ Corresponds rec i) = [c]
  consecutive : ConsecutiveIds records

/-- The last capture and the last injection of each identifier in use correspond, and the
identifiers have no gap. -/
structure LastRecordsCorrespond (records : List PhysicalEvidenceRecord) : Prop where
  last : ∀ id, UsesId records id → ∃ c i, (recordsOf .Capture records id).getLast? = some c ∧
    (recordsOf .Injection records id).getLast? = some i ∧ Corresponds c i
  consecutive : ConsecutiveIds records

/-- No identifier has two captures or two injections. -/
def UniqueIds (records : List PhysicalEvidenceRecord) : Prop :=
  ∀ id, (recordsOf .Capture records id).length ≤ 1 ∧ (recordsOf .Injection records id).length ≤ 1

variable {records : List PhysicalEvidenceRecord} {type : EvidenceType} {id : UInt64}
  {rec : PhysicalEvidenceRecord}

/-- The records of a type with an id. -/
theorem mem_recordsOf :
    rec ∈ recordsOf type records id ↔ rec ∈ records ∧ rec.type = type ∧ rec.eventId = id := by
  simp [recordsOf]

/-- The last record is one of them or not. -/
theorem recordsOf_append_singleton :
    recordsOf type (records ++ [rec]) id =
      recordsOf type records id ++ if rec.type = type ∧ rec.eventId = id then [rec] else [] := by
  rw [recordsOf, List.filter_append]
  congr 1
  simp [List.filter_cons]

/-! ### The maps -/

namespace CorrelationMaps

/-- What one map holds after one more record: the record itself under its identifier. -/
theorem getElem?_insert_eq (map : TreeMap UInt64 PhysicalEvidenceRecord) :
    (map.insert rec.eventId rec)[id]? = if rec.eventId = id then some rec else map[id]? := by
  simp [Std.TreeMap.getElem?_insert]

/-- The last record is added to the maps of the others. -/
theorem ofRecords_append_singleton :
    ofRecords (records ++ [rec]) = (ofRecords records).addRecord rec := by
  simp [ofRecords]

/-- The maps hold the last record of each identifier. -/
theorem getElem?_ofRecords (records : List PhysicalEvidenceRecord) (id : UInt64) :
    (ofRecords records).captureMap[id]? = (recordsOf .Capture records id).getLast? ∧
      (ofRecords records).injectionMap[id]? = (recordsOf .Injection records id).getLast? := by
  induction records using List.reverseRecOn with
  | nil => simp [ofRecords, recordsOf]
  | append_singleton records rec ih =>
    obtain ⟨hcapture, hinjection⟩ := ih
    rw [ofRecords_append_singleton, recordsOf_append_singleton, recordsOf_append_singleton,
      addRecord]
    -- A record goes into the map of its type, and replaces the one of its id.
    by_cases hid : rec.eventId = id
    · cases htype : rec.type with
      | Capture => simp [hinjection, hid]
      | Injection => simp [hcapture, hid]
      | Receive => simp [hcapture, hinjection]
      | Correlation => simp [hcapture, hinjection]
      | Disconnect => simp [hcapture, hinjection]
      | Reconnect => simp [hcapture, hinjection]
    · cases htype : rec.type with
      | Capture => simp [getElem?_insert_eq, hcapture, hinjection, hid]
      | Injection => simp [getElem?_insert_eq, hcapture, hinjection, hid]
      | Receive => simp [hcapture, hinjection]
      | Correlation => simp [hcapture, hinjection]
      | Disconnect => simp [hcapture, hinjection]
      | Reconnect => simp [hcapture, hinjection]

/-- The maps have at most one entry for each record. -/
theorem size_ofRecords_le (records : List PhysicalEvidenceRecord) :
    (ofRecords records).captureMap.size ≤ records.length ∧
      (ofRecords records).injectionMap.size ≤ records.length := by
  induction records using List.reverseRecOn with
  | nil => simp [ofRecords]
  | append_singleton records rec ih =>
    rw [ofRecords_append_singleton, addRecord, List.length_append, List.length_singleton]
    have hcapture := Std.TreeMap.size_insert_le (t := (ofRecords records).captureMap)
      (k := rec.eventId) (v := rec)
    have hinjection := Std.TreeMap.size_insert_le (t := (ofRecords records).injectionMap)
      (k := rec.eventId) (v := rec)
    split
    · dsimp only
      omega
    · dsimp only
      omega
    · omega

variable {maps : CorrelationMaps}

/-- The identifier is a key of one of the maps. -/
def HasId (maps : CorrelationMaps) (id : UInt64) : Prop :=
  id ∈ maps.captureMap ∨ id ∈ maps.injectionMap

/-- The maps have the ids that the records use. -/
theorem hasId_ofRecords : (ofRecords records).HasId id ↔ UsesId records id := by
  obtain ⟨hcapture, hinjection⟩ := getElem?_ofRecords records id
  rw [HasId, UsesId, Std.TreeMap.mem_iff_isSome_getElem?, Std.TreeMap.mem_iff_isSome_getElem?,
    hcapture, hinjection]
  simp

/-! ### The range of the identifiers -/

/-- The first of some ordered keys is the least, the last the greatest. -/
theorem keys_ends (map : TreeMap UInt64 PhysicalEvidenceRecord) :
    map.keys = [] ∨ ∃ least greatest, map.keys.head? = some least ∧
      map.keys.getLast? = some greatest ∧ least ∈ map ∧ greatest ∈ map ∧
      ∀ id ∈ map, least ≤ id ∧ id ≤ greatest := by
  -- The keys are in order, so that the first is the least and the last the greatest.
  have hordered : map.keys.Pairwise (· ≤ ·) := by
    refine Std.TreeMap.ordered_keys.imp ?_
    intro a b hab
    exact UInt64.le_of_lt (Std.compare_eq_lt.mp hab)
  have hmem (id : UInt64) : id ∈ map ↔ id ∈ map.keys := Std.TreeMap.mem_keys.symm
  simp only [hmem]
  generalize map.keys = keys at hordered
  by_cases hnil : keys = []
  · exact .inl hnil
  · right
    refine ⟨keys.head hnil, keys.getLast hnil, List.head?_eq_some_head hnil,
      List.getLast?_eq_some_getLast hnil, List.head_mem hnil, List.getLast_mem hnil, ?_⟩
    intro id hid
    constructor
    · cases keys with
      | nil => exact absurd hid List.not_mem_nil
      | cons first rest =>
        rcases List.mem_cons.mp hid with rfl | hrest
        · exact UInt64.le_refl _
        · exact List.rel_of_pairwise_cons hordered hrest
    · rw [← List.dropLast_concat_getLast hnil, List.mem_append, List.mem_singleton] at hid
      rcases hid with hid | rfl
      · rw [← List.dropLast_concat_getLast hnil, List.pairwise_append] at hordered
        exact hordered.2.2 id hid _ (List.mem_singleton_self _)
      · exact UInt64.le_refl _

/-- There is a range when both maps have entries, and it has all ids. -/
theorem idRange_cases (maps : CorrelationMaps) :
    (maps.idRange = none ∧ (maps.captureMap.keys = [] ∨ maps.injectionMap.keys = [])) ∨
      ∃ minId maxId, maps.idRange = some (minId, maxId) ∧ maps.captureMap.keys ≠ [] ∧
        maps.injectionMap.keys ≠ [] ∧ maps.HasId minId ∧ maps.HasId maxId ∧
        ∀ id, maps.HasId id → minId ≤ id ∧ id ≤ maxId := by
  -- The range is empty as soon as one of the maps is, and runs over both otherwise.
  rcases keys_ends maps.captureMap with hcapture | ⟨a, b, hfirst, hlast, ha, hb, hcapture⟩
  · left
    simp [idRange, hcapture]
  rcases keys_ends maps.injectionMap with hinjection | ⟨c, d, hfirst', hlast', hc, hd, hinjection⟩
  · left
    simp [idRange, hinjection]
  right
  refine ⟨min a c, max b d, ?_, ?_, ?_, ?_, ?_, ?_⟩
  · simp [idRange, hfirst, hlast, hfirst', hlast']
  · intro h
    simp [h] at hfirst
  · intro h
    simp [h] at hfirst'
  · rcases Lib.min_word_cases a c with ⟨h, -⟩ | ⟨h, -⟩
    · rw [h]
      exact .inl ha
    · rw [h]
      exact .inr hc
  · rcases Lib.max_word_cases b d with ⟨h, -⟩ | ⟨h, -⟩
    · rw [h]
      exact .inl hb
    · rw [h]
      exact .inr hd
  · rintro id hid
    -- An id is in one of the maps, and each map has its least key.
    have hleast : min a c ≤ id := by
      rcases Lib.min_word_cases a c with ⟨h, hle⟩ | ⟨h, hle⟩
      · rw [h]
        rcases hid with hid | hid
        · exact (hcapture id hid).1
        · exact UInt64.le_trans hle (hinjection id hid).1
      · rw [h]
        rcases hid with hid | hid
        · exact UInt64.le_trans hle (hcapture id hid).1
        · exact (hinjection id hid).1
    have hgreatest : id ≤ max b d := by
      rcases Lib.max_word_cases b d with ⟨h, hle⟩ | ⟨h, hle⟩
      · rw [h]
        rcases hid with hid | hid
        · exact (hcapture id hid).2
        · exact UInt64.le_trans (hinjection id hid).2 hle
      · rw [h]
        rcases hid with hid | hid
        · exact UInt64.le_trans (hcapture id hid).2 hle
        · exact (hinjection id hid).2
    exact ⟨hleast, hgreatest⟩

/-- The identifiers that the last loop goes through, when it ends. -/
def searched (maps : CorrelationMaps) : List UInt64 :=
  match maps.idRange with
  | some (minId, maxId) => Lib.interval minId maxId
  | none => []

/-- The last loop has an end. -/
def SearchEnds (maps : CorrelationMaps) : Prop :=
  ∀ minId maxId, maps.idRange = some (minId, maxId) → maxId.toNat ≠ 2 ^ 64 - 1

/-- The search gives a result when it ends, and which. -/
theorem findMissing_eq_some_iff {result result' : CorrelationResult} :
    (∃ fuel, maps.findMissing fuel result = some result') ↔
      maps.SearchEnds ∧
        maps.searched.foldl (fun result id => maps.countMissing id result) result = result' := by
  rw [SearchEnds, searched]
  cases hrange : maps.idRange with
  | none => simp [findMissing, hrange]
  | some range =>
    obtain ⟨minId, maxId⟩ := range
    simp only [findMissing, hrange, Lib.inclusiveLoop_eq_some_iff, Option.some.injEq,
      Prod.mk.injEq, and_imp]
    constructor
    · rintro ⟨hmax, hfold⟩
      refine ⟨?_, hfold⟩
      -- A range that ends at the greatest id is never left.
      rintro _ _ - rfl
      exact hmax
    · rintro ⟨hmax, hfold⟩
      exact ⟨hmax minId maxId rfl rfl, hfold⟩

/-- A search that ends looks at fewer than `2 ^ 64` ids. -/
theorem length_searched_lt (hends : maps.SearchEnds) : maps.searched.length < 2 ^ 64 := by
  rw [searched]
  split
  · rename_i minId maxId hrange
    have hmax := hends minId maxId hrange
    have hlt := maxId.toNat_lt
    rw [Lib.length_interval]
    omega
  · simp

/-- The search ends when one of the maps is empty, or no identifier is the greatest one. -/
theorem searchEnds_iff :
    maps.SearchEnds ↔ maps.captureMap.keys = [] ∨ maps.injectionMap.keys = [] ∨
      ∀ id, maps.HasId id → id.toNat ≠ 2 ^ 64 - 1 := by
  -- Without a range nothing is searched.
  rcases maps.idRange_cases with ⟨hrange, hempty⟩ | ⟨minId, maxId, hrange, hcapture, hrest⟩
  · refine iff_of_true ?_ ?_
    · intro minId maxId h
      simp [hrange] at h
    · rcases hempty with h | h
      · exact .inl h
      · exact .inr (.inl h)
  · obtain ⟨hinjection, -, hmax, hbounds⟩ := hrest
    rw [or_iff_right hcapture, or_iff_right hinjection]
    constructor
    · -- An id that is the greatest of all is the end of the range.
      intro hends id hid hgreatest
      have hle := (hbounds id hid).2
      rw [UInt64.le_iff_toNat_le] at hle
      have hlt := maxId.toNat_lt
      exact hends minId maxId hrange (by omega)
    · intro h minId' maxId' hrange'
      rw [hrange] at hrange'
      obtain ⟨-, rfl⟩ := Prod.mk.inj (Option.some.inj hrange')
      exact h maxId hmax

/-- The identifiers in the maps have no gap. -/
def NoGap (maps : CorrelationMaps) : Prop :=
  ∀ first last id, maps.HasId first → maps.HasId last → first ≤ id → id ≤ last → maps.HasId id

/-- All the identifiers that are searched are there when those that are there have no gap, as long
as both maps have the same ones. -/
theorem forall_searched_iff (hsame : ∀ id, id ∈ maps.captureMap ↔ id ∈ maps.injectionMap) :
    (∀ id ∈ maps.searched, maps.HasId id) ↔ maps.NoGap := by
  rw [searched, NoGap]
  rcases maps.idRange_cases with ⟨hrange, hempty⟩ | ⟨minId, maxId, hrange, -, -, hrest⟩
  · -- One map has no key, and the other has the same keys.
    have hnone (id : UInt64) : ¬ maps.HasId id := by
      have hkeys := Std.TreeMap.mem_keys (t := maps.captureMap) (k := id)
      have hkeys' := Std.TreeMap.mem_keys (t := maps.injectionMap) (k := id)
      rcases hempty with h | h
      · simp [HasId, ← hsame, ← hkeys, h]
      · simp [HasId, hsame, ← hkeys', h]
    simp [hrange, hnone]
  · obtain ⟨hmin, hmax, hbounds⟩ := hrest
    simp only [hrange, Lib.mem_interval]
    constructor
    · intro h first last id hfirst hlast hle hge
      -- Between two ids means inside the range, whose ends are ids.
      refine h id ⟨?_, ?_⟩
      · exact UInt64.le_trans (hbounds first hfirst).1 hle
      · exact UInt64.le_trans hge (hbounds last hlast).2
    · intro h id hid
      exact h minId maxId id hmin hmax hid.1 hid.2

/-! ### The counters -/

/-- The result when all loops are over. -/
def counted (maps : CorrelationMaps) : CorrelationResult :=
  let compared := maps.captureMap.toList.foldl maps.compareCapture {}
  let result := maps.injectionMap.toList.foldl maps.compareInjection compared
  maps.searched.foldl (fun result id => maps.countMissing id result) result

/-- The maps are small enough for their sizes to be counted in a word. -/
structure Small (maps : CorrelationMaps) : Prop where
  captures : maps.captureMap.toList.length < 2 ^ 64
  injections : maps.injectionMap.toList.length < 2 ^ 64

/-- A count over the captures is 0 when none of them is counted. -/
theorem counted_eq_zero_iff_captures (hsmall : maps.Small) (counter : CorrelationResult → UInt64)
    (p : UInt64 × PhysicalEvidenceRecord → Bool) (hzero : counter {} = 0)
    (hcapture : ∀ result entry, counter (maps.compareCapture result entry) =
      counter result + if p entry then 1 else 0)
    (hinjection : ∀ result entry, counter (maps.compareInjection result entry) = counter result)
    (hmissing : ∀ result id, counter (maps.countMissing id result) = counter result) :
    counter maps.counted = 0 ↔ ∀ entry ∈ maps.captureMap.toList, p entry = false := by
  rw [counted, Lib.foldl_unchanged hmissing, Lib.foldl_unchanged hinjection]
  exact Lib.counter_eq_zero_iff hcapture hsmall.captures hzero

/-- Every capture has an injection. -/
theorem unmatchedCaptureCount_eq_zero_iff (hsmall : maps.Small) :
    maps.counted.unmatchedCaptureCount = 0 ↔
      ∀ entry ∈ maps.captureMap.toList, (maps.injectionMap[entry.1]?).isNone = false := by
  refine counted_eq_zero_iff_captures hsmall (fun r => r.unmatchedCaptureCount)
    (fun entry => (maps.injectionMap[entry.1]?).isNone) rfl ?_ (fun _ _ => rfl) (fun _ _ => rfl)
  intro result entry
  rw [compareCapture]
  split
  · simp [‹_ = none›]
  · simp [‹_ = some _›]

/-- No injection has another payload than its capture. -/
theorem payloadMismatchCount_eq_zero_iff (hsmall : maps.Small) :
    maps.counted.payloadMismatchCount = 0 ↔ ∀ entry ∈ maps.captureMap.toList,
      (maps.injectionMap[entry.1]?).any (fun i => entry.2.payload ≠ i.payload) = false := by
  refine counted_eq_zero_iff_captures hsmall (fun r => r.payloadMismatchCount)
    (fun entry => (maps.injectionMap[entry.1]?).any fun i => entry.2.payload ≠ i.payload) rfl ?_
    (fun _ _ => rfl) (fun _ _ => rfl)
  intro result entry
  rw [compareCapture]
  split
  · simp [‹_ = none›]
  · simp [‹_ = some _›]

/-- No injection is as early as its capture, or earlier. -/
theorem timestampNonMonotonicCount_eq_zero_iff (hsmall : maps.Small) :
    maps.counted.timestampNonMonotonicCount = 0 ↔ ∀ entry ∈ maps.captureMap.toList,
      (maps.injectionMap[entry.1]?).any (fun i => i.timestampUs ≤ entry.2.timestampUs) = false := by
  refine counted_eq_zero_iff_captures hsmall (fun r => r.timestampNonMonotonicCount)
    (fun entry => (maps.injectionMap[entry.1]?).any fun i => i.timestampUs ≤ entry.2.timestampUs)
    rfl ?_ (fun _ _ => rfl) (fun _ _ => rfl)
  intro result entry
  rw [compareCapture]
  split
  · simp [‹_ = none›]
  · simp [‹_ = some _›]

/-- Every injection has a capture. -/
theorem unmatchedInjectionCount_eq_zero_iff (hsmall : maps.Small) :
    maps.counted.unmatchedInjectionCount = 0 ↔
      ∀ entry ∈ maps.injectionMap.toList, entry.1 ∈ maps.captureMap := by
  -- Only the pass over the injections counts here.
  have hcapture (result : CorrelationResult) (entry : UInt64 × PhysicalEvidenceRecord) :
      (maps.compareCapture result entry).unmatchedInjectionCount =
        result.unmatchedInjectionCount := by
    rw [compareCapture]
    split
    · rfl
    · rfl
  have hinjection (result : CorrelationResult) (entry : UInt64 × PhysicalEvidenceRecord) :
      (maps.compareInjection result entry).unmatchedInjectionCount =
        result.unmatchedInjectionCount + if decide (entry.1 ∉ maps.captureMap) then 1 else 0 := by
    simp [compareInjection]
  have hmissing (result : CorrelationResult) (id : UInt64) :
      (maps.countMissing id result).unmatchedInjectionCount = result.unmatchedInjectionCount := rfl
  rw [counted, Lib.foldl_unchanged hmissing, Lib.counter_eq_zero_iff hinjection hsmall.injections]
  · simp
  · rw [Lib.foldl_unchanged hcapture]

/-- No id between the smallest and the largest is missing. -/
theorem missingEventIdCount_eq_zero_iff (hends : maps.SearchEnds) :
    maps.counted.missingEventIdCount = 0 ↔ ∀ id ∈ maps.searched, maps.HasId id := by
  have hcapture (result : CorrelationResult) (entry : UInt64 × PhysicalEvidenceRecord) :
      (maps.compareCapture result entry).missingEventIdCount = result.missingEventIdCount := by
    rw [compareCapture]
    split
    · rfl
    · rfl
  have hinjection (result : CorrelationResult) (entry : UInt64 × PhysicalEvidenceRecord) :
      (maps.compareInjection result entry).missingEventIdCount = result.missingEventIdCount := rfl
  have hmissing (result : CorrelationResult) (id : UInt64) :
      (maps.countMissing id result).missingEventIdCount = result.missingEventIdCount +
        if decide (id ∉ maps.captureMap ∧ id ∉ maps.injectionMap) then 1 else 0 := by
    simp [countMissing]
  rw [counted, Lib.counter_eq_zero_iff hmissing (length_searched_lt hends)]
  · simp [HasId, or_iff_not_imp_left]
  · rw [Lib.foldl_unchanged hinjection, Lib.foldl_unchanged hcapture]

/-- Each identifier has a capture and an injection that is the evidence for it. -/
def AllMatched (maps : CorrelationMaps) : Prop :=
  ∀ id, maps.HasId id → ∃ c i : PhysicalEvidenceRecord, maps.captureMap[id]? = some c ∧
    maps.injectionMap[id]? = some i ∧ i.payload = c.payload ∧ c.timestampUs < i.timestampUs

/-- An id is in a map when it has a record. -/
theorem mem_iff_exists {map : TreeMap UInt64 PhysicalEvidenceRecord} :
    id ∈ map ↔ ∃ rec, map[id]? = some rec := by
  rw [Std.TreeMap.mem_iff_isSome_getElem?, Option.isSome_iff_exists]

/-- When all is matched both maps have the same ids. -/
theorem AllMatched.mem_iff (h : maps.AllMatched) (id : UInt64) :
    id ∈ maps.captureMap ↔ id ∈ maps.injectionMap := by
  constructor
  · intro hid
    obtain ⟨c, i, -, hi, -⟩ := h id (.inl hid)
    exact mem_iff_exists.mpr ⟨i, hi⟩
  · intro hid
    obtain ⟨c, i, hc, -⟩ := h id (.inr hid)
    exact mem_iff_exists.mpr ⟨c, hc⟩

/-- The four counters of the first two loops are zero when all identifiers are matched. -/
theorem counters_eq_zero_iff (hsmall : maps.Small) :
    (maps.counted.unmatchedCaptureCount = 0 ∧ maps.counted.unmatchedInjectionCount = 0 ∧
      maps.counted.payloadMismatchCount = 0 ∧ maps.counted.timestampNonMonotonicCount = 0) ↔
      maps.AllMatched := by
  rw [unmatchedCaptureCount_eq_zero_iff hsmall, unmatchedInjectionCount_eq_zero_iff hsmall,
    payloadMismatchCount_eq_zero_iff hsmall, timestampNonMonotonicCount_eq_zero_iff hsmall]
  simp only [Prod.forall, Std.TreeMap.mem_toList_iff_getElem?_eq_some]
  constructor
  · -- An id of either map is in both: the counters of the captures and of the injections are 0.
    rintro ⟨hmatched, hcaptured, hpayload, htime⟩ id hid
    have hmem : id ∈ maps.captureMap := by
      rcases hid with hid | hid
      · exact hid
      · obtain ⟨i, hi⟩ := mem_iff_exists.mp hid
        exact hcaptured id i hi
    obtain ⟨c, hc⟩ := mem_iff_exists.mp hmem
    obtain ⟨i, hi⟩ := mem_iff_exists.mp (by simpa using hmatched id c hc)
    have hsame := hpayload id c hc
    have hlater := htime id c hc
    simp only [hi, Option.any_some, decide_eq_false_iff_not, not_not] at hsame hlater
    exact ⟨c, i, hc, hi, hsame.symm, UInt64.not_le.mp hlater⟩
  · intro h
    -- Each capture has its injection, which settles all four counters.
    have hcaptured (id : UInt64) (c : PhysicalEvidenceRecord)
        (hc : maps.captureMap[id]? = some c) : ∃ i, maps.injectionMap[id]? = some i ∧
          i.payload = c.payload ∧ c.timestampUs < i.timestampUs := by
      obtain ⟨c', i, hc', hi, hrest⟩ := h id (.inl (mem_iff_exists.mpr ⟨c, hc⟩))
      obtain rfl := Option.some.inj (hc.symm.trans hc')
      exact ⟨i, hi, hrest⟩
    refine ⟨?_, ?_, ?_, ?_⟩
    · intro id c hc
      obtain ⟨i, hi, -⟩ := hcaptured id c hc
      simp [hi]
    · intro id i hi
      exact (h.mem_iff id).mpr (mem_iff_exists.mpr ⟨i, hi⟩)
    · intro id c hc
      obtain ⟨i, hi, hsame, -⟩ := hcaptured id c hc
      simp [hi, hsame]
    · intro id c hc
      obtain ⟨i, hi, -, hlater⟩ := hcaptured id c hc
      simp [hi, UInt64.not_le.mpr hlater]

/-- The check passes when all is matched and no id is missing. -/
theorem pass_conclude_counted_iff (hsmall : maps.Small) (hends : maps.SearchEnds) :
    maps.counted.conclude.pass = true ↔ maps.AllMatched ∧ maps.NoGap := by
  have hpass : maps.counted.conclude.pass = true ↔
      (maps.counted.unmatchedCaptureCount = 0 ∧ maps.counted.unmatchedInjectionCount = 0 ∧
        maps.counted.payloadMismatchCount = 0 ∧ maps.counted.timestampNonMonotonicCount = 0) ∧
      maps.counted.missingEventIdCount = 0 := by
    simp [CorrelationResult.conclude, and_assoc]
  rw [hpass, counters_eq_zero_iff hsmall, missingEventIdCount_eq_zero_iff hends]
  exact and_congr_right fun h => forall_searched_iff h.mem_iff

/-- Maps of few enough records have few enough entries. -/
theorem small_ofRecords (h : records.length < 2 ^ 64) : (ofRecords records).Small := by
  obtain ⟨hcaptures, hinjections⟩ := size_ofRecords_le records
  refine ⟨?_, ?_⟩
  · rw [Std.TreeMap.length_toList]
    omega
  · rw [Std.TreeMap.length_toList]
    omega

end CorrelationMaps

/-! ### The verdict on the records -/

open CorrelationMaps (getElem?_ofRecords hasId_ofRecords)

/-- The ids of the records are consecutive when the maps have no gap. -/
theorem consecutiveIds_iff :
    ConsecutiveIds records ↔ (CorrelationMaps.ofRecords records).NoGap := by
  rw [ConsecutiveIds, CorrelationMaps.NoGap]
  simp only [hasId_ofRecords]

/-- What the maps are found to hold is that the last records correspond. -/
theorem lastRecordsCorrespond_iff :
    LastRecordsCorrespond records ↔ (CorrelationMaps.ofRecords records).AllMatched ∧
      (CorrelationMaps.ofRecords records).NoGap := by
  have hlast : (CorrelationMaps.ofRecords records).AllMatched ↔
      ∀ id, UsesId records id → ∃ c i, (recordsOf .Capture records id).getLast? = some c ∧
        (recordsOf .Injection records id).getLast? = some i ∧ Corresponds c i := by
    simp only [CorrelationMaps.AllMatched, hasId_ofRecords, (getElem?_ofRecords records _).1,
      (getElem?_ofRecords records _).2, Corresponds]
    -- What is stored under an id has that id, so the ids of the two records agree.
    constructor
    · intro h id hid
      obtain ⟨c, i, hc, hi, hrest⟩ := h id hid
      have hcid := (mem_recordsOf.mp (List.mem_of_getLast? hc)).2.2
      have hiid := (mem_recordsOf.mp (List.mem_of_getLast? hi)).2.2
      exact ⟨c, i, hc, hi, hiid.trans hcid.symm, hrest⟩
    · intro h id hid
      obtain ⟨c, i, hc, hi, -, hrest⟩ := h id hid
      exact ⟨c, i, hc, hi, hrest⟩
  rw [hlast, ← consecutiveIds_iff]
  constructor
  · rintro ⟨h, hconsecutive⟩
    exact ⟨h, hconsecutive⟩
  · rintro ⟨h, hconsecutive⟩
    exact ⟨h, hconsecutive⟩

/-! ### All the records and the last ones -/

/-- A list of at most one element has its last element only. -/
theorem recordsOf_eq_singleton (hlength : (recordsOf type records id).length ≤ 1)
    (hlast : (recordsOf type records id).getLast? = some rec) :
    recordsOf type records id = [rec] := by
  obtain ⟨before, hbefore⟩ := List.getLast?_eq_some_iff.mp hlast
  rw [hbefore, List.length_append, List.length_singleton] at hlength
  obtain rfl := List.eq_nil_of_length_eq_zero (by omega : before.length = 0)
  exact hbefore

/-- A capture uses its id. -/
theorem usesId_of_capture (h : rec ∈ records) (htype : rec.type = .Capture) :
    UsesId records rec.eventId :=
  .inl (List.ne_nil_of_mem (mem_recordsOf.mpr ⟨h, htype, rfl⟩))

/-- An injection uses its id. -/
theorem usesId_of_injection (h : rec ∈ records) (htype : rec.type = .Injection) :
    UsesId records rec.eventId :=
  .inr (List.ne_nil_of_mem (mem_recordsOf.mpr ⟨h, htype, rfl⟩))

/-- In real evidence each identifier in use has one capture and one injection. -/
theorem RealEvidence.recordsOf_eq (h : RealEvidence records) (hid : UsesId records id) :
    ∃ c i, recordsOf .Capture records id = [c] ∧ recordsOf .Injection records id = [i] ∧
      Corresponds c i := by
  -- The injection of a capture has one capture, and that is the one there was.
  have hcapture (c : PhysicalEvidenceRecord) (hc : c ∈ recordsOf .Capture records id) :
      ∃ c i, recordsOf .Capture records id = [c] ∧ recordsOf .Injection records id = [i] ∧
        Corresponds c i := by
    obtain ⟨hmem, htype, rfl⟩ := mem_recordsOf.mp hc
    obtain ⟨i, hi, hcorresponds⟩ := h.captures c hmem htype
    obtain ⟨himem, hitype, hiid⟩ := mem_recordsOf.mp (hi ▸ List.mem_singleton_self i)
    obtain ⟨c', hc', -⟩ := h.injections i himem hitype
    rw [hiid] at hc'
    rw [hc', List.mem_singleton] at hc
    exact ⟨c, i, hc ▸ hc', hi, hcorresponds⟩
  -- An id is used by a capture, or by an injection, which has its capture.
  rcases hid with hid | hid
  · obtain ⟨c, hc⟩ := List.exists_mem_of_ne_nil _ hid
    exact hcapture c hc
  · obtain ⟨i, hi⟩ := List.exists_mem_of_ne_nil _ hid
    obtain ⟨himem, hitype, rfl⟩ := mem_recordsOf.mp hi
    obtain ⟨c, hc, -⟩ := h.injections i himem hitype
    exact hcapture c (hc ▸ List.mem_singleton_self c)

/-- Real evidence has no id twice. -/
theorem RealEvidence.uniqueIds (h : RealEvidence records) : UniqueIds records := by
  intro id
  by_cases hid : UsesId records id
  · obtain ⟨c, i, hc, hi, -⟩ := h.recordsOf_eq hid
    simp [hc, hi]
  · rw [UsesId, not_or, not_not, not_not] at hid
    simp [hid]

/-- In real evidence the last records of an id correspond. -/
theorem RealEvidence.lastRecordsCorrespond (h : RealEvidence records) :
    LastRecordsCorrespond records := by
  refine ⟨?_, h.consecutive⟩
  intro id hid
  obtain ⟨c, i, hc, hi, hcorresponds⟩ := h.recordsOf_eq hid
  exact ⟨c, i, by simp [hc], by simp [hi], hcorresponds⟩

/-- When no id is there twice, that the last records correspond is real evidence. -/
theorem LastRecordsCorrespond.realEvidence (h : LastRecordsCorrespond records)
    (hunique : UniqueIds records) : RealEvidence records := by
  -- With one record of each type an id's last records are all it has.
  have hboth (id : UInt64) (hid : UsesId records id) : ∃ c i,
      recordsOf .Capture records id = [c] ∧ recordsOf .Injection records id = [i] ∧
        Corresponds c i := by
    obtain ⟨c, i, hc, hi, hcorresponds⟩ := h.last id hid
    exact ⟨c, i, recordsOf_eq_singleton (hunique id).1 hc,
      recordsOf_eq_singleton (hunique id).2 hi, hcorresponds⟩
  refine ⟨?_, ?_, h.consecutive⟩
  · -- The record is the one capture of its id.
    intro c hc htype
    obtain ⟨c', i, hc', hi, hcorresponds⟩ := hboth c.eventId (usesId_of_capture hc htype)
    have hsame : c ∈ recordsOf .Capture records c.eventId := mem_recordsOf.mpr ⟨hc, htype, rfl⟩
    rw [hc', List.mem_singleton] at hsame
    exact ⟨i, hi, hsame ▸ hcorresponds⟩
  · intro i hi htype
    obtain ⟨c, i', hc, hi', hcorresponds⟩ := hboth i.eventId (usesId_of_injection hi htype)
    have hsame : i ∈ recordsOf .Injection records i.eventId := mem_recordsOf.mpr ⟨hi, htype, rfl⟩
    rw [hi', List.mem_singleton] at hsame
    exact ⟨c, hc, hsame ▸ hcorresponds⟩

/-- The injections that correspond to a capture have its id. -/
theorem filter_injections (c : PhysicalEvidenceRecord) :
    (records.filter fun rec => rec.type = .Injection ∧ Corresponds c rec) =
      (recordsOf .Injection records c.eventId).filter fun rec => Corresponds c rec := by
  rw [recordsOf, List.filter_filter]
  refine List.filter_congr ?_
  intro rec _
  simp only [Corresponds, Bool.decide_and]
  by_cases hid : rec.eventId = c.eventId
  · simp [hid, Bool.and_comm]
  · simp [hid]

/-- The captures that correspond to an injection have its id. -/
theorem filter_captures (i : PhysicalEvidenceRecord) :
    (records.filter fun rec => rec.type = .Capture ∧ Corresponds rec i) =
      (recordsOf .Capture records i.eventId).filter fun rec => Corresponds rec i := by
  rw [recordsOf, List.filter_filter]
  refine List.filter_congr ?_
  intro rec _
  simp only [Corresponds, Bool.decide_and]
  by_cases hid : rec.eventId = i.eventId
  · simp [hid, Bool.and_comm]
  · simp [hid, Ne.symm hid]

/-- In a list of at most one element, one is found exactly when it is the list. -/
theorem filter_eq_singleton_iff {α : Type} {l : List α} (hl : l.length ≤ 1) (p : α → Bool) (x : α) :
    l.filter p = [x] ↔ l = [x] ∧ p x = true := by
  match l with
  | [] => simp
  | [y] =>
    simp only [List.filter_cons, List.filter_nil, List.cons.injEq, and_true]
    split
    · simp only [List.cons.injEq, and_true]
      constructor
      · rintro rfl
        exact ⟨rfl, ‹_›⟩
      · exact fun h => h.1
    · refine iff_of_false (by simp) ?_
      rintro ⟨rfl, hp⟩
      exact absurd hp ‹_›

/-- Without a repeated identifier the two readings are the same. -/
theorem oneToOneEvidence_iff (hunique : UniqueIds records) :
    OneToOneEvidence records ↔ RealEvidence records := by
  -- Among records of one id each, to correspond to one is to have its id and to fit it.
  have hinjections (c i : PhysicalEvidenceRecord) :
      (records.filter fun rec => rec.type = .Injection ∧ Corresponds c rec) = [i] ↔
        recordsOf .Injection records c.eventId = [i] ∧ Corresponds c i := by
    rw [filter_injections, filter_eq_singleton_iff (hunique _).2, decide_eq_true_eq]
  have hcaptures (c i : PhysicalEvidenceRecord) :
      (records.filter fun rec => rec.type = .Capture ∧ Corresponds rec i) = [c] ↔
        recordsOf .Capture records i.eventId = [c] ∧ Corresponds c i := by
    rw [filter_captures, filter_eq_singleton_iff (hunique _).1, decide_eq_true_eq]
  constructor
  · intro h
    refine ⟨?_, ?_, h.consecutive⟩
    · simpa only [hinjections] using h.captures
    · simpa only [hcaptures] using h.injections
  · intro h
    refine ⟨?_, ?_, h.consecutive⟩
    · simpa only [hinjections] using h.captures
    · simpa only [hcaptures] using h.injections

/-! ### The calls of `verifyCorrelation` -/

namespace E2EEvidenceCollector

variable {collector : E2EEvidenceCollector} {result : CorrelationResult}

/-- The verification gives a result when the search ends, and which. -/
theorem verifyCorrelation_eq_some_iff :
    (∃ fuel, collector.verifyCorrelation fuel = some result) ↔
      (CorrelationMaps.ofRecords collector.records).SearchEnds ∧
        (CorrelationMaps.ofRecords collector.records).counted.conclude = result := by
  simp only [verifyCorrelation, Option.map_eq_some_iff]
  rw [exists_comm]
  simp only [exists_and_right, CorrelationMaps.findMissing_eq_some_iff]
  constructor
  · rintro ⟨counted, ⟨hends, rfl⟩, rfl⟩
    exact ⟨hends, rfl⟩
  · rintro ⟨hends, rfl⟩
    exact ⟨_, ⟨hends, rfl⟩, rfl⟩

/-- A map has no keys when there are no records of its type. -/
theorem keys_eq_nil_iff {map : TreeMap UInt64 PhysicalEvidenceRecord} {type : EvidenceType}
    (hmap : ∀ id, map[id]? = (recordsOf type records id).getLast?) :
    map.keys = [] ↔ ∀ rec ∈ records, rec.type ≠ type := by
  have hmem (id : UInt64) : id ∉ map.keys ↔ recordsOf type records id = [] := by
    rw [Std.TreeMap.mem_keys, Std.TreeMap.mem_iff_isSome_getElem?, hmap, Bool.not_eq_true,
      Option.isSome_eq_false_iff, Option.isNone_iff_eq_none, List.getLast?_eq_none_iff]
  simp only [List.eq_nil_iff_forall_not_mem, hmem]
  constructor
  · intro h rec hrec htype
    have hmember : rec ∈ recordsOf type records rec.eventId := mem_recordsOf.mpr ⟨hrec, htype, rfl⟩
    exact h rec.eventId rec hmember
  · intro h id rec hrec
    obtain ⟨hrec, htype, -⟩ := mem_recordsOf.mp hrec
    exact h rec hrec htype

/-- The search ends when there are no captures, or no injections, or none of them has the greatest
identifier. -/
theorem searchEnds_ofRecords_iff :
    (CorrelationMaps.ofRecords records).SearchEnds ↔
      (∀ rec ∈ records, rec.type ≠ .Capture) ∨ (∀ rec ∈ records, rec.type ≠ .Injection) ∨
        ∀ rec ∈ records, rec.type = .Capture ∨ rec.type = .Injection →
          rec.eventId.toNat ≠ 2 ^ 64 - 1 := by
  rw [CorrelationMaps.searchEnds_iff, keys_eq_nil_iff fun id => (getElem?_ofRecords records id).1,
    keys_eq_nil_iff fun id => (getElem?_ofRecords records id).2]
  refine or_congr_right (or_congr_right ?_)
  simp only [hasId_ofRecords]
  constructor
  · -- The ids of the maps are those of the captures and of the injections.
    rintro h rec hrec (htype | htype)
    · exact h _ (usesId_of_capture hrec htype)
    · exact h _ (usesId_of_injection hrec htype)
  · rintro h id (hid | hid)
    · obtain ⟨rec, hrec⟩ := List.exists_mem_of_ne_nil _ hid
      obtain ⟨hmem, htype, rfl⟩ := mem_recordsOf.mp hrec
      exact h rec hmem (.inl htype)
    · obtain ⟨rec, hrec⟩ := List.exists_mem_of_ne_nil _ hid
      obtain ⟨hmem, htype, rfl⟩ := mem_recordsOf.mp hrec
      exact h rec hmem (.inr htype)

/-- It returns when there are no captures, or no injections, or none of these records has the
greatest identifier, and only then. -/
theorem returns_iff (collector : E2EEvidenceCollector) :
    (∃ fuel result, collector.verifyCorrelation fuel = some result) ↔
      (∀ rec ∈ collector.records, rec.type ≠ .Capture) ∨
        (∀ rec ∈ collector.records, rec.type ≠ .Injection) ∨
          ∀ rec ∈ collector.records, rec.type = .Capture ∨ rec.type = .Injection →
            rec.eventId.toNat ≠ 2 ^ 64 - 1 := by
  rw [exists_comm, ← searchEnds_ofRecords_iff]
  simp [verifyCorrelation_eq_some_iff]

/-- A capture and an injection, both with the greatest identifier. -/
theorem does_not_return_at_the_greatest_id :
    ¬ ∃ fuel result, E2EEvidenceCollector.verifyCorrelation
      { records :=
          [{ type := .Capture, evidenceSource := StdString.lit "physical", timestampUs := 1000
             eventId := 18446744073709551615, payload := StdString.lit "key" },
            { type := .Injection, evidenceSource := StdString.lit "physical", timestampUs := 1100
              eventId := 18446744073709551615, payload := StdString.lit "key" }]
        length_lt := by decide } fuel = some result := by
  rintro ⟨fuel, result, hresult⟩
  have hends := (verifyCorrelation_eq_some_iff.mp ⟨fuel, hresult⟩).1
  exact absurd (searchEnds_ofRecords_iff.mp hends) (by decide)

/-- When it returns, it passes the lists whose last records correspond. -/
theorem pass_iff_lastRecordsCorrespond {fuel : Nat}
    (h : collector.verifyCorrelation fuel = some result) :
    result.pass = true ↔ LastRecordsCorrespond collector.records := by
  obtain ⟨hends, rfl⟩ := verifyCorrelation_eq_some_iff.mp ⟨fuel, h⟩
  rw [lastRecordsCorrespond_iff]
  exact CorrelationMaps.pass_conclude_counted_iff
    (CorrelationMaps.small_ofRecords collector.length_lt) hends

/-- A result that does not pass names its reason. -/
theorem failureReason_ne_nil {fuel : Nat} (h : collector.verifyCorrelation fuel = some result)
    (hpass : result.pass = false) : result.failureReason ≠ [] := by
  obtain ⟨-, rfl⟩ := verifyCorrelation_eq_some_iff.mp ⟨fuel, h⟩
  generalize (CorrelationMaps.ofRecords collector.records).counted = counted at hpass ⊢
  simp only [CorrelationResult.conclude, decide_eq_false_iff_not] at hpass
  simp only [CorrelationResult.conclude, hpass, decide_false, Bool.false_eq_true, if_false]
  -- One of the counters is not zero, so one of the four texts is chosen.
  split
  · decide
  · split
    · decide
    · split
      · decide
      · split
        · decide
        · simp_all [UInt64.pos_iff_ne_zero]

/-- Take a call that returns. Then it passes the real evidence and nothing else if no identifier is
repeated or the last records do not correspond, and only then. Without a repeated identifier it does
so for both readings. -/
theorem pass_iff_realEvidence_iff (collector : E2EEvidenceCollector) {fuel : Nat}
    {result : CorrelationResult} (h : collector.verifyCorrelation fuel = some result) :
    ((result.pass = true ↔ RealEvidence collector.records) ↔
        UniqueIds collector.records ∨ ¬ LastRecordsCorrespond collector.records) ∧
      (UniqueIds collector.records →
        (result.pass = true ↔ OneToOneEvidence collector.records)) := by
  rw [pass_iff_lastRecordsCorrespond h]
  have hunique (hu : UniqueIds collector.records) :
      LastRecordsCorrespond collector.records ↔ RealEvidence collector.records :=
    ⟨fun hlast => hlast.realEvidence hu, fun hreal => hreal.lastRecordsCorrespond⟩
  refine ⟨?_, ?_⟩
  · constructor
    · -- Where the last records correspond and yet no real evidence is there, ids are repeated.
      intro hiff
      by_cases hlast : LastRecordsCorrespond collector.records
      · exact .inl (hiff.mp hlast).uniqueIds
      · exact .inr hlast
    · rintro (hu | hlast)
      · exact hunique hu
      · refine iff_of_false hlast ?_
        intro hreal
        exact hlast hreal.lastRecordsCorrespond
  · intro hu
    rw [oneToOneEvidence_iff hu]
    exact hunique hu

/-- A capture and the injection that corresponds to it. -/
theorem pass_iff_realEvidence_iff_one_pair :
    let capture : PhysicalEvidenceRecord :=
      { type := .Capture, evidenceSource := StdString.lit "physical", timestampUs := 1000
        eventId := 1, payload := StdString.lit "key" }
    let injection : PhysicalEvidenceRecord :=
      { capture with type := .Injection, timestampUs := 1100 }
    ((true = true ↔ RealEvidence [capture, injection]) ↔
        UniqueIds [capture, injection] ∨ ¬ LastRecordsCorrespond [capture, injection]) ∧
      (UniqueIds [capture, injection] →
        (true = true ↔ OneToOneEvidence [capture, injection])) := by
  intro capture injection
  let collector : E2EEvidenceCollector :=
    { records := [capture, injection], length_lt := by decide }
  have hpasses : collector.verifyCorrelation 2 = some { pass := true, matchedCount := 1 } := by
    decide
  exact pass_iff_realEvidence_iff collector hpasses

/-- One event is captured twice and injected once: it passes, although the injection is the evidence
for two captures. -/
theorem passes_with_a_repeated_capture :
    let capture : PhysicalEvidenceRecord :=
      { type := .Capture, evidenceSource := StdString.lit "physical", timestampUs := 1000
        eventId := 1, payload := StdString.lit "key" }
    let injection : PhysicalEvidenceRecord :=
      { capture with type := .Injection, timestampUs := 1100 }
    let collector : E2EEvidenceCollector :=
      { records := [capture, capture, injection], length_lt := by decide }
    collector.verifyCorrelation 2 = some { pass := true, matchedCount := 1 } ∧
      ¬ RealEvidence collector.records ∧ ¬ OneToOneEvidence collector.records := by
  intro capture injection collector
  refine ⟨by decide, ?_, ?_⟩
  · intro hreal
    exact absurd (hreal.uniqueIds 1).1 (by decide)
  · intro hevidence
    obtain ⟨c, hc⟩ := hevidence.injections injection (by decide) rfl
    -- The injection fits both captures, which the count of one leaves out.
    have htwo : (collector.records.filter fun rec => rec.type = .Capture ∧
        Corresponds rec injection) = [capture, capture] := by decide
    rw [htwo] at hc
    simp at hc

end E2EEvidenceCollector

end CrossFlow
