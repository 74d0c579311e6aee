import CrossFlow.Core.Discovery.DiscoveryTable
import CrossFlow.Lib.HashedMap

/-!
# `CrossFlow.Proofs.Discovery.DiscoveryTable`: discovered endpoints by their node id

The table is meant to hold the endpoints by their `NodeId`, and keeps them under a `nodeKey` of half
the size. `NodeMap` is the map by the whole id, and `DiscoveryTable.view` the one that a table
stands for.

* one lemma for each call that changes the table, on what it leaves under each key
  (`stored_upsertWithResult` to `stored_pruneStale`).
* `agrees_iff`: a call does to the table what it does to the map exactly when the record under the
  key of its node id, if there is one, is of that node id.
* `keepsApart_iff`: the runs that a map by the whole id makes as well.
-/

set_option autoImplicit false

namespace CrossFlow

open DiscoveryTable (Entry nodeKey)
open Lib.HashedMap (Collides WellKeyed)

/-! ### The map by the whole id -/

/-- The entry of each node id that has one. -/
abbrev NodeMap : Type := NodeId → Option Entry

namespace NodeMap

/-- What an announcement makes of the entry of its node id, and what is reported. -/
def merge (existing : Option Entry) (record : DiscoveryRecord) (now : Int) :
    Entry × Option ErrorCode × DiscoveryUpdateResult :=
  match existing with
  | none => ({ record, insertedAt := now, lastUpdated := now }, none, .Inserted)
  | some it =>
    if it.record.sessionEpoch.value > record.sessionEpoch.value then (it, none, .StaleIgnored)
    else if it.record.sessionEpoch.value = record.sessionEpoch.value ∧
        it.record.protocolVersion = record.protocolVersion ∧
        it.record.topologyId = record.topologyId then
      ({ it with lastUpdated := now }, none, .DuplicateIgnored)
    else if record.topologyId ≠ [] ∧ it.record.topologyId ≠ [] ∧
        it.record.topologyId ≠ record.topologyId then
      ({ it with record, lastUpdated := now }, some .TopoMultipath, .TopologyConflict)
    else ({ it with record, lastUpdated := now }, none, .Updated)

/-- No node has an entry. -/
def empty : NodeMap := fun _ => none

/-- A call on one node id changes the entry of that id alone. -/
def step (s : NodeMap) : DiscoveryCall → NodeMap
  | .upsert record now =>
    if record.nodeId.isNull then s
    else Function.update s record.nodeId (some (merge (s record.nodeId) record now).1)
  | .remove nodeId => Function.update s nodeId none
  | .find _ => s
  | .all => s
  | .clear => empty
  | .pruneStale maxAge now =>
    fun nodeId => (s nodeId).filter fun it => ¬ now - it.lastUpdated > maxAge * 1000000

/-- What a call may return. The records are listed in any order. -/
def Answers (s : NodeMap) : DiscoveryCall → DiscoveryAnswer → Prop
  | .upsert record now, a =>
    if record.nodeId.isNull then a = .updated (some .SessNodeidForge) .ConflictDetected
    else a = .updated (merge (s record.nodeId) record now).2.1
      (merge (s record.nodeId) record now).2.2
  | .remove _, a => a = .removed none
  | .find nodeId, a => a = .found ((s nodeId).map fun it => it.record)
  | .all, a => ∃ records, a = .listed records ∧
    (records.map fun record => record.nodeId).Nodup ∧
    ∀ record, record ∈ records ↔ ∃ it, s record.nodeId = some it ∧ it.record = record
  | .clear, a => a = .done
  | .pruneStale _ _, a => a = .done

end NodeMap

/-- The entry after an announcement is of the node id of the announcement or of the entry before. -/
theorem NodeMap.nodeId_merge (existing : Option Entry) (record : DiscoveryRecord) (now : Int) :
    (merge existing record now).1.record.nodeId = record.nodeId ∨
      ∃ it, existing = some it ∧
        (merge existing record now).1.record.nodeId = it.record.nodeId := by
  cases existing with
  | none => exact .inl rfl
  | some it =>
    rw [merge]
    split
    · exact .inr ⟨it, rfl, rfl⟩
    · split
      · exact .inr ⟨it, rfl, rfl⟩
      · split
        · exact .inl rfl
        · exact .inl rfl

/-- The map, in any order of the calls. -/
def nodeMapMachine : Lib.Machine NodeMap DiscoveryCall where
  init := NodeMap.empty
  step := NodeMap.step

/-! ### The table under each key -/

namespace DiscoveryTable

/-- What is stored under each key. -/
def stored (t : DiscoveryTable) : UInt64 → Option Entry := fun key => t.entries.lookup key

/-- The node id an entry is of. -/
def Entry.nodeId (it : Entry) : NodeId := it.record.nodeId

/-- The map the table stands for: the entry of each node id that is stored. -/
def view (t : DiscoveryTable) : NodeMap := Lib.HashedMap.view nodeKey Entry.nodeId t.stored

/-- The null id is refused. -/
theorem upsertWithResult_null (t : DiscoveryTable) {record : DiscoveryRecord} (now : Int)
    (hnull : record.nodeId.isNull = true) :
    t.upsertWithResult record now = (t, some .SessNodeidForge, .ConflictDetected) := by
  rw [upsertWithResult, if_pos hnull]

/-- An announcement is merged with what is stored under its key. -/
theorem stored_upsertWithResult (t : DiscoveryTable) {record : DiscoveryRecord} (now : Int)
    (hnull : record.nodeId.isNull = false) :
    let merged := NodeMap.merge (t.stored (nodeKey record.nodeId)) record now
    (t.upsertWithResult record now).1.stored =
        Function.update t.stored (nodeKey record.nodeId) (some merged.1) ∧
      (t.upsertWithResult record now).2 = merged.2 := by
  intro merged
  have hinsert : ∀ it : Entry,
      (fun key => (t.entries.insert (nodeKey record.nodeId) it).lookup key) =
      Function.update t.stored (nodeKey record.nodeId) (some it) := fun it =>
    Lib.HashedMap.lookup_insert_eq_update (nodeKey record.nodeId) it t.entries
  have hnotnull : ¬ record.nodeId.isNull = true := Bool.eq_false_iff.mp hnull
  have hmerged : merged = NodeMap.merge (t.entries.lookup (nodeKey record.nodeId)) record now := rfl
  rw [upsertWithResult, if_neg hnotnull]
  dsimp only
  cases hlookup : t.entries.lookup (nodeKey record.nodeId) with
  -- The first record of a key.
  | none =>
    rw [hlookup] at hmerged
    exact ⟨(hinsert _).trans (by rw [hmerged]; rfl), by rw [hmerged]; rfl⟩
  | some it =>
    rw [hlookup, NodeMap.merge] at hmerged
    dsimp only at hmerged ⊢
    rw [hmerged]
    split
    · -- A stale announcement leaves the entry that is stored.
      refine ⟨?_, rfl⟩
      exact (Function.update_eq_self_iff.mpr hlookup.symm).symm
    · -- A repetition, a conflict and an update all store an entry under the key.
      split
      · exact ⟨hinsert _, rfl⟩
      · split
        · exact ⟨hinsert _, rfl⟩
        · exact ⟨hinsert _, rfl⟩

/-- One key is erased. -/
theorem stored_remove (t : DiscoveryTable) (nodeId : NodeId) :
    (t.remove nodeId).1.stored = Function.update t.stored (nodeKey nodeId) none :=
  Lib.HashedMap.lookup_erase_eq_update (nodeKey nodeId) t.entries

/-- The entries that are too old are filtered out. -/
theorem stored_pruneStale (t : DiscoveryTable) (maxAge now : Int) :
    (t.pruneStale maxAge now).stored = fun key =>
      (t.stored key).filter fun it => ¬ now - it.lastUpdated > maxAge * 1000000 :=
  Lib.HashedMap.lookup_filter _ t.entries

/-! ### Records under the key of their node id -/

/-- Every record is stored under the key of its own node id. -/
def KeyedById (t : DiscoveryTable) : Prop := WellKeyed nodeKey Entry.nodeId t.stored

/-- Each call leaves the entries under the keys of their nodes. -/
theorem keyedById_step {t : DiscoveryTable} (h : t.KeyedById) (c : DiscoveryCall) :
    (t.step c).KeyedById := by
  cases c with
  | upsert record now =>
    show (t.upsertWithResult record now).1.KeyedById
    cases hnull : record.nodeId.isNull with
    | true =>
      rw [t.upsertWithResult_null now hnull]
      exact h
    | false =>
      rw [KeyedById, (t.stored_upsertWithResult now hnull).1]
      refine h.update ?_
      intro it hit
      cases hit
      -- The record that is stored is the new one or the one before, and both have the key.
      rcases NodeMap.nodeId_merge (t.stored (nodeKey record.nodeId)) record now with
        hnew | ⟨before, hbefore, hkept⟩
      · exact congrArg nodeKey hnew
      · exact (congrArg nodeKey hkept).trans (h _ before hbefore)
  | remove nodeId =>
    show (t.remove nodeId).1.KeyedById
    rw [KeyedById, t.stored_remove nodeId]
    exact h.update fun it hit => absurd hit.symm (Option.some_ne_none it)
  | find nodeId => exact h
  | all => exact h
  | clear => exact Lib.HashedMap.wellKeyed_empty
  | pruneStale maxAge now =>
    show (t.pruneStale maxAge now).KeyedById
    rw [KeyedById, t.stored_pruneStale maxAge now]
    exact h.filter

/-- In an empty table no entry is in the wrong place. -/
theorem keyedById_init : init.KeyedById := Lib.HashedMap.wellKeyed_empty

/-- The entries are always under the keys of their nodes. -/
theorem keyedById_run (calls : List DiscoveryCall) : (discoveryMachine.run calls).KeyedById :=
  Lib.Machine.Invariant.of_step (P := KeyedById) keyedById_init (fun _ c h => keyedById_step h c)
    calls

/-- What is listed is what is stored. -/
theorem mem_all_iff {t : DiscoveryTable} {record : DiscoveryRecord} :
    record ∈ t.all ↔ ∃ key it, t.stored key = some it ∧ it.record = record := by
  unfold all stored
  constructor
  · intro hmem
    obtain ⟨⟨key, it⟩, hit, hrecord⟩ := List.mem_map.mp hmem
    exact ⟨key, it, AList.mem_lookup_iff.mpr hit, hrecord⟩
  · rintro ⟨key, it, hit, hrecord⟩
    exact List.mem_map.mpr ⟨⟨key, it⟩, AList.mem_lookup_iff.mp hit, hrecord⟩

/-- No node id is listed twice. -/
theorem nodup_all {t : DiscoveryTable} (h : t.KeyedById) :
    (t.all.map fun record => record.nodeId).Nodup := by
  -- The keys are different, and they are the keys of the node ids.
  have hkeys : (t.all.map fun record => record.nodeId).map nodeKey = t.entries.keys := by
    unfold all AList.keys List.keys
    rw [List.map_map, List.map_map]
    refine List.map_congr_left ?_
    rintro ⟨key, it⟩ hit
    exact h key it (AList.mem_lookup_iff.mpr hit)
  refine List.Nodup.of_map nodeKey ?_
  rw [hkeys]
  exact t.entries.keys_nodup

/-- The records that are listed are those of the map. -/
theorem mem_all_iff_view {t : DiscoveryTable} (h : t.KeyedById) (record : DiscoveryRecord) :
    record ∈ t.all ↔ ∃ it, t.view record.nodeId = some it ∧ it.record = record := by
  rw [mem_all_iff]
  constructor
  · rintro ⟨key, it, hstored, rfl⟩
    refine ⟨it, Lib.HashedMap.view_eq_some_iff.mpr ⟨?_, rfl⟩, rfl⟩
    rw [← hstored]
    exact congrArg t.stored (h key it hstored)
  · rintro ⟨it, hview, hrecord⟩
    exact ⟨_, it, (Lib.HashedMap.view_eq_some_iff.mp hview).1, hrecord⟩

/-! ### One call -/

/-- The table does at a call what the map does. -/
def Agrees (t : DiscoveryTable) (c : DiscoveryCall) : Prop :=
  (t.step c).view = t.view.step c ∧ t.view.Answers c (t.answer c)

/-- No record of another node id is stored under the key of the node id of the call. An announcement
of the null id is refused before the table is searched. -/
def Separate (t : DiscoveryTable) : DiscoveryCall → Prop
  | .upsert record _ =>
    record.nodeId.isNull = false → ¬ Collides nodeKey Entry.nodeId t.stored record.nodeId
  | .remove nodeId => ¬ Collides nodeKey Entry.nodeId t.stored nodeId
  | .find nodeId => ¬ Collides nodeKey Entry.nodeId t.stored nodeId
  | _ => True

variable {t : DiscoveryTable}

/-- An `upsert` does what the map does when it meets no other node under its key. -/
theorem agrees_upsert_iff (h : t.KeyedById) (record : DiscoveryRecord) (now : Int) :
    t.Agrees (.upsert record now) ↔ t.Separate (.upsert record now) := by
  let merged := NodeMap.merge (t.view record.nodeId) record now
  show (t.upsertWithResult record now).1.view =
      (if record.nodeId.isNull then t.view
        else Function.update t.view record.nodeId (some merged.1)) ∧
    (if record.nodeId.isNull then
        DiscoveryAnswer.updated (t.upsertWithResult record now).2.1
          (t.upsertWithResult record now).2.2 = .updated (some .SessNodeidForge) .ConflictDetected
      else DiscoveryAnswer.updated (t.upsertWithResult record now).2.1
        (t.upsertWithResult record now).2.2 = .updated merged.2.1 merged.2.2) ↔ _
  cases hnull : record.nodeId.isNull with
  | true =>
    rw [t.upsertWithResult_null now hnull, if_pos rfl, if_pos rfl]
    refine iff_of_true ⟨rfl, rfl⟩ ?_
    intro hnotnull
    exact absurd (hnull.symm.trans hnotnull) Bool.false_ne_true.symm
  | false =>
    obtain ⟨hstored, hanswer⟩ := t.stored_upsertWithResult now hnull
    rw [if_neg Bool.false_ne_true, if_neg Bool.false_ne_true, view, hstored, hanswer]
    constructor
    · rintro ⟨hview, -⟩ _ hcollides
      -- The map has an entry of the node id after the call.
      have hnone := (Lib.HashedMap.eq_of_view_update_of_collides h hcollides hview).2
      exact Option.some_ne_none _ hnone
    · intro hseparate
      have hfree := hseparate hnull
      have hlookup : t.stored (nodeKey record.nodeId) = t.view record.nodeId :=
        Lib.HashedMap.lookup_eq_view_iff.mpr hfree
      rw [hlookup]
      refine ⟨Lib.HashedMap.view_update hfree ?_, rfl⟩
      intro it hit
      cases hit
      rcases NodeMap.nodeId_merge (t.view record.nodeId) record now with
        hnew | ⟨before, hbefore, hkept⟩
      · exact hnew
      · exact hkept.trans (Lib.HashedMap.view_eq_some_iff.mp hbefore).2

/-- A `remove` does what the map does when it meets no other node under its key. -/
theorem agrees_remove_iff (h : t.KeyedById) (nodeId : NodeId) :
    t.Agrees (.remove nodeId) ↔ t.Separate (.remove nodeId) := by
  show (t.remove nodeId).1.view = Function.update t.view nodeId none ∧ _ ↔ _
  rw [view, t.stored_remove nodeId]
  constructor
  · rintro ⟨hview, -⟩ hcollides
    -- What is stored there would be nothing.
    have hnone := (Lib.HashedMap.eq_of_view_update_of_collides h hcollides hview).1
    obtain ⟨it, hit, -⟩ := hcollides
    exact Option.some_ne_none it (hit.symm.trans hnone.symm)
  · intro hfree
    exact ⟨Lib.HashedMap.view_update hfree fun it hit => absurd hit.symm (Option.some_ne_none it),
      rfl⟩

/-- A `find` answers as the map does when it meets no other node under its key. -/
theorem agrees_find_iff (nodeId : NodeId) :
    t.Agrees (.find nodeId) ↔ t.Separate (.find nodeId) := by
  constructor
  · rintro ⟨-, hanswer⟩ ⟨it, hit, hne⟩
    have hfound : (t.stored (nodeKey nodeId)).map (fun it => it.record) =
        (t.view nodeId).map fun it => it.record := DiscoveryAnswer.found.inj hanswer
    rw [hit, eq_comm, Option.map_some, Option.map_eq_some_iff] at hfound
    obtain ⟨it', hview, hrecord⟩ := hfound
    refine hne ?_
    rw [Entry.nodeId, ← hrecord]
    exact (Lib.HashedMap.view_eq_some_iff.mp hview).2
  · intro hfree
    refine ⟨rfl, congrArg DiscoveryAnswer.found ?_⟩
    exact congrArg (Option.map fun it => it.record) (Lib.HashedMap.lookup_eq_view_iff.mpr hfree)

/-- A call does what the map does when it meets no other node under its key. -/
theorem agrees_iff (h : t.KeyedById) (c : DiscoveryCall) : t.Agrees c ↔ t.Separate c := by
  cases c with
  | upsert record now => exact agrees_upsert_iff h record now
  | remove nodeId => exact agrees_remove_iff h nodeId
  | find nodeId => exact agrees_find_iff nodeId
  | all =>
    refine iff_of_true ⟨rfl, t.all, rfl, nodup_all h, ?_⟩ trivial
    exact mem_all_iff_view h
  | clear => exact iff_of_true ⟨rfl, rfl⟩ trivial
  | pruneStale maxAge now =>
    refine iff_of_true ⟨?_, rfl⟩ trivial
    show (t.pruneStale maxAge now).view = _
    rw [view, t.stored_pruneStale maxAge now]
    exact Lib.HashedMap.view_filter _

end DiscoveryTable

/-! ### Runs -/

open DiscoveryTable

/-- The node id a call is about, where it is about one. -/
def DiscoveryCall.nodeId : DiscoveryCall → Option NodeId
  | .upsert record _ => some record.nodeId
  | .remove nodeId => some nodeId
  | .find nodeId => some nodeId
  | _ => none

/-- The call `c` after the calls `pre` is one of a map by the whole node id. -/
structure KeepsApart (pre : List DiscoveryCall) (c : DiscoveryCall) : Prop where
  /-- The table stands for the map after the same calls. -/
  refines : (discoveryMachine.run (pre ++ [c])).view = nodeMapMachine.run (pre ++ [c])
  /-- The call returns what it returns of the map. -/
  answers : (nodeMapMachine.run pre).Answers c ((discoveryMachine.run pre).answer c)
  /-- A search finds a record of the node id it is for. -/
  find_own : ∀ nodeId record, c = .find nodeId →
    (discoveryMachine.run pre).find nodeId = some record → record.nodeId = nodeId
  /-- A call about one node id leaves the record of every other one, and its times, alone. -/
  others : ∀ about, c.nodeId = some about → ∀ other, other ≠ about →
    (discoveryMachine.run (pre ++ [c])).view other = (discoveryMachine.run pre).view other
  /-- Every node id that has a record is listed once. -/
  all_once : (nodeMapMachine.run (pre ++ [c])).Answers .all
    (.listed (discoveryMachine.run (pre ++ [c])).all)

/-- A call about one node id changes the entry of that node id alone. -/
theorem NodeMap.step_of_ne (s : NodeMap) {c : DiscoveryCall} {about other : NodeId}
    (hc : c.nodeId = some about) (hne : other ≠ about) : s.step c other = s other := by
  cases c with
  | upsert record now =>
    cases hc
    rw [step]
    split
    · rfl
    · rw [Function.update_of_ne hne]
  | remove nodeId =>
    cases hc
    exact Function.update_of_ne hne none s
  | find nodeId => rfl
  | all => rfl
  | clear => exact absurd hc.symm (Option.some_ne_none about)
  | pruneStale maxAge now => exact absurd hc.symm (Option.some_ne_none about)

/-- As long as the calls agree the table is the map. -/
theorem view_run_of_agrees {calls : List DiscoveryCall}
    (h : discoveryMachine.Meets Agrees discoveryMachine.init calls) :
    (discoveryMachine.run calls).view = nodeMapMachine.run calls := by
  refine Lib.Machine.view_runFrom_of_meets ?_
  rw [Lib.Machine.meets_iff_forall] at h ⊢
  exact fun pre c hpre => (h pre c hpre).1

/-- The calls of a run are the ones of a map by the whole node id exactly when each that is about a
node id is made while no record of another one is stored under its key. -/
theorem keepsApart_iff (calls : List DiscoveryCall) :
    discoveryMachine.Meets Separate discoveryMachine.init calls ↔
      ∀ pre c, pre ++ [c] <+: calls → KeepsApart pre c := by
  have hagrees : discoveryMachine.Meets Separate discoveryMachine.init calls ↔
      discoveryMachine.Meets Agrees discoveryMachine.init calls := by
    rw [Lib.Machine.meets_iff_forall, Lib.Machine.meets_iff_forall]
    refine forall_congr' fun pre => forall_congr' fun c => imp_congr_right fun _ => ?_
    exact (agrees_iff (keyedById_run pre) c).symm
  rw [hagrees]
  constructor
  · intro h pre c hpre
    have hcall := Lib.Machine.meets_iff_forall.mp h pre c hpre
    obtain ⟨rest, rfl⟩ := hpre
    have hafter := (Lib.Machine.meets_append.mp h).1
    have hbefore := (Lib.Machine.meets_append.mp hafter).1
    have hview := view_run_of_agrees hbefore
    constructor
    · exact view_run_of_agrees hafter
    · rw [← hview]
      exact hcall.2
    · rintro nodeId record rfl hfound
      have hfree := (agrees_find_iff nodeId).mp hcall
      obtain ⟨it, hstored, rfl⟩ := Option.map_eq_some_iff.mp hfound
      by_contra hne
      exact hfree ⟨it, hstored, hne⟩
    · intro about hc other hne
      rw [Lib.Machine.run_append_singleton]
      have hstep : (discoveryMachine.step (discoveryMachine.run pre) c).view =
          (discoveryMachine.run pre).view.step c := hcall.1
      rw [hstep]
      exact NodeMap.step_of_ne _ hc hne
    · rw [← view_run_of_agrees hafter]
      exact ⟨_, rfl, nodup_all (keyedById_run _), mem_all_iff_view (keyedById_run _)⟩
  · intro h
    rw [Lib.Machine.meets_iff_forall]
    intro pre c hpre
    -- The table stands for the map before the call, too.
    have hbefore : (discoveryMachine.run pre).view = nodeMapMachine.run pre := by
      rcases List.eq_nil_or_concat' pre with rfl | ⟨pre', c', rfl⟩
      · rfl
      · exact (h pre' c' ((List.prefix_append _ _).trans hpre)).refines
    have hcall := h pre c hpre
    have hafter := hcall.refines
    rw [Lib.Machine.run_append_singleton, Lib.Machine.run_append_singleton, ← hbefore] at hafter
    refine ⟨hafter, ?_⟩
    show (discoveryMachine.run pre).view.Answers c ((discoveryMachine.run pre).answer c)
    rw [hbefore]
    exact hcall.answers

/-- Two node ids with one key: a search for the second finds the record of the first. -/
theorem find_other_node :
    ¬ ∀ calls pre c, pre ++ [c] <+: calls → KeepsApart pre c := by
  intro hclaim
  let record : DiscoveryRecord :=
    { nodeId := { high := 0x9E3779B97F4A7C15, low := 0 }
      platform := .Mac
      capabilitiesFingerprint := []
      sessionEpoch := { value := 1 }
      protocolVersion := 1
      topologyId := []
      endpointAddresses := []
      lastSeenAt := 0 }
  let other : NodeId := { high := 0, low := 1 }
  have hkept := hclaim [.upsert record 0, .find other] [.upsert record 0] (.find other)
    (List.prefix_refl _)
  exact absurd (hkept.find_own other record rfl (by decide)) (by decide)

end CrossFlow
