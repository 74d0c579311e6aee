import CrossFlow.Lib.Latest
import CrossFlow.Proofs.Discovery.DiscoveryTable

/-!
# `CrossFlow.Proofs.Discovery.Announcements`: announcements of one node id

The record of a node id is a register that keeps the announcement with the greatest epoch
(`find_upsertWithResult`), so the order of delivery does not matter. An announcement of another
topology is answered with an error and stored. One that repeats the epoch, the version and the
topology is a duplicate, and its addresses are not stored.

* `announcement_order`: any order of announcements with different epochs.
* `rejected_unchanged_iff`: when an announcement that is answered with an error changes nothing.
* `reachability_current_iff`: the runs in which the addresses are those last announced.
-/

set_option autoImplicit false

namespace CrossFlow

open DiscoveryTable (Entry nodeKey)
open Lib (Machine)
open Lib.Latest (KeepsLater IsLatest store)

namespace DiscoveryRecord

/-- The announcement is older than the record. -/
def Stale (existing record : DiscoveryRecord) : Prop :=
  existing.sessionEpoch.value > record.sessionEpoch.value

/-- The announcement has the epoch, the version and the topology of the record. -/
def Repeats (existing record : DiscoveryRecord) : Prop :=
  existing.sessionEpoch.value = record.sessionEpoch.value ∧
    existing.protocolVersion = record.protocolVersion ∧ existing.topologyId = record.topologyId

/-- The announcement and the record name different topologies. -/
def Foreign (existing record : DiscoveryRecord) : Prop :=
  record.topologyId ≠ [] ∧ existing.topologyId ≠ [] ∧ existing.topologyId ≠ record.topologyId

/-- Whether a record is stale can be looked up. -/
instance (existing record : DiscoveryRecord) : Decidable (Stale existing record) :=
  inferInstanceAs (Decidable (_ > _))

/-- Whether a record repeats the other one can be looked up. -/
instance (existing record : DiscoveryRecord) : Decidable (Repeats existing record) :=
  inferInstanceAs (Decidable (_ ∧ _))

/-- Whether a record is of another topology can be looked up. -/
instance (existing record : DiscoveryRecord) : Decidable (Foreign existing record) :=
  inferInstanceAs (Decidable (_ ∧ _))

/-- What is stored of a record and an announcement. -/
def keep (existing record : DiscoveryRecord) : DiscoveryRecord :=
  if Stale existing record ∨ Repeats existing record then existing else record

/-- The epoch as a number. -/
def epoch (record : DiscoveryRecord) : Nat := record.sessionEpoch.value.toNat

/-- A record is stale when its epoch is the earlier one. -/
theorem stale_iff (existing record : DiscoveryRecord) :
    Stale existing record ↔ record.epoch < existing.epoch := UInt64.lt_iff_toNat_lt

/-- Of two records, the one with the greater epoch is kept. -/
theorem keepsLater : KeepsLater epoch keep where
  old h := if_pos (.inl ((stale_iff _ _).mpr h))
  new {existing record} h := by
    refine if_neg ?_
    rintro (hstale | ⟨hepoch, -⟩)
    · exact Nat.lt_asymm h ((stale_iff _ _).mp hstale)
    · exact Nat.ne_of_lt h (congrArg UInt64.toNat hepoch)
  same {existing record} _ := by
    rw [keep]
    split
    · exact .inl rfl
    · exact .inr rfl

end DiscoveryRecord

open DiscoveryRecord (Stale Repeats Foreign keep epoch)

/-! ### One announcement -/

namespace DiscoveryTable

/-- A node is found as its key is stored. -/
theorem find_eq_stored (t : DiscoveryTable) (nodeId : NodeId) :
    t.find nodeId = (t.stored (nodeKey nodeId)).map fun it => it.record := rfl

/-- The branches of `upsertWithResult` at a record that is there. -/
theorem merge_some (it : Entry) (record : DiscoveryRecord) (now : Int) :
    (NodeMap.merge (some it) record now).1.record = keep it.record record ∧
      (NodeMap.merge (some it) record now).2 =
        if Stale it.record record then (none, .StaleIgnored)
        else if Repeats it.record record then (none, .DuplicateIgnored)
        else if Foreign it.record record then (some .TopoMultipath, .TopologyConflict)
        else (none, .Updated) := by
  have hmerge : NodeMap.merge (some it) record now =
      if Stale it.record record then (it, none, .StaleIgnored)
      else if Repeats it.record record then ({ it with lastUpdated := now }, none, .DuplicateIgnored)
      else if Foreign it.record record then
        ({ it with record, lastUpdated := now }, some .TopoMultipath, .TopologyConflict)
      else ({ it with record, lastUpdated := now }, none, .Updated) := rfl
  rw [hmerge, keep]
  -- A record that is stale or a repetition is not stored, and any other is.
  by_cases hstale : Stale it.record record
  · simp only [hstale, true_or, if_true, and_self]
  · by_cases hrepeats : Repeats it.record record
    · simp only [hstale, hrepeats, or_true, if_true, if_false, and_self]
    · simp only [hstale, hrepeats, or_self, if_false]
      split
      · exact ⟨rfl, rfl⟩
      · exact ⟨rfl, rfl⟩

/-- An announcement is offered to the record under the key of its node id. -/
theorem find_upsertWithResult (t : DiscoveryTable) {record : DiscoveryRecord} (now : Int)
    (hnull : record.nodeId.isNull = false) :
    (t.upsertWithResult record now).1.find record.nodeId =
      store keep (t.find record.nodeId) record := by
  have hstored := (t.stored_upsertWithResult now hnull).1
  rw [find_eq_stored, hstored, Function.update_self, find_eq_stored]
  cases t.stored (nodeKey record.nodeId) with
  | none => rfl
  | some it => exact congrArg some (merge_some it record now).1

/-- What is reported of it. -/
theorem upsertWithResult_snd (t : DiscoveryTable) {record : DiscoveryRecord} (now : Int)
    (hnull : record.nodeId.isNull = false) :
    (t.upsertWithResult record now).2 =
      match t.find record.nodeId with
      | none => (none, .Inserted)
      | some existing =>
        if Stale existing record then (none, .StaleIgnored)
        else if Repeats existing record then (none, .DuplicateIgnored)
        else if Foreign existing record then (some .TopoMultipath, .TopologyConflict)
        else (none, .Updated) := by
  rw [(t.stored_upsertWithResult now hnull).2, find_eq_stored]
  cases t.stored (nodeKey record.nodeId) with
  | none => rfl
  | some it => exact (merge_some it record now).2

/-- What becomes of an announcement at a record that is there. -/
theorem upsert_cases (t : DiscoveryTable) {existing record : DiscoveryRecord} (now : Int)
    (hnull : record.nodeId.isNull = false) (hfind : t.find record.nodeId = some existing) :
    Stale existing record ∧ keep existing record = existing ∧
        (t.upsertWithResult record now).2 = (none, .StaleIgnored) ∨
      (¬ Stale existing record ∧ Repeats existing record) ∧ keep existing record = existing ∧
        (t.upsertWithResult record now).2 = (none, .DuplicateIgnored) ∨
      (¬ Stale existing record ∧ Foreign existing record) ∧ keep existing record = record ∧
        (t.upsertWithResult record now).2 = (some .TopoMultipath, .TopologyConflict) ∨
      (¬ Stale existing record ∧ ¬ Repeats existing record ∧ ¬ Foreign existing record) ∧
        keep existing record = record ∧
        (t.upsertWithResult record now).2 = (none, .Updated) := by
  have hresult := t.upsertWithResult_snd now hnull
  rw [hfind] at hresult
  dsimp only at hresult
  -- The code asks in this order: is the record stale, a repetition, of another topology.
  by_cases hstale : Stale existing record
  · rw [if_pos hstale] at hresult
    exact .inl ⟨hstale, if_pos (.inl hstale), hresult⟩
  rw [if_neg hstale] at hresult
  by_cases hrepeats : Repeats existing record
  · rw [if_pos hrepeats] at hresult
    exact .inr (.inl ⟨⟨hstale, hrepeats⟩, if_pos (.inr hrepeats), hresult⟩)
  rw [if_neg hrepeats] at hresult
  have hkeep : keep existing record = record := if_neg (not_or.mpr ⟨hstale, hrepeats⟩)
  by_cases hforeign : Foreign existing record
  · rw [if_pos hforeign] at hresult
    exact .inr (.inr (.inl ⟨⟨hstale, hforeign⟩, hkeep, hresult⟩))
  · rw [if_neg hforeign] at hresult
    exact .inr (.inr (.inr ⟨⟨hstale, hrepeats, hforeign⟩, hkeep, hresult⟩))

end DiscoveryTable

/-! ### The order of announcements -/

/-- An announcement of the node id, with the reading of the clock when it is stored. -/
structure AnnouncementOf (nodeId : NodeId) where
  record : DiscoveryRecord
  now : Int
  ofNode : record.nodeId = nodeId

namespace AnnouncementOf

variable {nodeId : NodeId}

/-- The call that an announcement makes. -/
def upsert (a : AnnouncementOf nodeId) : DiscoveryCall := .upsert a.record a.now

/-- The table after the announcements, in their order. -/
def deliver (t : DiscoveryTable) (announcements : List (AnnouncementOf nodeId)) : DiscoveryTable :=
  discoveryMachine.runFrom t (announcements.map upsert)

/-- What is found after some announcements is what is kept of them, one after the other. -/
theorem find_deliver (hnull : nodeId.isNull = false) (t : DiscoveryTable)
    (announcements : List (AnnouncementOf nodeId)) :
    (deliver t announcements).find nodeId =
      (announcements.map (·.record)).foldl (store keep) (t.find nodeId) := by
  induction announcements generalizing t with
  | nil => rfl
  | cons a announcements ih =>
    have hnull' : a.record.nodeId.isNull = false := a.ofNode.symm ▸ hnull
    have hfind := t.find_upsertWithResult a.now hnull'
    rw [a.ofNode] at hfind
    rw [List.map_cons, List.foldl_cons, ← hfind]
    exact ih _

end AnnouncementOf

open AnnouncementOf (deliver)

/-- Announcements with different epochs leave the one with the greatest epoch, of them and what was
stored before, in whatever order they come; and no step sets the epoch back. -/
theorem announcement_order {nodeId : NodeId} (hnull : nodeId.isNull = false) (t : DiscoveryTable)
    (announcements : List (AnnouncementOf nodeId))
    (hepochs : (announcements.map fun a => a.record.sessionEpoch.value).Nodup) :
    (∀ record, (deliver t announcements).find nodeId = some record →
      IsLatest epoch ((t.find nodeId).toList ++ announcements.map (·.record)) record) ∧
    (announcements ≠ [] → ((deliver t announcements).find nodeId).isSome = true) ∧
    (∀ reordered : List (AnnouncementOf nodeId),
      (reordered.map (·.record)).Perm (announcements.map (·.record)) →
        (deliver t reordered).find nodeId = (deliver t announcements).find nodeId) ∧
    ∀ before a record, before ++ [a] <+: announcements →
      (deliver t before).find nodeId = some record →
        ∃ after, (deliver t (before ++ [a])).find nodeId = some after ∧
          record.sessionEpoch.value ≤ after.sessionEpoch.value := by
  -- The epochs differ as numbers too.
  have hkeys : ((announcements.map (·.record)).map epoch).Nodup := by
    rw [List.map_map]
    have hnodup := hepochs.map (f := UInt64.toNat) fun _ _ => UInt64.toNat_inj.mp
    rwa [List.map_map] at hnodup
  refine ⟨?_, ?_, ?_, ?_⟩
  · intro record hrecord
    rw [AnnouncementOf.find_deliver hnull] at hrecord
    exact Lib.Latest.isLatest_foldl DiscoveryRecord.keepsLater _ _ hrecord
  · intro hsome
    rw [AnnouncementOf.find_deliver hnull]
    refine Lib.Latest.isSome_foldl ?_
    exact List.append_ne_nil_of_right_ne_nil _ (mt List.map_eq_nil_iff.mp hsome)
  · intro reordered hperm
    rw [AnnouncementOf.find_deliver hnull, AnnouncementOf.find_deliver hnull]
    exact Lib.Latest.foldl_store_of_perm DiscoveryRecord.keepsLater hperm hkeys _
  · intro before a record _ hrecord
    rw [AnnouncementOf.find_deliver hnull] at hrecord
    have hafter := AnnouncementOf.find_deliver hnull t (before ++ [a])
    rw [List.map_append, List.foldl_append, hrecord] at hafter
    refine ⟨_, hafter, UInt64.le_iff_toNat_le.mpr ?_⟩
    exact DiscoveryRecord.keepsLater.key_le_of_store (b := a.record) rfl

/-- An announcement of the node id 1. -/
def announced (epoch : UInt64) (topologyId : StdString) (lastSeenAt : UInt64) : DiscoveryRecord where
  nodeId := { high := 0, low := 1 }
  platform := .Mac
  capabilitiesFingerprint := []
  sessionEpoch := { value := epoch }
  protocolVersion := 1
  topologyId
  endpointAddresses := []
  lastSeenAt

/-- Announcements of two topologies in either order. -/
theorem announcement_order_two :
    let older : AnnouncementOf { high := 0, low := 1 } := ⟨announced 1 [65] 10, 10, rfl⟩
    let newer : AnnouncementOf { high := 0, low := 1 } := ⟨announced 2 [66] 20, 20, rfl⟩
    (deliver .init [newer, older]).find { high := 0, low := 1 } =
      (deliver .init [older, newer]).find { high := 0, low := 1 } := by
  intro older newer
  exact (announcement_order rfl .init [older, newer] (by decide)).2.2.1 [newer, older]
    (List.Perm.swap _ _ _)

/-! ### Rejected announcements -/

namespace DiscoveryTable

/-- An announcement that is answered with an error leaves what `find` and `all` return. -/
def RejectedUnchanged (t : DiscoveryTable) (record : DiscoveryRecord) (now : Int) : Prop :=
  (t.upsertWithResult record now).2.1 ≠ none →
    (∀ nodeId, (t.upsertWithResult record now).1.find nodeId = t.find nodeId) ∧
      (t.upsertWithResult record now).1.all = t.all

/-- A record of another topology is there, and is not newer than the announcement. -/
def FindsForeign (t : DiscoveryTable) (record : DiscoveryRecord) : Prop :=
  ∃ existing, t.find record.nodeId = some existing ∧ ¬ Stale existing record ∧
    Foreign existing record

/-- Beside the null node id, only a record of another topology is answered with an error. -/
theorem rejected_iff (t : DiscoveryTable) {record : DiscoveryRecord} (now : Int)
    (hnull : record.nodeId.isNull = false) :
    (t.upsertWithResult record now).2.1 ≠ none ↔ t.FindsForeign record := by
  unfold FindsForeign
  -- A node that is not in the table is stored without an error.
  cases hfind : t.find record.nodeId with
  | none =>
    rw [t.upsertWithResult_snd now hnull, hfind]
    exact iff_of_false (fun h => h rfl) fun ⟨_, h, _⟩ => Option.some_ne_none _ h.symm
  | some existing =>
    -- Of the four cases only that of another topology is an error.
    simp only [Option.some.injEq, exists_eq_left']
    rcases t.upsert_cases now hnull hfind with
      ⟨hstale, -, hresult⟩ | ⟨⟨-, hrepeats⟩, -, hresult⟩ | ⟨hforeign, -, hresult⟩ |
        ⟨⟨-, -, hforeign⟩, -, hresult⟩
    · rw [hresult]
      exact iff_of_false (fun h => h rfl) fun h => h.1 hstale
    · -- A repeated announcement names the topology of the record.
      rw [hresult]
      exact iff_of_false (fun h => h rfl) fun h => h.2.2.2 hrepeats.2.2
    · rw [hresult]
      exact iff_of_true (Option.some_ne_none _) hforeign
    · rw [hresult]
      exact iff_of_false (fun h => h rfl) fun h => hforeign h.2

end DiscoveryTable

/-- A rejected announcement changes nothing exactly when it is of the null node id, or does not
find a record of another topology that is not newer. -/
theorem rejected_unchanged_iff (t : DiscoveryTable) (record : DiscoveryRecord) (now : Int) :
    t.RejectedUnchanged record now ↔
      record.nodeId.isNull = true ∨ ¬ t.FindsForeign record := by
  cases hnull : record.nodeId.isNull with
  | true =>
    refine iff_of_true (fun _ => ?_) (.inl rfl)
    -- The null node id is refused before anything is looked up.
    rw [t.upsertWithResult_null now hnull]
    exact ⟨fun _ => rfl, rfl⟩
  | false =>
    rw [or_iff_right Bool.false_ne_true, DiscoveryTable.RejectedUnchanged,
      t.rejected_iff now hnull]
    constructor
    · rintro hkept ⟨existing, hfind, hstale, hforeign⟩
      -- The announcement is stored over the record, which has another topology.
      have hunchanged := (hkept ⟨existing, hfind, hstale, hforeign⟩).1 record.nodeId
      have hkeep : keep existing record = record :=
        if_neg (not_or.mpr ⟨hstale, fun hrepeats => hforeign.2.2 hrepeats.2.2⟩)
      rw [t.find_upsertWithResult now hnull, hfind, store, hkeep] at hunchanged
      exact hforeign.2.2 (congrArg (·.topologyId) (Option.some.inj hunchanged)).symm
    · exact fun hnone hforeign => absurd hforeign hnone

/-- An announcement of the topology B is answered with an error and replaces the record of A. -/
theorem foreign_announcement_stored :
    let t := (DiscoveryTable.init.upsertWithResult (announced 1 [65] 10) 10).1
    (t.upsertWithResult (announced 1 [66] 20) 20).2.1 = some .TopoMultipath ∧
      ¬ t.RejectedUnchanged (announced 1 [66] 20) 20 := by
  intro t
  refine ⟨by decide, fun hkept => ?_⟩
  have hunchanged := (hkept (by decide)).1 { high := 0, low := 1 }
  exact absurd hunchanged (by decide)

/-! ### Addresses -/

/-- A table that hears announcements of one node id. -/
structure Listened where
  table : DiscoveryTable
  /-- History: the last announcement that was neither stale nor answered with an error. -/
  taken : Option DiscoveryRecord

/-- The announcement is neither stale nor answered with an error. -/
def DiscoveryTable.Takes (t : DiscoveryTable) (record : DiscoveryRecord) (now : Int) : Prop :=
  (t.upsertWithResult record now).2.1 = none ∧
    (t.upsertWithResult record now).2.2 ≠ .StaleIgnored

/-- Whether a record is taken can be looked up. -/
instance (t : DiscoveryTable) (record : DiscoveryRecord) (now : Int) :
    Decidable (t.Takes record now) := inferInstanceAs (Decidable (_ ∧ _))

/-- A table that is told one announcement after the other, and the one that it took last. -/
def announcementMachine (nodeId : NodeId) (t : DiscoveryTable) :
    Machine Listened (AnnouncementOf nodeId) where
  init := { table := t, taken := none }
  step s a :=
    { table := (s.table.upsertWithResult a.record a.now).1
      taken := if s.table.Takes a.record a.now then some a.record else s.taken }

/-- Two records say the same of where the node is and when it was seen. -/
def SameReachability (r r' : DiscoveryRecord) : Prop :=
  r.endpointAddresses = r'.endpointAddresses ∧ r.lastSeenAt = r'.lastSeenAt

/-- Whether two records give a node the same reachability can be looked up. -/
instance (r r' : DiscoveryRecord) : Decidable (SameReachability r r') :=
  inferInstanceAs (Decidable (_ ∧ _))

section
variable {nodeId : NodeId}

/-- The addresses that are stored are those of the last announcement that was taken. -/
def ReachabilityCurrent (nodeId : NodeId) (s : Listened) : Prop :=
  ∀ stored taken, s.table.find nodeId = some stored → s.taken = some taken →
    SameReachability stored taken

/-- An announcement that is not stored and not stale, or stored and answered with an error, says
what the record says. -/
def KeepsReachability (s : Listened) (a : AnnouncementOf nodeId) : Prop :=
  ∀ existing, s.table.find nodeId = some existing → ¬ Stale existing a.record →
    Repeats existing a.record ∨ Foreign existing a.record → SameReachability a.record existing

/-- A record is stored when one was taken. -/
structure HeardOf (nodeId : NodeId) (s : Listened) : Prop where
  taken_iff : s.taken.isSome = (s.table.find nodeId).isSome
  null : nodeId.isNull = true → s.taken = none

variable {s : Listened} {a : AnnouncementOf nodeId} {t : DiscoveryTable}

/-- It does not matter which of the two records is named first. -/
theorem SameReachability.symm {r r' : DiscoveryRecord} (h : SameReachability r r') :
    SameReachability r' r := ⟨h.1.symm, h.2.symm⟩

/-- Two records that agree with a third one agree. -/
theorem SameReachability.trans {r r' r'' : DiscoveryRecord} (h : SameReachability r r')
    (h' : SameReachability r' r'') : SameReachability r r'' :=
  ⟨h.1.trans h'.1, h.2.trans h'.2⟩

/-- An announcement is kept or not. -/
theorem step_table (s : Listened) (a : AnnouncementOf nodeId) (hnull : nodeId.isNull = false) :
    ((announcementMachine nodeId t).step s a).table.find nodeId =
      store keep (s.table.find nodeId) a.record := by
  have hfind := s.table.find_upsertWithResult a.now (a.ofNode.symm ▸ hnull)
  rw [a.ofNode] at hfind
  exact hfind

/-- An announcement is taken when it is answered without an error and not as stale. -/
theorem step_taken (s : Listened) (a : AnnouncementOf nodeId) {err : Option ErrorCode}
    {result : DiscoveryUpdateResult}
    (h : (s.table.upsertWithResult a.record a.now).2 = (err, result)) :
    ((announcementMachine nodeId t).step s a).taken =
      if err = none ∧ result ≠ .StaleIgnored then some a.record else s.taken := by
  show (if s.table.Takes a.record a.now then some a.record else s.taken) = _
  simp only [DiscoveryTable.Takes, h]

/-- The first announcement is stored and taken. -/
theorem step_first (hnull : nodeId.isNull = false) (hnone : s.table.find nodeId = none) :
    ((announcementMachine nodeId t).step s a).table.find nodeId = some a.record ∧
      ((announcementMachine nodeId t).step s a).taken = some a.record := by
  have hnull' : a.record.nodeId.isNull = false := a.ofNode.symm ▸ hnull
  have hresult : (s.table.upsertWithResult a.record a.now).2 = (none, .Inserted) := by
    rw [s.table.upsertWithResult_snd a.now hnull', a.ofNode, hnone]
  rw [step_table s a hnull, hnone, step_taken s a hresult]
  exact ⟨rfl, rfl⟩

/-- What a later one leaves stored and taken. -/
theorem step_later (hnull : nodeId.isNull = false) {existing : DiscoveryRecord}
    (hstored : s.table.find nodeId = some existing) :
    let s' := (announcementMachine nodeId t).step s a
    Stale existing a.record ∧ s'.table.find nodeId = some existing ∧ s'.taken = s.taken ∨
      (¬ Stale existing a.record ∧ Repeats existing a.record) ∧
        s'.table.find nodeId = some existing ∧ s'.taken = some a.record ∨
      (¬ Stale existing a.record ∧ Foreign existing a.record) ∧
        s'.table.find nodeId = some a.record ∧ s'.taken = s.taken ∨
      (¬ Stale existing a.record ∧ ¬ Repeats existing a.record ∧ ¬ Foreign existing a.record) ∧
        s'.table.find nodeId = some a.record ∧ s'.taken = some a.record := by
  intro s'
  have hfind : s'.table.find nodeId = some (keep existing a.record) := by
    rw [step_table s a hnull, hstored]
    rfl
  rw [hfind]
  have hstored' : s.table.find a.record.nodeId = some existing := a.ofNode.symm ▸ hstored
  -- The table has what is kept, and `taken` what was not thrown away.
  rcases s.table.upsert_cases a.now (a.ofNode.symm ▸ hnull) hstored' with
    ⟨hstale, hkeep, hresult⟩ | ⟨hrepeats, hkeep, hresult⟩ | ⟨hforeign, hkeep, hresult⟩ |
      ⟨hnew, hkeep, hresult⟩
  · rw [hkeep]
    exact .inl ⟨hstale, rfl, step_taken s a hresult⟩
  · rw [hkeep]
    exact .inr (.inl ⟨hrepeats, rfl, step_taken s a hresult⟩)
  · rw [hkeep]
    exact .inr (.inr (.inl ⟨hforeign, rfl, step_taken s a hresult⟩))
  · rw [hkeep]
    exact .inr (.inr (.inr ⟨hnew, rfl, step_taken s a hresult⟩))

/-- The null node id is never heard of. -/
theorem step_announcement_null (hnull : nodeId.isNull = true) :
    (announcementMachine nodeId t).step s a = s := by
  have hrejected := s.table.upsertWithResult_null a.now (a.ofNode.symm ▸ hnull)
  simp only [announcementMachine, DiscoveryTable.Takes, hrejected, reduceCtorEq, false_and,
    if_false]

/-- What was heard of stays so. -/
theorem HeardOf.step (h : HeardOf nodeId s) (a : AnnouncementOf nodeId) :
    HeardOf nodeId ((announcementMachine nodeId t).step s a) := by
  cases hnull : nodeId.isNull with
  | true =>
    rw [step_announcement_null hnull]
    exact h
  | false =>
    refine ⟨?_, fun hnull' => absurd (hnull.symm.trans hnull') Bool.false_ne_true⟩
    cases hstored : s.table.find nodeId with
    | none =>
      obtain ⟨hfind, htaken⟩ := step_first (a := a) (t := t) hnull hstored
      rw [hfind, htaken]
    | some existing =>
      -- A record is there, so one was taken before, and one is in every case after.
      have hbefore := h.taken_iff
      rw [hstored] at hbefore
      rcases step_later (a := a) (t := t) hnull hstored with
        ⟨-, hfind, htaken⟩ | ⟨-, hfind, htaken⟩ | ⟨-, hfind, htaken⟩ | ⟨-, hfind, htaken⟩
      · rw [hfind, htaken, hbefore]
      · rw [hfind, htaken]
        rfl
      · rw [hfind, htaken, hbefore]
        rfl
      · rw [hfind, htaken]

/-- The node can be reached as it said last just when the two records say so. -/
theorem reachabilityCurrent_iff {stored taken : DiscoveryRecord}
    (hfind : s.table.find nodeId = some stored) (htaken : s.taken = some taken) :
    ReachabilityCurrent nodeId s ↔ SameReachability stored taken := by
  constructor
  · exact fun hcurrent => hcurrent stored taken hfind htaken
  · intro hsame stored' taken' hfind' htaken'
    cases hfind.symm.trans hfind'
    cases htaken.symm.trans htaken'
    exact hsame

/-- What an announcement leaves current. -/
theorem reachabilityCurrent_step_iff (h : HeardOf nodeId s) (hcurrent : ReachabilityCurrent nodeId s)
    (a : AnnouncementOf nodeId) :
    ReachabilityCurrent nodeId ((announcementMachine nodeId t).step s a) ↔
      KeepsReachability s a := by
  cases hstored : s.table.find nodeId with
  | none =>
    -- The first announcement is stored as it is.
    refine iff_of_true ?_ fun existing hfind => absurd (hstored.symm.trans hfind) (by simp)
    cases hnull : nodeId.isNull with
    | true =>
      rw [step_announcement_null hnull]
      exact hcurrent
    | false =>
      obtain ⟨hfind, htaken⟩ := step_first (a := a) (t := t) hnull hstored
      exact (reachabilityCurrent_iff hfind htaken).mpr ⟨rfl, rfl⟩
  | some existing =>
    have hsome := h.taken_iff
    rw [hstored] at hsome
    obtain ⟨last, hlast⟩ := Option.isSome_iff_exists.mp hsome
    -- Before the call, the record says what was taken last.
    have hsame : SameReachability existing last := hcurrent existing last hstored hlast
    have hnull : nodeId.isNull = false := by
      cases hnull : nodeId.isNull with
      | false => rfl
      | true => exact absurd (hlast.symm.trans (h.null hnull)) (by simp)
    have hkeeps : KeepsReachability s a ↔ (¬ Stale existing a.record →
        Repeats existing a.record ∨ Foreign existing a.record →
          SameReachability a.record existing) := by
      simp only [KeepsReachability, hstored, Option.some.injEq, forall_eq']
    rw [hkeeps]
    rcases step_later (a := a) (t := t) hnull hstored with
      ⟨hstale, hfind, htaken⟩ | ⟨⟨hstale, hrepeats⟩, hfind, htaken⟩ |
        ⟨⟨hstale, hforeign⟩, hfind, htaken⟩ | ⟨⟨-, hrepeats, hforeign⟩, hfind, htaken⟩
    · rw [reachabilityCurrent_iff hfind (htaken.trans hlast)]
      exact iff_of_true hsame fun hnot => absurd hstale hnot
    · -- A duplicate is taken, and the record stays.
      rw [reachabilityCurrent_iff hfind htaken]
      exact ⟨fun hnow _ _ => hnow.symm, fun hnow => (hnow hstale (.inl hrepeats)).symm⟩
    · -- A foreign announcement is not taken, and is stored.
      rw [reachabilityCurrent_iff hfind (htaken.trans hlast)]
      exact ⟨fun hnow _ _ => hnow.trans hsame.symm,
        fun hnow => (hnow hstale (.inr hforeign)).trans hsame⟩
    · rw [reachabilityCurrent_iff hfind htaken]
      exact iff_of_true ⟨rfl, rfl⟩ fun _ hor => (hor.elim hrepeats hforeign).elim

end

/-- From a table that has no record of the node id: the addresses are current at every moment
exactly when each announcement that repeats the epoch, the version and the topology, or names
another topology, says what the record says. -/
theorem reachability_current_iff (nodeId : NodeId) (t : DiscoveryTable)
    (hnone : t.find nodeId = none) (announcements : List (AnnouncementOf nodeId)) :
    (∀ pre, pre <+: announcements →
      ReachabilityCurrent nodeId ((announcementMachine nodeId t).run pre)) ↔
      (announcementMachine nodeId t).Meets KeepsReachability (announcementMachine nodeId t).init
        announcements := by
  have hinit : HeardOf nodeId (announcementMachine nodeId t).init :=
    ⟨(congrArg Option.isSome hnone).symm, fun _ => rfl⟩
  have hheard : (announcementMachine nodeId t).Invariant (HeardOf nodeId) :=
    Machine.Invariant.of_step hinit fun _ a h => h.step a
  have hcurrent : ReachabilityCurrent nodeId (announcementMachine nodeId t).init := by
    intro stored taken hfind
    exact absurd (hnone.symm.trans hfind) (by simp)
  -- Given the invariant, a step keeps the reachability exactly if it meets the condition.
  have hruns : (announcementMachine nodeId t).Meets KeepsReachability
      (announcementMachine nodeId t).init announcements ↔
        ∀ pre, pre <+: announcements → HeardOf nodeId ((announcementMachine nodeId t).run pre) ∧
          ReachabilityCurrent nodeId ((announcementMachine nodeId t).run pre) :=
    Machine.meets_iff_forall_run (P := fun s => HeardOf nodeId s ∧ ReachabilityCurrent nodeId s)
      ⟨hinit, hcurrent⟩ fun s a h =>
        (and_iff_right (h.1.step a)).trans (reachabilityCurrent_step_iff h.1 h.2 a)
  rw [hruns]
  exact forall_congr' fun pre => imp_congr_right fun _ => (and_iff_right (hheard pre)).symm

/-- The same announcement, twice. -/
theorem reachability_current_repeated :
    let a : AnnouncementOf { high := 0, low := 1 } := ⟨announced 1 [] 10, 10, rfl⟩
    ∀ pre, pre <+: [a, a] → ReachabilityCurrent { high := 0, low := 1 }
      ((announcementMachine { high := 0, low := 1 } .init).run pre) := by
  intro a
  refine (reachability_current_iff { high := 0, low := 1 } .init rfl [a, a]).mpr ⟨?_, ?_, trivial⟩
  · exact fun existing hfind => absurd hfind.symm (Option.some_ne_none existing)
  · intro existing hfind _ _
    have hstored : some (announced 1 [] 10) = some existing := Eq.trans (by decide) hfind
    rw [← Option.some.inj hstored]
    exact ⟨rfl, rfl⟩

/-- A repeated announcement is answered without an error, and the table keeps when the node was
first seen. -/
theorem repeated_announcement_not_stored :
    let first : AnnouncementOf { high := 0, low := 1 } := ⟨announced 1 [] 10, 10, rfl⟩
    let second : AnnouncementOf { high := 0, low := 1 } := ⟨announced 1 [] 20, 20, rfl⟩
    ¬ ReachabilityCurrent { high := 0, low := 1 }
      ((announcementMachine { high := 0, low := 1 } .init).run [first, second]) := by
  intro first second hcurrent
  exact absurd (hcurrent (announced 1 [] 10) (announced 1 [] 20) (by decide) (by decide)).2
    (by decide)

end CrossFlow
