import CrossFlow.Core.Common.Domain
import CrossFlow.Lib.HashedMap
import CrossFlow.Lib.Machine

/-!
# `CrossFlow.Core.Discovery.DiscoveryTable`: the endpoints that were discovered

The model of `s07_discovery/discovery_table.hpp` and `.cpp`. A `steady_clock::time_point` is its
count of nanoseconds. A call that reads the clock takes the reading as an argument. The order of the
list in `entries` stands for the iteration order of the `unordered_map`, which nothing specifies.
-/

set_option autoImplicit false

namespace CrossFlow

open Lib (Machine)

/-- What `upsertWithResult` did with a record. -/
inductive DiscoveryUpdateResult where
  | Inserted
  | Updated
  | DuplicateIgnored
  | StaleIgnored
  | ConflictDetected
  | TopologyConflict
  deriving DecidableEq

/-- A record, with the times at which it was inserted and last updated. -/
structure DiscoveryTable.Entry where
  record : DiscoveryRecord
  insertedAt : Int
  lastUpdated : Int
  deriving DecidableEq

/-- The entries by their keys, and the counts of what was not stored. -/
structure DiscoveryTable where
  entries : AList fun _ : UInt64 => DiscoveryTable.Entry
  duplicateCount : UInt32
  staleCount : UInt32
  conflictCount : UInt32

namespace DiscoveryTable

/-- A table without entries. -/
def init : DiscoveryTable where
  entries := ∅
  duplicateCount := 0
  staleCount := 0
  conflictCount := 0

/-- The key of a node. Nodes with one key share an entry. -/
def nodeKey (nid : NodeId) : UInt64 := nid.high ^^^ (nid.low * 0x9E3779B97F4A7C15)

/-- A record replaces that of its key unless its epoch is older or it says nothing new. One with
another topology is stored with an error. -/
def upsertWithResult (t : DiscoveryTable) (record : DiscoveryRecord) (now : Int) :
    DiscoveryTable × Option ErrorCode × DiscoveryUpdateResult :=
  if record.nodeId.isNull then (t, some .SessNodeidForge, .ConflictDetected)
  else
    let key := nodeKey record.nodeId
    match t.entries.lookup key with
    | some it =>
      let existing := it.record
      if existing.sessionEpoch.value > record.sessionEpoch.value then
        ({ t with staleCount := t.staleCount + 1 }, none, .StaleIgnored)
      else if existing.sessionEpoch.value = record.sessionEpoch.value ∧
          existing.protocolVersion = record.protocolVersion ∧
          existing.topologyId = record.topologyId then
        ({ t with
            duplicateCount := t.duplicateCount + 1
            entries := t.entries.insert key { it with lastUpdated := now } },
          none, .DuplicateIgnored)
      else if record.topologyId ≠ [] ∧ existing.topologyId ≠ [] ∧
          existing.topologyId ≠ record.topologyId then
        -- The record is stored, and the caller gets an error.
        ({ t with
            conflictCount := t.conflictCount + 1
            entries := t.entries.insert key { it with record, lastUpdated := now } },
          some .TopoMultipath, .TopologyConflict)
      else
        ({ t with entries := t.entries.insert key { it with record, lastUpdated := now } },
          none, .Updated)
    | none =>
      ({ t with
          entries := t.entries.insert key { record, insertedAt := now, lastUpdated := now } },
        none, .Inserted)

/-- `upsertWithResult` without the result. -/
def upsert (t : DiscoveryTable) (record : DiscoveryRecord) (now : Int) :
    DiscoveryTable × Option ErrorCode :=
  let (t, err, _) := t.upsertWithResult record now
  (t, err)

/-- The entry of the node's key is erased. -/
def remove (t : DiscoveryTable) (nodeId : NodeId) : DiscoveryTable × Option ErrorCode :=
  ({ t with entries := t.entries.erase (nodeKey nodeId) }, none)

/-- The record under the node's key, whichever node it is of. -/
def find (t : DiscoveryTable) (nodeId : NodeId) : Option DiscoveryRecord :=
  (t.entries.lookup (nodeKey nodeId)).map fun it => it.record

/-- All records. -/
def all (t : DiscoveryTable) : List DiscoveryRecord :=
  t.entries.entries.map fun entry => entry.2.record

/-- The counts begin at 0 again, too. -/
def clear (_ : DiscoveryTable) : DiscoveryTable := init

/-- The two loops of `detectConflicts`, over the records in the order of the map. -/
def conflictsFrom : List DiscoveryRecord → List NodeId
  | [] => []
  | r1 :: records =>
    (records.filter fun r2 => r1.nodeId = r2.nodeId).map (fun _ => r1.nodeId) ++
      conflictsFrom records

/-- The ids that two of the records have. -/
def detectConflicts (t : DiscoveryTable) : List NodeId := conflictsFrom t.all

/-- `maxAge` is a count of milliseconds. -/
def pruneStale (t : DiscoveryTable) (maxAge now : Int) : DiscoveryTable :=
  { t with
    entries :=
      Lib.HashedMap.filter (fun it => ¬ now - it.lastUpdated > maxAge * 1000000) t.entries }

end DiscoveryTable

/-! ### Runs -/

/-- The calls of a table. -/
inductive DiscoveryCall where
  | upsert (record : DiscoveryRecord) (now : Int)
  | remove (nodeId : NodeId)
  | find (nodeId : NodeId)
  | all
  | clear
  | pruneStale (maxAge now : Int)

/-- What a call returns. -/
inductive DiscoveryAnswer where
  | updated (err : Option ErrorCode) (result : DiscoveryUpdateResult)
  | removed (err : Option ErrorCode)
  | found (record : Option DiscoveryRecord)
  | listed (records : List DiscoveryRecord)
  | done
  deriving DecidableEq

/-- What a call leaves of the table. -/
def DiscoveryTable.step (t : DiscoveryTable) : DiscoveryCall → DiscoveryTable
  | .upsert record now => (t.upsertWithResult record now).1
  | .remove nodeId => (t.remove nodeId).1
  | .find _ => t
  | .all => t
  | .clear => t.clear
  | .pruneStale maxAge now => t.pruneStale maxAge now

/-- What a call returns. -/
def DiscoveryTable.answer (t : DiscoveryTable) : DiscoveryCall → DiscoveryAnswer
  | .upsert record now =>
    .updated (t.upsertWithResult record now).2.1 (t.upsertWithResult record now).2.2
  | .remove nodeId => .removed (t.remove nodeId).2
  | .find nodeId => .found (t.find nodeId)
  | .all => .listed t.all
  | .clear => .done
  | .pruneStale _ _ => .done

/-- A table, in any order of its calls. -/
def discoveryMachine : Machine DiscoveryTable DiscoveryCall where
  init := DiscoveryTable.init
  step := DiscoveryTable.step

end CrossFlow
