import CrossFlow.Proofs.Discovery.DiscoveryTable
import CrossFlow.Lib.PastTime

/-!
# `CrossFlow.Proofs.Discovery.Conflicts`: two endpoints with one node id

`detectConflicts` looks for two records of one node id, and the table keeps one record under the key
of a node id. So an announcement of another endpoint replaces the record, and there is nothing to
find.

* `detectConflicts_run`: it finds nothing, in any run.
* `conflict_reported_iff`: the runs in which that is right.
-/

set_option autoImplicit false

namespace CrossFlow

open DiscoveryTable
open Lib (Just Since)

/-- The step stores an announcement of the node id from the platform. -/
def StoresFrom (nodeId : NodeId) (platform : Platform) (e : DiscoveryTable × DiscoveryCall) : Prop :=
  ∃ record now, e.2 = .upsert record now ∧ record.nodeId = nodeId ∧ record.platform = platform ∧
    (e.1.upsertWithResult record now).2.2 ∈
      [DiscoveryUpdateResult.Inserted, .Updated, .TopologyConflict]

/-- The step removes what is stored of the node id. -/
def Removes (nodeId : NodeId) (e : DiscoveryTable × DiscoveryCall) : Prop :=
  match e.2 with
  | .remove removed => removed = nodeId
  | .clear => True
  | .pruneStale maxAge now => (e.1.pruneStale maxAge now).find nodeId = none
  | _ => False

/-- Since the node id was last removed, announcements of it from two platforms were stored. -/
def Conflicting (nodeId : NodeId) (past : List (DiscoveryTable × DiscoveryCall)) : Prop :=
  ∃ first second, first ≠ second ∧
    Since (Removes nodeId) (Just (StoresFrom nodeId second)
      (Since (Removes nodeId) (Just (StoresFrom nodeId first) fun _ => True))) past

/-- After the run, every node id that two endpoints have announced is reported. -/
def ReportsConflicts (calls : List DiscoveryCall) : Prop :=
  ∀ nodeId, Conflicting nodeId (discoveryMachine.past calls) →
    nodeId ∈ (discoveryMachine.run calls).detectConflicts

/-- There is no conflict among records of different nodes. -/
theorem conflictsFrom_of_nodup {records : List DiscoveryRecord}
    (h : (records.map fun record => record.nodeId).Nodup) : conflictsFrom records = [] := by
  induction records with
  | nil => rfl
  | cons r1 records ih =>
    rw [List.map_cons, List.nodup_cons] at h
    have hnone : (records.filter fun r2 => r1.nodeId = r2.nodeId) = [] := by
      rw [List.filter_eq_nil_iff]
      intro r2 hr2 hsame
      exact h.1 (List.mem_map.mpr ⟨r2, hr2, (of_decide_eq_true hsame).symm⟩)
    rw [conflictsFrom, hnone, List.map_nil, List.nil_append]
    exact ih h.2

/-- No two records of a table are of one node id. -/
theorem detectConflicts_run (calls : List DiscoveryCall) :
    (discoveryMachine.run calls).detectConflicts = [] :=
  conflictsFrom_of_nodup (nodup_all (keyedById_run calls))

/-- No run leads to a table that reports a conflict, so the conflicts of a run are reported exactly
when it has none. -/
theorem conflict_reported_iff (calls : List DiscoveryCall) :
    (discoveryMachine.run calls).detectConflicts = [] ∧
      (ReportsConflicts calls ↔
        ∀ nodeId, ¬ Conflicting nodeId (discoveryMachine.past calls)) := by
  have hnone := detectConflicts_run calls
  refine ⟨hnone, ?_⟩
  refine forall_congr' fun nodeId => ?_
  rw [hnone]
  exact imp_congr_right fun _ => iff_of_false List.not_mem_nil id

/-- An announcement of the node id 1, with the epoch as its version. -/
def announcement (platform : Platform) (epoch : UInt64) : DiscoveryRecord where
  nodeId := { high := 0, low := 1 }
  platform
  capabilitiesFingerprint := []
  sessionEpoch := { value := epoch }
  protocolVersion := 1
  topologyId := []
  endpointAddresses := []
  lastSeenAt := 0

/-- A Mac and a Windows endpoint announce the same node id, one after the other. -/
theorem conflict_not_reported :
    ¬ ReportsConflicts [.upsert (announcement .Mac 1) 0, .upsert (announcement .Win 2) 1] := by
  intro hclaim
  have hconflicting : Conflicting { high := 0, low := 1 } (discoveryMachine.past
      [.upsert (announcement .Mac 1) 0, .upsert (announcement .Win 2) 1]) := by
    refine ⟨.Mac, .Win, Platform.noConfusion, .now ⟨?_, .now ⟨?_, trivial⟩⟩⟩
    · exact ⟨announcement .Win 2, 1, rfl, rfl, rfl, by decide⟩
    · exact ⟨announcement .Mac 1, 0, rfl, rfl, rfl, by decide⟩
  have hreported := hclaim _ hconflicting
  rw [detectConflicts_run] at hreported
  exact absurd hreported List.not_mem_nil

end CrossFlow
