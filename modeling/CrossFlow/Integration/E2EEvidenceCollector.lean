import CrossFlow.Core.Common.StdString
import CrossFlow.Lib.CountedLoop

/-!
# `CrossFlow.Integration.E2EEvidenceCollector`: the evidence of an end-to-end run

The model of `integration/e2e_evidence_collector.hpp` and `.cpp`. A `std::map` is a `Std.TreeMap`, and
a `std::set` of its keys is the list of them in order.

The last loop of `verifyCorrelation` may have no end, so it is given fuel: `none` is a call that has
not returned by then.
-/

set_option autoImplicit false

namespace CrossFlow

open Std (TreeMap)
open StdString (lit)

/-- What a record is evidence of. -/
inductive EvidenceType where
  | Capture
  | Receive
  | Injection
  | Correlation
  | Disconnect
  | Reconnect
  deriving DecidableEq

/-- One piece of evidence. -/
structure PhysicalEvidenceRecord where
  type : EvidenceType
  evidenceSource : StdString
  timestampUs : UInt64
  eventId : UInt64
  payload : StdString
  deriving DecidableEq

/-- What the comparison of captures and injections has found. -/
structure CorrelationResult where
  pass : Bool := false
  matchedCount : UInt64 := 0
  unmatchedCaptureCount : UInt64 := 0
  unmatchedInjectionCount : UInt64 := 0
  payloadMismatchCount : UInt64 := 0
  timestampNonMonotonicCount : UInt64 := 0
  missingEventIdCount : UInt64 := 0
  failureReason : StdString := []
  deriving DecidableEq

/-- The records are a vector, so their number is a `size_t`. -/
structure E2EEvidenceCollector where
  records : List PhysicalEvidenceRecord
  length_lt : records.length < 2 ^ 64

/-- `captureMap` and `injectionMap` in `verifyCorrelation`. -/
structure CorrelationMaps where
  captureMap : TreeMap UInt64 PhysicalEvidenceRecord
  injectionMap : TreeMap UInt64 PhysicalEvidenceRecord

namespace CorrelationMaps

/-- A turn of the loop that fills the maps. -/
def addRecord (maps : CorrelationMaps) (rec : PhysicalEvidenceRecord) : CorrelationMaps :=
  match rec.type with
  | .Capture => { maps with captureMap := maps.captureMap.insert rec.eventId rec }
  | .Injection => { maps with injectionMap := maps.injectionMap.insert rec.eventId rec }
  | _ => maps

/-- The records of captures and of injections, by their event ids. -/
def ofRecords (records : List PhysicalEvidenceRecord) : CorrelationMaps :=
  records.foldl addRecord { captureMap := ∅, injectionMap := ∅ }

/-- A turn of the loop over `captureMap`. -/
def compareCapture (maps : CorrelationMaps) (result : CorrelationResult)
    (entry : UInt64 × PhysicalEvidenceRecord) : CorrelationResult :=
  let (eventId, capRec) := entry
  match maps.injectionMap[eventId]? with
  | none => { result with unmatchedCaptureCount := result.unmatchedCaptureCount + 1 }
  | some injRec =>
    { result with
        matchedCount := result.matchedCount + 1
        payloadMismatchCount :=
          result.payloadMismatchCount + if capRec.payload ≠ injRec.payload then 1 else 0
        timestampNonMonotonicCount :=
          result.timestampNonMonotonicCount +
            if injRec.timestampUs ≤ capRec.timestampUs then 1 else 0 }

/-- A turn of the loop over `injectionMap`. -/
def compareInjection (maps : CorrelationMaps) (result : CorrelationResult)
    (entry : UInt64 × PhysicalEvidenceRecord) : CorrelationResult :=
  { result with
      unmatchedInjectionCount :=
        result.unmatchedInjectionCount + if entry.1 ∈ maps.captureMap then 0 else 1 }

/-- A turn of the loop over the identifiers. -/
def countMissing (maps : CorrelationMaps) (id : UInt64) (result : CorrelationResult) :
    CorrelationResult :=
  { result with
      missingEventIdCount := result.missingEventIdCount +
        if id ∉ maps.captureMap ∧ id ∉ maps.injectionMap then 1 else 0 }

/-- `minId` and `maxId`, where there are captures and injections. -/
def idRange (maps : CorrelationMaps) : Option (UInt64 × UInt64) := do
  let captureEventIds := maps.captureMap.keys
  let injectionEventIds := maps.injectionMap.keys
  let minCaptureId ← captureEventIds.head?
  let minInjectionId ← injectionEventIds.head?
  let maxCaptureId ← captureEventIds.getLast?
  let maxInjectionId ← injectionEventIds.getLast?
  return (min minCaptureId minInjectionId, max maxCaptureId maxInjectionId)

/-- The loop over all ids from the smallest to the largest, if there are any records. -/
def findMissing (maps : CorrelationMaps) (fuel : Nat) (result : CorrelationResult) :
    Option CorrelationResult :=
  match maps.idRange with
  | some (minId, maxId) => Lib.inclusiveLoop maps.countMissing maxId fuel minId result
  | none => some result

end CorrelationMaps

namespace CorrelationResult

/-- The end of `verifyCorrelation`: the verdict and its reason. -/
def conclude (result : CorrelationResult) : CorrelationResult :=
  let pass := decide (result.unmatchedCaptureCount = 0 ∧ result.unmatchedInjectionCount = 0 ∧
    result.payloadMismatchCount = 0 ∧ result.timestampNonMonotonicCount = 0 ∧
    result.missingEventIdCount = 0)
  let failureReason :=
    if pass then result.failureReason
    else if result.payloadMismatchCount > 0 then lit "payload mismatch detected"
    else if result.timestampNonMonotonicCount > 0 then lit "timestamp non-monotonic"
    else if result.unmatchedCaptureCount > 0 ∨ result.unmatchedInjectionCount > 0 then
      lit "unmatched evidence records"
    else if result.missingEventIdCount > 0 then lit "missing eventId in sequence"
    else result.failureReason
  { result with pass, failureReason }

end CorrelationResult

namespace E2EEvidenceCollector

/-- A collector without records. -/
def init : E2EEvidenceCollector where
  records := []
  length_lt := by decide

/-- `none` is for a vector that is full: `push_back` throws, in a function that must not. -/
def addRecord (collector : E2EEvidenceCollector) (record : PhysicalEvidenceRecord) :
    Option E2EEvidenceCollector :=
  if h : (collector.records ++ [record]).length < 2 ^ 64 then
    some { records := collector.records ++ [record], length_lt := h }
  else none

/-- A record as all the functions below write it. -/
def recordEvidence (collector : E2EEvidenceCollector) (type : EvidenceType)
    (eventId timestampUs : UInt64) (payload : StdString) : Option E2EEvidenceCollector :=
  collector.addRecord { type, evidenceSource := lit "physical", timestampUs, eventId, payload }

/-- An event was captured. -/
def recordCaptureEvidence (collector : E2EEvidenceCollector) (eventId timestampUs : UInt64)
    (payload : StdString) : Option E2EEvidenceCollector :=
  collector.recordEvidence .Capture eventId timestampUs payload

/-- An event was received. -/
def recordReceiveEvidence (collector : E2EEvidenceCollector) (eventId timestampUs : UInt64)
    (payload : StdString) : Option E2EEvidenceCollector :=
  collector.recordEvidence .Receive eventId timestampUs payload

/-- An event was injected. -/
def recordInjectionEvidence (collector : E2EEvidenceCollector) (eventId timestampUs : UInt64)
    (payload : StdString) : Option E2EEvidenceCollector :=
  collector.recordEvidence .Injection eventId timestampUs payload

/-- The connection was lost. -/
def recordDisconnectEvidence (collector : E2EEvidenceCollector) (timestampUs : UInt64)
    (description : StdString) : Option E2EEvidenceCollector :=
  collector.recordEvidence .Disconnect 0 timestampUs description

/-- The connection is there again. -/
def recordReconnectEvidence (collector : E2EEvidenceCollector) (timestampUs : UInt64)
    (description : StdString) : Option E2EEvidenceCollector :=
  collector.recordEvidence .Reconnect 0 timestampUs description

/-- Captures and injections are compared, both ways, and the ids without either counted. -/
def verifyCorrelation (collector : E2EEvidenceCollector) (fuel : Nat) :
    Option CorrelationResult :=
  let maps := CorrelationMaps.ofRecords collector.records
  let compared := maps.captureMap.toList.foldl maps.compareCapture {}
  let result := maps.injectionMap.toList.foldl maps.compareInjection compared
  (maps.findMissing fuel result).map CorrelationResult.conclude

end E2EEvidenceCollector

end CrossFlow
