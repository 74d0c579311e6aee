import CrossFlow.Lib.OrderStatistic

/-!
# `CrossFlow.Integration.E2ELatencyProbe`: the latencies of an end-to-end run

The model of `integration/e2e_latency_probe.hpp` and `.cpp`. A `std::map` is a `Std.TreeMap`.
-/

set_option autoImplicit false

namespace CrossFlow

open Std (TreeMap)

/-- The times at which an event was seen, and which of them are known. -/
structure SegmentedLatencyRecord where
  eventId : UInt64 := 0
  t1CaptureUs : UInt64 := 0
  t2QueueProcessingUs : UInt64 := 0
  t3TransportReceiveUs : UInt64 := 0
  t4InjectionUs : UInt64 := 0
  hasCapture : Bool := false
  hasQueueProcessing : Bool := false
  hasTransportReceive : Bool := false
  hasInjection : Bool := false
  deriving DecidableEq

namespace SegmentedLatencyRecord

/-- All four times are known. -/
def isComplete (rec : SegmentedLatencyRecord) : Bool :=
  rec.hasCapture && rec.hasQueueProcessing && rec.hasTransportReceive && rec.hasInjection

/-- The time from one moment to another, zero when that is not later. -/
def elapsedUs (start stop : UInt64) : UInt64 := if stop > start then stop - start else 0

/-- The time from the capture to the queue. -/
def captureToQueueUs (rec : SegmentedLatencyRecord) : UInt64 :=
  elapsedUs rec.t1CaptureUs rec.t2QueueProcessingUs

/-- The time from the queue to the transport. -/
def queueToTransportUs (rec : SegmentedLatencyRecord) : UInt64 :=
  elapsedUs rec.t2QueueProcessingUs rec.t3TransportReceiveUs

/-- The time from the receiver to the injection. -/
def receiveToInjectionUs (rec : SegmentedLatencyRecord) : UInt64 :=
  elapsedUs rec.t3TransportReceiveUs rec.t4InjectionUs

/-- The time from the capture to the injection. -/
def totalE2ELatencyUs (rec : SegmentedLatencyRecord) : UInt64 :=
  elapsedUs rec.t1CaptureUs rec.t4InjectionUs

end SegmentedLatencyRecord

/-- What is told of some latencies. -/
structure LatencyStats where
  min : UInt64 := 0
  max : UInt64 := 0
  p50 : UInt64 := 0
  p99 : UInt64 := 0
  count : UInt64 := 0
  deriving DecidableEq

/-- The statistics of all segments. -/
structure SegmentedLatencyReport where
  captureToQueue : LatencyStats
  queueToTransport : LatencyStats
  receiveToInjection : LatencyStats
  totalE2E : LatencyStats
  totalRecords : UInt64
  completeRecords : UInt64
  deriving DecidableEq

/-- The records, by their event ids. -/
structure E2ELatencyProbe where
  records : TreeMap UInt64 SegmentedLatencyRecord

namespace E2ELatencyProbe

/-- A probe without records. -/
def init : E2ELatencyProbe where
  records := ∅

/-- Changes the record of an event, or a new one. -/
def updateRecord (probe : E2ELatencyProbe) (eventId : UInt64)
    (update : SegmentedLatencyRecord → SegmentedLatencyRecord) : E2ELatencyProbe where
  records := probe.records.insert eventId (update (probe.records.getD eventId {}))

/-- The first of the four times. -/
def recordCapture (probe : E2ELatencyProbe) (eventId timestampUs : UInt64) : E2ELatencyProbe :=
  probe.updateRecord eventId fun rec =>
    { rec with eventId, t1CaptureUs := timestampUs, hasCapture := true }

/-- The second of the four times. -/
def recordQueueProcessing (probe : E2ELatencyProbe) (eventId timestampUs : UInt64) :
    E2ELatencyProbe :=
  probe.updateRecord eventId fun rec =>
    { rec with eventId, t2QueueProcessingUs := timestampUs, hasQueueProcessing := true }

/-- The third of the four times. -/
def recordTransportReceive (probe : E2ELatencyProbe) (eventId timestampUs : UInt64) :
    E2ELatencyProbe :=
  probe.updateRecord eventId fun rec =>
    { rec with eventId, t3TransportReceiveUs := timestampUs, hasTransportReceive := true }

/-- The last of the four times. -/
def recordInjection (probe : E2ELatencyProbe) (eventId timestampUs : UInt64) : E2ELatencyProbe :=
  probe.updateRecord eventId fun rec =>
    { rec with eventId, t4InjectionUs := timestampUs, hasInjection := true }

/-- The index of the median in a sorted list. -/
def p50Idx (size : Nat) : Nat := size / 2

/-- The product `size * 0.99` is taken to be exact, and is rounded down. -/
def p99Idx (size : Nat) : Nat :=
  let index := size * 99 / 100
  if index ≥ size then size - 1 else index

/-- `none` is for an index that is out of range. -/
def computeStats (values : List UInt64) : Option LatencyStats :=
  if values = [] then some {}
  else do
    let sorted := Lib.OrderStatistic.sorted (· ≤ ·) values
    let min ← sorted.head?
    let max ← sorted.getLast?
    let p50 ← sorted[p50Idx values.length]?
    let p99 ← sorted[p99Idx values.length]?
    some { min, max, p50, p99, count := values.length.toUInt64 }

/-- The statistics of the records that are complete. -/
def generateReport (probe : E2ELatencyProbe) : Option SegmentedLatencyReport := do
  let complete := (probe.records.toList.map (·.2)).filter SegmentedLatencyRecord.isComplete
  let captureToQueue ← computeStats (complete.map (·.captureToQueueUs))
  let queueToTransport ← computeStats (complete.map (·.queueToTransportUs))
  let receiveToInjection ← computeStats (complete.map (·.receiveToInjectionUs))
  let totalE2E ← computeStats (complete.map (·.totalE2ELatencyUs))
  some
    { captureToQueue, queueToTransport, receiveToInjection, totalE2E
      totalRecords := probe.records.size.toUInt64
      completeRecords := complete.length.toUInt64 }

end E2ELatencyProbe

end CrossFlow
