import CrossFlow.Platform.Mac.DualChannelCalls
import CrossFlow.Proofs.Spsc.UnreadData
import CrossFlow.Proofs.Spsc.WholeCalls

/-!
# `CrossFlow.Proofs.Capture.DropReports`: what `enqueue` says about drops

`enqueue` of a data event reads `cumulativeDropCount_` after its push and says `DataDroppedOldest`
when it is not zero. From the first drop on it never says anything else.

* `whole_enqueue`: an `enqueue` that nobody interrupts is the one of `DualChannelCalls`.
* `reportsDrops_iff`: its answer is about this call when nothing was dropped before, or when this
  call drops something too.
-/

set_option autoImplicit false

namespace CrossFlow

open TriviallyCopyable
open Lib (Machine Pending Completes)

/-! ### Whole calls -/

/-- The fields that a call changes. -/
def DualChannelSpsc.rings (d : DualChannelSpsc) : DualRings where
  dataChannel := d.dataChannel.ring
  stateChannel := d.stateChannel.ring
  stateChannelSaturated := d.stateChannelSaturated
  stateChannelSaturatedCount := d.stateChannelSaturatedCount

/-- The actions of an `enqueue` of `event`. -/
def EnqueueActs (event : RawInputEventFlat) (a : DualAction) : Prop :=
  a = .callEnqueue event ∨ a = .stepEnqueue

/-- What `d` has become when a whole `enqueue` is over. -/
structure EnqueueDone (event : RawInputEventFlat) (d d' : DualChannelSpsc) : Prop where
  rings : d'.rings = (d.rings.enqueue event).1
  returned : d'.returned = d.returned ++ [(event, (d.rings.enqueue event).2)]
  enqueuePc : d'.enqueuePc = .idle

section Whole
variable {d : DualChannelSpsc} {event : RawInputEventFlat}

/-- A step of `enqueue` is a step. -/
theorem stepEnqueue_reaches (d : DualChannelSpsc) :
    dualMachine.Reaches (EnqueueActs event) d d.stepEnqueue := .single (.inr rfl) rfl

/-- The accesses of `tryPush` before its last are accesses of `enqueue`. -/
theorem tryPush_reaches (d : DualChannelSpsc) (state : StateEvent)
    {c c' : Channel RawInputEventFlat spscStateCapacity} (h : Pending Channel.stepPush c c') :
    dualMachine.Reaches (EnqueueActs event)
      { d with stateChannel := c, enqueuePc := .tryPush state }
      { d with stateChannel := c', enqueuePc := .tryPush state } := by
  refine h.reaches (m := dualMachine) (P := EnqueueActs event) (a := .stepEnqueue)
    (fun c => { d with stateChannel := c, enqueuePc := .tryPush state }) (.inr rfl) ?_
  intro c hret
  simp [dualMachine, DualChannelSpsc.stepEnqueue, hret]

/-- The accesses of `tryPushDropOldest` before its last are accesses of `enqueue`. -/
theorem tryPushDropOldest_reaches (d : DualChannelSpsc) (data : DataEvent)
    {c c' : Channel RawInputEventFlat spscDataCapacity} (h : Pending Channel.stepPush c c') :
    dualMachine.Reaches (EnqueueActs event)
      { d with dataChannel := c, enqueuePc := .tryPushDropOldest data }
      { d with dataChannel := c', enqueuePc := .tryPushDropOldest data } := by
  refine h.reaches (m := dualMachine) (P := EnqueueActs event) (a := .stepEnqueue)
    (fun c => { d with dataChannel := c, enqueuePc := .tryPushDropOldest data }) (.inr rfl) ?_
  intro c hret
  simp [dualMachine, DualChannelSpsc.stepEnqueue, hret]

/-- A whole call with a state event is a whole `tryPush`. -/
theorem whole_enqueue_state (hidle : d.enqueuePc = .idle)
    (hproducer : d.stateChannel.producer = .idle)
    (hstate : DualChannelSpsc.isStateEvent event = true) :
    ∃ d', dualMachine.Reaches (EnqueueActs event) d d' ∧ EnqueueDone event d d' := by
  obtain ⟨c, ⟨last, hpending, hlast⟩, hring, -, -⟩ :=
    whole_push d.stateChannel .tryPush event hproducer
  have hcall : d.callEnqueue event = { d with
      stateChannel := d.stateChannel.callPush .tryPush event
      enqueuePc := .tryPush ⟨event, hstate⟩ } := by
    simp only [DualChannelSpsc.callEnqueue, hidle, dif_pos hstate]
  have hstart : dualMachine.Reaches (EnqueueActs event) d (d.callEnqueue event) :=
    .single (a := .callEnqueue event) (.inl rfl) rfl
  rw [hcall] at hstart
  have hreach := hstart.trans (tryPush_reaches d ⟨event, hstate⟩ hpending)
  have hring' : c.ring = (d.rings.stateChannel.tryPush event).1 := hring
  change last.stepPush = (c, some (d.rings.stateChannel.tryPush event).2) at hlast
  -- What the whole call does, in terms of what its push returns.
  have henqueue : d.rings.enqueue event =
      if (d.rings.stateChannel.tryPush event).2 then
        ({ d.rings with stateChannel := c.ring }, .Success)
      else
        ({ d.rings with
            stateChannel := c.ring
            stateChannelSaturated := true
            stateChannelSaturatedCount := d.stateChannelSaturatedCount + 1 },
          .StateSaturated) := by
    rw [hring', DualRings.enqueue, if_pos hstate]
    rfl
  -- The push succeeds, or it is refused and the channel is marked as saturated.
  cases hret : (d.rings.stateChannel.tryPush event).2 with
  | true =>
    rw [hret] at hlast henqueue
    refine ⟨{ d with
        stateChannel := c
        enqueuePc := .idle
        returned := d.returned ++ [(event, .Success)] },
      hreach.trans (.single (a := .stepEnqueue) (.inr rfl) ?_), ?_⟩
    · simp only [dualMachine, DualChannelSpsc.stepEnqueue, hlast, DualChannelSpsc.returnEnqueue]
    · rw [if_pos rfl] at henqueue
      refine ⟨?_, ?_, rfl⟩
      · rw [henqueue]
        rfl
      · rw [henqueue]
  | false =>
    rw [hret] at hlast henqueue
    refine ⟨{ d with
        stateChannel := c
        stateChannelSaturated := true
        stateChannelSaturatedCount := d.stateChannelSaturatedCount + 1
        enqueuePc := .idle
        returned := d.returned ++ [(event, .StateSaturated)] }, ?_, ?_⟩
    · -- The refusing access, the flag store and the count.
      refine ((hreach.trans (stepEnqueue_reaches _)).trans (stepEnqueue_reaches _)).trans
        (.single (a := .stepEnqueue) (.inr rfl) ?_)
      simp only [dualMachine, DualChannelSpsc.stepEnqueue, hlast, DualChannelSpsc.returnEnqueue]
    · rw [if_neg Bool.false_ne_true] at henqueue
      refine ⟨?_, ?_, rfl⟩
      · rw [henqueue]
        rfl
      · rw [henqueue]

/-- A whole call with a data event is a whole `tryPushDropOldest`. -/
theorem whole_enqueue_data (hidle : d.enqueuePc = .idle)
    (hproducer : d.dataChannel.producer = .idle)
    (hdata : ¬ DualChannelSpsc.isStateEvent event = true) :
    ∃ d', dualMachine.Reaches (EnqueueActs event) d d' ∧ EnqueueDone event d d' := by
  obtain ⟨c, ⟨last, hpending, hlast⟩, hring, -, -⟩ :=
    whole_push d.dataChannel .tryPushDropOldest event hproducer
  have hcall : d.callEnqueue event = { d with
      dataChannel := d.dataChannel.callPush .tryPushDropOldest event
      enqueuePc := .tryPushDropOldest ⟨event, hdata⟩ } := by
    simp only [DualChannelSpsc.callEnqueue, hidle, dif_neg hdata]
  have hstart : dualMachine.Reaches (EnqueueActs event) d (d.callEnqueue event) :=
    .single (a := .callEnqueue event) (.inl rfl) rfl
  rw [hcall] at hstart
  have hreach := hstart.trans (tryPushDropOldest_reaches d ⟨event, hdata⟩ hpending)
  -- The result of the call depends on the drops so far, of this push and of all before it.
  have henqueue : d.rings.enqueue event =
      if 0 < c.ring.cumulativeDropCount then
        ({ d.rings with dataChannel := c.ring }, .DataDroppedOldest)
      else ({ d.rings with dataChannel := c.ring }, .Success) := by
    rw [hring, DualRings.enqueue, if_neg hdata]
    rfl
  refine ⟨{ d with
      dataChannel := c
      enqueuePc := .idle
      returned := d.returned ++ [(event, (d.rings.enqueue event).2)] }, ?_, ?_⟩
  · -- The last access of the push, and the load of the drop count.
    refine (hreach.trans (stepEnqueue_reaches _)).trans (.single (a := .stepEnqueue) (.inr rfl) ?_)
    simp only [dualMachine, DualChannelSpsc.stepEnqueue, hlast, DualChannelSpsc.returnEnqueue,
      henqueue]
    split
    · rfl
    · rfl
  · refine ⟨?_, rfl, rfl⟩
    rw [henqueue]
    split
    · rfl
    · rfl

/-- An `enqueue` that runs alone leaves the rings, and returns, as `DualRings.enqueue` has it. -/
theorem whole_enqueue (d : DualChannelSpsc) (event : RawInputEventFlat)
    (hidle : d.enqueuePc = .idle) (hstate : d.stateChannel.producer = .idle)
    (hdata : d.dataChannel.producer = .idle) :
    ∃ d', dualMachine.Reaches (EnqueueActs event) d d' ∧ EnqueueDone event d d' := by
  by_cases hkind : DualChannelSpsc.isStateEvent event = true
  · exact whole_enqueue_state hidle hstate hkind
  · exact whole_enqueue_data hidle hdata hkind

end Whole

/-! ### The answer -/

/-- `enqueue` of a data event says `DataDroppedOldest` exactly when it took from `tryPopData` an
event that it could still have returned, and says `Success` otherwise. -/
def ReportsDrops (d : DualRings) (event : DataEvent) : Prop :=
  ((d.enqueue event.val).2 = .DataDroppedOldest ↔
      d.dataChannel.Evicts (d.enqueue event.val).1.dataChannel) ∧
    (¬ d.dataChannel.Evicts (d.enqueue event.val).1.dataChannel →
      (d.enqueue event.val).2 = .Success)

/-- A whole call leaves the data ring stable. -/
theorem dataChannel_stable_step (d : DualRings) (call : DualCall)
    (hs : StableInv d.dataChannel) : StableInv (dualCallMachine.step d call).dataChannel := by
  cases call with
  | enqueue event =>
    simp only [dualCallMachine, DualRings.enqueue]
    split
    · split
      · exact hs
      · exact hs
    · split
      · exact hs.tryPushDropOldest event
      · exact hs.tryPushDropOldest event
  | tryPopData => exact hs.tryPop
  | tryPopState => exact hs
  | clearStateChannelSaturated => exact hs

/-- Between whole calls the data ring is stable. -/
theorem dataChannel_stable_run (calls : List DualCall) :
    StableInv (dualCallMachine.run calls).dataChannel :=
  Machine.Invariant.of_step (m := dualCallMachine) (P := fun d => StableInv d.dataChannel)
    stableInv_init dataChannel_stable_step calls

/-- A data event goes to the data ring. -/
theorem enqueue_dataChannel (d : DualRings) (event : DataEvent) :
    (d.enqueue event.val).1.dataChannel = (d.dataChannel.tryPushDropOldest event.val).1 := by
  rw [DualRings.enqueue, if_neg event.property]
  dsimp only
  split
  · rfl
  · rfl

/-- The answer looks at the count of all drops there have been. -/
theorem enqueue_result (d : DualRings) (event : DataEvent) :
    (d.enqueue event.val).2 =
      if 0 < (d.dataChannel.tryPushDropOldest event.val).1.cumulativeDropCount then
        .DataDroppedOldest
      else .Success := by
  rw [DualRings.enqueue, if_neg event.property]
  dsimp only
  split
  · rfl
  · rfl

/-- The drop count before the call has to be zero, unless the call drops. -/
theorem reportsDrops_iff {d : DualRings} (hs : StableInv d.dataChannel) (event : DataEvent) :
    ReportsDrops d event ↔
      d.dataChannel.cumulativeDropCount = 0 ∨
        spscDataCapacity.val ≤ d.dataChannel.head - d.dataChannel.tail := by
  have hsub : subU64 d.dataChannel.head d.dataChannel.tail =
      d.dataChannel.head - d.dataChannel.tail := if_pos hs.tail_le
  rw [ReportsDrops, enqueue_dataChannel, enqueue_result,
    SpscRingBuffer.tryPushDropOldest_evicts_iff hs]
  simp only [SpscRingBuffer.tryPushDropOldest, SpscRingBuffer.publish_tail, hsub]
  by_cases hfull : spscDataCapacity.val ≤ d.dataChannel.head - d.dataChannel.tail
  · simp [hfull]
  · by_cases hcount : d.dataChannel.cumulativeDropCount = 0
    · simp [hfull, hcount]
    · simp [hfull, hcount, Nat.pos_of_ne_zero hcount]

/-- After every history of calls, an `enqueue` of a data event reports its own drop, or that there
was none, exactly when nothing was dropped before or the data ring is full. -/
theorem enqueue_reportsDrops_iff (calls : List DualCall) (event : DataEvent) :
    let data := (dualCallMachine.run calls).dataChannel
    ReportsDrops (dualCallMachine.run calls) event ↔
      data.cumulativeDropCount = 0 ∨ spscDataCapacity.val ≤ data.head - data.tail :=
  reportsDrops_iff (dataChannel_stable_run calls) event

/-- `n` data events that nobody pops, by induction on `n`. -/
theorem enqueue_replicate (event : DataEvent) (n : Nat) :
    let data := (dualCallMachine.run (List.replicate n (.enqueue event.val))).dataChannel
    data.head = n ∧ data.tail = 0 ∧ data.cumulativeDropCount = n - spscDataCapacity.val := by
  induction n with
  | zero => exact ⟨rfl, rfl, rfl⟩
  | succ n ih =>
    obtain ⟨hhead, htail, hcount⟩ := ih
    rw [List.replicate_succ', Machine.run_append_singleton]
    generalize dualCallMachine.run (List.replicate n (.enqueue event.val)) = d at *
    have hsub : subU64 d.dataChannel.head d.dataChannel.tail = n := by
      rw [subU64, hhead, htail]
      exact if_pos (Nat.zero_le n)
    show let data := (d.enqueue event.val).1.dataChannel
      data.head = n + 1 ∧ data.tail = 0 ∧ data.cumulativeDropCount = n + 1 - spscDataCapacity.val
    simp only [enqueue_dataChannel, SpscRingBuffer.tryPushDropOldest,
      SpscRingBuffer.publish_tail, hsub]
    -- From the capacity on each push drops one.
    split
    · refine ⟨congrArg (· + 1) hhead, htail, ?_⟩
      show d.dataChannel.cumulativeDropCount + 1 = _
      omega
    · refine ⟨congrArg (· + 1) hhead, htail, ?_⟩
      show d.dataChannel.cumulativeDropCount = _
      omega

/-- After 257 movements, one of which was dropped, and a pop, the next movement takes a free slot
and is reported as a drop. -/
theorem enqueue_reports_old_drop :
    let event : DataEvent := ⟨⟨0, 0, RawEventKind.MouseMove.toU8, 1, 0, 0, 0, 0, 0, 1⟩, by decide⟩
    ¬ ReportsDrops
      (dualCallMachine.run (List.replicate 257 (.enqueue event.val) ++ [.tryPopData])) event := by
  intro event hreports
  rw [reportsDrops_iff (dataChannel_stable_run _), Machine.run_append_singleton] at hreports
  have hstable := dataChannel_stable_run (List.replicate 257 (.enqueue event.val))
  obtain ⟨hhead, htail, hcount⟩ := enqueue_replicate event 257
  generalize dualCallMachine.run (List.replicate 257 (.enqueue event.val)) = d at *
  have hboundary := d.dataChannel.logicalDropBoundaryValue_eq
  have hcapacity : spscDataCapacity.val = 256 := rfl
  -- The pop goes past the dropped event, so that 255 events are left.
  have hpop : (dualCallMachine.step d .tryPopData).dataChannel =
      { d.dataChannel with tail := d.dataChannel.logicalDropBoundaryValue + 1 } :=
    congrArg Prod.fst (SpscRingBuffer.tryPop_of_lt hstable (by omega))
  rw [hpop] at hreports
  simp only [hcount, hhead] at hreports
  omega

end CrossFlow
