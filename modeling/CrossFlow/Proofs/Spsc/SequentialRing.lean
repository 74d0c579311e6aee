import CrossFlow.Lib.DropOldestQueue
import CrossFlow.Platform.Common.SpscCalls
import CrossFlow.Proofs.Spsc.Seqlock

/-!
# `CrossFlow.Proofs.Spsc.SequentialRing`: the ring as a bounded queue

When no two calls overlap, the items that can still be popped are those from the drop boundary to
`head_` (`unread`). `tail_` lags behind the boundary by what was overwritten since the last `tryPop`,
and nothing bounds how far.

* `tryPop_of_lt`, `unread_publish`: what a pop returns, and what a push leaves to be popped.
* `ring_refines_queue`: with `tryPushDropOldest` alone, the ring is a queue that drops its oldest
  item.
-/

set_option autoImplicit false

namespace CrossFlow

open TriviallyCopyable
open Lib (Machine DropOldestQueue QueueCall queueMachine pushes taken)

variable {T : Type} [TriviallyCopyable T] {cap : Capacity}

/-- With no call in progress every slot is stable, and those within reach of `head_` hold the item
of their place. -/
structure StableInv (r : SpscRingBuffer T cap) : Prop where
  tail_le : r.tail ≤ r.head
  even : ∀ t, (r.slot t).writeVersion % 2 = 0
  seq : ∀ t < r.head, r.head ≤ t + cap.val → (r.slot t).seq = t + 1

/-- The invariant holds at the start. -/
theorem stableInv_init : StableInv (SpscRingBuffer.init : SpscRingBuffer T cap) where
  tail_le := Nat.le_refl 0
  even _ := rfl
  seq t h := absurd h (Nat.not_lt_zero t)

namespace SpscRingBuffer

/-- The items that can still be popped, each with the number of its push. -/
def unread (r : SpscRingBuffer T cap) : List (Nat × T) :=
  (List.range' r.logicalDropBoundaryValue (r.head - r.logicalDropBoundaryValue)).map fun t =>
    (t, ofWords (r.slot t).payload)

/-- The boundary as the larger of two numbers. -/
theorem logicalDropBoundaryValue_eq (r : SpscRingBuffer T cap) :
    r.logicalDropBoundaryValue = max r.tail (r.head - cap.val) := dropBoundary_eq cap r.head r.tail

/-- The pending drops are those beyond the capacity. -/
theorem pendingDroppedValue_eq (r : SpscRingBuffer T cap) :
    r.pendingDroppedValue = (r.head - cap.val) - r.tail := by
  simp only [pendingDroppedValue, logicalDropBoundaryValue_eq]
  split <;> omega

/-- As many items are unread as lie between the boundary and the head. -/
@[simp] theorem length_unread (r : SpscRingBuffer T cap) :
    r.unread.length = r.head - r.logicalDropBoundaryValue := by
  simp [unread]

/-- The items that are unread, in the order they were pushed. -/
theorem getElem_unread (r : SpscRingBuffer T cap) {k : Nat} (hk : k < r.unread.length) :
    r.unread[k] = (r.logicalDropBoundaryValue + k,
      ofWords (r.slot (r.logicalDropBoundaryValue + k)).payload) := by
  simp only [unread, List.getElem_map, List.getElem_range', Nat.one_mul]

/-- Publishing moves the head past the item. -/
@[simp] theorem publish_head (r : SpscRingBuffer T cap) (h : Nat) (item : T) :
    (r.publish h item).head = h + 1 := rfl

/-- Publishing leaves the tail. -/
@[simp] theorem publish_tail (r : SpscRingBuffer T cap) (h : Nat) (item : T) :
    (r.publish h item).tail = r.tail := rfl

/-- Publishing counts no drop. -/
@[simp] theorem publish_cumulativeDropCount (r : SpscRingBuffer T cap) (h : Nat) (item : T) :
    (r.publish h item).cumulativeDropCount = r.cumulativeDropCount := rfl

/-- Publishing changes the slot of the item only. -/
theorem slot_publish (r : SpscRingBuffer T cap) (h t : Nat) (item : T) :
    (r.publish h item).slot t =
      if cap.index t = cap.index h then
        { payload := toWords item, seq := h + 1, writeVersion := (r.slot t).writeVersion + 1 + 1 }
      else r.slot t :=
  slot_modifySlot r h t fun s =>
    { payload := toWords item, seq := h + 1, writeVersion := s.writeVersion + 1 + 1 }

/-! ### A push -/

/-- A push leaves what was unread and its own item, less the first ones that it overwrote. -/
theorem unread_publish {r : SpscRingBuffer T cap} (htail : r.tail ≤ r.head) (item : T) :
    (r.publish r.head item).unread = (r.unread ++ [(r.head, item)]).drop
      (max r.tail (r.head + 1 - cap.val) - r.logicalDropBoundaryValue) := by
  have hpos := cap.pos
  have hafter : (r.publish r.head item).logicalDropBoundaryValue =
      max r.tail (r.head + 1 - cap.val) := logicalDropBoundaryValue_eq _
  have hbefore := r.logicalDropBoundaryValue_eq
  refine List.ext_getElem ?_ ?_
  · simp only [length_unread, hafter, publish_head, List.length_drop, List.length_append,
      List.length_singleton]
    omega
  · intro k hk _
    have hlength := hk
    simp only [length_unread, hafter, publish_head] at hlength
    have hunread := r.length_unread
    rw [getElem_unread _ hk, hafter, List.getElem_drop, List.getElem_append]
    -- The last item is the one that was pushed; the others are in slots of their own.
    by_cases hlast : max r.tail (r.head + 1 - cap.val) + k = r.head
    · rw [dif_neg (by omega), List.getElem_singleton, hlast, slot_publish, if_pos rfl,
        ofWords_toWords]
    · have hslot : cap.index (max r.tail (r.head + 1 - cap.val) + k) ≠ cap.index r.head :=
        cap.index_ne (by omega) (by omega)
      have hindex : r.logicalDropBoundaryValue +
          (max r.tail (r.head + 1 - cap.val) - r.logicalDropBoundaryValue + k) =
            max r.tail (r.head + 1 - cap.val) + k := by omega
      rw [dif_pos (by omega), getElem_unread, hindex, slot_publish, if_neg hslot]

end SpscRingBuffer

/-- Publishing an item keeps the invariant. -/
theorem StableInv.publish {r : SpscRingBuffer T cap} (hs : StableInv r) (item : T) :
    StableInv (r.publish r.head item) where
  tail_le := Nat.le_succ_of_le hs.tail_le
  even t := by
    have heven := hs.even t
    rw [SpscRingBuffer.slot_publish]
    split
    · show ((r.slot t).writeVersion + 1 + 1) % 2 = 0
      omega
    · exact heven
  seq t ht hreach := by
    simp only [SpscRingBuffer.publish_head] at ht hreach
    by_cases hlast : t = r.head
    · rw [SpscRingBuffer.slot_publish, hlast, if_pos rfl]
    · rw [SpscRingBuffer.slot_publish, if_neg (cap.index_ne (by omega) (by omega))]
      exact hs.seq t (by omega) (by omega)

/-- The invariant is about `head_`, `tail_` and the slots. -/
theorem StableInv.of_tail {r : SpscRingBuffer T cap} (hs : StableInv r) {tail : Nat}
    (htail : tail ≤ r.head) : StableInv { r with tail := tail } := ⟨htail, hs.even, hs.seq⟩

/-! ### A pop -/

namespace SpscRingBuffer

/-- From an empty ring nothing is popped. -/
theorem tryPop_of_empty {r : SpscRingBuffer T cap} (hempty : r.head = r.tail) :
    r.tryPop = (r, none) := by
  have hboundary : dropBoundary cap r.head r.tail = r.tail := by
    rw [dropBoundary_eq]
    omega
  rw [tryPop]
  simp only [hboundary, Nat.lt_irrefl, if_false, Nat.le_of_eq hempty, if_true]

/-- A pop jumps to the boundary and takes the item there. -/
theorem tryPop_of_lt {r : SpscRingBuffer T cap} (hs : StableInv r) (hlt : r.tail < r.head) :
    r.tryPop = ({ r with tail := r.logicalDropBoundaryValue + 1 },
      some (ofWords (r.slot r.logicalDropBoundaryValue).payload)) := by
  have hpos := cap.pos
  have hboundary := r.logicalDropBoundaryValue_eq
  have hdef : dropBoundary cap r.head r.tail = r.logicalDropBoundaryValue := rfl
  have hjump : (if r.tail < r.logicalDropBoundaryValue then
      { r with tail := r.logicalDropBoundaryValue } else r) =
        { r with tail := r.logicalDropBoundaryValue } := by
    split
    · rfl
    · have hsame : r.logicalDropBoundaryValue = r.tail := by omega
      rw [hsame]
  have hnonempty : ¬ r.head ≤ r.logicalDropBoundaryValue := by omega
  have heven := hs.even r.logicalDropBoundaryValue
  have hseq := hs.seq r.logicalDropBoundaryValue (by omega) (by omega)
  rw [tryPop]
  simp only [hdef, hjump, if_neg hnonempty]
  -- The slots do not depend on `tail_`.
  show (if (r.slot r.logicalDropBoundaryValue).writeVersion % 2 ≠ 0 then _ else
    if (r.slot r.logicalDropBoundaryValue).seq ≠ r.logicalDropBoundaryValue + 1 then _ else _) = _
  rw [if_neg (not_not.mpr heven), if_neg (not_not.mpr hseq)]
  rfl

/-- In an empty ring nothing is unread. -/
theorem unread_of_empty {r : SpscRingBuffer T cap} (hempty : r.head = r.tail) : r.unread = [] := by
  refine List.eq_nil_of_length_eq_zero ?_
  rw [length_unread, logicalDropBoundaryValue_eq]
  omega

/-- A pop takes the first of the unread items. -/
theorem unread_eq_cons {r : SpscRingBuffer T cap} (hlt : r.tail < r.head) :
    r.unread = (r.logicalDropBoundaryValue,
        ofWords (r.slot r.logicalDropBoundaryValue).payload) ::
      ({ r with tail := r.logicalDropBoundaryValue + 1 } : SpscRingBuffer T cap).unread := by
  have hpos := cap.pos
  have hbefore := r.logicalDropBoundaryValue_eq
  have hafter : ({ r with tail := r.logicalDropBoundaryValue + 1 } :
      SpscRingBuffer T cap).logicalDropBoundaryValue = r.logicalDropBoundaryValue + 1 := by
    rw [logicalDropBoundaryValue_eq]
    show max (r.logicalDropBoundaryValue + 1) (r.head - cap.val) = _
    omega
  have hlength : r.head - r.logicalDropBoundaryValue =
      (r.head - (r.logicalDropBoundaryValue + 1)) + 1 := by omega
  rw [unread, hlength, List.range'_succ, List.map_cons, unread, hafter]
  rfl

/-- A pop takes the first item that is unread. -/
theorem unread_tryPop {r : SpscRingBuffer T cap} (hs : StableInv r) :
    r.tryPop.1.unread = r.unread.tail ∧ r.tryPop.2 = r.unread.head?.map Prod.snd := by
  have htail := hs.tail_le
  by_cases hempty : r.head = r.tail
  · rw [tryPop_of_empty hempty, unread_of_empty hempty]
    exact ⟨rfl, rfl⟩
  · have hlt : r.tail < r.head := by omega
    rw [tryPop_of_lt hs hlt, unread_eq_cons hlt]
    exact ⟨rfl, rfl⟩

end SpscRingBuffer

/-! ### Runs -/

/-- A push that drops the oldest keeps the invariant. -/
theorem StableInv.tryPushDropOldest {r : SpscRingBuffer T cap} (hs : StableInv r) (item : T) :
    StableInv (r.tryPushDropOldest item).1 := by
  have hpublish := hs.publish item
  simp only [SpscRingBuffer.tryPushDropOldest]
  split
  · exact ⟨hpublish.tail_le, hpublish.even, hpublish.seq⟩
  · exact hpublish

/-- A push keeps the invariant. -/
theorem StableInv.tryPush {r : SpscRingBuffer T cap} (hs : StableInv r) (item : T) :
    StableInv (r.tryPush item).1 := by
  simp only [SpscRingBuffer.tryPush]
  split
  · exact hs
  · exact hs.publish item

/-- A pop keeps the invariant. -/
theorem StableInv.tryPop {r : SpscRingBuffer T cap} (hs : StableInv r) :
    StableInv r.tryPop.1 := by
  have htail := hs.tail_le
  have hpos := cap.pos
  by_cases hempty : r.head = r.tail
  · rw [SpscRingBuffer.tryPop_of_empty hempty]
    exact hs
  · rw [SpscRingBuffer.tryPop_of_lt hs (by omega)]
    refine hs.of_tail ?_
    rw [SpscRingBuffer.logicalDropBoundaryValue_eq]
    omega

/-- Every call keeps the invariant. -/
theorem StableInv.step {r : SpscRingBuffer T cap} (hs : StableInv r) (call : RingCall T) :
    StableInv ((ringMachine T cap).step r call) := by
  cases call with
  | push kind item =>
    cases kind with
    | tryPush => exact hs.tryPush item
    | tryPushDropOldest => exact hs.tryPushDropOldest item
  | pop => exact hs.tryPop

/-- The invariant holds after every run of calls. -/
theorem stableInv_run (calls : List (RingCall T)) : StableInv ((ringMachine T cap).run calls) :=
  Machine.Invariant.of_step stableInv_init (fun _ call hs => hs.step call) calls

/-! ### The queue -/

/-- Calls of `tryPushDropOldest` and `tryPop` on one ring. -/
def dropOldestMachine (T : Type) [TriviallyCopyable T] (cap : Capacity) :
    Machine (SpscRingBuffer T cap) (QueueCall T) where
  init := .init
  step r
    | .push item => (r.tryPushDropOldest item).1
    | .pop => r.tryPop.1

namespace SpscRingBuffer

/-- What a call returns: a `tryPop`, an item or false. -/
def returned (r : SpscRingBuffer T cap) : QueueCall T → List (Option T)
  | .push _ => []
  | .pop => [r.tryPop.2]

/-- The ring as a queue. -/
def queue (r : SpscRingBuffer T cap) : DropOldestQueue T cap.val where
  items := r.unread.map Prod.snd
  bounded := by
    rw [List.length_map, length_unread, logicalDropBoundaryValue_eq]
    omega
  evicted := r.cumulativeDropCount
  unskipped := r.pendingDroppedValue

/-- The new ring is the empty queue. -/
theorem queue_init : (SpscRingBuffer.init : SpscRingBuffer T cap).queue = .empty := by
  refine DropOldestQueue.ext ?_ rfl ?_
  · have hempty : (SpscRingBuffer.init : SpscRingBuffer T cap).unread = [] := unread_of_empty rfl
    exact congrArg (List.map Prod.snd) hempty
  · have hpending := pendingDroppedValue_eq (init : SpscRingBuffer T cap)
    have hnone : 0 - cap.val - 0 = 0 := by omega
    exact hpending.trans hnone

/-- A push evicts when `Capacity` items are unread, which is what the drop check finds. -/
theorem queue_tryPushDropOldest {r : SpscRingBuffer T cap} (hs : StableInv r) (item : T) :
    (r.tryPushDropOldest item).1.queue = r.queue.push item := by
  have htail := hs.tail_le
  have hpos := cap.pos
  have hboundary := r.logicalDropBoundaryValue_eq
  have hsub : subU64 r.head r.tail = r.head - r.tail := if_pos htail
  -- The push evicts what the boundary moves by: one item, or none.
  have hexcess : r.queue.excess =
      max r.tail (r.head + 1 - cap.val) - r.logicalDropBoundaryValue := by
    rw [DropOldestQueue.excess, queue, List.length_map, length_unread]
    omega
  have hitems : (r.publish r.head item).unread.map Prod.snd =
      (r.queue.items ++ [item]).drop r.queue.excess := by
    rw [unread_publish htail, List.map_drop, List.map_append, hexcess]
    rfl
  have hpending : (r.head + 1 - cap.val) - r.tail = r.pendingDroppedValue + r.queue.excess := by
    rw [pendingDroppedValue_eq, hexcess]
    omega
  simp only [tryPushDropOldest, publish_tail, hsub]
  -- The ring was full, and one more drop is counted.
  split
  · rename_i hfull
    refine DropOldestQueue.ext hitems ?_ ?_
    · show r.cumulativeDropCount + 1 = r.cumulativeDropCount + r.queue.excess
      omega
    · exact (pendingDroppedValue_eq _).trans hpending
  · rename_i hroom
    refine DropOldestQueue.ext hitems ?_ ?_
    · show r.cumulativeDropCount = r.cumulativeDropCount + r.queue.excess
      omega
    · exact (pendingDroppedValue_eq _).trans hpending

/-- A pop of the ring is a pop of the queue. -/
theorem queue_tryPop {r : SpscRingBuffer T cap} (hs : StableInv r) :
    r.tryPop.1.queue = r.queue.pop ∧ r.tryPop.2 = r.queue.items.head? := by
  obtain ⟨hrest, hitem⟩ := unread_tryPop hs
  have hframe : r.tryPop.1.cumulativeDropCount = r.cumulativeDropCount ∧
      r.tryPop.1.pendingDroppedValue = 0 := by
    -- After a pop the tail is at the boundary, so nothing is pending.
    have htail := hs.tail_le
    rw [pendingDroppedValue_eq]
    by_cases hempty : r.head = r.tail
    · rw [tryPop_of_empty hempty]
      refine ⟨rfl, ?_⟩
      show r.head - cap.val - r.tail = 0
      omega
    · rw [tryPop_of_lt hs (by omega)]
      refine ⟨rfl, ?_⟩
      show r.head - cap.val - (r.logicalDropBoundaryValue + 1) = 0
      rw [logicalDropBoundaryValue_eq]
      omega
  constructor
  · refine DropOldestQueue.ext ?_ hframe.1 hframe.2
    show r.tryPop.1.unread.map Prod.snd = (r.unread.map Prod.snd).tail
    rw [hrest, List.map_tail]
  · rw [hitem]
    exact List.head?_map.symm

end SpscRingBuffer

/-- A call of the drop-oldest ring keeps the invariant. -/
theorem StableInv.dropOldest_step (r : SpscRingBuffer T cap) (call : QueueCall T)
    (hs : StableInv r) : StableInv ((dropOldestMachine T cap).step r call) := by
  cases call with
  | push item => exact hs.tryPushDropOldest item
  | pop => exact hs.tryPop

/-- A call does to the ring what it does to the queue. -/
theorem StableInv.queue_step (r : SpscRingBuffer T cap) (call : QueueCall T) (hs : StableInv r) :
    ((dropOldestMachine T cap).step r call).queue =
      (queueMachine T cap.val).step r.queue call := by
  cases call with
  | push item => exact SpscRingBuffer.queue_tryPushDropOldest hs item
  | pop => exact (SpscRingBuffer.queue_tryPop hs).1

/-- A call of the ring returns what the queue does. -/
theorem StableInv.returned_eq (r : SpscRingBuffer T cap) (call : QueueCall T) (hs : StableInv r) :
    r.returned call = r.queue.returned call := by
  cases call with
  | push item => rfl
  | pop => exact congrArg (fun x => [x]) (SpscRingBuffer.queue_tryPop hs).2

/-- Whole calls of `tryPushDropOldest` and `tryPop` behave as the queue that keeps the last
`Capacity` unpopped items: the pops return the same, what was evicted and not yet skipped is
`pendingDroppedValue()`, and every push is popped, counted as dropped or still there. -/
theorem ring_refines_queue (T : Type) [TriviallyCopyable T] (cap : Capacity)
    (calls : List (QueueCall T)) :
    let ring := (dropOldestMachine T cap).run calls
    let queue := (queueMachine T cap.val).run calls
    let pops := (dropOldestMachine T cap).outputs SpscRingBuffer.returned .init calls
    pops = (queueMachine T cap.val).outputs DropOldestQueue.returned .empty calls ∧
      ring.pendingDroppedValue = queue.unskipped ∧
      pushes calls =
        taken pops + ring.cumulativeDropCount + (ring.head - ring.logicalDropBoundaryValue) := by
  intro ring queue pops
  have hinit : StableInv (.init : SpscRingBuffer T cap) := stableInv_init
  obtain ⟨hqueue, hpops⟩ := Machine.outputs_of_view StableInv.dropOldest_step
    StableInv.queue_step StableInv.returned_eq hinit calls
  rw [SpscRingBuffer.queue_init] at hqueue hpops
  have hring : ring.queue = queue := hqueue
  refine ⟨hpops, congrArg DropOldestQueue.unskipped hring, ?_⟩
  -- The balance is that of the queue, whose items are those from the boundary on.
  have haccount := DropOldestQueue.account_run (.empty : DropOldestQueue T cap.val) calls
  rw [← hpops] at haccount
  have hevicted : ring.cumulativeDropCount = queue.evicted :=
    congrArg DropOldestQueue.evicted hring
  have hlength : ring.head - ring.logicalDropBoundaryValue = queue.items.length := by
    rw [← hring, SpscRingBuffer.queue, List.length_map, SpscRingBuffer.length_unread]
  rw [hevicted, hlength]
  exact haccount

end CrossFlow
