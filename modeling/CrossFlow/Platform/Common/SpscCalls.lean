import CrossFlow.Platform.Common.SpscRingBuffer

/-!
# `CrossFlow.Platform.Common.SpscCalls`: whole calls of the ring buffer

The member functions of `platform/common/spsc_ring_buffer.hpp`, each as one step. It is what they do
when no two calls overlap.
-/

set_option autoImplicit false

namespace CrossFlow

open TriviallyCopyable

namespace SpscRingBuffer

variable {T : Type} [TriviallyCopyable T] {cap : Capacity}

/-- What both push functions store in the slot of `h`, and the `head_.store`. -/
def publish (r : SpscRingBuffer T cap) (h : Nat) (item : T) : SpscRingBuffer T cap :=
  { r.modifySlot h fun s =>
      { payload := toWords item, seq := h + 1, writeVersion := s.writeVersion + 1 + 1 } with
    head := h + 1 }

/-- `tryPush` when the consumer rests: a full ring refuses the item. -/
def tryPush (r : SpscRingBuffer T cap) (item : T) : SpscRingBuffer T cap × Bool :=
  let h := r.head
  let ct := r.tail
  if subU64 h ct = cap.val then (r, false) else (r.publish h item, true)

/-- `tryPushDropOldest` when the consumer rests: the item is published in any case, and a full ring
counts a drop. -/
def tryPushDropOldest (r : SpscRingBuffer T cap) (item : T) : SpscRingBuffer T cap × Bool :=
  let h := r.head
  let r := r.publish h item
  if cap.val ≤ subU64 h r.tail then
    ({ r with cumulativeDropCount := r.cumulativeDropCount + 1 }, true)
  else (r, true)

/-- The boundary that `tryPop`, `logicalDropBoundaryValue` and the checks compute. -/
def dropBoundary (cap : Capacity) (h t : Nat) : Nat :=
  let hMinusCap := if cap.val < h then h - cap.val else 0
  if hMinusCap < t then t else hMinusCap

/-- The boundary is `tail_`, or `Capacity` behind `head_`. -/
theorem dropBoundary_eq (cap : Capacity) (h t : Nat) :
    dropBoundary cap h t = max t (h - cap.val) := by
  simp only [dropBoundary]
  split <;> split <;> omega

/-- `false` is `none`. `v2` and `s2` are `v1` and `s1`, since nobody writes in between. -/
def tryPop (r : SpscRingBuffer T cap) : SpscRingBuffer T cap × Option T :=
  let h := r.head
  let ct := dropBoundary cap h r.tail
  let r' := if r.tail < ct then { r with tail := ct } else r
  if h ≤ ct then (r', none)
  else
    let v1 := (r'.slot ct).writeVersion
    if v1 % 2 ≠ 0 then (r', none)
    else
      let s1 := (r'.slot ct).seq
      if s1 ≠ ct + 1 then tryPop { r' with tail := ct + 1 }
      else ({ r' with tail := ct + 1 }, some (ofWords (r'.slot ct).payload))
termination_by r.head - r.tail
decreasing_by
  rename_i hlt _ _
  have hct : ct = max r.tail (r.head - cap.val) := dropBoundary_eq cap r.head r.tail
  have hhead : r'.head = r.head := by
    simp only [r']
    split <;> rfl
  show r'.head - (ct + 1) < r.head - r.tail
  omega

/-- The first item that was not dropped. -/
def logicalDropBoundaryValue (r : SpscRingBuffer T cap) : Nat := dropBoundary cap r.head r.tail

/-- How many items were dropped that `tail_` has not passed. -/
def pendingDroppedValue (r : SpscRingBuffer T cap) : Nat :=
  let ldb := r.logicalDropBoundaryValue
  if r.tail < ldb then ldb - r.tail else 0

end SpscRingBuffer

/-- A call on a ring. -/
inductive RingCall (T : Type) where
  | push (kind : PushKind) (item : T)
  | pop

namespace SpscRingBuffer

variable {T : Type} [TriviallyCopyable T] {cap : Capacity}

/-- The push of a kind. -/
def tryPushOf (r : SpscRingBuffer T cap) (item : T) : PushKind → SpscRingBuffer T cap × Bool
  | .tryPush => r.tryPush item
  | .tryPushDropOldest => r.tryPushDropOldest item

/-- One call. -/
def step (r : SpscRingBuffer T cap) : RingCall T → SpscRingBuffer T cap
  | .push kind item => (r.tryPushOf item kind).1
  | .pop => r.tryPop.1

end SpscRingBuffer

/-- Calls on one ring, none of which overlap. -/
def ringMachine (T : Type) [TriviallyCopyable T] (cap : Capacity) :
    Lib.Machine (SpscRingBuffer T cap) (RingCall T) where
  init := .init
  step := SpscRingBuffer.step

end CrossFlow
