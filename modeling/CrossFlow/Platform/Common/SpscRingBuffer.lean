import Mathlib.Algebra.Group.Nat.Defs
import Mathlib.Logic.Function.Basic
import CrossFlow.Lib.Machine
import CrossFlow.Platform.Common.AtomicPayload

/-!
# `CrossFlow.Platform.Common.SpscRingBuffer`: the seqlock ring buffer

The model of `platform/common/spsc_ring_buffer.hpp` and `spsc_slot.hpp`, at the grain of single
atomic accesses in a sequentially consistent memory. A call of `tryPush`, `tryPushDropOldest` or
`tryPop` is a program counter that carries the call's locals. One step makes the one atomic
access the counter stands for (a load, a store, or a `fetch_add`) together with the local
computation up to the next access. The step that makes the last access of a call also returns.

Counters are natural numbers: the model is about runs in which no counter reaches `2 ^ 64`.
Subtractions keep the machine's wrap-around, because `h - tail_.load()` can be negative.

A `Channel` is a ring with the call in progress on each side and the history of what was
pushed and popped. The history variables are written and never read by the code's steps.
The `lpCallback_` observer reads counters and writes nothing, so it has no step here.
-/

set_option autoImplicit false

namespace CrossFlow

open TriviallyCopyable

/-- `Capacity` with the three conditions its `static_assert`s and its type put on it. -/
structure Capacity where
  val : Nat
  pos : 0 < val
  pow2 : val &&& (val - 1) = 0
  lt : val < 2 ^ 64

/-- `h % Capacity`. -/
def Capacity.index (cap : Capacity) (h : Nat) : Fin cap.val := ⟨h % cap.val, Nat.mod_lt h cap.pos⟩

/-- `a - b` on `uint64_t`, for operands below `2 ^ 64`. -/
def subU64 (a b : Nat) : Nat := if b ≤ a then a - b else a + 2 ^ 64 - b

/-- `Slot<T>`. -/
structure Slot (T : Type) [TriviallyCopyable T] where
  payload : AtomicPayload T
  seq : Nat
  writeVersion : Nat

/-- The shared atomics of `SpscRingBuffer<T, Capacity>`. -/
structure SpscRingBuffer (T : Type) [TriviallyCopyable T] (cap : Capacity) where
  buffer : Fin cap.val → Slot T
  head : Nat
  tail : Nat
  cumulativeDropCount : Nat

namespace SpscRingBuffer

variable {T : Type} [TriviallyCopyable T] {cap : Capacity}

/-- The constructor: `buffer_[i].initialize(i)`, `head_` and `tail_` zero. -/
def init : SpscRingBuffer T cap where
  buffer i := { payload := Vector.replicate _ 0, seq := i.val, writeVersion := 0 }
  head := 0
  tail := 0
  cumulativeDropCount := 0

/-- `buffer_[h % Capacity]`. -/
def slot (r : SpscRingBuffer T cap) (h : Nat) : Slot T := r.buffer (cap.index h)

/-- The ring with `buffer_[h % Capacity]` changed by `f`. -/
def modifySlot (r : SpscRingBuffer T cap) (h : Nat) (f : Slot T → Slot T) : SpscRingBuffer T cap :=
  { r with buffer := Function.update r.buffer (cap.index h) (f (r.slot h)) }

/-- A store to a slot leaves `head_`. -/
@[simp] theorem modifySlot_head (r : SpscRingBuffer T cap) (h : Nat) (f : Slot T → Slot T) :
    (r.modifySlot h f).head = r.head := rfl

/-- A store to a slot leaves `tail_`. -/
@[simp] theorem modifySlot_tail (r : SpscRingBuffer T cap) (h : Nat) (f : Slot T → Slot T) :
    (r.modifySlot h f).tail = r.tail := rfl

/-- A store to a slot leaves the count of drops. -/
@[simp] theorem modifySlot_cumulativeDropCount (r : SpscRingBuffer T cap) (h : Nat)
    (f : Slot T → Slot T) :
    (r.modifySlot h f).cumulativeDropCount = r.cumulativeDropCount := rfl

/-- A store to a slot is seen through every number with the same index. -/
theorem slot_modifySlot (r : SpscRingBuffer T cap) (h t : Nat) (f : Slot T → Slot T) :
    (r.modifySlot h f).slot t = if cap.index t = cap.index h then f (r.slot t) else r.slot t := by
  by_cases ht : cap.index t = cap.index h
  · simp [slot, modifySlot, ht]
  · simp [slot, modifySlot, ht]

/-- A store to a slot is seen there. -/
@[simp] theorem slot_modifySlot_self (r : SpscRingBuffer T cap) (h : Nat) (f : Slot T → Slot T) :
    (r.modifySlot h f).slot h = f (r.slot h) := by
  rw [slot_modifySlot, if_pos rfl]

end SpscRingBuffer

/-- Which of the two push functions a call is. -/
inductive PushKind where
  | tryPush
  | tryPushDropOldest
  deriving DecidableEq

/-- Where a push call stands: the next atomic access it makes, with its locals. -/
inductive ProducerPc (T : Type) where
  | idle
  /-- `h = head_.load()` -/
  | loadHead (kind : PushKind) (item : T)
  /-- `ct = tail_.load()`, then the full test of `tryPush` -/
  | loadTail (item : T) (h : Nat)
  /-- the first `writeVersion.fetch_add(1)` -/
  | beginWrite (kind : PushKind) (item : T) (h : Nat)
  /-- `payload.store(item)` about to store word `k`; past the last word, `seq.store(h + 1)` -/
  | storeWord (kind : PushKind) (item : T) (h k : Nat)
  /-- the second `writeVersion.fetch_add(1)` -/
  | endWrite (kind : PushKind) (item : T) (h : Nat)
  /-- `head_.store(h + 1)` -/
  | storeHead (kind : PushKind) (item : T) (h : Nat)
  /-- `tail_.load()` in the drop check of `tryPushDropOldest` -/
  | checkDrop (h : Nat)
  /-- `cumulativeDropCount_.fetch_add(1)` -/
  | countDrop

/-- The outcome of one step of a push call. `ret` is the return value once the call is over. -/
structure PushStep (T : Type) [TriviallyCopyable T] (cap : Capacity) where
  ring : SpscRingBuffer T cap
  pc : ProducerPc T
  ret : Option Bool

/-- One atomic access of `tryPush` / `tryPushDropOldest`. -/
def ProducerPc.step {T : Type} [TriviallyCopyable T] {cap : Capacity} (r : SpscRingBuffer T cap) :
    ProducerPc T → PushStep T cap
  | .idle => ⟨r, .idle, none⟩
  | .loadHead .tryPush item => ⟨r, .loadTail item r.head, none⟩
  | .loadHead .tryPushDropOldest item => ⟨r, .beginWrite .tryPushDropOldest item r.head, none⟩
  | .loadTail item h =>
    if subU64 h r.tail = cap.val then ⟨r, .idle, some false⟩
    else ⟨r, .beginWrite .tryPush item h, none⟩
  | .beginWrite kind item h =>
    ⟨r.modifySlot h fun s => { s with writeVersion := s.writeVersion + 1 },
      .storeWord kind item h 0, none⟩
  | .storeWord kind item h k =>
    if hk : k < wordCount T then
      ⟨r.modifySlot h fun s => { s with payload := s.payload.set k (toWords item)[k] },
        .storeWord kind item h (k + 1), none⟩
    else ⟨r.modifySlot h fun s => { s with seq := h + 1 }, .endWrite kind item h, none⟩
  | .endWrite kind item h =>
    ⟨r.modifySlot h fun s => { s with writeVersion := s.writeVersion + 1 },
      .storeHead kind item h, none⟩
  | .storeHead .tryPush _ h => ⟨{ r with head := h + 1 }, .idle, some true⟩
  | .storeHead .tryPushDropOldest _ h => ⟨{ r with head := h + 1 }, .checkDrop h, none⟩
  | .checkDrop h =>
    if cap.val ≤ subU64 h r.tail then ⟨r, .countDrop, none⟩ else ⟨r, .idle, some true⟩
  | .countDrop => ⟨{ r with cumulativeDropCount := r.cumulativeDropCount + 1 }, .idle, some true⟩

/-- Where a `tryPop` call stands: the next atomic access it makes, with its locals. -/
inductive ConsumerPc (T : Type) [TriviallyCopyable T] where
  | idle
  /-- `ct = tail_.load()` -/
  | loadTail
  /-- `h = head_.load()`, then the drop boundary and the empty test -/
  | loadHead (ct : Nat)
  /-- `tail_.store(logicalDropBoundary)`, then the empty test -/
  | storeBoundary (h logicalDropBoundary : Nat)
  /-- `v1 = writeVersion.load()` -/
  | loadVersion (ct : Nat)
  /-- `s1 = seq.load()` -/
  | loadSeq (ct v1 : Nat)
  /-- `tail_.store(ct + 1)` of the skip branch, then `continue` -/
  | skipSlot (ct : Nat)
  /-- `payload.load()` about to load word `k` into `dst`; past the last word, `s2 = seq.load()` -/
  | loadWord (ct v1 s1 k : Nat) (dst : AtomicPayload T)
  /-- `v2 = writeVersion.load()`, then the stability test -/
  | loadVersion2 (ct v1 s1 s2 : Nat) (item : T)
  /-- `tail_.store(ct + 1)`, then `return true` with `outItem = item` -/
  | storeTail (ct : Nat) (item : T)

/-- The outcome of one step of a `tryPop` call. Once the call is over, `ret` is `some none` for
`return false` and `some (some x)` for `return true` with `outItem = x`. -/
structure PopStep (T : Type) [TriviallyCopyable T] (cap : Capacity) where
  ring : SpscRingBuffer T cap
  pc : ConsumerPc T
  ret : Option (Option T)

/-- One atomic access of `tryPop`. -/
def ConsumerPc.step {T : Type} [TriviallyCopyable T] {cap : Capacity} (r : SpscRingBuffer T cap) :
    ConsumerPc T → PopStep T cap
  | .idle => ⟨r, .idle, none⟩
  | .loadTail => ⟨r, .loadHead r.tail, none⟩
  | .loadHead ct =>
    let h := r.head
    let hMinusCap := if cap.val < h then h - cap.val else 0
    let logicalDropBoundary := if hMinusCap < ct then ct else hMinusCap
    if ct < logicalDropBoundary then ⟨r, .storeBoundary h logicalDropBoundary, none⟩
    else if h ≤ ct then ⟨r, .idle, some none⟩
    else ⟨r, .loadVersion ct, none⟩
  | .storeBoundary h ct =>
    if h ≤ ct then ⟨{ r with tail := ct }, .idle, some none⟩
    else ⟨{ r with tail := ct }, .loadVersion ct, none⟩
  | .loadVersion ct =>
    let v1 := (r.slot ct).writeVersion
    if v1 % 2 ≠ 0 then ⟨r, .idle, some none⟩ else ⟨r, .loadSeq ct v1, none⟩
  | .loadSeq ct v1 =>
    let s1 := (r.slot ct).seq
    if s1 ≠ ct + 1 then ⟨r, .skipSlot ct, none⟩
    else ⟨r, .loadWord ct v1 s1 0 (Vector.replicate _ 0), none⟩
  | .skipSlot ct => ⟨{ r with tail := ct + 1 }, .loadTail, none⟩
  | .loadWord ct v1 s1 k dst =>
    if hk : k < wordCount T then
      ⟨r, .loadWord ct v1 s1 (k + 1) (dst.set k (r.slot ct).payload[k]), none⟩
    else ⟨r, .loadVersion2 ct v1 s1 (r.slot ct).seq (ofWords dst), none⟩
  | .loadVersion2 ct v1 s1 s2 item =>
    let v2 := (r.slot ct).writeVersion
    if v1 ≠ v2 ∨ s1 ≠ s2 then ⟨r, .idle, some none⟩ else ⟨r, .storeTail ct item, none⟩
  | .storeTail ct item => ⟨{ r with tail := ct + 1 }, .idle, some (some item)⟩

/-- A successful pop, as it happened: `tail_` before and after the `tail_.store` that took the
item, and the item returned. -/
structure PopRecord (T : Type) where
  tailBefore : Nat
  tailAfter : Nat
  item : T

/-- A ring, the call in progress on each side, and the history. -/
structure Channel (T : Type) [TriviallyCopyable T] (cap : Capacity) where
  ring : SpscRingBuffer T cap
  producer : ProducerPc T
  consumer : ConsumerPc T
  /-- History: the items pushed, each with the value of `head_` at its push. -/
  pushed : List (Nat × T)
  /-- History: the successful pops. -/
  popped : List (PopRecord T)
  /-- History: pushes not yet popped when the current `tryPop` last read `head_`. -/
  outstandingAtRead : Nat
  /-- History: `outstandingAtRead` at each `tryPop` that returned false. -/
  refused : List Nat

/-- The push that the next step of the call completes: its `head_` and its item. -/
def ProducerPc.publishes {T : Type} : ProducerPc T → List (Nat × T)
  | .storeHead _ item h => [(h, item)]
  | _ => []

/-- The pop that the next step of the call completes. -/
def ConsumerPc.takes {T : Type} [TriviallyCopyable T] {cap : Capacity}
    (r : SpscRingBuffer T cap) : ConsumerPc T → List (PopRecord T)
  | .storeTail ct item => [⟨r.tail, ct + 1, item⟩]
  | _ => []

/-- The actions of the two threads: start a call, or make the next atomic access of the call
in progress. -/
inductive SpscAction (T : Type) where
  | callPush (kind : PushKind) (item : T)
  | stepPush
  | callPop
  | stepPop

namespace Channel

variable {T : Type} [TriviallyCopyable T] {cap : Capacity}

/-- An empty ring with two threads that rest. -/
def init : Channel T cap where
  ring := .init
  producer := .idle
  consumer := .idle
  pushed := []
  popped := []
  outstandingAtRead := 0
  refused := []

/-- The producer thread calls a push function, unless it is inside one. -/
def callPush (c : Channel T cap) (kind : PushKind) (item : T) : Channel T cap :=
  match c.producer with
  | .idle => { c with producer := .loadHead kind item }
  | _ => c

/-- The push call in progress makes its next access. -/
def stepPush (c : Channel T cap) : Channel T cap × Option Bool :=
  let st := c.producer.step c.ring
  ({ c with ring := st.ring, producer := st.pc, pushed := c.pushed ++ c.producer.publishes },
    st.ret)

/-- The consumer thread calls `tryPop`, unless it is inside one. -/
def callPop (c : Channel T cap) : Channel T cap :=
  match c.consumer with
  | .idle => { c with consumer := .loadTail }
  | _ => c

/-- The `tryPop` call in progress makes its next access. -/
def stepPop (c : Channel T cap) : Channel T cap × Option (Option T) :=
  let st := c.consumer.step c.ring
  let seen :=
    match c.consumer with
    | .loadHead _ => c.pushed.length - c.popped.length
    | _ => c.outstandingAtRead
  ({ c with
      ring := st.ring
      consumer := st.pc
      popped := c.popped ++ c.consumer.takes c.ring
      outstandingAtRead := seen
      refused :=
        match st.ret with
        | some none => c.refused ++ [seen]
        | _ => c.refused },
    st.ret)

end Channel

/-- One producer thread and one consumer thread on one ring, in every interleaving. -/
def spscMachine (T : Type) [TriviallyCopyable T] (cap : Capacity) :
    Lib.Machine (Channel T cap) (SpscAction T) where
  init := .init
  step c
    | .callPush kind item => c.callPush kind item
    | .stepPush => c.stepPush.1
    | .callPop => c.callPop
    | .stepPop => c.stepPop.1

end CrossFlow
