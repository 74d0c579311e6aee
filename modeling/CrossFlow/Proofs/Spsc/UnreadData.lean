import CrossFlow.Platform.Mac.DualChannelSpsc
import CrossFlow.Proofs.Spsc.SequentialRing

/-!
# `CrossFlow.Proofs.Spsc.UnreadData`: what a push takes from the pops

An item is lost to a push when some number of `tryPop` calls before it would have returned the
item, and no number of them after it does (`Returnable`). The next pops return what is unread
(`nextPops_eq`), so this is read off `unread`.

* `tryPushDropOldest_evicts_iff`: a `tryPushDropOldest` takes an item when `Capacity` are unread.
* `tryPush_keepsUnread_iff`: a `tryPush` takes none, and refuses when it should, as long as `head_`
  is at most `Capacity` past `tail_`. Its test is for equality, and `tryPushDropOldest` moves `head_`
  further.
-/

set_option autoImplicit false

namespace CrossFlow

open TriviallyCopyable

variable {T : Type} [TriviallyCopyable T] {cap : Capacity}

namespace SpscRingBuffer

/-- What the next `n` calls of `tryPop` return, each item with the number of its push: the value of
`tail_` that takes it is one more. -/
def nextPops (r : SpscRingBuffer T cap) : Nat → List (Nat × T)
  | 0 => []
  | n + 1 =>
    match r.tryPop with
    | (r', some item) => (r'.tail - 1, item) :: r'.nextPops n
    | (r', none) => r'.nextPops n

/-- `tryPop`, called often enough, returns the item. -/
def Returnable (r : SpscRingBuffer T cap) (p : Nat × T) : Prop := ∃ n, p ∈ r.nextPops n

/-- A call that leaves `r'` took from the pops an item that they could have returned. -/
def Evicts (r r' : SpscRingBuffer T cap) : Prop := ∃ p, r.Returnable p ∧ ¬ r'.Returnable p

/-- `tryPush(item)` refuses when `Capacity` items or more are outstanding, and takes no item from the
pops when it does not refuse. -/
def KeepsUnread (r : SpscRingBuffer T cap) (item : T) : Prop :=
  (cap.val ≤ r.head - r.tail → (r.tryPush item).2 = false) ∧
    ((r.tryPush item).2 = true → ¬ r.Evicts (r.tryPush item).1)

/-! ### What the pops return -/

/-- By induction on the calls, each of which takes the first of the unread items. -/
theorem nextPops_eq {r : SpscRingBuffer T cap} (hs : StableInv r) (n : Nat) :
    r.nextPops n = r.unread.take n := by
  induction n generalizing r with
  | zero => rfl
  | succ n ih =>
    have htail := hs.tail_le
    have hnext := hs.tryPop
    by_cases hempty : r.head = r.tail
    · rw [nextPops]
      rw [tryPop_of_empty hempty] at hnext ⊢
      simp only [ih hnext, unread_of_empty hempty, List.take_nil]
    · have hlt : r.tail < r.head := by omega
      rw [nextPops]
      rw [tryPop_of_lt hs hlt] at hnext ⊢
      simp only [ih hnext, unread_eq_cons hlt, List.take_succ_cons, Nat.add_sub_cancel]

/-- The items that can be returned are those that are unread. -/
theorem returnable_iff {r : SpscRingBuffer T cap} (hs : StableInv r) (p : Nat × T) :
    r.Returnable p ↔ p ∈ r.unread := by
  constructor
  · rintro ⟨n, hn⟩
    rw [nextPops_eq hs] at hn
    exact List.mem_of_mem_take hn
  · intro hp
    refine ⟨r.unread.length, ?_⟩
    rw [nextPops_eq hs, List.take_length]
    exact hp

/-- No unread item lies before the boundary. -/
theorem logicalDropBoundaryValue_le_of_mem {r : SpscRingBuffer T cap} {p : Nat × T}
    (hp : p ∈ r.unread) : r.logicalDropBoundaryValue ≤ p.1 := by
  obtain ⟨k, hk, hget⟩ := List.getElem_of_mem hp
  rw [← hget, getElem_unread]
  exact Nat.le_add_right _ _

/-! ### What a push takes -/

/-- A push takes an item, the oldest unread one, when `Capacity` are unread. -/
theorem evicts_publish_iff {r : SpscRingBuffer T cap} (hs : StableInv r) (item : T) :
    r.Evicts (r.publish r.head item) ↔ cap.val ≤ r.head - r.tail := by
  have htail := hs.tail_le
  have hpos := cap.pos
  have hboundary := r.logicalDropBoundaryValue_eq
  have hpublish := hs.publish item
  constructor
  · rintro ⟨p, hbefore, hafter⟩
    rw [returnable_iff hs] at hbefore
    rw [returnable_iff hpublish, unread_publish htail] at hafter
    -- With a free slot the boundary does not move, and what was unread still is.
    by_contra hroom
    have hkeep : max r.tail (r.head + 1 - cap.val) - r.logicalDropBoundaryValue = 0 := by omega
    rw [hkeep, List.drop_zero] at hafter
    exact hafter (List.mem_append_left _ hbefore)
  · intro hfull
    have hlt : r.tail < r.head := by omega
    refine ⟨(r.logicalDropBoundaryValue, ofWords (r.slot r.logicalDropBoundaryValue).payload),
      ?_, ?_⟩
    · rw [returnable_iff hs, unread_eq_cons hlt]
      exact List.mem_cons_self
    · rw [returnable_iff hpublish]
      intro hmem
      have hle := logicalDropBoundaryValue_le_of_mem hmem
      rw [logicalDropBoundaryValue_eq] at hle
      simp only [publish_head, publish_tail] at hle
      omega

/-- The pops do not see `cumulativeDropCount_`. -/
theorem evicts_congr {r r' r'' : SpscRingBuffer T cap} (hs' : StableInv r') (hs'' : StableInv r'')
    (hunread : r'.unread = r''.unread) : r.Evicts r' ↔ r.Evicts r'' := by
  simp only [Evicts, returnable_iff hs', returnable_iff hs'', hunread]

/-- A push evicts exactly if the ring is full. -/
theorem tryPushDropOldest_evicts_iff {r : SpscRingBuffer T cap} (hs : StableInv r) (item : T) :
    r.Evicts (r.tryPushDropOldest item).1 ↔ cap.val ≤ r.head - r.tail := by
  rw [← evicts_publish_iff hs item]
  refine evicts_congr (hs.tryPushDropOldest item) (hs.publish item) ?_
  simp only [tryPushDropOldest]
  split
  · rfl
  · rfl

/-- A push keeps what is unread exactly if the ring was not beyond its capacity. -/
theorem keepsUnread_iff {r : SpscRingBuffer T cap} (hs : StableInv r) (item : T) :
    r.KeepsUnread item ↔ r.head - r.tail ≤ cap.val := by
  have hsub : subU64 r.head r.tail = r.head - r.tail := if_pos hs.tail_le
  have hevicts := evicts_publish_iff hs item
  simp only [KeepsUnread, tryPush, hsub]
  split
  · rename_i hfull
    constructor
    · intro _
      omega
    · intro _
      exact ⟨fun _ => rfl, fun htrue => absurd htrue Bool.false_ne_true⟩
  · rename_i hroom
    constructor
    · rintro ⟨hrefuses, -⟩
      -- Past a full ring the test for equality does not refuse.
      by_contra hover
      exact Bool.false_ne_true (hrefuses (by omega)).symm
    · intro hle
      refine ⟨fun hfull => absurd (Nat.le_antisymm hle hfull) hroom, fun _ hevict => ?_⟩
      have hfull := hevicts.mp hevict
      omega

end SpscRingBuffer

/-- After every history of calls, a `tryPush` refuses when it should and keeps what is unread
exactly when `head_` is at most `Capacity` past `tail_`. -/
theorem tryPush_keepsUnread_iff (T : Type) [TriviallyCopyable T] (cap : Capacity)
    (calls : List (RingCall T)) (item : T) :
    let ring := (ringMachine T cap).run calls
    ring.KeepsUnread item ↔ ring.head - ring.tail ≤ cap.val :=
  SpscRingBuffer.keepsUnread_iff (stableInv_run calls) item

/-- A ring of one slot, after two calls of `tryPushDropOldest`, takes a `tryPush` over the item that
the next `tryPop` would have returned. -/
theorem tryPush_overwrites_unread :
    let one : Capacity := ⟨1, by decide, by decide, by decide⟩
    let event : RawInputEventFlat := ⟨0, 0, RawEventKind.MouseMove.toU8, 0, 0, 0, 0, 0, 0, 1⟩
    let ring := (ringMachine RawInputEventFlat one).run
      [.push .tryPushDropOldest event, .push .tryPushDropOldest event]
    ring.head - ring.tail = 2 ∧ (ring.tryPush event).2 = true ∧
      ¬ ring.KeepsUnread event := by
  refine ⟨rfl, rfl, ?_⟩
  rintro ⟨hrefuses, -⟩
  exact Bool.false_ne_true (hrefuses (by decide)).symm

end CrossFlow
