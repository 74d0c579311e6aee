import CrossFlow.Proofs.Spsc.Seqlock

/-!
# `CrossFlow.Proofs.Spsc.Lossless`: a ring whose only push is `tryPush`

`tryPush` refuses an item when the ring is full, so the slots in `[tail_, head_)` are never
overwritten: `LosslessInv` holds along every run without a `tryPushDropOldest` call. It says that
the ring never holds more than `Capacity` items, that the consumer never reaches one of its two
skip branches, and that what was popped is the first `tail_` pushes.

* `losslessInv_run`: the invariant, on top of `SeqlockInv`.
* `LosslessInv.popped_initial`, `LosslessInv.pushed_length_le`: what it says of the histories.
-/

set_option autoImplicit false

namespace CrossFlow

open TriviallyCopyable

variable {T : Type} [TriviallyCopyable T] {cap : Capacity}

/-- The actions of a producer that only calls `tryPush`. -/
def SpscAction.OnlyTryPush : SpscAction T → Prop
  | .callPush kind _ => kind = .tryPush
  | _ => True

/-- The push call is a `tryPush`, and past the full test its slot is free. -/
def ProducerPc.Lossless (r : SpscRingBuffer T cap) : ProducerPc T → Prop
  | .idle | .loadTail _ _ => True
  | .loadHead kind _ => kind = .tryPush
  | .beginWrite kind _ h | .storeWord kind _ h _ | .endWrite kind _ h | .storeHead kind _ h =>
    kind = .tryPush ∧ h < r.tail + cap.val
  | .checkDrop _ | .countDrop => False

/-- The `tryPop` call is in neither skip branch, and its copy is of an unchanged slot. -/
def ConsumerPc.Lossless (r : SpscRingBuffer T cap) : ConsumerPc T → Prop
  | .idle | .loadTail | .loadHead _ | .loadVersion _ | .storeTail _ _ => True
  | .storeBoundary _ _ | .skipSlot _ => False
  | .loadSeq ct v1 => v1 = (r.slot ct).writeVersion
  | .loadWord ct v1 s1 _ _ => v1 = (r.slot ct).writeVersion ∧ s1 = ct + 1
  | .loadVersion2 ct v1 s1 s2 _ => v1 = (r.slot ct).writeVersion ∧ s1 = ct + 1 ∧ s2 = ct + 1

/-- The invariant of a ring whose only push is `tryPush`. -/
structure LosslessInv (c : Channel T cap) : Prop where
  producer : c.producer.Lossless c.ring
  full : c.ring.head ≤ c.ring.tail + cap.val
  consumer : c.consumer.Lossless c.ring
  popped : c.popped.map (fun p => (p.tailBefore, p.item)) = c.pushed.take c.ring.tail
  refused : ∀ k ∈ c.refused, k = 0

/-- The invariant holds at the start. -/
theorem losslessInv_init : LosslessInv (Channel.init : Channel T cap) where
  producer := trivial
  full := Nat.zero_le _
  consumer := trivial
  popped := rfl
  refused _ hk := absurd hk List.not_mem_nil

/-! ### The producer side -/

/-- A step of the push call leaves the slots between `tail_` and `head_` alone. -/
theorem ProducerPc.Lossless.step_slot {r : SpscRingBuffer T cap} {pc : ProducerPc T}
    (hpc : pc.Lossless r) (hok : pc.Ok r) {t : Nat} (htail : r.tail ≤ t) (hhead : t < r.head) :
    (pc.step r).ring.slot t = r.slot t := by
  cases pc with
  | idle => rfl
  | loadHead kind item => cases kind <;> rfl
  | loadTail item h => simp only [step]; split <;> rfl
  | storeHead kind item h => cases kind <;> rfl
  | checkDrop h => exact hpc.elim
  | countDrop => exact hpc.elim
  | beginWrite kind item h =>
    -- The slot that is written is less than the capacity ahead of every unread one.
    have hh : h = r.head := hok
    have hne := cap.index_ne (show t < h by omega) (by have := hpc.2; omega)
    simp [step, SpscRingBuffer.slot_modifySlot, hne]
  | storeWord kind item h k =>
    have hh : h = r.head := hok.1
    have hne := cap.index_ne (show t < h by omega) (by have := hpc.2; omega)
    simp only [step]
    split <;> simp [SpscRingBuffer.slot_modifySlot, hne]
  | endWrite kind item h =>
    have hh : h = r.head := hok.1
    have hne := cap.index_ne (show t < h by omega) (by have := hpc.2; omega)
    simp [step, SpscRingBuffer.slot_modifySlot, hne]

/-- The full test lets a push through only when a slot is free. -/
theorem ProducerPc.lossless_step {r : SpscRingBuffer T cap} {pc : ProducerPc T}
    (hpc : pc.Lossless r) (hok : pc.Ok r) (htail : r.tail ≤ r.head)
    (hfull : r.head ≤ r.tail + cap.val) : (pc.step r).pc.Lossless (pc.step r).ring := by
  cases pc with
  | idle => trivial
  | loadHead kind item =>
    have hkind : kind = .tryPush := hpc
    subst hkind
    trivial
  | loadTail item h =>
    have hh : h = r.head := hok
    simp only [step]
    split
    · trivial
    -- The full test has failed, so `head_ - tail_` is below `Capacity`.
    · rename_i hne
      refine ⟨rfl, ?_⟩
      show h < r.tail + cap.val
      simp only [subU64, hh, htail, if_true] at hne
      omega
  | beginWrite kind item h => exact hpc
  | storeWord kind item h k =>
    simp only [step]
    split
    · exact hpc
    · exact hpc
  | endWrite kind item h => exact hpc
  | storeHead kind item h =>
    obtain ⟨hkind, -⟩ := hpc
    subst hkind
    trivial
  | checkDrop h => exact hpc.elim
  | countDrop => exact hpc.elim

/-- A step of a push keeps the invariant. -/
theorem LosslessInv.stepPush {c : Channel T cap} (hs : SeqlockInv c) (hc : LosslessInv c) :
    LosslessInv c.stepPush.1 := by
  have hok := hs.writer.producer
  have htail : c.stepPush.1.ring.tail = c.ring.tail := ProducerPc.step_tail c.ring c.producer
  have hhead : c.stepPush.1.ring.head = c.ring.head + c.producer.publishes.length :=
    ProducerPc.step_head c.ring c.producer hok
  have hold : ∀ t, c.ring.tail ≤ t → t < c.ring.head →
      c.stepPush.1.ring.slot t = c.ring.slot t := by
    intro t ht hth
    exact hc.producer.step_slot hok ht hth
  -- The push that is published is one whose slot was free.
  have hroom : c.producer.publishes.length = 0 ∨
      c.producer.publishes.length = 1 ∧ c.ring.head < c.ring.tail + cap.val := by
    have hpc := hc.producer
    cases hp : c.producer with
    | storeHead kind item h =>
      rw [hp] at hok hpc
      exact Or.inr ⟨rfl, by have := hok.1; have := hpc.2; omega⟩
    | _ => exact Or.inl rfl
  have hlen : c.pushed.length = c.ring.head := hs.writer.length_pushed
  refine ⟨?_, ?_, ?_, ?_, hc.refused⟩
  · exact ProducerPc.lossless_step hc.producer hok hs.reader.tail_le hc.full
  · have := hc.full
    omega
  · -- The slot the consumer copies lies between `tail_` and `head_`.
    have hpc := hc.consumer
    have hcon := hs.reader.consumer
    show c.consumer.Lossless c.stepPush.1.ring
    cases hp : c.consumer with
    | loadSeq ct v1 =>
      rw [hp] at hpc hcon
      obtain ⟨hct, hlt, -⟩ := hcon
      exact hpc.trans (by rw [hold ct (by omega) hlt])
    | loadWord ct v1 s1 k dst =>
      rw [hp] at hpc hcon
      obtain ⟨hct, hlt, -⟩ := hcon
      exact ⟨hpc.1.trans (by rw [hold ct (by omega) hlt]), hpc.2⟩
    | loadVersion2 ct v1 s1 s2 item =>
      rw [hp] at hpc hcon
      obtain ⟨hct, hlt, -⟩ := hcon
      exact ⟨hpc.1.trans (by rw [hold ct (by omega) hlt]), hpc.2⟩
    | storeBoundary h boundary => rw [hp] at hpc; exact hpc.elim
    | skipSlot ct => rw [hp] at hpc; exact hpc.elim
    | _ => trivial
  -- `tail_` stays, and the new push comes after it.
  · rw [htail]
    show c.popped.map _ = (c.pushed ++ c.producer.publishes).take c.ring.tail
    rw [List.take_append_of_le_length (by rw [hlen]; exact hs.reader.tail_le)]
    exact hc.popped

/-- The call of a push keeps the invariant. -/
theorem LosslessInv.callPush {c : Channel T cap} (hc : LosslessInv c) {kind : PushKind}
    (hkind : kind = .tryPush) (item : T) : LosslessInv (c.callPush kind item) := by
  unfold Channel.callPush
  split
  · exact ⟨hkind, hc.full, hc.consumer, hc.popped, hc.refused⟩
  · exact hc

/-! ### The consumer side -/

/-- The slot of an item not popped yet holds it and is closed: the open slot is the one of
`head_`, and it is another slot because the ring is not full. -/
theorem LosslessInv.slot {c : Channel T cap} (hs : SeqlockInv c) (hc : LosslessInv c) {t : Nat}
    (htail : c.ring.tail ≤ t) (hhead : t < c.ring.head) :
    (c.ring.slot t).seq = t + 1 ∧ (c.ring.slot t).writeVersion % 2 = 0 := by
  have hok := hs.writer.producer
  have hpc := hc.producer
  -- The claimed slot is the one of `head_`, less than `Capacity` above `t`.
  have hfree : ∀ h, c.producer.claimed = some h → cap.index t ≠ cap.index h := by
    intro h hclaim
    have hh : h = c.ring.head ∧ h < c.ring.tail + cap.val := by
      cases hp : c.producer with
      | storeWord kind item h' k | endWrite kind item h' | storeHead kind item h' =>
        rw [hp] at hclaim hok hpc
        obtain rfl : h' = h := by simpa [ProducerPc.claimed] using hclaim
        exact ⟨hok.1, hpc.2⟩
      | _ => simp [ProducerPc.claimed, hp] at hclaim
    exact cap.index_ne (by omega) (by omega)
  -- An odd version would make `t` share the slot of the open push.
  have hclosed : ¬ (c.ring.slot t).writeVersion % 2 = 1 := by
    rw [hs.writer.parity t]
    rintro ⟨h, hopen, hindex⟩
    refine hfree h ?_ hindex
    cases hp : c.producer <;> simp_all [ProducerPc.writing, ProducerPc.claimed]
  have := hc.full
  exact ⟨hs.window t hhead (by omega) hfree, by omega⟩

/-- A step of the `tryPop` call stays out of the skip branches. It moves `tail_` by the pops it
completes, and returns false only when it saw an empty ring. -/
theorem ConsumerPc.lossless_step {c : Channel T cap} (hs : SeqlockInv c) (hc : LosslessInv c) :
    (c.consumer.step c.ring).pc.Lossless (c.consumer.step c.ring).ring ∧
      (c.consumer.step c.ring).ring.tail = c.ring.tail + (c.consumer.takes c.ring).length ∧
      ((c.consumer.step c.ring).ret = some none →
        ∃ ct, c.consumer = .loadHead ct ∧ c.ring.head ≤ c.ring.tail) := by
  have hok := hs.reader.consumer
  have hpc := hc.consumer
  cases hp : c.consumer with
  | idle => exact ⟨trivial, rfl, by simp [step]⟩
  | loadTail => exact ⟨trivial, rfl, by simp [step]⟩
  | loadHead ct =>
    rw [hp] at hok
    have hct : ct = c.ring.tail := hok
    have hfull := hc.full
    -- The ring is not over-full, so the boundary test fails.
    simp only [step, boundary_eq_tail cap c.ring.head ct (by omega)]
    rw [if_neg (Nat.lt_irrefl ct)]
    split
    · exact ⟨trivial, rfl, fun _ => ⟨ct, rfl, by omega⟩⟩
    · exact ⟨trivial, rfl, by simp⟩
  | storeBoundary h boundary => rw [hp] at hpc; exact hpc.elim
  | loadVersion ct =>
    rw [hp] at hok
    obtain ⟨hct, hlt⟩ := hok
    obtain ⟨-, heven⟩ := hc.slot hs (t := ct) (by omega) hlt
    simp only [step]
    rw [if_neg (by omega)]
    exact ⟨rfl, rfl, by simp⟩
  | loadSeq ct v1 =>
    rw [hp] at hok hpc
    obtain ⟨hct, hlt, -⟩ := hok
    obtain ⟨hseq, -⟩ := hc.slot hs (t := ct) (by omega) hlt
    simp only [step]
    -- The slot still holds its item, so the skip branch is not taken.
    rw [if_neg (by omega)]
    exact ⟨⟨hpc, hseq⟩, rfl, by simp⟩
  | skipSlot ct => rw [hp] at hpc; exact hpc.elim
  | loadWord ct v1 s1 k dst =>
    rw [hp] at hok hpc
    obtain ⟨hct, hlt, -⟩ := hok
    obtain ⟨hseq, -⟩ := hc.slot hs (t := ct) (by omega) hlt
    simp only [step]
    split
    · exact ⟨hpc, rfl, by simp⟩
    · exact ⟨⟨hpc.1, hpc.2, hseq⟩, rfl, by simp⟩
  | loadVersion2 ct v1 s1 s2 item =>
    rw [hp] at hpc
    obtain ⟨hv, hs1, hs2⟩ := hpc
    simp only [step]
    -- Neither the version nor `seq` has changed since it was read.
    rw [if_neg (by rw [hs1, hs2]; simpa using hv)]
    exact ⟨trivial, rfl, by simp⟩
  | storeTail ct item =>
    rw [hp] at hok
    have hct : ct = c.ring.tail := hok.1
    exact ⟨trivial, by simp [step, takes, hct], by simp [step]⟩

/-- The push at index `ct` is the `ct`-th push. -/
theorem WriterInv.getElem_pushed {c : Channel T cap} (hw : WriterInv c) {ct : Nat} {item : T}
    (hmem : (ct, item) ∈ c.pushed) : c.pushed[ct]? = some (ct, item) := by
  -- The pushes are numbered `0, 1, 2, …`, so the position is the index.
  obtain ⟨i, hi, hget⟩ := List.mem_iff_getElem.mp hmem
  have hindex : (c.pushed.map Prod.fst)[i]? = (List.range c.ring.head)[i]? := by
    rw [hw.pushed_index]
  have hlen : c.pushed.length = c.ring.head := hw.length_pushed
  have hict : ct = i := by
    rw [List.getElem?_map, List.getElem?_eq_getElem hi, hget,
      List.getElem?_range (by omega)] at hindex
    simpa using hindex
  rw [hict, List.getElem?_eq_getElem hi, hget, hict]

/-- A step of a pop keeps the invariant. -/
theorem LosslessInv.stepPop {c : Channel T cap} (hs : SeqlockInv c) (hc : LosslessInv c) :
    LosslessInv c.stepPop.1 := by
  obtain ⟨hcon, htail, hret⟩ := ConsumerPc.lossless_step hs hc
  have hhead : c.stepPop.1.ring.head = c.ring.head := ConsumerPc.step_head c.ring c.consumer
  have htail' : c.ring.tail ≤ c.stepPop.1.ring.tail := by
    show c.ring.tail ≤ (c.consumer.step c.ring).ring.tail
    omega
  have hlen : c.pushed.length = c.ring.head := hs.writer.length_pushed
  have hpoppedLen : c.popped.length = c.ring.tail := by
    have hle := hs.reader.tail_le
    have := congrArg List.length hc.popped
    simp only [List.length_map, List.length_take] at this
    omega
  refine ⟨?_, ?_, hcon, ?_, ?_⟩
  -- `tail_` does not move back, so a free slot stays free.
  · have hpc := hc.producer
    show c.producer.Lossless c.stepPop.1.ring
    cases hp : c.producer with
    | beginWrite kind item h | storeWord kind item h k | endWrite kind item h
    | storeHead kind item h =>
      rw [hp] at hpc
      exact ⟨hpc.1, by have := hpc.2; omega⟩
    | loadHead kind item => rw [hp] at hpc; exact hpc
    | checkDrop h => rw [hp] at hpc; exact hpc
    | countDrop => rw [hp] at hpc; exact hpc
    | _ => trivial
  · have := hc.full
    omega
  -- A pop takes the push at `tail_`, which is the next one of `pushed`.
  · show (c.popped ++ c.consumer.takes c.ring).map _ =
      c.pushed.take (c.consumer.step c.ring).ring.tail
    rw [htail, List.map_append, hc.popped]
    cases hp : c.consumer with
    | storeTail ct item =>
      have hok := hs.reader.consumer
      rw [hp] at hok
      obtain ⟨hct, -, hmem⟩ := hok
      have hget := hs.writer.getElem_pushed hmem
      subst hct
      simp only [ConsumerPc.takes, List.map_cons, List.map_nil, List.length_singleton]
      rw [List.take_add_one, hget]
      rfl
    | _ => simp [ConsumerPc.takes]
  -- `return false` comes from the empty test, where no push is outstanding.
  · intro k hk
    unfold Channel.stepPop at hk
    dsimp only at hk
    split at hk
    next hfalse =>
      obtain ⟨ct, hp, hempty⟩ := hret hfalse
      rcases List.mem_append.mp hk with hk | hk
      · exact hc.refused k hk
      · simp only [hp, List.mem_singleton] at hk
        omega
    next => exact hc.refused k hk

/-- The call of a pop keeps the invariant. -/
theorem LosslessInv.callPop {c : Channel T cap} (hc : LosslessInv c) : LosslessInv c.callPop := by
  unfold Channel.callPop
  split
  · exact ⟨hc.producer, hc.full, trivial, hc.popped, hc.refused⟩
  · exact hc

/-! ### Every run -/

/-- Every step keeps the invariant. -/
theorem losslessInv_step (c : Channel T cap) (a : SpscAction T)
    (hc : SeqlockInv c ∧ LosslessInv c) (ha : a.OnlyTryPush) :
    SeqlockInv ((spscMachine T cap).step c a) ∧ LosslessInv ((spscMachine T cap).step c a) := by
  refine ⟨seqlockInv_step c a hc.1, ?_⟩
  cases a with
  | callPush kind item => exact hc.2.callPush ha item
  | stepPush => exact hc.2.stepPush hc.1
  | callPop => exact hc.2.callPop
  | stepPop => exact hc.2.stepPop hc.1

/-- The invariant holds along every run whose pushes are all `tryPush`. -/
theorem losslessInv_run {acts : List (SpscAction T)}
    (hacts : (spscMachine T cap).Meets (fun _ a => a.OnlyTryPush) (spscMachine T cap).init acts) :
    SeqlockInv ((spscMachine T cap).run acts) ∧ LosslessInv ((spscMachine T cap).run acts) :=
  Lib.Machine.invariant_of_meets
    ⟨seqlockInv_init, losslessInv_init⟩ losslessInv_step hacts

/-- The items popped are the first items pushed. -/
theorem LosslessInv.popped_initial {c : Channel T cap} (hc : LosslessInv c) :
    c.popped.map PopRecord.item <+: c.pushed.map Prod.snd := by
  have h : c.popped.map PopRecord.item = (c.pushed.take c.ring.tail).map Prod.snd := by
    rw [← hc.popped, List.map_map]
    rfl
  rw [h]
  exact (List.take_prefix _ _).map _

/-- At most `Capacity` pushes are not popped yet. -/
theorem LosslessInv.pushed_length_le {c : Channel T cap} (hs : SeqlockInv c) (hc : LosslessInv c) :
    c.pushed.length ≤ c.popped.length + cap.val := by
  have hlen : c.pushed.length = c.ring.head := hs.writer.length_pushed
  have hpopped := congrArg List.length hc.popped
  simp only [List.length_map, List.length_take] at hpopped
  have := hc.full
  have := hs.reader.tail_le
  omega

end CrossFlow
