import Mathlib.Data.List.Pairwise
import CrossFlow.Platform.Common.SpscRingBuffer

/-!
# `CrossFlow.Proofs.Spsc.Seqlock`: a successful pop is one whole push

The ring of `SpscRingBuffer` under every interleaving of one producer and one consumer, each
push being `tryPush` or `tryPushDropOldest`.

`SeqlockInv` is the invariant of every reachable `Channel`. Its core is `content`: a slot whose
`writeVersion` is even and whose `seq` is `t + 1` holds the words of the item pushed at
`head_ = t`. The producer is inside a slot exactly while its `writeVersion` is odd (`parity`), so
a consumer that reads the same even version before and after its copy has copied a slot no store
touched in between. `Snapshot` is that argument for a copy in progress.

* `seqlockInv_run`: the invariant holds in every reachable state.
* `tryPop_returns_whole_pushes`: the pops of every run return whole pushes, in push order, each
  from the index it moved `tail_` from.
-/

set_option autoImplicit false

namespace CrossFlow

open TriviallyCopyable

variable {T : Type} [TriviallyCopyable T] {cap : Capacity}

/-! ### The producer side -/

/-- The `head_` of the push whose slot is open, between the two `fetch_add`s of the call. -/
def ProducerPc.writing : ProducerPc T → Option Nat
  | .storeWord _ _ h _ => some h
  | .endWrite _ _ h => some h
  | _ => none

/-- What a push call knows about the ring at each of its accesses. -/
def ProducerPc.Ok (r : SpscRingBuffer T cap) : ProducerPc T → Prop
  | .idle | .loadHead _ _ | .countDrop => True
  | .loadTail _ h | .beginWrite _ _ h => h = r.head
  | .storeWord _ item h k =>
    h = r.head ∧ ∀ j (hj : j < wordCount T), j < k → (r.slot h).payload[j] = (toWords item)[j]
  | .endWrite _ item h =>
    h = r.head ∧ (r.slot h).seq = h + 1 ∧ (r.slot h).payload = toWords item
  | .storeHead _ _ h => h = r.head ∧ (r.slot h).seq = h + 1
  | .checkDrop h => h + 1 = r.head

/-- The pushes whose slot is written: those that stored `head_`, and the one about to. -/
def Channel.visible (c : Channel T cap) : List (Nat × T) := c.pushed ++ c.producer.publishes

/-- The part of the invariant the producer maintains. No consumer step changes what it reads. -/
structure WriterInv (c : Channel T cap) : Prop where
  pushed_index : c.pushed.map Prod.fst = List.range c.ring.head
  producer : c.producer.Ok c.ring
  parity : ∀ t, (c.ring.slot t).writeVersion % 2 = 1 ↔
    ∃ h, c.producer.writing = some h ∧ cap.index t = cap.index h
  content : ∀ t, (c.ring.slot t).writeVersion % 2 = 0 → (c.ring.slot t).seq = t + 1 →
    ∃ x, (t, x) ∈ c.visible ∧ (c.ring.slot t).payload = toWords x

/-- The writer's invariant holds at the start. -/
theorem writerInv_init : WriterInv (Channel.init : Channel T cap) where
  pushed_index := rfl
  producer := trivial
  parity t := by simp [Channel.init, SpscRingBuffer.init, SpscRingBuffer.slot, ProducerPc.writing]
  content t _ hseq := by
    -- The constructor stores `seq = i`, and `t % Capacity = t + 1` has no solution.
    have h : t % cap.val = t + 1 := hseq
    have := Nat.mod_le t cap.val
    omega

/-- `head_` is the number of pushes. -/
theorem WriterInv.length_pushed {c : Channel T cap} (hc : WriterInv c) :
    c.pushed.length = c.ring.head := by
  simpa using congrArg List.length hc.pushed_index

/-- What one step of a push call does to a slot: nothing, or it raises `writeVersion` by one, or
the slot is the open one and its `writeVersion` stays. -/
theorem ProducerPc.step_slot (r : SpscRingBuffer T cap) (pc : ProducerPc T) (t : Nat) :
    (pc.step r).ring.slot t = r.slot t ∨
      ((pc.step r).ring.slot t).writeVersion = (r.slot t).writeVersion + 1 ∨
      ((pc.step r).ring.slot t).writeVersion = (r.slot t).writeVersion ∧
        ∃ h, pc.writing = some h ∧ cap.index t = cap.index h := by
  cases pc with
  | idle => exact Or.inl rfl
  | loadHead kind item => cases kind <;> exact Or.inl rfl
  | loadTail item h =>
    simp only [step]
    split <;> exact Or.inl rfl
  -- The two `fetch_add`s raise the version of the slot of `h` and leave every other slot.
  | beginWrite kind item h | endWrite kind item h =>
    simp only [step, SpscRingBuffer.slot_modifySlot]
    split
    · exact Or.inr (Or.inl rfl)
    · exact Or.inl rfl
  | storeWord kind item h k =>
    -- A payload word or `seq`: both stores go to the open slot.
    by_cases ht : cap.index t = cap.index h
    · refine Or.inr (Or.inr ⟨?_, h, rfl, ht⟩)
      simp only [step]
      split <;> simp [SpscRingBuffer.slot_modifySlot, ht]
    · refine Or.inl ?_
      simp only [step]
      split <;> simp [SpscRingBuffer.slot_modifySlot, ht]
  | storeHead kind item h => cases kind <;> exact Or.inl rfl
  | checkDrop h =>
    simp only [step]
    split <;> exact Or.inl rfl
  | countDrop => exact Or.inl rfl

/-- No step of a push call stores `tail_`. -/
@[simp] theorem ProducerPc.step_tail (r : SpscRingBuffer T cap) (pc : ProducerPc T) :
    (pc.step r).ring.tail = r.tail := by
  cases pc with
  | loadHead kind item => cases kind <;> rfl
  | storeHead kind item h => cases kind <;> rfl
  | loadTail item h => simp only [step]; split <;> rfl
  | storeWord kind item h k => simp only [step]; split <;> rfl
  | checkDrop h => simp only [step]; split <;> rfl
  | _ => rfl

/-- `head_` moves by the pushes the step completes. -/
theorem ProducerPc.step_head (r : SpscRingBuffer T cap) (pc : ProducerPc T) (hok : pc.Ok r) :
    (pc.step r).ring.head = r.head + pc.publishes.length := by
  cases pc with
  | loadHead kind item => cases kind <;> rfl
  | storeHead kind item h => cases kind <;> simp [step, publishes, hok.1]
  | loadTail item h => simp only [step]; split <;> rfl
  | storeWord kind item h k => simp only [step]; split <;> rfl
  | checkDrop h => simp only [step]; split <;> rfl
  | _ => rfl

/-- The step keeps what the push call knows about the ring. -/
theorem ProducerPc.ok_step (r : SpscRingBuffer T cap) (pc : ProducerPc T) (hok : pc.Ok r) :
    (pc.step r).pc.Ok (pc.step r).ring := by
  cases pc with
  | idle => trivial
  | loadHead kind item => cases kind <;> exact rfl
  | loadTail item h =>
    simp only [step]
    split
    · trivial
    · exact hok
  | beginWrite kind item h => exact ⟨hok, fun j _ hj => absurd hj (Nat.not_lt_zero j)⟩
  | storeWord kind item h k =>
    obtain ⟨hh, hwords⟩ := hok
    simp only [step]
    split
    -- Word `k` is the item's now; the words below it were before.
    · rename_i hk
      refine ⟨hh, ?_⟩
      intro j hj hjk
      simp only [SpscRingBuffer.slot_modifySlot_self]
      by_cases hjeq : j = k
      · subst hjeq
        exact Vector.getElem_set_self hj
      · rw [Vector.getElem_set_ne hk hj (Ne.symm hjeq)]
        exact hwords j hj (by omega)
    -- Past the last word every word is the item's, and `seq` is stored.
    · rename_i hk
      refine ⟨hh, by simp, ?_⟩
      simp only [SpscRingBuffer.slot_modifySlot_self]
      exact Vector.ext fun j hj => hwords j hj (by omega)
  | endWrite kind item h =>
    obtain ⟨hh, hseq, -⟩ := hok
    refine ⟨hh, ?_⟩
    simp only [step, SpscRingBuffer.slot_modifySlot_self]
    exact hseq
  | storeHead kind item h => cases kind <;> trivial
  | checkDrop h =>
    simp only [step]
    split <;> trivial
  | countDrop => trivial

/-- What a push call knows reads only the slots and `head_`. -/
theorem ProducerPc.Ok.congr {r r' : SpscRingBuffer T cap} {pc : ProducerPc T} (hok : pc.Ok r)
    (hslot : ∀ t, r'.slot t = r.slot t) (hhead : r'.head = r.head) : pc.Ok r' := by
  cases pc with
  | idle | loadHead _ _ | countDrop => trivial
  | _ => simpa only [Ok, hslot, hhead] using hok

/-- The invariant when neither the slots nor the open slot nor the written pushes change. -/
theorem WriterInv.of_slots_eq {c c' : Channel T cap} (hc : WriterInv c)
    (hslot : ∀ t, c'.ring.slot t = c.ring.slot t) (hvis : c'.visible = c.visible)
    (hwriting : c'.producer.writing = c.producer.writing)
    (hindex : c'.pushed.map Prod.fst = List.range c'.ring.head)
    (hok : c'.producer.Ok c'.ring) : WriterInv c' where
  pushed_index := hindex
  producer := hok
  parity t := by rw [hslot, hwriting]; exact hc.parity t
  content t := by rw [hslot, hvis]; exact hc.content t

/-- The pushes stay numbered by `head_`. -/
theorem WriterInv.pushed_index_step {c : Channel T cap} (hc : WriterInv c) :
    c.stepPush.1.pushed.map Prod.fst = List.range c.stepPush.1.ring.head := by
  have hhead := ProducerPc.step_head c.ring c.producer hc.producer
  have hindex := hc.pushed_index
  have hok := hc.producer
  show (c.pushed ++ c.producer.publishes).map Prod.fst =
    List.range (c.producer.step c.ring).ring.head
  rw [hhead, List.map_append, hindex]
  cases hpc : c.producer with
  | storeHead kind item h =>
    rw [hpc] at hok
    simp [ProducerPc.publishes, List.range_succ, hok.1]
  | _ => simp [ProducerPc.publishes]

/-- The first `fetch_add` opens the slot. -/
theorem WriterInv.beginWrite {c : Channel T cap} (hc : WriterInv c) {kind : PushKind} {item : T}
    {h : Nat} (hpc : c.producer = .beginWrite kind item h) : WriterInv c.stepPush.1 := by
  have hindex := hc.pushed_index_step
  have hok := ProducerPc.ok_step c.ring c.producer hc.producer
  obtain ⟨ring, producer, consumer, pushed, popped, outstanding, refused⟩ := c
  obtain rfl : producer = .beginWrite kind item h := hpc
  -- Every version was even; the slot of `h` turns odd, and nothing is claimed about its content.
  have heven : ∀ t, (ring.slot t).writeVersion % 2 = 0 := by
    intro t
    have hodd : ¬ (ring.slot t).writeVersion % 2 = 1 :=
      (hc.parity t).not.mpr (by simp [ProducerPc.writing])
    omega
  refine ⟨hindex, hok, ?_, ?_⟩
  · intro t
    have := heven t
    simp only [Channel.stepPush, ProducerPc.step, SpscRingBuffer.slot_modifySlot,
      ProducerPc.writing, Option.some.injEq, exists_eq_left']
    split
    · rename_i ht
      simp only [ht, iff_true]
      omega
    · rename_i ht
      simp only [ht, iff_false]
      omega
  · intro t
    have := heven t
    have hcontent := hc.content t
    simp only [Channel.stepPush, ProducerPc.step, SpscRingBuffer.slot_modifySlot,
      Channel.visible, ProducerPc.publishes, List.append_nil] at hcontent ⊢
    split
    · intro hv
      simp only at hv
      omega
    · exact hcontent

/-- A store of a payload word or of `seq` goes to the open slot. -/
theorem WriterInv.storeWord {c : Channel T cap} (hc : WriterInv c) {kind : PushKind} {item : T}
    {h k : Nat} (hpc : c.producer = .storeWord kind item h k) : WriterInv c.stepPush.1 := by
  have hindex := hc.pushed_index_step
  have hok := ProducerPc.ok_step c.ring c.producer hc.producer
  obtain ⟨ring, producer, consumer, pushed, popped, outstanding, refused⟩ := c
  obtain rfl : producer = .storeWord kind item h k := hpc
  -- The open slot has an odd version, so `content` claims nothing about it.
  have hparity := hc.parity
  have hcontent := hc.content
  refine ⟨hindex, hok, ?_, ?_⟩
  · intro t
    have := hparity t
    simp only [Channel.stepPush, ProducerPc.step] at this ⊢
    split
    all_goals
      simp only [SpscRingBuffer.slot_modifySlot, ProducerPc.writing] at this ⊢
      split
      all_goals exact this
  · intro t
    have hopen := (hparity t).mpr
    have := hcontent t
    simp only [Channel.stepPush, ProducerPc.step, Channel.visible] at this ⊢
    split
    all_goals
      simp only [SpscRingBuffer.slot_modifySlot, ProducerPc.publishes, List.append_nil] at this ⊢
      split
      · rename_i ht
        have := hopen ⟨h, rfl, ht⟩
        intro hv
        simp only at hv this
        omega
      · exact this

/-- The second `fetch_add` closes the slot. -/
theorem WriterInv.endWrite {c : Channel T cap} (hc : WriterInv c) {kind : PushKind} {item : T}
    {h : Nat} (hpc : c.producer = .endWrite kind item h) : WriterInv c.stepPush.1 := by
  have hindex := hc.pushed_index_step
  have hok := ProducerPc.ok_step c.ring c.producer hc.producer
  obtain ⟨ring, producer, consumer, pushed, popped, outstanding, refused⟩ := c
  obtain rfl : producer = .endWrite kind item h := hpc
  -- The slot of `h` becomes readable, and it holds the item about to be published.
  obtain ⟨-, hseq, hpayload⟩ := hc.producer
  have hparity := hc.parity
  have hcontent := hc.content
  refine ⟨hindex, hok, ?_, ?_⟩
  · intro t
    have := hparity t
    simp only [Channel.stepPush, ProducerPc.step, SpscRingBuffer.slot_modifySlot,
      ProducerPc.writing, Option.some.injEq, exists_eq_left'] at this ⊢
    split
    · rename_i ht
      simp only [ht, iff_true] at this
      simp
      omega
    · rename_i ht
      simp only [ht, iff_false] at this
      simpa using this
  · intro t
    have := hcontent t
    simp only [Channel.stepPush, ProducerPc.step, SpscRingBuffer.slot_modifySlot,
      Channel.visible, ProducerPc.publishes, List.append_nil] at this ⊢
    split
    · rename_i ht
      intro _ hs
      have hslot : ring.slot t = ring.slot h := by simp [SpscRingBuffer.slot, ht]
      simp only [hslot] at hs ⊢
      have hth : t = h := by simp only at hseq; omega
      exact ⟨item, by simp [hth], hpayload⟩
    · intro hv hs
      obtain ⟨x, hx, hp⟩ := this hv hs
      exact ⟨x, List.mem_append_left _ hx, hp⟩

/-- A step of the push call keeps the producer's invariant. -/
theorem WriterInv.stepPush {c : Channel T cap} (hc : WriterInv c) : WriterInv c.stepPush.1 := by
  have hindex := hc.pushed_index_step
  have hok := ProducerPc.ok_step c.ring c.producer hc.producer
  obtain ⟨ring, producer, consumer, pushed, popped, outstanding, refused⟩ := c
  cases producer with
  | idle =>
    exact hc.of_slots_eq (fun _ => rfl) (List.append_nil _) rfl hindex hok
  | loadHead kind item =>
    cases kind
    all_goals exact hc.of_slots_eq (fun _ => rfl) (List.append_nil _) rfl hindex hok
  | loadTail item h =>
    by_cases hfull : subU64 h ring.tail = cap.val
    all_goals
      simp only [Channel.stepPush, ProducerPc.step, hfull, if_true, if_false] at hindex hok ⊢
      exact hc.of_slots_eq (fun _ => rfl) (List.append_nil _) rfl hindex hok
  | beginWrite kind item h => exact hc.beginWrite rfl
  | storeWord kind item h k => exact hc.storeWord rfl
  | endWrite kind item h => exact hc.endWrite rfl
  | storeHead kind item h =>
    -- The push moves from the one about to be published to the published ones.
    have hvis : Channel.visible (Channel.stepPush
        ⟨ring, .storeHead kind item h, consumer, pushed, popped, outstanding, refused⟩).1 =
        Channel.visible
          ⟨ring, .storeHead kind item h, consumer, pushed, popped, outstanding, refused⟩ := by
      cases kind <;>
        simp [Channel.visible, Channel.stepPush, ProducerPc.step, ProducerPc.publishes]
    cases kind
    all_goals exact hc.of_slots_eq (fun _ => rfl) hvis rfl hindex hok
  | checkDrop h =>
    by_cases hdrop : cap.val ≤ subU64 h ring.tail
    all_goals
      simp only [Channel.stepPush, ProducerPc.step, hdrop, if_true, if_false] at hindex hok ⊢
      exact hc.of_slots_eq (fun _ => rfl) (List.append_nil _) rfl hindex hok
  | countDrop =>
    exact hc.of_slots_eq (fun _ => rfl) (List.append_nil _) rfl hindex hok

/-- The call of a push keeps the writer's invariant. -/
theorem WriterInv.callPush {c : Channel T cap} (hc : WriterInv c) (kind : PushKind) (item : T) :
    WriterInv (c.callPush kind item) := by
  have hindex := hc.pushed_index
  unfold Channel.callPush
  split
  · rename_i hpc
    refine hc.of_slots_eq (fun _ => rfl) ?_ ?_ hindex trivial
    · simp [Channel.visible, ProducerPc.publishes, hpc]
    · simp [ProducerPc.writing, hpc]
  · exact hc

/-! ### The window of the last `Capacity` pushes -/

/-- The `head_` of the push that may have stored `seq` and has not stored `head_`. -/
def ProducerPc.claimed : ProducerPc T → Option Nat
  | .storeWord _ _ h _ | .endWrite _ _ h | .storeHead _ _ h => some h
  | _ => none

/-- The slots of the last `Capacity` pushes hold them, except the one the open push claims. -/
def WindowInv (c : Channel T cap) : Prop :=
  ∀ t, t < c.ring.head → c.ring.head ≤ t + cap.val →
    (∀ h, c.producer.claimed = some h → cap.index t ≠ cap.index h) →
      (c.ring.slot t).seq = t + 1

/-- The invariant of the window holds at the start. -/
theorem windowInv_init : WindowInv (Channel.init : Channel T cap) := by
  intro t ht
  exact absurd ht (Nat.not_lt_zero t)

/-- Two indices less than `Capacity` apart have different slots. -/
theorem Capacity.index_ne (cap : Capacity) {t h : Nat} (hlt : t < h) (hcap : h < t + cap.val) :
    cap.index t ≠ cap.index h := by
  intro heq
  have hmod : h % cap.val = t % cap.val := (congrArg Fin.val heq).symm
  have hdvd : cap.val ∣ h - t := Nat.dvd_of_mod_eq_zero (Nat.sub_mod_eq_zero_of_mod_eq hmod)
  have := Nat.le_of_dvd (by omega) hdvd
  omega

/-- A step of the push call stores no `seq` outside the slot it claims. -/
theorem ProducerPc.step_seq (r : SpscRingBuffer T cap) (pc : ProducerPc T) {t : Nat}
    (hne : ∀ h, pc.claimed = some h → cap.index t ≠ cap.index h) :
    ((pc.step r).ring.slot t).seq = (r.slot t).seq := by
  -- Only the store of a sequence number writes one, into the claimed slot.
  cases pc with
  | idle => rfl
  | loadHead kind item => cases kind <;> rfl
  | loadTail item h => simp only [step]; split <;> rfl
  | beginWrite kind item h =>
    simp only [step, SpscRingBuffer.slot_modifySlot]
    split <;> rfl
  | storeWord kind item h k =>
    simp only [step]
    split <;> simp [SpscRingBuffer.slot_modifySlot, hne h rfl]
  | endWrite kind item h =>
    simp only [step, SpscRingBuffer.slot_modifySlot]
    split <;> rfl
  | storeHead kind item h => cases kind <;> rfl
  | checkDrop h => simp only [step]; split <;> rfl
  | countDrop => rfl

/-- A claim ends with `head_.store`. -/
theorem ProducerPc.claimed_step (r : SpscRingBuffer T cap) {pc : ProducerPc T} {h : Nat}
    (hclaim : pc.claimed = some h) (hpub : pc.publishes = []) :
    (pc.step r).pc.claimed = some h := by
  cases pc with
  | storeWord kind item h' k =>
    simp only [step]
    split <;> exact hclaim
  | endWrite kind item h' => exact hclaim
  | storeHead kind item h' => simp [publishes] at hpub
  | _ => simp [claimed] at hclaim

/-- A step of a push keeps the invariant of the window. -/
theorem WindowInv.stepPush {c : Channel T cap} (hw : WriterInv c) (hc : WindowInv c) :
    WindowInv c.stepPush.1 := by
  have hhead : c.stepPush.1.ring.head = c.ring.head + c.producer.publishes.length :=
    ProducerPc.step_head c.ring c.producer hw.producer
  intro t hlt hcap hne
  by_cases hpub : c.producer.publishes = []
  · -- `head_` stays, and so does the claim, if there is one.
    rw [hpub, List.length_nil, Nat.add_zero] at hhead
    rw [hhead] at hlt hcap
    have hne' : ∀ h, c.producer.claimed = some h → cap.index t ≠ cap.index h := by
      intro h hclaim
      exact hne h (ProducerPc.claimed_step c.ring hclaim hpub)
    exact (ProducerPc.step_seq c.ring c.producer hne').trans (hc t hlt hcap hne')
  · cases hpc : c.producer with
    | storeHead kind item h =>
      -- The window moves by one: it gains the slot just written and loses the one it overwrote.
      have hok := hw.producer
      rw [hpc] at hok
      obtain ⟨hh, hseq⟩ := hok
      have hslot : c.stepPush.1.ring.slot t = c.ring.slot t := by
        show (c.producer.step c.ring).ring.slot t = c.ring.slot t
        rw [hpc]
        cases kind <;> rfl
      rw [hpc, ProducerPc.publishes, List.length_singleton] at hhead
      rw [hslot]
      by_cases hnew : t = h
      · rw [hnew]
        exact hseq
      · refine hc t (by omega) (by omega) ?_
        intro h' hclaim
        rw [hpc] at hclaim
        obtain rfl : h = h' := by simpa [ProducerPc.claimed] using hclaim
        exact cap.index_ne (by omega) (by omega)
    | _ => simp [ProducerPc.publishes, hpc] at hpub

/-- The call of a push keeps the invariant of the window. -/
theorem WindowInv.callPush {c : Channel T cap} (hc : WindowInv c) (kind : PushKind) (item : T) :
    WindowInv (c.callPush kind item) := by
  unfold Channel.callPush
  split
  · rename_i hpc
    intro t hlt hcap _
    exact hc t hlt hcap (by simp [ProducerPc.claimed, hpc])
  · exact hc

/-! ### The consumer side -/

/-- A copy of the slot of `ct` in progress: the version `v1` read before it was even, the version
only grows, and while it still is `v1` the slot has `seq = s1 = ct + 1` and satisfies `P`. -/
structure Snapshot (r : SpscRingBuffer T cap) (ct v1 s1 : Nat) (P : Slot T → Prop) : Prop where
  even : v1 % 2 = 0
  le : v1 ≤ (r.slot ct).writeVersion
  seq : s1 = ct + 1
  stable : (r.slot ct).writeVersion = v1 → (r.slot ct).seq = s1 ∧ P (r.slot ct)

/-- What a `tryPop` call knows about the ring at each of its accesses. -/
def ConsumerPc.Ok (r : SpscRingBuffer T cap) (pushed : List (Nat × T)) : ConsumerPc T → Prop
  | .idle | .loadTail => True
  | .loadHead ct => ct = r.tail
  | .storeBoundary h boundary => r.tail ≤ boundary ∧ boundary ≤ h ∧ h ≤ r.head
  | .loadVersion ct | .skipSlot ct => ct = r.tail ∧ ct < r.head
  | .loadSeq ct v1 =>
    ct = r.tail ∧ ct < r.head ∧ v1 % 2 = 0 ∧ v1 ≤ (r.slot ct).writeVersion
  | .loadWord ct v1 s1 k dst =>
    ct = r.tail ∧ ct < r.head ∧ Snapshot r ct v1 s1 fun s =>
      ∀ j (hj : j < wordCount T), j < k → dst[j] = s.payload[j]
  | .loadVersion2 ct v1 s1 _ item =>
    ct = r.tail ∧ ct < r.head ∧ Snapshot r ct v1 s1 fun s => item = ofWords s.payload
  | .storeTail ct item => ct = r.tail ∧ ct < r.head ∧ (ct, item) ∈ pushed

/-- The part of the invariant the consumer maintains. -/
structure ReaderInv (c : Channel T cap) : Prop where
  tail_le : c.ring.tail ≤ c.ring.head
  consumer : c.consumer.Ok c.ring c.pushed
  popped_mem : ∀ p ∈ c.popped, p.tailAfter = p.tailBefore + 1 ∧ p.tailBefore < c.ring.tail ∧
    (p.tailBefore, p.item) ∈ c.pushed
  popped_sorted : c.popped.Pairwise fun p q => p.tailBefore < q.tailBefore

/-- The reader's invariant holds at the start. -/
theorem readerInv_init : ReaderInv (Channel.init : Channel T cap) where
  tail_le := Nat.le_refl 0
  consumer := trivial
  popped_mem := by simp [Channel.init]
  popped_sorted := List.Pairwise.nil

/-- A change of the slot that raises its version, or that happens while the version is odd, does
not break a copy in progress: the version it waits for is even and not above the current one. -/
theorem Snapshot.mono {r r' : SpscRingBuffer T cap} {ct v1 s1 : Nat} {P : Slot T → Prop}
    (hs : Snapshot r ct v1 s1 P)
    (hslot : r'.slot ct = r.slot ct ∨
      (r'.slot ct).writeVersion = (r.slot ct).writeVersion + 1 ∨
      (r'.slot ct).writeVersion = (r.slot ct).writeVersion ∧ (r.slot ct).writeVersion % 2 = 1) :
    Snapshot r' ct v1 s1 P := by
  obtain ⟨heven, hle, hseq, hstable⟩ := hs
  -- In the last two cases the version is not `v1` any more, so nothing is claimed.
  rcases hslot with he | hv | ⟨hv, hodd⟩
  · exact ⟨heven, by rw [he]; exact hle, hseq, by rw [he]; exact hstable⟩
  · exact ⟨heven, by omega, hseq, fun h => by omega⟩
  · exact ⟨heven, by omega, hseq, fun h => by omega⟩

/-- What the `tryPop` call knows survives a step of the producer. -/
theorem ConsumerPc.Ok.mono {r r' : SpscRingBuffer T cap} {pushed pushed' : List (Nat × T)}
    {pc : ConsumerPc T} (hok : pc.Ok r pushed) (htail : r'.tail = r.tail) (hhead : r.head ≤ r'.head)
    (hpushed : pushed ⊆ pushed')
    (hslot : ∀ t, r'.slot t = r.slot t ∨
      (r'.slot t).writeVersion = (r.slot t).writeVersion + 1 ∨
      (r'.slot t).writeVersion = (r.slot t).writeVersion ∧ (r.slot t).writeVersion % 2 = 1) :
    pc.Ok r' pushed' := by
  cases pc with
  | idle => trivial
  | loadTail => trivial
  | loadHead ct => exact hok.trans htail.symm
  | storeBoundary h boundary =>
    obtain ⟨hlt, hle, hh⟩ := hok
    exact ⟨by rw [htail]; exact hlt, hle, Nat.le_trans hh hhead⟩
  | loadVersion ct | skipSlot ct =>
    obtain ⟨hct, hlt⟩ := hok
    exact ⟨hct.trans htail.symm, Nat.lt_of_lt_of_le hlt hhead⟩
  | loadSeq ct v1 =>
    obtain ⟨hct, hlt, heven, hle⟩ := hok
    refine ⟨hct.trans htail.symm, Nat.lt_of_lt_of_le hlt hhead, heven, ?_⟩
    -- Only `v1 ≤ writeVersion` reads the slot, and the version grows.
    rcases hslot ct with he | hv | ⟨hv, -⟩
    · rw [he]
      exact hle
    · omega
    · omega
  | loadWord ct v1 s1 k dst =>
    obtain ⟨hct, hlt, hsnap⟩ := hok
    exact ⟨hct.trans htail.symm, Nat.lt_of_lt_of_le hlt hhead, hsnap.mono (hslot ct)⟩
  | loadVersion2 ct v1 s1 s2 item =>
    obtain ⟨hct, hlt, hsnap⟩ := hok
    exact ⟨hct.trans htail.symm, Nat.lt_of_lt_of_le hlt hhead, hsnap.mono (hslot ct)⟩
  | storeTail ct item =>
    obtain ⟨hct, hlt, hmem⟩ := hok
    exact ⟨hct.trans htail.symm, Nat.lt_of_lt_of_le hlt hhead, hpushed hmem⟩

/-- A step of the push call keeps the consumer's invariant. -/
theorem ReaderInv.stepPush {c : Channel T cap} (hw : WriterInv c) (hr : ReaderInv c) :
    ReaderInv c.stepPush.1 := by
  have htail : c.stepPush.1.ring.tail = c.ring.tail := ProducerPc.step_tail c.ring c.producer
  have hhead : c.ring.head ≤ c.stepPush.1.ring.head := by
    have := ProducerPc.step_head c.ring c.producer hw.producer
    show c.ring.head ≤ (c.producer.step c.ring).ring.head
    omega
  have hpushed : c.pushed ⊆ c.stepPush.1.pushed := List.subset_append_left _ _
  refine ⟨by rw [htail]; exact Nat.le_trans hr.tail_le hhead, ?_, ?_, hr.popped_sorted⟩
  -- An open slot has an odd version, by `parity`.
  · refine hr.consumer.mono htail hhead hpushed ?_
    intro t
    rcases ProducerPc.step_slot c.ring c.producer t with he | hv | ⟨hv, hopen⟩
    · exact Or.inl he
    · exact Or.inr (Or.inl hv)
    · exact Or.inr (Or.inr ⟨hv, (hw.parity t).mpr hopen⟩)
  · intro p hp
    obtain ⟨hafter, hlt, hmem⟩ := hr.popped_mem p hp
    exact ⟨hafter, by rw [htail]; exact hlt, hpushed hmem⟩

/-- The call of a push keeps the reader's invariant. -/
theorem ReaderInv.callPush {c : Channel T cap} (hr : ReaderInv c) (kind : PushKind) (item : T) :
    ReaderInv (c.callPush kind item) := by
  unfold Channel.callPush
  split
  · exact ⟨hr.tail_le, hr.consumer, hr.popped_mem, hr.popped_sorted⟩
  · exact hr

/-- On a ring that is not over-full the drop boundary is `tail_`. -/
theorem boundary_eq_tail (cap : Capacity) (h ct : Nat) (hfull : h ≤ ct + cap.val) :
    (if (if cap.val < h then h - cap.val else 0) < ct then ct
      else if cap.val < h then h - cap.val else 0) = ct := by
  generalize hminus : (if cap.val < h then h - cap.val else 0) = hMinusCap
  have hle : hMinusCap ≤ ct := by
    rw [← hminus]
    split <;> omega
  split <;> omega

/-- No step of a `tryPop` call stores `head_`. -/
@[simp] theorem ConsumerPc.step_head (r : SpscRingBuffer T cap) (pc : ConsumerPc T) :
    (pc.step r).ring.head = r.head := by
  cases pc <;> simp only [step] <;> (repeat' split) <;> rfl

/-- No step of a `tryPop` call counts a drop. -/
@[simp] theorem ConsumerPc.step_cumulativeDropCount (r : SpscRingBuffer T cap)
    (pc : ConsumerPc T) :
    (pc.step r).ring.cumulativeDropCount = r.cumulativeDropCount := by
  cases pc <;> simp only [step] <;> (repeat' split) <;> rfl

/-- No step of a `tryPop` call stores into a slot. -/
@[simp] theorem ConsumerPc.step_buffer (r : SpscRingBuffer T cap) (pc : ConsumerPc T) :
    (pc.step r).ring.buffer = r.buffer := by
  cases pc <;> simp only [step] <;> (repeat' split) <;> rfl

/-- A step of a pop changes no slot. -/
theorem ConsumerPc.step_slot (r : SpscRingBuffer T cap) (pc : ConsumerPc T) (t : Nat) :
    (pc.step r).ring.slot t = r.slot t := by
  simp [SpscRingBuffer.slot]

/-- The history records what the calls return: a step adds to `popped` the item it returns, and
nothing unless it returns true. -/
theorem ConsumerPc.takes_eq_returned (r : SpscRingBuffer T cap) (pc : ConsumerPc T) :
    (pc.takes r).map PopRecord.item = (pc.step r).ret.join.toList := by
  cases pc with
  | storeTail ct item => rfl
  | idle | loadTail | skipSlot ct => rfl
  | loadHead ct | storeBoundary h boundary | loadVersion ct | loadSeq ct v1
  | loadWord ct v1 s1 k dst | loadVersion2 ct v1 s1 s2 item =>
    -- These accesses go on or return false.
    simp only [takes, step]
    repeat' split
    all_goals rfl

/-- A step of the `tryPop` call keeps the producer's invariant. -/
theorem WriterInv.stepPop {c : Channel T cap} (hw : WriterInv c) : WriterInv c.stepPop.1 := by
  have hslot := ConsumerPc.step_slot c.ring c.consumer
  have hhead := ConsumerPc.step_head c.ring c.consumer
  refine hw.of_slots_eq hslot rfl rfl ?_ ?_
  · show c.pushed.map Prod.fst = List.range (c.consumer.step c.ring).ring.head
    rw [hhead]
    exact hw.pushed_index
  · exact hw.producer.congr hslot hhead

/-- The call of a pop keeps the writer's invariant. -/
theorem WriterInv.callPop {c : Channel T cap} (hw : WriterInv c) : WriterInv c.callPop := by
  unfold Channel.callPop
  split
  · exact ⟨hw.pushed_index, hw.producer, hw.parity, hw.content⟩
  · exact hw

/-- A step of a pop keeps the invariant of the window. -/
theorem WindowInv.stepPop {c : Channel T cap} (hc : WindowInv c) : WindowInv c.stepPop.1 := by
  have hhead : c.stepPop.1.ring.head = c.ring.head := ConsumerPc.step_head c.ring c.consumer
  intro t hlt hcap hne
  rw [hhead] at hlt hcap
  exact (congrArg Slot.seq (ConsumerPc.step_slot c.ring c.consumer t)).trans (hc t hlt hcap hne)

/-- The call of a pop keeps the invariant of the window. -/
theorem WindowInv.callPop {c : Channel T cap} (hc : WindowInv c) : WindowInv c.callPop := by
  unfold Channel.callPop
  split
  · exact hc
  · exact hc

/-- The call of a pop keeps the reader's invariant. -/
theorem ReaderInv.callPop {c : Channel T cap} (hr : ReaderInv c) : ReaderInv c.callPop := by
  unfold Channel.callPop
  split
  · exact ⟨hr.tail_le, trivial, hr.popped_mem, hr.popped_sorted⟩
  · exact hr

/-- The copy that passed the stability test is the item pushed at `head_ = ct`. The version is the
even one read before the copy, so no store touched the slot since, and the slot holds a written
push with `seq = ct + 1`. The push about to store `head_` is not it, because `ct < head_`. -/
theorem Snapshot.item_mem {c : Channel T cap} (hw : WriterInv c) {ct v1 s1 : Nat} {item : T}
    (hlt : ct < c.ring.head)
    (hs : Snapshot c.ring ct v1 s1 fun s => item = ofWords s.payload)
    (hv : v1 = (c.ring.slot ct).writeVersion) : (ct, item) ∈ c.pushed := by
  obtain ⟨heven, -, hseq, hstable⟩ := hs
  obtain ⟨hs1, hitem⟩ := hstable hv.symm
  obtain ⟨x, hx, hpayload⟩ := hw.content ct (by omega) (by omega)
  have hix : item = x := by rw [hitem, hpayload, ofWords_toWords]
  -- `x` is published already, or it is the item of the push about to store `head_`.
  rcases List.mem_append.mp hx with hmem | hmem
  · rw [hix]
    exact hmem
  · have hok := hw.producer
    cases hpc : c.producer with
    | storeHead kind y h =>
      rw [hpc] at hok hmem
      have hh : h = c.ring.head := hok.1
      have : ct = h := by simp_all [ProducerPc.publishes]
      omega
    | _ => simp [ProducerPc.publishes, hpc] at hmem

/-- `tail_` never moves back and never passes `head_`. -/
theorem ConsumerPc.step_tail_le (r : SpscRingBuffer T cap) {pushed : List (Nat × T)}
    (pc : ConsumerPc T) (hok : pc.Ok r pushed) (htail : r.tail ≤ r.head) :
    r.tail ≤ (pc.step r).ring.tail ∧ (pc.step r).ring.tail ≤ r.head := by
  have hsame : r.tail ≤ r.tail ∧ r.tail ≤ r.head := ⟨Nat.le_refl _, htail⟩
  cases pc with
  | idle => exact hsame
  | loadTail => exact hsame
  | loadHead ct => simp only [step]; repeat' split
                   all_goals exact hsame
  -- The boundary is between the tail and the head that was read.
  | storeBoundary h boundary =>
    obtain ⟨hlt, hle, hh⟩ := hok
    simp only [step]
    split
    all_goals exact ⟨hlt, Nat.le_trans hle hh⟩
  | loadVersion ct => simp only [step]; split <;> exact hsame
  | loadSeq ct v1 => simp only [step]; split <;> exact hsame
  | skipSlot ct =>
    obtain ⟨hct, hlt⟩ := hok
    simp only [step]
    omega
  | loadWord ct v1 s1 k dst => simp only [step]; split <;> exact hsame
  | loadVersion2 ct v1 s1 s2 item => simp only [step]; split <;> exact hsame
  | storeTail ct item =>
    obtain ⟨hct, hlt, -⟩ := hok
    simp only [step]
    omega

/-- The step keeps what the `tryPop` call knows about the ring. -/
theorem ConsumerPc.ok_step {c : Channel T cap} (hw : WriterInv c)
    (hok : c.consumer.Ok c.ring c.pushed) (htail : c.ring.tail ≤ c.ring.head) :
    (c.consumer.step c.ring).pc.Ok (c.consumer.step c.ring).ring c.pushed := by
  cases hpc : c.consumer with
  | idle => trivial
  | loadTail => exact rfl
  | loadHead ct =>
    rw [hpc] at hok
    have hct : ct = c.ring.tail := hok
    simp only [step]
    -- The drop boundary lies between `tail_` and the `head_` just read.
    generalize hminus : (if cap.val < c.ring.head then c.ring.head - cap.val else 0) = hMinusCap
    generalize hboundary : (if hMinusCap < ct then ct else hMinusCap) = boundary
    have hminusle : hMinusCap ≤ c.ring.head := by
      rw [← hminus]
      split <;> omega
    have hle : boundary ≤ c.ring.head := by
      rw [← hboundary]
      split <;> omega
    split
    · exact ⟨by show c.ring.tail ≤ boundary; omega, hle, Nat.le_refl _⟩
    · split
      · trivial
      · exact ⟨hct, by show ct < c.ring.head; omega⟩
  | storeBoundary h boundary =>
    rw [hpc] at hok
    obtain ⟨hlt, hle, hh⟩ := hok
    simp only [step]
    split
    · trivial
    · exact ⟨rfl, by show boundary < c.ring.head; omega⟩
  | loadVersion ct =>
    rw [hpc] at hok
    obtain ⟨hct, hlt⟩ := hok
    simp only [step]
    split
    · trivial
    · exact ⟨hct, hlt, by omega, Nat.le_refl _⟩
  | loadSeq ct v1 =>
    rw [hpc] at hok
    obtain ⟨hct, hlt, heven, hle⟩ := hok
    simp only [step]
    split
    · exact ⟨hct, hlt⟩
    · rename_i hseq
      -- The copy starts: no word is read yet.
      refine ⟨hct, hlt, heven, hle, by simpa using hseq, ?_⟩
      intro _
      exact ⟨rfl, fun j _ hj => absurd hj (Nat.not_lt_zero j)⟩
  | skipSlot ct => trivial
  | loadWord ct v1 s1 k dst =>
    rw [hpc] at hok
    obtain ⟨hct, hlt, heven, hle, hseq, hstable⟩ := hok
    simp only [step]
    split
    · rename_i hk
      -- Word `k` is read while the version is still `v1`, so it is the slot's.
      refine ⟨hct, hlt, heven, hle, hseq, ?_⟩
      intro hv
      refine ⟨(hstable hv).1, ?_⟩
      intro j hj hjk
      by_cases hjeq : j = k
      · subst hjeq
        exact Vector.getElem_set_self hj
      · rw [Vector.getElem_set_ne hk hj (Ne.symm hjeq)]
        exact (hstable hv).2 j hj (by omega)
    · rename_i hk
      refine ⟨hct, hlt, heven, hle, hseq, fun hv => ⟨(hstable hv).1, ?_⟩⟩
      -- All words are read, so `dst` is the payload.
      have hdst : dst = (c.ring.slot ct).payload :=
        Vector.ext fun j hj => (hstable hv).2 j hj (by omega)
      rw [hdst]
  | loadVersion2 ct v1 s1 s2 item =>
    rw [hpc] at hok
    obtain ⟨hct, hlt, hsnap⟩ := hok
    simp only [step]
    split
    · trivial
    · rename_i hsame
      -- The stability test has passed.
      have hv : v1 = (c.ring.slot ct).writeVersion := by
        by_contra hne
        exact hsame (Or.inl hne)
      exact ⟨hct, hlt, hsnap.item_mem hw hlt hv⟩
  | storeTail ct item => trivial

/-- A step of the `tryPop` call keeps the consumer's invariant. -/
theorem ReaderInv.stepPop {c : Channel T cap} (hw : WriterInv c) (hr : ReaderInv c) :
    ReaderInv c.stepPop.1 := by
  obtain ⟨hle, hle'⟩ := ConsumerPc.step_tail_le c.ring c.consumer hr.consumer hr.tail_le
  have hnext := ConsumerPc.ok_step hw hr.consumer hr.tail_le
  have hhead : c.stepPop.1.ring.head = c.ring.head := ConsumerPc.step_head c.ring c.consumer
  have hold : ∀ p ∈ c.popped, p.tailAfter = p.tailBefore + 1 ∧
      p.tailBefore < c.stepPop.1.ring.tail ∧ (p.tailBefore, p.item) ∈ c.pushed := by
    intro p hp
    obtain ⟨hafter, hlt, hmem⟩ := hr.popped_mem p hp
    exact ⟨hafter, Nat.lt_of_lt_of_le hlt hle, hmem⟩
  have hpopped : c.stepPop.1.popped = c.popped ++ c.consumer.takes c.ring := rfl
  have hok := hr.consumer
  refine ⟨by rw [hhead]; exact hle', hnext, ?_, ?_⟩
  -- `popped_mem`: a pop of before, or the one this step completes.
  · intro p hp
    rw [hpopped, List.mem_append] at hp
    rcases hp with hp | hp
    · exact hold p hp
    · cases hpc : c.consumer with
      | storeTail ct item =>
        rw [hpc] at hok hp
        obtain ⟨hct, -, hmem⟩ := hok
        have hp' : p = ⟨c.ring.tail, ct + 1, item⟩ := by simpa [ConsumerPc.takes] using hp
        subst hp'
        refine ⟨by rw [hct], ?_, hct ▸ hmem⟩
        show c.ring.tail < (c.consumer.step c.ring).ring.tail
        rw [hpc]
        show c.ring.tail < ct + 1
        omega
      | _ => simp [ConsumerPc.takes, hpc] at hp
  -- `popped_sorted`: every pop of before has its index below `tail_`.
  · rw [hpopped, List.pairwise_append]
    refine ⟨hr.popped_sorted, ?_, ?_⟩
    · cases c.consumer <;> simp [ConsumerPc.takes]
    · intro p hp q hq
      cases hpc : c.consumer with
      | storeTail ct item =>
        rw [hpc] at hq
        have hq' : q = ⟨c.ring.tail, ct + 1, item⟩ := by simpa [ConsumerPc.takes] using hq
        subst hq'
        exact (hr.popped_mem p hp).2.1
      | _ => simp [ConsumerPc.takes, hpc] at hq

/-! ### Every run -/

/-- The invariant of a ring under one producer and one consumer. -/
structure SeqlockInv (c : Channel T cap) : Prop where
  writer : WriterInv c
  window : WindowInv c
  reader : ReaderInv c

/-- All three invariants hold at the start. -/
theorem seqlockInv_init : SeqlockInv (Channel.init : Channel T cap) :=
  ⟨writerInv_init, windowInv_init, readerInv_init⟩

/-- Every step keeps all three. -/
theorem seqlockInv_step (c : Channel T cap) (a : SpscAction T) (hc : SeqlockInv c) :
    SeqlockInv ((spscMachine T cap).step c a) := by
  obtain ⟨hw, hwin, hr⟩ := hc
  cases a with
  | callPush kind item =>
    exact ⟨hw.callPush kind item, hwin.callPush kind item, hr.callPush kind item⟩
  | stepPush => exact ⟨hw.stepPush, hwin.stepPush hw, hr.stepPush hw⟩
  | callPop => exact ⟨hw.callPop, hwin.callPop, hr.callPop⟩
  | stepPop => exact ⟨hw.stepPop, hwin.stepPop, hr.stepPop hw⟩

/-- The invariant holds in every reachable state. -/
theorem seqlockInv_run : (spscMachine T cap).Invariant SeqlockInv :=
  Lib.Machine.Invariant.of_step seqlockInv_init seqlockInv_step

/-- **Every successful pop returns one whole push, in push order.** In every state that any
interleaving of the accesses of one producer and one consumer reaches:

1. the pushes are numbered `0, 1, 2, …` by the value of `head_` at the push;
2. a successful pop moved `tail_` from some `t` to `t + 1` and returned the item that was pushed
   at `head_ = t`, all words of it from that push;
3. the pops are in strictly increasing order of that index. -/
theorem tryPop_returns_whole_pushes (acts : List (SpscAction T)) :
    let c := (spscMachine T cap).run acts
    c.pushed.map Prod.fst = List.range c.ring.head ∧
      (∀ p ∈ c.popped, p.tailAfter = p.tailBefore + 1 ∧ (p.tailBefore, p.item) ∈ c.pushed) ∧
      c.popped.Pairwise fun p q => p.tailBefore < q.tailBefore := by
  have hinv : SeqlockInv ((spscMachine T cap).run acts) := seqlockInv_run acts
  obtain ⟨hw, -, hr⟩ := hinv
  refine ⟨hw.pushed_index, ?_, hr.popped_sorted⟩
  intro p hp
  obtain ⟨hafter, -, hmem⟩ := hr.popped_mem p hp
  exact ⟨hafter, hmem⟩

end CrossFlow
