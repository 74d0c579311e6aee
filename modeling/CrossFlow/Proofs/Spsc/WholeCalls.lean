import CrossFlow.Platform.Common.SpscCalls
import Mathlib.Data.Vector.Basic

/-!
# `CrossFlow.Proofs.Spsc.WholeCalls`: a call that nobody interrupts

The functions of `SpscCalls` are what the calls of `SpscRingBuffer` come to, access by access, when
they run alone.

* `whole_push`, `whole_pop`: the calls of a `Channel`.
-/

set_option autoImplicit false

namespace CrossFlow

open TriviallyCopyable
open Lib (Completes)

variable {T : Type} [TriviallyCopyable T] {cap : Capacity}

/-! ### Copying the words -/

/-- `dst` when the words from `k` on have been copied from `src`. -/
def copyFrom {n : Nat} (src dst : Vector UInt64 n) (k : Nat) : Vector UInt64 n :=
  Vector.ofFn fun i => if i.val < k then dst[i] else src[i]

/-- A copy from the first word on is the whole source. -/
theorem copyFrom_zero {n : Nat} (src dst : Vector UInt64 n) : copyFrom src dst 0 = src := by
  ext i hi
  simp [copyFrom]

/-- A copy from the end on changes nothing. -/
theorem copyFrom_end {n k : Nat} (src dst : Vector UInt64 n) (hk : n ≤ k) :
    copyFrom src dst k = dst := by
  ext i hi
  have hlt : i < k := by omega
  simp [copyFrom, hlt]

/-- A word that was copied, and those after it. -/
theorem copyFrom_set {n k : Nat} (src dst : Vector UInt64 n) (hk : k < n) :
    copyFrom src (dst.set k src[k]) (k + 1) = copyFrom src dst k := by
  ext i hi
  simp only [copyFrom, Vector.getElem_ofFn, Fin.getElem_fin, Vector.getElem_set]
  by_cases hlt : i < k
  · have hne : ¬ k = i := by omega
    simp [hlt, Nat.lt_succ_of_lt hlt, hne]
  · by_cases heq : k = i
    · subst heq
      simp
    · have hgt : ¬ i < k + 1 := by omega
      simp [hlt, hgt]

/-! ### A push -/

namespace SpscRingBuffer

/-- Two changes of a slot are one. -/
theorem modifySlot_modifySlot (r : SpscRingBuffer T cap) (h : Nat) (f g : Slot T → Slot T) :
    (r.modifySlot h f).modifySlot h g = r.modifySlot h fun s => g (f s) := by
  rw [modifySlot, slot_modifySlot_self]
  simp only [modifySlot, Function.update_idem]

end SpscRingBuffer

/-- A push call and its ring. -/
def pushStep (s : SpscRingBuffer T cap × ProducerPc T) :
    (SpscRingBuffer T cap × ProducerPc T) × Option Bool :=
  let st := s.2.step s.1
  ((st.ring, st.pc), st.ret)

section Push
variable {r : SpscRingBuffer T cap} {kind : PushKind} {item : T} {h : Nat} {ok : Bool}
  {last : SpscRingBuffer T cap × ProducerPc T}

/-- The words from `k` on, by induction on how many there are, and `seq`. -/
theorem storeWord_completes {k : Nat} (hrest : Completes pushStep
      (r.modifySlot h fun s =>
          { s with payload := copyFrom (toWords item) s.payload k, seq := h + 1 },
        .endWrite kind item h) ok last) :
    Completes pushStep (r, .storeWord kind item h k) ok last := by
  induction hn : wordCount T - k generalizing r k with
  -- All words are stored, and the write ends.
  | zero =>
    have hk : ¬ k < wordCount T := by omega
    refine .of_step (t := (r.modifySlot h fun s => { s with seq := h + 1 },
      .endWrite kind item h)) ?_ ?_
    · simp [pushStep, ProducerPc.step, hk]
    · simpa only [copyFrom_end _ _ (Nat.le_of_not_lt hk)] using hrest
  -- One more word is stored, and the rest as before.
  | succ n ih =>
    have hk : k < wordCount T := by omega
    refine .of_step (t := (r.modifySlot h fun s =>
      { s with payload := s.payload.set k (toWords item)[k] },
      .storeWord kind item h (k + 1))) ?_ (ih ?_ (by omega))
    · simp [pushStep, ProducerPc.step, hk]
    · rw [SpscRingBuffer.modifySlot_modifySlot]
      simpa only [copyFrom_set _ _ hk] using hrest

/-- The stores of a push into its slot. -/
theorem beginWrite_completes (hrest : Completes pushStep
      (r.modifySlot h fun s =>
          { payload := toWords item, seq := h + 1, writeVersion := s.writeVersion + 1 + 1 },
        .storeHead kind item h) ok last) :
    Completes pushStep (r, .beginWrite kind item h) ok last := by
  refine .of_step (t := (r.modifySlot h fun s => { s with writeVersion := s.writeVersion + 1 },
    .storeWord kind item h 0)) (by simp [pushStep, ProducerPc.step]) ?_
  refine storeWord_completes (.of_step (t := (r.modifySlot h fun s =>
      { payload := toWords item, seq := h + 1, writeVersion := s.writeVersion + 1 + 1 },
    .storeHead kind item h)) ?_ hrest)
  simp [pushStep, ProducerPc.step, SpscRingBuffer.modifySlot_modifySlot, copyFrom_zero]

end Push

/-- The steps of a push alone are the whole call. -/
theorem tryPush_completes (r : SpscRingBuffer T cap) (item : T) :
    Completes pushStep (r, .loadHead .tryPush item) (r.tryPush item).2
      ((r.tryPush item).1, .idle) := by
  refine .of_step (t := (r, .loadTail item r.head)) rfl ?_
  simp only [SpscRingBuffer.tryPush]
  split
  · rename_i hfull
    refine .of_last ?_
    simp only [pushStep, ProducerPc.step, if_pos hfull]
  · rename_i hroom
    refine .of_step (t := (r, .beginWrite .tryPush item r.head)) ?_ ?_
    · simp only [pushStep, ProducerPc.step, if_neg hroom]
    · exact beginWrite_completes (.of_last rfl)

/-- The steps of a push that drops the oldest alone are the whole call. -/
theorem tryPushDropOldest_completes (r : SpscRingBuffer T cap) (item : T) :
    Completes pushStep (r, .loadHead .tryPushDropOldest item) (r.tryPushDropOldest item).2
      ((r.tryPushDropOldest item).1, .idle) := by
  refine .of_step (t := (r, .beginWrite .tryPushDropOldest item r.head)) rfl ?_
  refine beginWrite_completes (.of_step
    (t := (r.publish r.head item, .checkDrop r.head)) rfl ?_)
  simp only [SpscRingBuffer.tryPushDropOldest]
  split
  · rename_i hdrop
    refine .of_step (t := (r.publish r.head item, .countDrop)) ?_ (.of_last rfl)
    simp only [pushStep, ProducerPc.step, if_pos hdrop]
  · rename_i hdrop
    refine .of_last ?_
    simp only [pushStep, ProducerPc.step, if_neg hdrop]

/-! ### A pop -/

/-- A `tryPop` call and its ring. -/
def popStep (s : SpscRingBuffer T cap × ConsumerPc T) :
    (SpscRingBuffer T cap × ConsumerPc T) × Option (Option T) :=
  let st := s.2.step s.1
  ((st.ring, st.pc), st.ret)

section Pop
variable {r : SpscRingBuffer T cap} {ct : Nat}

/-- The words from `k` on, by induction on how many there are, and the stability test, which finds
what was there before. -/
theorem loadWord_completes {k : Nat} {dst : AtomicPayload T} :
    Completes popStep
      (r, .loadWord ct (r.slot ct).writeVersion (r.slot ct).seq k dst)
      (some (ofWords (copyFrom (r.slot ct).payload dst k))) ({ r with tail := ct + 1 }, .idle) := by
  induction hn : wordCount T - k generalizing k dst with
  -- All words are copied, and the slot was not written meanwhile.
  | zero =>
    have hk : ¬ k < wordCount T := by omega
    rw [copyFrom_end _ _ (Nat.le_of_not_lt hk)]
    refine .of_step (t := (r, .loadVersion2 ct (r.slot ct).writeVersion (r.slot ct).seq
      (r.slot ct).seq (ofWords dst))) ?_ ?_
    · simp [popStep, ConsumerPc.step, hk]
    · refine .of_step (t := (r, .storeTail ct (ofWords dst))) ?_ (.of_last rfl)
      simp [popStep, ConsumerPc.step]
  | succ n ih =>
    have hk : k < wordCount T := by omega
    rw [← copyFrom_set _ _ hk]
    refine .of_step (t := (r, .loadWord ct (r.slot ct).writeVersion (r.slot ct).seq (k + 1)
      (dst.set k (r.slot ct).payload[k]))) ?_ (ih (by omega))
    simp [popStep, ConsumerPc.step, hk]

/-- The reads of the slot of `ct`, when a retry after a skip comes to `again`. -/
theorem loadVersion_completes {again : SpscRingBuffer T cap × Option T}
    (hagain : Completes popStep ({ r with tail := ct + 1 }, .loadTail) again.2 (again.1, .idle)) :
    let out :=
      if (r.slot ct).writeVersion % 2 ≠ 0 then (r, none)
      else if (r.slot ct).seq ≠ ct + 1 then again
      else ({ r with tail := ct + 1 }, some (ofWords (r.slot ct).payload))
    Completes popStep (r, .loadVersion ct) out.2 (out.1, .idle) := by
  intro out
  by_cases hodd : (r.slot ct).writeVersion % 2 ≠ 0
  · -- The writer is in the slot: nothing is taken.
    have hout : out = (r, none) := if_pos hodd
    rw [hout]
    refine .of_last ?_
    simp only [popStep, ConsumerPc.step, if_pos hodd]
  · have hloadVersion : popStep (r, .loadVersion ct) =
        ((r, .loadSeq ct (r.slot ct).writeVersion), none) := by
      simp only [popStep, ConsumerPc.step, if_neg hodd]
    by_cases hseq : (r.slot ct).seq ≠ ct + 1
    · -- The slot has another item: it is skipped, and the call begins again.
      have hout : out = again := (if_neg hodd).trans (if_pos hseq)
      rw [hout]
      have hloadSeq : popStep (r, .loadSeq ct (r.slot ct).writeVersion) =
          ((r, .skipSlot ct), none) := by
        simp only [popStep, ConsumerPc.step, if_pos hseq]
      exact .of_step hloadVersion (.of_step hloadSeq (.of_step rfl hagain))
    · -- The slot has the item of `ct`, and it is copied out.
      have hout : out = ({ r with tail := ct + 1 }, some (ofWords (r.slot ct).payload)) :=
        (if_neg hodd).trans (if_neg hseq)
      rw [hout]
      have hloadSeq : popStep (r, .loadSeq ct (r.slot ct).writeVersion) =
          ((r, .loadWord ct (r.slot ct).writeVersion (r.slot ct).seq 0 (Vector.replicate _ 0)),
            none) := by
        simp only [popStep, ConsumerPc.step, if_neg hseq]
      have hwords : Completes popStep _ (some (ofWords (copyFrom (r.slot ct).payload
          (Vector.replicate _ 0 : AtomicPayload T) 0))) ({ r with tail := ct + 1 }, .idle) :=
        loadWord_completes
      rw [copyFrom_zero] at hwords
      exact .of_step hloadVersion (.of_step hloadSeq hwords)

/-- The read of `head_`: the jump to the boundary, or none, and the empty test. -/
theorem loadHead_completes {r' : SpscRingBuffer T cap} {out : SpscRingBuffer T cap × Option T}
    (hct : SpscRingBuffer.dropBoundary cap r.head r.tail = ct)
    (hr' : (if r.tail < ct then { r with tail := ct } else r) = r')
    (hempty : r.head ≤ ct → out = (r', none))
    (hnonempty : ¬ r.head ≤ ct →
      Completes popStep (r', .loadVersion ct) out.2 (out.1, .idle)) :
    Completes popStep (r, .loadHead r.tail) out.2 (out.1, .idle) := by
  simp only [SpscRingBuffer.dropBoundary] at hct
  -- The boundary is past the tail, which is moved there first.
  by_cases hjump : r.tail < ct
  · rw [if_pos hjump] at hr'
    subst hr'
    refine .of_step (t := (r, .storeBoundary r.head ct)) ?_ ?_
    · simp only [popStep, ConsumerPc.step, hct, if_pos hjump]
    · by_cases hhead : r.head ≤ ct
      · rw [hempty hhead]
        refine .of_last ?_
        simp only [popStep, ConsumerPc.step, if_pos hhead]
      · refine .of_step ?_ (hnonempty hhead)
        simp only [popStep, ConsumerPc.step, if_neg hhead]
  · -- The boundary is the tail, and nothing was overwritten.
    rw [if_neg hjump] at hr'
    subst hr'
    have hboundary := SpscRingBuffer.dropBoundary_eq cap r.head r.tail
    simp only [SpscRingBuffer.dropBoundary, hct] at hboundary
    have htail : ct = r.tail := by omega
    by_cases hhead : r.head ≤ ct
    · rw [hempty hhead]
      refine .of_last ?_
      simp only [popStep, ConsumerPc.step, hct, if_neg hjump, if_pos (htail ▸ hhead)]
    · refine .of_step ?_ (hnonempty hhead)
      simp only [popStep, ConsumerPc.step, hct, htail, Nat.lt_irrefl, if_false,
        if_neg (htail ▸ hhead)]

end Pop

/-- By induction on the distance of `tail_` to `head_`, which a skipped slot makes shorter. -/
theorem tryPop_completes (r : SpscRingBuffer T cap) :
    Completes popStep (r, .loadTail) r.tryPop.2 (r.tryPop.1, .idle) := by
  induction hn : r.head - r.tail using Nat.strong_induction_on generalizing r with
  | _ n ih =>
    refine .of_step (t := (r, .loadHead r.tail)) rfl ?_
    have hboundary := SpscRingBuffer.dropBoundary_eq cap r.head r.tail
    refine loadHead_completes rfl rfl ?_ ?_
    · intro hempty
      rw [SpscRingBuffer.tryPop]
      simp only [if_pos hempty]
    · -- A slot that is skipped is followed by a pop from a tail that is closer to the head.
      intro hnonempty
      rw [SpscRingBuffer.tryPop]
      simp only [if_neg hnonempty]
      refine loadVersion_completes (ih _ ?_ _ rfl)
      split
      · show r.head - (_ + 1) < n
        omega
      · show r.head - (_ + 1) < n
        omega

/-! ### Calls on a channel -/

/-- A push that no access of `tryPop` falls into leaves the ring, and returns, as `SpscCalls`
has it. -/
theorem whole_push (c : Channel T cap) (kind : PushKind) (item : T) (hidle : c.producer = .idle) :
    ∃ c' : Channel T cap,
      Completes Channel.stepPush (c.callPush kind item) (c.ring.tryPushOf item kind).2 c' ∧
        c'.ring = (c.ring.tryPushOf item kind).1 ∧ c'.producer = .idle ∧
          c'.consumer = c.consumer := by
  have hcompletes : Completes pushStep (c.ring, .loadHead kind item)
      (c.ring.tryPushOf item kind).2 ((c.ring.tryPushOf item kind).1, .idle) := by
    cases kind with
    | tryPush => exact tryPush_completes c.ring item
    | tryPushDropOldest => exact tryPushDropOldest_completes c.ring item
  have hcall : c.callPush kind item = { c with producer := .loadHead kind item } := by
    rw [Channel.callPush, hidle]
  rw [hcall]
  -- A step of the channel is one of its ring and of its producer.
  have hstep : ∀ d : Channel T cap, pushStep (d.ring, d.producer) =
      ((d.stepPush.1.ring, d.stepPush.1.producer), d.stepPush.2) := fun _ => rfl
  obtain ⟨c', hc', hview⟩ := Completes.of_view (fun d : Channel T cap => (d.ring, d.producer))
    hstep (s := { c with producer := .loadHead kind item }) hcompletes
  have hconsumer : c'.consumer = c.consumer :=
    hc'.keeps (P := fun d => d.consumer = c.consumer) (fun _ h => h) rfl
  rw [Prod.mk.injEq] at hview
  exact ⟨c', hc', hview.1, hview.2, hconsumer⟩

/-- A `tryPop` that no access of a push falls into leaves the ring, and returns, as `SpscCalls`
has it. -/
theorem whole_pop (c : Channel T cap) (hidle : c.consumer = .idle) :
    ∃ c' : Channel T cap,
      Completes Channel.stepPop c.callPop c.ring.tryPop.2 c' ∧
        c'.ring = c.ring.tryPop.1 ∧ c'.consumer = .idle ∧ c'.producer = c.producer := by
  have hcall : c.callPop = { c with consumer := .loadTail } := by
    rw [Channel.callPop, hidle]
  rw [hcall]
  have hstep : ∀ d : Channel T cap, popStep (d.ring, d.consumer) =
      ((d.stepPop.1.ring, d.stepPop.1.consumer), d.stepPop.2) := fun _ => rfl
  obtain ⟨c', hc', hview⟩ := Completes.of_view (fun d : Channel T cap => (d.ring, d.consumer))
    hstep (s := { c with consumer := .loadTail }) (tryPop_completes c.ring)
  have hproducer : c'.producer = c.producer :=
    hc'.keeps (P := fun d => d.producer = c.producer) (fun _ h => h) rfl
  rw [Prod.mk.injEq] at hview
  exact ⟨c', hc', hview.1, hview.2, hproducer⟩

end CrossFlow
