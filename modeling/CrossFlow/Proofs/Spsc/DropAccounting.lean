import CrossFlow.Platform.Mac.DualChannelSpsc
import CrossFlow.Proofs.Spsc.Alone

/-!
# `CrossFlow.Proofs.Spsc.DropAccounting`: what `cumulativeDropCount` counts

The drop check of the push at `head_ = h` counts a drop when `h - tail_ >= Capacity`, that is, when
the item at `h - Capacity` has not been passed by `tail_` yet. The check comes after the overwrite,
and the consumer moves on meanwhile. So an item can be counted and still be popped (the consumer
had validated its copy: `countedThenPopped`), and an item can be skipped before the check and not be
counted (`skippedUncounted`). `accounting_step` is the exact balance of one step.

The balance is about the runs in which no drop check reads a `tail_` past its own push
(`ProducerPc.CheckInRange`): there the subtraction wraps around.

* `tryPushDropOldest_accounting`: the exact count at the end of a drained run.
* `pops_and_drops_ne_pushes`: a run in which an item is counted as dropped and popped.
-/

set_option autoImplicit false

namespace CrossFlow

open Lib (Machine Pending Completes)

variable {T : Type} [TriviallyCopyable T] {cap : Capacity}

/-- The pushes whose drop check is over are those at `head_ < checked`. -/
def Channel.checked (c : Channel T cap) : Nat :=
  match c.producer with
  | .checkDrop h => h
  | _ => c.ring.head

/-- The step pops an item that the push `Capacity` later has already checked for. -/
def countedThenPopped (c : Channel T cap) : SpscAction T → Nat
  | .stepPop =>
    match c.consumer with
    | .storeTail ct _ => if ct + cap.val < c.checked then 1 else 0
    | _ => 0
  | _ => 0

/-- How many items the step skips that the push `Capacity` later has not checked for yet. -/
def skippedUncounted (c : Channel T cap) : SpscAction T → Nat
  | .stepPop =>
    match c.consumer with
    | .storeBoundary _ boundary => boundary - max c.ring.tail (c.checked - cap.val)
    | .skipSlot ct => if c.checked ≤ ct + cap.val then 1 else 0
    | _ => 0
  | _ => 0

/-- The drop check of the push at `head_ = h` reads a `tail_` that is not past that push. -/
def ProducerPc.CheckInRange (tail : Nat) : ProducerPc T → Prop
  | .checkDrop h => tail ≤ h
  | _ => True

/-- The conditions on a step: the producer only calls `tryPushDropOldest`, and no drop check reads
a `tail_` past its own push. -/
def DropOldestStep (c : Channel T cap) : SpscAction T → Prop
  | .callPush kind _ => kind = .tryPushDropOldest
  | .stepPush => c.producer.CheckInRange c.ring.tail
  | .callPop | .stepPop => True

/-- Whether the check of a push is in range can be looked up. -/
instance (tail : Nat) : ∀ pc : ProducerPc T, Decidable (pc.CheckInRange tail)
  | .checkDrop h => inferInstanceAs (Decidable (tail ≤ h))
  | .idle | .loadHead _ _ | .loadTail _ _ | .beginWrite _ _ _ | .storeWord _ _ _ _
  | .endWrite _ _ _ | .storeHead _ _ _ | .countDrop => .isTrue trivial

/-- Whether a step drops the oldest can be looked up. -/
instance (c : Channel T cap) : ∀ a : SpscAction T, Decidable (DropOldestStep c a)
  | .callPush kind _ => inferInstanceAs (Decidable (kind = .tryPushDropOldest))
  | .stepPush => inferInstanceAs (Decidable (c.producer.CheckInRange c.ring.tail))
  | .callPop | .stepPop => .isTrue trivial

/-- The drops decided: those counted, and the one whose `fetch_add` comes next. -/
def Channel.dropsDecided (c : Channel T cap) : Nat :=
  c.ring.cumulativeDropCount +
    match c.producer with
    | .countDrop => 1
    | _ => 0

/-- The items popped and the drops decided. -/
def Channel.credited (c : Channel T cap) : Nat := c.dropsDecided + c.popped.length

/-- The items that `tail_` or a drop check has passed. -/
def Channel.passed (c : Channel T cap) : Nat := max c.ring.tail (c.checked - cap.val)

/-- The push call, if any, is a `tryPushDropOldest`. -/
def ProducerPc.IsDropOldest : ProducerPc T → Prop
  | .loadHead kind _ | .beginWrite kind _ _ | .storeWord kind _ _ _ | .endWrite kind _ _
  | .storeHead kind _ _ => kind = .tryPushDropOldest
  | .loadTail _ _ => False
  | .idle | .checkDrop _ | .countDrop => True

/-- A push that drops the oldest stays one. -/
theorem ProducerPc.isDropOldest_step (r : SpscRingBuffer T cap) {pc : ProducerPc T}
    (hpc : pc.IsDropOldest) : (pc.step r).pc.IsDropOldest := by
  cases pc with
  | loadHead kind item =>
    obtain rfl : kind = .tryPushDropOldest := hpc
    exact rfl
  | loadTail item h => exact hpc.elim
  -- A push keeps its kind from the first access to the last.
  | storeWord kind item h k =>
    simp only [step]
    split <;> exact hpc
  | storeHead kind item h =>
    obtain rfl : kind = .tryPushDropOldest := hpc
    trivial
  | checkDrop h =>
    simp only [step]
    split <;> trivial
  | beginWrite kind item h => exact hpc
  | endWrite kind item h => exact hpc
  | idle => trivial
  | countDrop => trivial

/-! ### The balance of one step -/

/-- A step of the push call keeps the balance. Only the drop check moves it: it passes one more
item, and counts it unless `tail_` has passed it already. -/
theorem accounting_stepPush {c : Channel T cap} (hs : SeqlockInv c)
    (hold : c.producer.IsDropOldest) (hrange : c.producer.CheckInRange c.ring.tail) :
    c.stepPush.1.dropsDecided + c.passed =
      c.dropsDecided + max c.ring.tail (c.stepPush.1.checked - cap.val) := by
  unfold Channel.passed
  have hok := hs.writer.producer
  cases hpc : c.producer with
  | idle => simp [Channel.dropsDecided, Channel.checked, Channel.stepPush, hpc, ProducerPc.step]
  | loadHead kind item =>
    cases kind <;>
      simp [Channel.dropsDecided, Channel.checked, Channel.stepPush, hpc, ProducerPc.step]
  | loadTail item h =>
    rw [hpc] at hold
    exact hold.elim
  | beginWrite kind item h =>
    simp [Channel.dropsDecided, Channel.checked, Channel.stepPush, hpc, ProducerPc.step]
  | storeWord kind item h k =>
    by_cases hk : k < TriviallyCopyable.wordCount T
    · simp [Channel.dropsDecided, Channel.checked, Channel.stepPush, hpc, ProducerPc.step, hk]
    · simp [Channel.dropsDecided, Channel.checked, Channel.stepPush, hpc, ProducerPc.step, hk]
  | endWrite kind item h =>
    simp [Channel.dropsDecided, Channel.checked, Channel.stepPush, hpc, ProducerPc.step]
  | storeHead kind item h =>
    rw [hpc] at hold hok
    obtain rfl : kind = .tryPushDropOldest := hold
    simp [Channel.dropsDecided, Channel.checked, Channel.stepPush, hpc, ProducerPc.step, hok.1]
  | checkDrop h =>
    rw [hpc] at hok hrange
    have hhead : h + 1 = c.ring.head := hok
    have hle : c.ring.tail ≤ h := hrange
    -- In range the subtraction does not wrap, so the check tells whether `tail_` has passed the
    -- item at `h - Capacity`.
    have hsub : subU64 h c.ring.tail = h - c.ring.tail := if_pos hle
    by_cases hdrop : cap.val ≤ subU64 h c.ring.tail
    · simp only [Channel.dropsDecided, Channel.checked, Channel.stepPush, hpc, ProducerPc.step,
        hdrop, if_true]
      omega
    · simp only [Channel.dropsDecided, Channel.checked, Channel.stepPush, hpc, ProducerPc.step,
        hdrop, if_false]
      omega
  | countDrop =>
    simp only [Channel.dropsDecided, Channel.checked, Channel.stepPush, hpc, ProducerPc.step]

/-- A step of the `tryPop` call keeps the balance. -/
theorem accounting_stepPop {c : Channel T cap} (hs : SeqlockInv c) :
    c.stepPop.1.popped.length + skippedUncounted c .stepPop + c.passed =
      c.popped.length + countedThenPopped c .stepPop +
        max c.stepPop.1.ring.tail (c.checked - cap.val) := by
  unfold Channel.passed
  have hok := hs.reader.consumer
  cases hpc : c.consumer with
  | idle =>
    simp [Channel.stepPop, skippedUncounted, countedThenPopped, hpc, ConsumerPc.step,
      ConsumerPc.takes]
  | loadTail =>
    simp [Channel.stepPop, skippedUncounted, countedThenPopped, hpc, ConsumerPc.step,
      ConsumerPc.takes]
  | loadHead ct =>
    have hring : (c.consumer.step c.ring).ring = c.ring := by
      simp only [hpc, ConsumerPc.step]
      repeat' split
      all_goals rfl
    rw [hpc] at hring
    simp [Channel.stepPop, skippedUncounted, countedThenPopped, hpc, hring, ConsumerPc.takes]
  | storeBoundary h boundary =>
    -- The items from `tail_` to the boundary are skipped.
    rw [hpc] at hok
    obtain ⟨hlt, -⟩ := hok
    have htail : ((ConsumerPc.storeBoundary h boundary).step c.ring).ring.tail = boundary := by
      simp only [ConsumerPc.step]
      split <;> rfl
    simp only [Channel.stepPop, skippedUncounted, countedThenPopped, hpc, htail, ConsumerPc.takes,
      List.append_nil]
    omega
  | loadVersion ct =>
    have hring : ((ConsumerPc.loadVersion ct).step c.ring).ring = c.ring := by
      simp only [ConsumerPc.step]
      split <;> rfl
    simp [Channel.stepPop, skippedUncounted, countedThenPopped, hpc, hring, ConsumerPc.takes]
  | loadSeq ct v1 =>
    have hring : ((ConsumerPc.loadSeq ct v1).step c.ring).ring = c.ring := by
      simp only [ConsumerPc.step]
      split <;> rfl
    simp [Channel.stepPop, skippedUncounted, countedThenPopped, hpc, hring, ConsumerPc.takes]
  | skipSlot ct =>
    -- One item is skipped: a drop check has passed it, or it is the step's `skippedUncounted`.
    rw [hpc] at hok
    obtain ⟨hct, -⟩ := hok
    simp only [Channel.stepPop, skippedUncounted, countedThenPopped, hpc, ConsumerPc.step,
      ConsumerPc.takes, List.append_nil]
    split <;> omega
  | loadWord ct v1 s1 k dst =>
    have hring : ((ConsumerPc.loadWord ct v1 s1 k dst).step c.ring).ring = c.ring := by
      simp only [ConsumerPc.step]
      split <;> rfl
    simp [Channel.stepPop, skippedUncounted, countedThenPopped, hpc, hring, ConsumerPc.takes]
  | loadVersion2 ct v1 s1 s2 item =>
    have hring : ((ConsumerPc.loadVersion2 ct v1 s1 s2 item).step c.ring).ring = c.ring := by
      simp only [ConsumerPc.step]
      split <;> rfl
    simp [Channel.stepPop, skippedUncounted, countedThenPopped, hpc, hring, ConsumerPc.takes]
  | storeTail ct item =>
    -- One item is popped: `tail_` passes it now, or a drop check has passed it before.
    rw [hpc] at hok
    obtain ⟨hct, -⟩ := hok
    simp only [Channel.stepPop, skippedUncounted, countedThenPopped, hpc, ConsumerPc.step,
      ConsumerPc.takes, List.length_append, List.length_singleton]
    split <;> omega

/-- The balance of one step: pops and decided drops on one side, the items passed by `tail_` or by
a drop check on the other. -/
theorem accounting_step (c : Channel T cap) (a : SpscAction T)
    (hc : SeqlockInv c ∧ c.producer.IsDropOldest) (ha : DropOldestStep c a) :
    ((spscMachine T cap).step c a).credited + skippedUncounted c a + c.passed =
      c.credited + countedThenPopped c a + ((spscMachine T cap).step c a).passed := by
  obtain ⟨hs, hold⟩ := hc
  cases a with
  | callPush kind item =>
    simp only [spscMachine, Channel.callPush, skippedUncounted, countedThenPopped]
    split
    · rename_i hidle
      simp [Channel.credited, Channel.passed, Channel.dropsDecided, Channel.checked, hidle]
    · rfl
  | stepPush =>
    have hbalance := accounting_stepPush hs hold ha
    have htail : c.stepPush.1.ring.tail = c.ring.tail := ProducerPc.step_tail c.ring c.producer
    have hpopped : c.stepPush.1.popped = c.popped := rfl
    have hpassed : c.stepPush.1.passed =
        max c.ring.tail (c.stepPush.1.checked - cap.val) := by
      rw [Channel.passed, htail]
    simp only [spscMachine, skippedUncounted, countedThenPopped, Channel.credited, hpopped,
      hpassed]
    omega
  | callPop =>
    simp only [spscMachine, Channel.callPop, skippedUncounted, countedThenPopped]
    split
    · rfl
    · rfl
  | stepPop =>
    have hbalance := accounting_stepPop hs
    have hdecided : c.stepPop.1.dropsDecided = c.dropsDecided := by
      have hcount := ConsumerPc.step_cumulativeDropCount c.ring c.consumer
      show (c.consumer.step c.ring).ring.cumulativeDropCount + _ = _
      rw [hcount]
      rfl
    -- Neither the drops nor the checks are the consumer's.
    have hchecked : c.stepPop.1.checked = c.checked := by
      have hhead := ConsumerPc.step_head c.ring c.consumer
      show (match c.producer with
        | .checkDrop h => h
        | _ => (c.consumer.step c.ring).ring.head) = c.checked
      rw [hhead]
      rfl
    have hpassed : c.stepPop.1.passed =
        max c.stepPop.1.ring.tail (c.checked - cap.val) := by
      rw [Channel.passed, hchecked]
    simp only [spscMachine, Channel.credited, hdecided, hpassed]
    omega

/-! ### A schedule of drops -/

/-- The actions of a producer that only calls `tryPushDropOldest`. -/
def SpscAction.OnlyDropOldest : SpscAction T → Prop
  | .callPush kind _ => kind = .tryPushDropOldest
  | _ => True

/-- The conditions on the steps of a run allow only `tryPushDropOldest` calls. -/
theorem onlyDropOldest_of_dropOldestStep (c : Channel T cap) (a : SpscAction T)
    (ha : DropOldestStep c a) : a.OnlyDropOldest := by
  cases a with
  | callPush kind item => exact ha
  | stepPush | callPop | stepPop => trivial

/-- The actions of a producer that only calls `tryPushDropOldest`, with no action of the
consumer. -/
def SpscAction.OfDropOldest : SpscAction T → Prop
  | .callPush kind _ => kind = .tryPushDropOldest
  | .stepPush => True
  | .callPop | .stepPop => False

/-- While the consumer does nothing, no drop check reads a `tail_` past its own push. -/
theorem dropOldestStep_of_ofDropOldest (c : Channel T cap) (a : SpscAction T)
    (ha : a.OfDropOldest) (hc : SeqlockInv c ∧ c.producer.CheckInRange c.ring.tail) :
    DropOldestStep c a ∧ (SeqlockInv ((spscMachine T cap).step c a) ∧
      ((spscMachine T cap).step c a).producer.CheckInRange
        ((spscMachine T cap).step c a).ring.tail) := by
  have hs := seqlockInv_step c a hc.1
  cases a with
  | callPop => exact ha.elim
  | stepPop => exact ha.elim
  | callPush kind item =>
    refine ⟨ha, hs, ?_⟩
    simp only [spscMachine, Channel.callPush]
    split
    · trivial
    · exact hc.2
  | stepPush =>
    refine ⟨hc.2, hs, ?_⟩
    have hle := hc.1.reader.tail_le
    have hok := hc.1.writer.producer
    cases hpc : c.producer with
    | storeHead kind item h =>
      -- The call comes to its check with `h = head_`, which `tail_` has not passed.
      rw [hpc] at hok
      have hhead : h = c.ring.head := hok.1
      cases kind with
      | tryPush => simp [spscMachine, Channel.stepPush, hpc, ProducerPc.step, ProducerPc.CheckInRange]
      | tryPushDropOldest =>
        simp only [spscMachine, Channel.stepPush, hpc, ProducerPc.step, ProducerPc.CheckInRange]
        omega
    | loadHead kind item =>
      cases kind <;>
        simp [spscMachine, Channel.stepPush, hpc, ProducerPc.step, ProducerPc.CheckInRange]
    | loadTail item h | storeWord kind item h k | checkDrop h =>
      simp only [spscMachine, Channel.stepPush, hpc, ProducerPc.step]
      split <;> trivial
    | idle | beginWrite kind item h | endWrite kind item h | countDrop =>
      simp [spscMachine, Channel.stepPush, hpc, ProducerPc.step, ProducerPc.CheckInRange]

/-- A `tryPushDropOldest` call with no call of the producer in progress, run alone. -/
theorem pushDropOldest_leads {c : Channel T cap} (hs : SeqlockInv c) (hidle : c.producer = .idle)
    (item : T) :
    ∃ c', (spscMachine T cap).Leads DropOldestStep c c' ∧
      PushDone .tryPushDropOldest item c.ring.head c c' := by
  have hcall : c.callPush .tryPushDropOldest item =
      { c with producer := .loadHead .tryPushDropOldest item } := by
    simp [Channel.callPush, hidle]
  obtain ⟨c', ⟨last, hpending, hlast⟩, hdone⟩ := tryPushDropOldest_alone
    { c with producer := .loadHead .tryPushDropOldest item } rfl
  refine ⟨c', ?_, ⟨hdone.producer, hdone.head, hdone.tail, hdone.drops, hdone.pushed,
    hdone.consumer, hdone.popped⟩⟩
  have hreach : (spscMachine T cap).Reaches SpscAction.OfDropOldest c c' := by
    refine .trans (.single (a := .callPush .tryPushDropOldest item) rfl hcall)
      (.trans ?_ (.single (a := .stepPush) trivial (congrArg Prod.fst hlast)))
    exact hpending.reaches (a := .stepPush) id trivial fun s _ => rfl
  exact hreach.leads dropOldestStep_of_ofDropOldest ⟨hs, by rw [hidle]; trivial⟩

/-- The consumer's actions are steps under the conditions. -/
theorem leads_of_ofConsumer {c c' : Channel T cap}
    (h : (spscMachine T cap).Reaches SpscAction.OfConsumer c c') :
    (spscMachine T cap).Leads DropOldestStep c c' := by
  refine h.leads (Q := fun _ => True) ?_ trivial
  intro c a ha _
  cases a with
  | callPop | stepPop => exact ⟨trivial, trivial⟩
  | callPush kind item => exact ha.elim
  | stepPush => exact ha.elim

/-- `n` pushes, one after the other. Those that find `tail_` `Capacity` or more behind count a
drop. -/
theorem pushes_lead (item : T) {c : Channel T cap} (hs : SeqlockInv c) (hquiet : c.Quiescent)
    (n : Nat) :
    ∃ c', (spscMachine T cap).Leads DropOldestStep c c' ∧ c'.Quiescent ∧
      c'.ring.head = c.ring.head + n ∧ c'.ring.tail = c.ring.tail ∧
      c'.ring.cumulativeDropCount = c.ring.cumulativeDropCount +
        ((c.ring.head + n - (c.ring.tail + cap.val)) - (c.ring.head - (c.ring.tail + cap.val))) ∧
      c'.pushed.length = c.pushed.length + n ∧ c'.popped = c.popped := by
  induction n with
  | zero => exact ⟨c, .refl c, hquiet, rfl, rfl, by omega, rfl, rfl⟩
  | succ n ih =>
    obtain ⟨c₁, hlead, ⟨hproducer, hconsumer⟩, hhead, htail, hcount, hpushed, hpopped⟩ := ih
    have hs₁ := hlead.invariant (fun c a hc _ => seqlockInv_step c a hc) hs
    obtain ⟨c₂, hpush, hdone⟩ := pushDropOldest_leads hs₁ hproducer item
    have hle := hs₁.reader.tail_le
    -- The check counts a drop when the push is `Capacity` or more past `tail_`.
    have hdrops : PushKind.tryPushDropOldest.drops cap c₁.ring.head c₁.ring.tail =
        if c₁.ring.tail + cap.val ≤ c₁.ring.head then 1 else 0 := by
      simp only [PushKind.drops, subU64, hle, if_true]
      exact if_congr (by omega) rfl rfl
    refine ⟨c₂, hlead.trans hpush, ⟨hdone.producer, hdone.consumer.trans hconsumer⟩, ?_,
      hdone.tail.trans htail, ?_, ?_, hdone.popped.trans hpopped⟩
    · rw [hdone.head, hhead]
      rfl
    · rw [hdone.drops, hdrops, hcount]
      split <;> omega
    · rw [hdone.pushed, List.length_append, hpushed, List.length_singleton]
      rfl

/-- The schedule: fill the ring; let `tryPop` validate its copy of item `0`; push once more, which
counts item `0` as dropped; let `tryPop` return item `0`; push `n` more items, each of which
overwrites one; pop what is left. -/
theorem overcount_leads (cap : Capacity) (item : T) (n : Nat) :
    ∃ c, (spscMachine T cap).Leads DropOldestStep Channel.init c ∧ c.Quiescent ∧
      c.Drained ∧ c.pushed.length = cap.val + 1 + n ∧ c.popped.length = cap.val + 1 ∧
      c.ring.cumulativeDropCount = 1 + n := by
  have hkeeps : ∀ (c : Channel T cap) a, SeqlockInv c → DropOldestStep c a →
      SeqlockInv ((spscMachine T cap).step c a) := by
    intro c a hc _
    exact seqlockInv_step c a hc
  have hpos := cap.pos
  -- The full ring.
  have hinit : SeqlockInv (Channel.init : Channel T cap) := seqlockInv_init
  obtain ⟨c₁, hlead₁, hquiet₁, hhead₁, htail₁, hcount₁, hpushed₁, hpopped₁⟩ :=
    pushes_lead item hinit ⟨rfl, rfl⟩ cap.val
  have hs₁ := hlead₁.invariant hkeeps seqlockInv_init
  have hzero : (Channel.init : Channel T cap).ring.head = 0 ∧
      (Channel.init : Channel T cap).ring.tail = 0 ∧
      (Channel.init : Channel T cap).ring.cumulativeDropCount = 0 ∧
      (Channel.init : Channel T cap).pushed.length = 0 ∧
      (Channel.init : Channel T cap).popped = [] := ⟨rfl, rfl, rfl, rfl, rfl⟩
  obtain ⟨hinitHead, hinitTail, hinitCount, hinitPushed, hinitPopped⟩ := hzero
  obtain ⟨hproducer₁, hconsumer₁⟩ := hquiet₁
  rw [hinitHead] at hhead₁
  rw [hinitTail] at htail₁
  -- `tryPop` up to its `tail_.store`.
  have hcall : c₁.callPop = { c₁ with consumer := .loadTail } := by
    simp [Channel.callPop, hconsumer₁]
  have hs₁' : SeqlockInv { c₁ with consumer := .loadTail } := hcall ▸ hs₁.callPop
  obtain ⟨c₂, x, hpending, hframe, hstore⟩ := tryPop_takes_alone hs₁' hproducer₁ rfl
    (by show c₁.ring.tail < c₁.ring.head; omega) (by show c₁.ring.head ≤ c₁.ring.tail + _; omega)
  have hreach₂ : (spscMachine T cap).Reaches SpscAction.OfConsumer c₁ c₂ :=
    .trans (.single (a := .callPop) trivial hcall)
      (hpending.reaches (a := .stepPop) id trivial fun s _ => rfl)
  have hlead₂ := leads_of_ofConsumer hreach₂
  have hring₂ : c₂.ring = c₁.ring := hframe.ring
  have hs₂ := hlead₂.invariant hkeeps hs₁
  -- The push that counts item `0`.
  obtain ⟨c₃, hlead₃, hdone₃⟩ :=
    pushDropOldest_leads hs₂ (hframe.producer.trans hproducer₁) item
  have hs₃ := hlead₃.invariant hkeeps hs₂
  have hcount₃ : c₃.ring.cumulativeDropCount = 1 := by
    have hdrop : cap.val ≤ subU64 c₁.ring.head c₁.ring.tail := by
      rw [hhead₁, htail₁]
      simp [subU64]
    rw [hdone₃.drops, hring₂, hcount₁, PushKind.drops, if_pos hdrop]
    omega
  -- `tryPop` takes item `0`.
  have hstore₃ : c₃.consumer = .storeTail c₃.ring.tail x := by
    rw [hdone₃.consumer, hstore, hdone₃.tail, hring₂]
  obtain ⟨-, hdone₄⟩ := storeTail_alone hstore₃
  have hlead₄ : (spscMachine T cap).Leads DropOldestStep c₃ c₃.stepPop.1 :=
    .single (a := .stepPop) trivial rfl
  have hs₄ := hlead₄.invariant hkeeps hs₃
  have hhead₃ : c₃.ring.head = cap.val + 1 := by
    rw [hdone₃.head, hring₂, hhead₁]
    omega
  have htail₃ : c₃.ring.tail = 0 := by rw [hdone₃.tail, hring₂, htail₁]
  have hring₄ := hdone₄.ring
  have hpopped₄ : c₃.stepPop.1.popped.length = 1 := by
    rw [hdone₄.popped, hdone₃.popped, hframe.popped, hpopped₁]
    rfl
  have hquiet₄ : c₃.stepPop.1.Quiescent :=
    ⟨hdone₄.producer.trans hdone₃.producer, hdone₄.consumer⟩
  -- The pushes into the full ring.
  obtain ⟨c₅, hlead₅, hquiet₅, hhead₅, htail₅, hcount₅, hpushed₅, hpopped₅⟩ :=
    pushes_lead item hs₄ hquiet₄ n
  have hs₅ := hlead₅.invariant hkeeps hs₄
  -- The rest of the ring.
  obtain ⟨c₆, hreach₆, hquiet₆, hring₆, hpushed₆, hpopped₆⟩ := drain_alone hs₅ hquiet₅
  have hlead₆ := leads_of_ofConsumer hreach₆
  have hs₆ := hlead₆.invariant hkeeps hs₅
  refine ⟨c₆, hlead₁.trans (hlead₂.trans (hlead₃.trans (hlead₄.trans (hlead₅.trans hlead₆)))),
    hquiet₆, (drained_iff hs₆ hquiet₆).mpr ?_, ?_, ?_, ?_⟩
  · rw [hring₆]
  · rw [hpushed₆, hpushed₅, hdone₄.pushed, hdone₃.pushed, hframe.pushed, List.length_append,
      hpushed₁, hinitPushed, List.length_singleton]
    omega
  · rw [hpopped₆, hpopped₅, hpopped₄, hhead₅, htail₅, hring₄]
    simp only
    omega
  · rw [hring₆]
    simp only
    rw [hcount₅, hring₄]
    simp only
    omega

/-! ### Every drained run -/

/-- A step of pushes that drop the oldest keeps the invariant, and that they are. -/
theorem dropOldest_step (c : Channel T cap) (a : SpscAction T)
    (hc : SeqlockInv c ∧ c.producer.IsDropOldest) (ha : DropOldestStep c a) :
    SeqlockInv ((spscMachine T cap).step c a) ∧
      ((spscMachine T cap).step c a).producer.IsDropOldest := by
  refine ⟨seqlockInv_step c a hc.1, ?_⟩
  cases a with
  | callPush kind item =>
    simp only [spscMachine, Channel.callPush]
    split
    · exact ha
    · exact hc.2
  | stepPush => exact ProducerPc.isDropOldest_step c.ring hc.2
  | callPop =>
    simp only [spscMachine, Channel.callPop]
    split <;> exact hc.2
  | stepPop => exact hc.2

/-- **Drop accounting.** When a run of `tryPushDropOldest` and `tryPop` calls ends with no call in
progress and the ring drained, the pushes are the pops plus `cumulativeDropCount`, except that an
item popped after its drop was counted is in both, and an item skipped before the check that would
have counted it is in neither. -/
theorem tryPushDropOldest_accounting (acts : List (SpscAction T))
    (hacts : (spscMachine T cap).Meets DropOldestStep (spscMachine T cap).init acts)
    (hquiet : ((spscMachine T cap).run acts).Quiescent)
    (hdrained : ((spscMachine T cap).run acts).Drained) :
    ((spscMachine T cap).run acts).pushed.length +
        (spscMachine T cap).total countedThenPopped (spscMachine T cap).init acts =
      ((spscMachine T cap).run acts).popped.length +
        ((spscMachine T cap).run acts).ring.cumulativeDropCount +
        (spscMachine T cap).total skippedUncounted (spscMachine T cap).init acts := by
  have hinit : SeqlockInv (spscMachine T cap).init ∧
      ((spscMachine T cap).init).producer.IsDropOldest := ⟨seqlockInv_init, trivial⟩
  have hbalance := Machine.total_balance dropOldest_step accounting_step hinit hacts
  have hs : SeqlockInv ((spscMachine T cap).run acts) := seqlockInv_run acts
  have hlen : ((spscMachine T cap).run acts).pushed.length =
      ((spscMachine T cap).run acts).ring.head := hs.writer.length_pushed
  -- At the end `tail_` is `head_` and every drop check is over.
  have hempty := (drained_iff hs hquiet).mp hdrained
  have hcredited : ((spscMachine T cap).run acts).credited =
      ((spscMachine T cap).run acts).ring.cumulativeDropCount +
        ((spscMachine T cap).run acts).popped.length := by
    simp [Channel.credited, Channel.dropsDecided, hquiet.1]
  have hpassed : ((spscMachine T cap).run acts).passed =
      ((spscMachine T cap).run acts).ring.head := by
    simp only [Channel.passed, Channel.checked, hquiet.1]
    omega
  have hstart : ((spscMachine T cap).init).credited = 0 ∧ ((spscMachine T cap).init).passed = 0 :=
    ⟨rfl, by simp [Channel.passed, Channel.checked, spscMachine, Channel.init,
      SpscRingBuffer.init]⟩
  change ((spscMachine T cap).run acts).credited + _ + _ =
    _ + _ + ((spscMachine T cap).run acts).passed at hbalance
  omega

/-- 301 pushes into the data ring: item `0` is popped and counted as dropped, the next 44 are
overwritten and skipped, and the 256 after them are popped. -/
theorem tryPushDropOldest_accounting_drops :
    let m := spscMachine RawInputEventFlat spscDataCapacity
    ∃ acts, (m.run acts).pushed.length = 301 ∧ (m.run acts).popped.length = 257 ∧
      (m.run acts).ring.cumulativeDropCount = 45 ∧
      301 + m.total countedThenPopped m.init acts =
        257 + 45 + m.total skippedUncounted m.init acts := by
  have item : RawInputEventFlat := RawInputEventFlat.ofWords (Vector.replicate 6 0)
  obtain ⟨c, ⟨acts, hacts, hrun⟩, hquiet, hdrained, hpushed, hpopped, hcount⟩ :=
    overcount_leads spscDataCapacity item 44
  have hc : (spscMachine RawInputEventFlat spscDataCapacity).run acts = c := hrun
  have haccount := tryPushDropOldest_accounting acts hacts (hc ▸ hquiet) (hc ▸ hdrained)
  rw [hc, hpushed, hpopped, hcount] at haccount
  refine ⟨acts, ?_, ?_, ?_, haccount⟩
  · rw [hc, hpushed]
    rfl
  · rw [hc, hpopped]
    rfl
  · rw [hc, hcount]

/-! ### An item counted as dropped and popped -/

/-- In some drained run of the data channel the pops and the counted drops are more than the
pushes: the item taken while the producer counted it as dropped is in both. -/
theorem pops_and_drops_ne_pushes :
    ¬ ∀ acts : List (SpscAction RawInputEventFlat), (∀ a ∈ acts, a.OnlyDropOldest) →
      let c := (spscMachine RawInputEventFlat spscDataCapacity).run acts
      c.Quiescent → c.Drained →
        c.pushed.length = c.popped.length + c.ring.cumulativeDropCount := by
  intro hclaim
  have item : RawInputEventFlat := RawInputEventFlat.ofWords (Vector.replicate 6 0)
  obtain ⟨c, ⟨acts, hacts, hrun⟩, hquiet, hdrained, hpushed, hpopped, hcount⟩ :=
    overcount_leads spscDataCapacity item 0
  have hc : (spscMachine RawInputEventFlat spscDataCapacity).run acts = c := hrun
  have honly := Machine.forall_of_meets onlyDropOldest_of_dropOldestStep hacts
  have haccount := hclaim acts honly (hc ▸ hquiet) (hc ▸ hdrained)
  rw [hc] at haccount
  omega

end CrossFlow
