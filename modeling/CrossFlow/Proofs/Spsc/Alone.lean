import CrossFlow.Proofs.Spsc.Seqlock

/-!
# `CrossFlow.Proofs.Spsc.Alone`: calls that run without interference

A push call that runs alone completes, and `PushDone` says what it leaves. A `tryPop` call that
runs alone on a ring that is not over-full, with no push in progress, completes too: on an empty
ring it returns false (`tryPop_alone_empty`), otherwise it takes the item at `tail_`
(`tryPop_alone`).

* `tryPush_alone`, `tryPushDropOldest_alone`: the push calls.
* `drain_alone`: `tryPop` calls one after the other empty the ring.
-/

set_option autoImplicit false

namespace CrossFlow

open TriviallyCopyable
open Lib (Pending Completes)

variable {T : Type} [TriviallyCopyable T] {cap : Capacity}

/-! ### The push calls -/

/-- What the drop check of a push at `head_ = h` adds to `cumulativeDropCount_`. -/
def PushKind.drops (cap : Capacity) (h tail : Nat) : PushKind → Nat
  | .tryPush => 0
  | .tryPushDropOldest => if cap.val ≤ subU64 h tail then 1 else 0

/-- `c'` is `c` after the rest of a push call that published `item` at `head_ = h`. -/
structure PushDone (kind : PushKind) (item : T) (h : Nat) (c c' : Channel T cap) : Prop where
  producer : c'.producer = .idle
  head : c'.ring.head = h + 1
  tail : c'.ring.tail = c.ring.tail
  drops : c'.ring.cumulativeDropCount =
    c.ring.cumulativeDropCount + kind.drops cap h c.ring.tail
  pushed : c'.pushed = c.pushed ++ [(h, item)]
  consumer : c'.consumer = c.consumer
  popped : c'.popped = c.popped

/-- The push call in progress, run alone, publishes `item` at `head_ = h`. -/
def PushesAlone (kind : PushKind) (item : T) (h : Nat) (c : Channel T cap) : Prop :=
  ∃ c', Completes Channel.stepPush c true c' ∧ PushDone kind item h c c'

/-- A step before `head_.store` does not change what the rest of the call leaves. -/
theorem PushesAlone.of_step {kind : PushKind} {item : T} {h : Nat} {c : Channel T cap}
    (hret : c.stepPush.2 = none) (hpub : c.producer.publishes = [])
    (hdrops : c.stepPush.1.ring.cumulativeDropCount = c.ring.cumulativeDropCount)
    (hrest : PushesAlone kind item h c.stepPush.1) : PushesAlone kind item h c := by
  obtain ⟨c', hcompletes, hdone⟩ := hrest
  have htail : c.stepPush.1.ring.tail = c.ring.tail := ProducerPc.step_tail c.ring c.producer
  have hpushed : c.stepPush.1.pushed = c.pushed := by
    show c.pushed ++ c.producer.publishes = c.pushed
    rw [hpub, List.append_nil]
  refine ⟨c', hcompletes.of_step (Prod.ext rfl hret), ?_⟩
  have hcount := hdone.drops
  rw [hdrops, htail] at hcount
  exact ⟨hdone.producer, hdone.head, hdone.tail.trans htail, hcount,
    hpushed ▸ hdone.pushed, hdone.consumer, hdone.popped⟩

/-- The drop check, and `fetch_add` when it counts a drop. -/
theorem checkDrop_alone (c : Channel T cap) {h : Nat} (hpc : c.producer = .checkDrop h) :
    Completes Channel.stepPush c true
      { c with
        ring := { c.ring with
          cumulativeDropCount := c.ring.cumulativeDropCount +
            PushKind.tryPushDropOldest.drops cap h c.ring.tail }
        producer := .idle } := by
  by_cases hdrop : cap.val ≤ subU64 h c.ring.tail
  · have hstep : c.stepPush = ({ c with producer := .countDrop }, none) := by
      simp [Channel.stepPush, hpc, ProducerPc.step, ProducerPc.publishes, hdrop]
    -- Two accesses: the check and the `fetch_add`.
    refine .of_step hstep (.of_last ?_)
    simp [Channel.stepPush, ProducerPc.step, ProducerPc.publishes, PushKind.drops, hdrop]
  · refine .of_last ?_
    simp [Channel.stepPush, hpc, ProducerPc.step, ProducerPc.publishes, PushKind.drops, hdrop]

/-- From the store of the head the push ends by itself. -/
theorem storeHead_alone (c : Channel T cap) {kind : PushKind} {item : T} {h : Nat}
    (hpc : c.producer = .storeHead kind item h) :
    PushesAlone kind item h c := by
  cases kind with
  | tryPush =>
    refine ⟨c.stepPush.1, Completes.of_last (Prod.ext rfl ?_), ?_⟩
    · simp [Channel.stepPush, hpc, ProducerPc.step]
    · constructor
      all_goals
        simp [Channel.stepPush, hpc, ProducerPc.step, ProducerPc.publishes, PushKind.drops]
  | tryPushDropOldest =>
    -- The call goes on to its drop check, which has the last word.
    have hnext : c.stepPush.1.producer = .checkDrop h := by
      simp [Channel.stepPush, hpc, ProducerPc.step]
    refine ⟨_, (checkDrop_alone _ hnext).of_step (Prod.ext rfl ?_), ?_⟩
    · simp [Channel.stepPush, hpc, ProducerPc.step]
    · constructor
      all_goals simp [Channel.stepPush, hpc, ProducerPc.step, ProducerPc.publishes]

/-- From the end of the write the push ends by itself. -/
theorem endWrite_alone (c : Channel T cap) {kind : PushKind} {item : T} {h : Nat}
    (hpc : c.producer = .endWrite kind item h) :
    PushesAlone kind item h c := by
  have hstep : c.stepPush.2 = none ∧ c.stepPush.1.producer = .storeHead kind item h ∧
      c.stepPush.1.ring.cumulativeDropCount = c.ring.cumulativeDropCount := by
    simp [Channel.stepPush, hpc, ProducerPc.step]
  exact .of_step hstep.1 (by rw [hpc]; rfl) hstep.2.2 (storeHead_alone _ hstep.2.1)

/-- The words from `k` on, by induction on how many there are. -/
theorem storeWord_alone (c : Channel T cap) {kind : PushKind} {item : T} {h k : Nat}
    (hpc : c.producer = .storeWord kind item h k) :
    PushesAlone kind item h c := by
  induction hn : wordCount T - k generalizing c k with
  | zero =>
    have hk : ¬ k < wordCount T := by omega
    have hstep : c.stepPush.2 = none ∧ c.stepPush.1.producer = .endWrite kind item h ∧
        c.stepPush.1.ring.cumulativeDropCount = c.ring.cumulativeDropCount := by
      simp [Channel.stepPush, hpc, ProducerPc.step, hk]
    exact .of_step hstep.1 (by rw [hpc]; rfl) hstep.2.2 (endWrite_alone _ hstep.2.1)
  | succ n ih =>
    have hk : k < wordCount T := by omega
    have hstep : c.stepPush.2 = none ∧ c.stepPush.1.producer = .storeWord kind item h (k + 1) ∧
        c.stepPush.1.ring.cumulativeDropCount = c.ring.cumulativeDropCount := by
      simp [Channel.stepPush, hpc, ProducerPc.step, hk]
    exact .of_step hstep.1 (by rw [hpc]; rfl) hstep.2.2 (ih _ hstep.2.1 (by omega))

/-- From the begin of the write the push ends by itself. -/
theorem beginWrite_alone (c : Channel T cap) {kind : PushKind} {item : T} {h : Nat}
    (hpc : c.producer = .beginWrite kind item h) :
    PushesAlone kind item h c := by
  have hstep : c.stepPush.2 = none ∧ c.stepPush.1.producer = .storeWord kind item h 0 ∧
      c.stepPush.1.ring.cumulativeDropCount = c.ring.cumulativeDropCount := by
    simp [Channel.stepPush, hpc, ProducerPc.step]
  exact .of_step hstep.1 (by rw [hpc]; rfl) hstep.2.2 (storeWord_alone _ hstep.2.1)

/-- `tryPushDropOldest` alone publishes its item. -/
theorem tryPushDropOldest_alone (c : Channel T cap) {item : T}
    (hpc : c.producer = .loadHead .tryPushDropOldest item) :
    PushesAlone .tryPushDropOldest item c.ring.head c := by
  have hstep : c.stepPush.2 = none ∧
      c.stepPush.1.producer = .beginWrite .tryPushDropOldest item c.ring.head ∧
      c.stepPush.1.ring.cumulativeDropCount = c.ring.cumulativeDropCount := by
    simp [Channel.stepPush, hpc, ProducerPc.step]
  exact .of_step hstep.1 (by rw [hpc]; rfl) hstep.2.2 (beginWrite_alone _ hstep.2.1)

/-- From the load of the tail the push ends by itself, if there is room. -/
theorem loadTail_alone (c : Channel T cap) {item : T} {h : Nat}
    (hpc : c.producer = .loadTail item h) (hroom : subU64 h c.ring.tail ≠ cap.val) :
    PushesAlone .tryPush item h c := by
  have hstep : c.stepPush.2 = none ∧ c.stepPush.1.producer = .beginWrite .tryPush item h ∧
      c.stepPush.1.ring.cumulativeDropCount = c.ring.cumulativeDropCount := by
    simp [Channel.stepPush, hpc, ProducerPc.step, hroom]
  exact .of_step hstep.1 (by rw [hpc]; rfl) hstep.2.2 (beginWrite_alone _ hstep.2.1)

/-- `tryPush` alone publishes its item when the ring is not full. -/
theorem tryPush_alone (c : Channel T cap) {item : T} (hpc : c.producer = .loadHead .tryPush item)
    (hroom : subU64 c.ring.head c.ring.tail ≠ cap.val) :
    PushesAlone .tryPush item c.ring.head c := by
  have hstep : c.stepPush.2 = none ∧ c.stepPush.1.producer = .loadTail item c.ring.head ∧
      c.stepPush.1.ring = c.ring := by
    simp [Channel.stepPush, hpc, ProducerPc.step]
  exact .of_step hstep.1 (by rw [hpc]; rfl) (by rw [hstep.2.2])
    (loadTail_alone _ hstep.2.1 (by rw [hstep.2.2]; exact hroom))

/-- `tryPush` alone returns false on a full ring and changes nothing. -/
theorem tryPush_alone_full (c : Channel T cap) {item : T}
    (hpc : c.producer = .loadHead .tryPush item)
    (hfull : subU64 c.ring.head c.ring.tail = cap.val) :
    Completes Channel.stepPush c false { c with producer := .idle } := by
  have hstep : c.stepPush = ({ c with producer := .loadTail item c.ring.head }, none) := by
    simp only [Channel.stepPush, hpc, ProducerPc.step, ProducerPc.publishes, List.append_nil]
  refine .of_step hstep (.of_last ?_)
  simp only [Channel.stepPush, ProducerPc.step, hfull, if_true, ProducerPc.publishes,
    List.append_nil]

/-! ### The `tryPop` call -/

/-- The call has so far only read. -/
structure PopFrame (c c' : Channel T cap) : Prop where
  ring : c'.ring = c.ring
  producer : c'.producer = c.producer
  pushed : c'.pushed = c.pushed
  popped : c'.popped = c.popped

/-- The `tryPop` call in progress, run alone, comes to take the item at index `ct`. -/
def TakesAlone (ct : Nat) (c : Channel T cap) : Prop :=
  ∃ c' item, Pending Channel.stepPop c c' ∧ PopFrame c c' ∧ c'.consumer = .storeTail ct item

/-- A step that changes no shared word is followed by what the rest takes. -/
theorem TakesAlone.of_step {ct : Nat} {c : Channel T cap} (hret : c.stepPop.2 = none)
    (htakes : c.consumer.takes c.ring = []) (hring : c.stepPop.1.ring = c.ring)
    (hrest : TakesAlone ct c.stepPop.1) : TakesAlone ct c := by
  obtain ⟨c', item, hpending, hframe, hpc⟩ := hrest
  have hpopped : c.stepPop.1.popped = c.popped := by
    show c.popped ++ c.consumer.takes c.ring = c.popped
    rw [htakes, List.append_nil]
  exact ⟨c', item, hpending.of_step (Prod.ext rfl hret), ⟨hframe.ring.trans hring, hframe.producer,
    hframe.pushed, hframe.popped.trans hpopped⟩, hpc⟩

/-- From the second load of the version the pop ends by itself. -/
theorem loadVersion2_alone (c : Channel T cap) {ct s1 : Nat} {item : T}
    (hpc : c.consumer = .loadVersion2 ct (c.ring.slot ct).writeVersion s1 s1 item) :
    TakesAlone ct c := by
  have hstep : c.stepPop.2 = none ∧ c.stepPop.1.consumer = .storeTail ct item ∧
      c.stepPop.1.ring = c.ring := by
    simp [Channel.stepPop, hpc, ConsumerPc.step]
  exact .of_step hstep.1 (by rw [hpc]; rfl) hstep.2.2
    ⟨_, item, .refl _, ⟨rfl, rfl, rfl, rfl⟩, hstep.2.1⟩

/-- The words from `k` on, by induction on how many there are. -/
theorem loadWord_alone (c : Channel T cap) {ct k : Nat} {dst : AtomicPayload T}
    (hpc : c.consumer =
      .loadWord ct (c.ring.slot ct).writeVersion (c.ring.slot ct).seq k dst) :
    TakesAlone ct c := by
  induction hn : wordCount T - k generalizing c k dst with
  -- All words are copied, and the version is checked again.
  | zero =>
    have hk : ¬ k < wordCount T := by omega
    have hstep : c.stepPop.2 = none ∧ c.stepPop.1.consumer = .loadVersion2 ct
        (c.ring.slot ct).writeVersion (c.ring.slot ct).seq (c.ring.slot ct).seq (ofWords dst) ∧
        c.stepPop.1.ring = c.ring := by
      simp [Channel.stepPop, hpc, ConsumerPc.step, hk]
    obtain ⟨hret, hnext, hring⟩ := hstep
    refine .of_step hret (by rw [hpc]; rfl) hring ?_
    rw [← hring] at hnext
    exact loadVersion2_alone _ hnext
  -- One more word is copied, and the slot stays as it is.
  | succ n ih =>
    have hk : k < wordCount T := by omega
    have hstep : c.stepPop.2 = none ∧ c.stepPop.1.consumer = .loadWord ct
        (c.ring.slot ct).writeVersion (c.ring.slot ct).seq (k + 1)
        (dst.set k (c.ring.slot ct).payload[k]) ∧ c.stepPop.1.ring = c.ring := by
      simp [Channel.stepPop, hpc, ConsumerPc.step, hk]
    obtain ⟨hret, hnext, hring⟩ := hstep
    refine .of_step hret (by rw [hpc]; rfl) hring ?_
    rw [← hring] at hnext
    exact ih _ hnext (by omega)

/-- From the load of the sequence number the pop ends by itself. -/
theorem loadSeq_alone (c : Channel T cap) {ct : Nat}
    (hpc : c.consumer = .loadSeq ct (c.ring.slot ct).writeVersion)
    (hseq : (c.ring.slot ct).seq = ct + 1) : TakesAlone ct c := by
  have hstep : c.stepPop.2 = none ∧ c.stepPop.1.consumer = .loadWord ct
      (c.ring.slot ct).writeVersion (c.ring.slot ct).seq 0 (Vector.replicate _ 0) ∧
      c.stepPop.1.ring = c.ring := by
    simp [Channel.stepPop, hpc, ConsumerPc.step, hseq]
  obtain ⟨hret, hnext, hring⟩ := hstep
  refine .of_step hret (by rw [hpc]; rfl) hring ?_
  rw [← hring] at hnext
  exact loadWord_alone _ hnext

/-- From the load of the version the pop ends by itself. -/
theorem loadVersion_alone (c : Channel T cap) {ct : Nat} (hpc : c.consumer = .loadVersion ct)
    (heven : (c.ring.slot ct).writeVersion % 2 = 0) (hseq : (c.ring.slot ct).seq = ct + 1) :
    TakesAlone ct c := by
  have hstep : c.stepPop.2 = none ∧
      c.stepPop.1.consumer = .loadSeq ct (c.ring.slot ct).writeVersion ∧
      c.stepPop.1.ring = c.ring := by
    simp [Channel.stepPop, hpc, ConsumerPc.step, heven]
  refine .of_step hstep.1 (by rw [hpc]; rfl) hstep.2.2 (loadSeq_alone _ ?_ ?_)
  · rw [hstep.2.2]
    exact hstep.2.1
  · rw [hstep.2.2]
    exact hseq

/-- From the load of the head the pop ends by itself. -/
theorem loadHead_alone (c : Channel T cap) (hpc : c.consumer = .loadHead c.ring.tail)
    (hlt : c.ring.tail < c.ring.head) (hfull : c.ring.head ≤ c.ring.tail + cap.val)
    (heven : (c.ring.slot c.ring.tail).writeVersion % 2 = 0)
    (hseq : (c.ring.slot c.ring.tail).seq = c.ring.tail + 1) : TakesAlone c.ring.tail c := by
  have hstep : c.stepPop.2 = none ∧ c.stepPop.1.consumer = .loadVersion c.ring.tail ∧
      c.stepPop.1.ring = c.ring := by
    simp only [Channel.stepPop, hpc, ConsumerPc.step, boundary_eq_tail cap _ _ hfull, Nat.lt_irrefl,
      if_false, Nat.not_le.mpr hlt, and_self]
  refine .of_step hstep.1 (by rw [hpc]; rfl) hstep.2.2 (loadVersion_alone _ hstep.2.1 ?_ ?_)
  · rw [hstep.2.2]
    exact heven
  · rw [hstep.2.2]
    exact hseq

/-- The slot of the next item, with no push in progress. -/
theorem SeqlockInv.slot_of_idle {c : Channel T cap} (hs : SeqlockInv c)
    (hidle : c.producer = .idle) {t : Nat} (hlt : t < c.ring.head)
    (hfull : c.ring.head ≤ t + cap.val) :
    (c.ring.slot t).writeVersion % 2 = 0 ∧ (c.ring.slot t).seq = t + 1 := by
  have hclosed : ¬ (c.ring.slot t).writeVersion % 2 = 1 := by
    rw [hs.writer.parity t, hidle]
    simp [ProducerPc.writing]
  refine ⟨by omega, hs.window t hlt hfull ?_⟩
  rw [hidle]
  simp [ProducerPc.claimed]

/-- `tryPop` alone comes to take the item at `tail_`, when there is one. -/
theorem tryPop_takes_alone {c : Channel T cap} (hs : SeqlockInv c) (hidle : c.producer = .idle)
    (hpc : c.consumer = .loadTail) (hlt : c.ring.tail < c.ring.head)
    (hfull : c.ring.head ≤ c.ring.tail + cap.val) : TakesAlone c.ring.tail c := by
  obtain ⟨heven, hseq⟩ := hs.slot_of_idle hidle hlt hfull
  have hstep : c.stepPop.2 = none ∧ c.stepPop.1.consumer = .loadHead c.ring.tail ∧
      c.stepPop.1.ring = c.ring := by
    simp [Channel.stepPop, hpc, ConsumerPc.step]
  refine .of_step hstep.1 (by rw [hpc]; rfl) hstep.2.2 ?_
  have hnext := loadHead_alone c.stepPop.1
  rw [hstep.2.2] at hnext
  exact hnext hstep.2.1 hlt hfull heven hseq

/-- `c'` is `c` after a `tryPop` call took an item. -/
structure PopDone (c c' : Channel T cap) : Prop where
  ring : c'.ring = { c.ring with tail := c.ring.tail + 1 }
  producer : c'.producer = c.producer
  consumer : c'.consumer = .idle
  pushed : c'.pushed = c.pushed
  popped : c'.popped.length = c.popped.length + 1

/-- The last step of a pop returns the item. -/
theorem storeTail_alone {c : Channel T cap} {item : T}
    (hpc : c.consumer = .storeTail c.ring.tail item) :
    c.stepPop.2 = some (some item) ∧ PopDone c c.stepPop.1 := by
  refine ⟨by simp [Channel.stepPop, hpc, ConsumerPc.step], ?_⟩
  constructor
  all_goals simp [Channel.stepPop, hpc, ConsumerPc.step, ConsumerPc.takes]

/-- `tryPop` alone takes the item at `tail_`, when there is one. -/
theorem tryPop_alone {c : Channel T cap} (hs : SeqlockInv c) (hidle : c.producer = .idle)
    (hpc : c.consumer = .loadTail) (hlt : c.ring.tail < c.ring.head)
    (hfull : c.ring.head ≤ c.ring.tail + cap.val) :
    ∃ c' item, Completes Channel.stepPop c (some item) c' ∧ PopDone c c' := by
  obtain ⟨last, item, hpending, hframe, hstore⟩ := tryPop_takes_alone hs hidle hpc hlt hfull
  rw [← hframe.ring] at hstore
  obtain ⟨hret, hdone⟩ := storeTail_alone hstore
  refine ⟨_, item, ⟨last, hpending, Prod.ext rfl hret⟩, ?_⟩
  exact ⟨hdone.ring.trans (by rw [hframe.ring]), hdone.producer.trans hframe.producer,
    hdone.consumer, hdone.pushed.trans hframe.pushed, by rw [hdone.popped, hframe.popped]⟩

/-- `tryPop` alone returns false on an empty ring and only reads. -/
theorem tryPop_alone_empty {c : Channel T cap} (hpc : c.consumer = .loadTail)
    (hempty : c.ring.head = c.ring.tail) :
    ∃ c', Completes Channel.stepPop c none c' ∧ PopFrame c c' ∧ c'.consumer = .idle := by
  have hload : c.stepPop.2 = none ∧ c.stepPop.1.consumer = .loadHead c.ring.tail ∧
      c.stepPop.1.ring = c.ring ∧ c.stepPop.1.popped = c.popped := by
    simp [Channel.stepPop, hpc, ConsumerPc.step, ConsumerPc.takes]
  -- Two accesses: the loads of `tail_` and `head_`, and the empty test on them.
  have hboundary := boundary_eq_tail cap c.ring.tail c.ring.tail (by omega)
  have htest : c.stepPop.1.stepPop.2 = some none ∧
      PopFrame c.stepPop.1 c.stepPop.1.stepPop.1 ∧ c.stepPop.1.stepPop.1.consumer = .idle := by
    generalize c.stepPop.1 = c1 at hload ⊢
    obtain ⟨-, hpc1, hring, -⟩ := hload
    rw [← hring] at hpc1 hempty hboundary
    refine ⟨?_, ?_, ?_⟩
    · simp only [Channel.stepPop, hpc1, ConsumerPc.step, hempty, hboundary, Nat.lt_irrefl,
        Nat.le_refl, if_false, if_true]
    · constructor
      all_goals
        simp only [Channel.stepPop, hpc1, ConsumerPc.step, hempty, hboundary, Nat.lt_irrefl,
          Nat.le_refl, if_false, if_true, ConsumerPc.takes, List.append_nil]
    · simp only [Channel.stepPop, hpc1, ConsumerPc.step, hempty, hboundary, Nat.lt_irrefl,
        Nat.le_refl, if_false, if_true]
  obtain ⟨hret, hframe, hidle⟩ := htest
  refine ⟨_, .of_step (Prod.ext rfl hload.1) (.of_last (Prod.ext rfl hret)), ?_, hidle⟩
  exact ⟨hframe.ring.trans hload.2.2.1, hframe.producer, hframe.pushed,
    hframe.popped.trans hload.2.2.2⟩

/-- No call is in progress. -/
def Channel.Quiescent (c : Channel T cap) : Prop := c.producer = .idle ∧ c.consumer = .idle

/-- `tryPop` alone jumps over what was overwritten and takes the oldest item left. -/
theorem tryPop_alone_overfull {c : Channel T cap} (hs : SeqlockInv c) (hidle : c.producer = .idle)
    (hpc : c.consumer = .loadTail) (hover : c.ring.tail + cap.val < c.ring.head) :
    ∃ c' item, Completes Channel.stepPop c (some item) c' ∧
      c'.ring = { c.ring with tail := c.ring.head - cap.val + 1 } ∧ c'.Quiescent ∧
      c'.pushed = c.pushed ∧ c'.popped.length = c.popped.length + 1 := by
  have hload : c.stepPop.2 = none ∧ c.stepPop.1.consumer = .loadHead c.ring.tail ∧
      c.stepPop.1.ring = c.ring ∧ c.stepPop.1.producer = c.producer ∧
      c.stepPop.1.pushed = c.pushed ∧ c.stepPop.1.popped = c.popped := by
    simp [Channel.stepPop, hpc, ConsumerPc.step, ConsumerPc.takes]
  obtain ⟨heven, hseq⟩ := hs.slot_of_idle hidle (t := c.ring.head - cap.val)
    (by have := cap.pos; omega) (by omega)
  obtain ⟨hret, hpc1, hring, hproducer, hpushed, hpopped⟩ := hload
  generalize h1 : c.stepPop.1 = c1 at hpc1 hring hproducer hpushed hpopped
  -- The second access finds the boundary above `tail_`.
  have hcap : cap.val < c.ring.head := by omega
  have hminus : ¬ c.ring.head - cap.val < c.ring.tail := by omega
  have hjump : c.ring.tail < c.ring.head - cap.val := by omega
  have htest : c1.stepPop.2 = none ∧
      c1.stepPop.1.consumer = .storeBoundary c.ring.head (c.ring.head - cap.val) ∧
      c1.stepPop.1.ring = c.ring ∧ c1.stepPop.1.producer = c.producer ∧
      c1.stepPop.1.pushed = c.pushed ∧ c1.stepPop.1.popped = c.popped := by
    simp only [Channel.stepPop, hpc1, ConsumerPc.step, ConsumerPc.takes, hring, hproducer, hpushed,
      hpopped, hcap, if_true, hminus, if_false, hjump, List.append_nil, and_self]
  obtain ⟨hret1, hpc2, hring2, hproducer2, hpushed2, hpopped2⟩ := htest
  generalize h2 : c1.stepPop.1 = c2 at hpc2 hring2 hproducer2 hpushed2 hpopped2
  -- The third stores it, and `Capacity` items are left above it.
  have hleft : ¬ c.ring.head ≤ c.ring.head - cap.val := by have := cap.pos; omega
  have hstore : c2.stepPop.2 = none ∧
      c2.stepPop.1.consumer = .loadVersion (c.ring.head - cap.val) ∧
      c2.stepPop.1.ring = { c.ring with tail := c.ring.head - cap.val } ∧
      c2.stepPop.1.producer = c.producer ∧ c2.stepPop.1.pushed = c.pushed ∧
      c2.stepPop.1.popped = c.popped := by
    simp only [Channel.stepPop, hpc2, ConsumerPc.step, ConsumerPc.takes, hring2, hproducer2,
      hpushed2, hpopped2, hleft, if_false, List.append_nil, and_self]
  obtain ⟨hret2, hpc3, hring3, hproducer3, hpushed3, hpopped3⟩ := hstore
  -- From there it is the call on a ring that is exactly full.
  have htakes := loadVersion_alone c2.stepPop.1 hpc3
  rw [hring3] at htakes
  obtain ⟨last, item, hpending, hframe, hlast⟩ := htakes heven hseq
  have hringLast := hframe.ring.trans hring3
  rw [show c.ring.head - cap.val = last.ring.tail by rw [hringLast]] at hlast
  obtain ⟨hdone, hpop⟩ := storeTail_alone hlast
  have hrest : Pending Channel.stepPop c1 last :=
    .of_step (Prod.ext h2 hret1) (.of_step (Prod.ext rfl hret2) hpending)
  refine ⟨_, item, ⟨last, .of_step (Prod.ext h1 hret) hrest, Prod.ext rfl hdone⟩, ?_, ⟨?_,
    hpop.consumer⟩, ?_, ?_⟩
  · rw [hpop.ring, hringLast]
  · rw [hpop.producer, hframe.producer, hproducer3, hidle]
  · rw [hpop.pushed, hframe.pushed, hpushed3]
  · rw [hpop.popped, hframe.popped, hpopped3]

/-! ### Draining the ring -/

/-- A `tryPop` called now and left alone returns false. -/
def Channel.Drained (c : Channel T cap) : Prop :=
  ∃ c', Completes Channel.stepPop c.callPop none c'

/-- The call of a pop keeps the invariant. -/
theorem SeqlockInv.callPop {c : Channel T cap} (hs : SeqlockInv c) : SeqlockInv c.callPop :=
  ⟨hs.writer.callPop, hs.window.callPop, hs.reader.callPop⟩

/-- With no call in progress, a drained ring is an empty one. -/
theorem drained_iff {c : Channel T cap} (hs : SeqlockInv c) (hquiet : c.Quiescent) :
    c.Drained ↔ c.ring.head = c.ring.tail := by
  obtain ⟨hproducer, hconsumer⟩ := hquiet
  have hcall : c.callPop = { c with consumer := .loadTail } := by
    simp [Channel.callPop, hconsumer]
  have hs' := hs.callPop
  have hle := hs.reader.tail_le
  constructor
  · rintro ⟨c', hfalse⟩
    rw [hcall] at hs' hfalse
    by_contra hne
    have hlt : c.ring.tail < c.ring.head := by omega
    -- On a ring that holds an item the call returns true, and a call has one outcome.
    by_cases hfull : c.ring.head ≤ c.ring.tail + cap.val
    · obtain ⟨_, _, htrue, -⟩ := tryPop_alone hs' hproducer rfl hlt hfull
      exact absurd (hfalse.unique htrue).1 (by simp)
    · obtain ⟨_, _, htrue, -⟩ := tryPop_alone_overfull hs' hproducer rfl (Nat.lt_of_not_le hfull)
      exact absurd (hfalse.unique htrue).1 (by simp)
  · intro hempty
    rw [Channel.Drained, hcall]
    obtain ⟨c', hfalse, -⟩ := tryPop_alone_empty (c := { c with consumer := .loadTail }) rfl hempty
    exact ⟨c', hfalse⟩

/-- The consumer's actions. -/
def SpscAction.OfConsumer : SpscAction T → Prop
  | .callPop | .stepPop => True
  | _ => False

/-- `tryPop` calls one after the other take every item of a ring that is not over-full. -/
theorem drain_alone_of_le {c : Channel T cap} (hs : SeqlockInv c) (hquiet : c.Quiescent)
    (hfull : c.ring.head ≤ c.ring.tail + cap.val) :
    ∃ c', (spscMachine T cap).Reaches SpscAction.OfConsumer c c' ∧ c'.Quiescent ∧
      c'.ring = { c.ring with tail := c.ring.head } ∧ c'.pushed = c.pushed ∧
      c'.popped.length = c.popped.length + (c.ring.head - c.ring.tail) := by
  induction hn : c.ring.head - c.ring.tail generalizing c with
  | zero =>
    have htail : c.ring.head = c.ring.tail := by
      have := hs.reader.tail_le
      omega
    exact ⟨c, .refl c, hquiet, by rw [htail], rfl, rfl⟩
  | succ n ih =>
    obtain ⟨hproducer, hconsumer⟩ := hquiet
    have hcall : c.callPop = { c with consumer := .loadTail } := by
      simp [Channel.callPop, hconsumer]
    have hs' : SeqlockInv { c with consumer := .loadTail } := hcall ▸ hs.callPop
    obtain ⟨c₁, item, ⟨last, hpending, hlast⟩, hdone⟩ :=
      tryPop_alone hs' hproducer rfl (by show c.ring.tail < c.ring.head; omega) hfull
    have hreach : (spscMachine T cap).Reaches SpscAction.OfConsumer c c₁ := by
      refine .trans (.single (a := .callPop) trivial hcall) (.trans ?_ (.single (a := .stepPop)
        trivial (congrArg Prod.fst hlast)))
      exact hpending.reaches (a := .stepPop) id trivial fun s _ => rfl
    have hs₁ : SeqlockInv c₁ :=
      hreach.invariant (fun c a _ hc => seqlockInv_step c a hc) hs
    have hring := hdone.ring
    have hpopped := hdone.popped
    simp only at hring hpopped
    -- One item is taken; the induction hypothesis takes the other `n`.
    obtain ⟨c₂, hreach₂, hquiet₂, hring₂, hpushed₂, hpopped₂⟩ := ih hs₁
      ⟨hdone.producer.trans hproducer, hdone.consumer⟩ (by rw [hring]; simp only; omega)
      (by rw [hring]; simp only; omega)
    refine ⟨c₂, hreach.trans hreach₂, hquiet₂, ?_, hpushed₂.trans hdone.pushed, ?_⟩
    · rw [hring₂, hring]
    · omega

/-- `tryPop` calls one after the other take the `Capacity` newest items of an over-full ring. -/
theorem drain_alone_overfull {c : Channel T cap} (hs : SeqlockInv c) (hquiet : c.Quiescent)
    (hover : c.ring.tail + cap.val < c.ring.head) :
    ∃ c', (spscMachine T cap).Reaches SpscAction.OfConsumer c c' ∧ c'.Quiescent ∧
      c'.ring = { c.ring with tail := c.ring.head } ∧ c'.pushed = c.pushed ∧
      c'.popped.length = c.popped.length + cap.val := by
  have hpos := cap.pos
  have hcall : c.callPop = { c with consumer := .loadTail } := by
    simp [Channel.callPop, hquiet.2]
  have hs' : SeqlockInv { c with consumer := .loadTail } := hcall ▸ hs.callPop
  -- The first call jumps, and leaves a ring that is not over-full.
  obtain ⟨c₁, item, ⟨last, hpending, hlast⟩, hring₁, hquiet₁, hpushed₁, hpopped₁⟩ :=
    tryPop_alone_overfull hs' hquiet.1 rfl hover
  have hreach₁ : (spscMachine T cap).Reaches SpscAction.OfConsumer c c₁ := by
    refine .trans (.single (a := .callPop) trivial hcall) (.trans ?_ (.single (a := .stepPop)
      trivial (congrArg Prod.fst hlast)))
    exact hpending.reaches (a := .stepPop) id trivial fun s _ => rfl
  have hs₁ : SeqlockInv c₁ := hreach₁.invariant (fun c a _ hc => seqlockInv_step c a hc) hs
  simp only at hring₁ hpushed₁ hpopped₁
  obtain ⟨c₂, hreach₂, hquiet₂, hring₂, hpushed₂, hpopped₂⟩ := drain_alone_of_le hs₁ hquiet₁
    (by rw [hring₁]; simp only; omega)
  refine ⟨c₂, hreach₁.trans hreach₂, hquiet₂, ?_, hpushed₂.trans hpushed₁, ?_⟩
  · rw [hring₂, hring₁]
  · rw [hpopped₂, hpopped₁, hring₁]
    simp only
    omega

/-- `tryPop` calls one after the other take the newest items, `Capacity` of them at most. -/
theorem drain_alone {c : Channel T cap} (hs : SeqlockInv c) (hquiet : c.Quiescent) :
    ∃ c', (spscMachine T cap).Reaches SpscAction.OfConsumer c c' ∧ c'.Quiescent ∧
      c'.ring = { c.ring with tail := c.ring.head } ∧ c'.pushed = c.pushed ∧
      c'.popped.length = c.popped.length + min (c.ring.head - c.ring.tail) cap.val := by
  by_cases hfull : c.ring.head ≤ c.ring.tail + cap.val
  · obtain ⟨c', hreach, hquiet', hring, hpushed, hpopped⟩ := drain_alone_of_le hs hquiet hfull
    exact ⟨c', hreach, hquiet', hring, hpushed, by omega⟩
  · obtain ⟨c', hreach, hquiet', hring, hpushed, hpopped⟩ :=
      drain_alone_overfull hs hquiet (Nat.lt_of_not_le hfull)
    exact ⟨c', hreach, hquiet', hring, hpushed, by omega⟩

end CrossFlow
