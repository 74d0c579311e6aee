import CrossFlow.Platform.Common.SpscSelfCheck
import CrossFlow.Platform.Mac.DualChannelSpsc
import CrossFlow.Proofs.Spsc.Seqlock

/-!
# `CrossFlow.Proofs.Spsc.SelfCheck`: when the self-check is wrong

A check reads `head_` once itself and once in `logicalDropBoundaryValue`. A push that is completed in
between can make it compare a boundary with a `head_` that it does not belong to.

* `validate_iff`, `validateInv2_of_le`: what the second reading may be.
* `CheckInv.step`: a step that does not disturb a check keeps what the checks rely on.
* `validateAllInvariants_true`: the runs in which there is no false alarm.
-/

set_option autoImplicit false

namespace CrossFlow

open Lib (Machine)
open SpscRingBuffer (dropBoundary dropBoundary_eq)

/-! ### The tests -/

/-- The readings `h` and `h'` of `head_` agree for the check, with `t` for `tail_`: the boundary has
not moved, or it has not gone past `h`. -/
def BoundaryCheck.Agrees (cap : Capacity) (h t h' : Nat) : BoundaryCheck → Prop
  | .inv6 | .inv7a => h' - cap.val ≤ max t (h - cap.val)
  | .intervalDecomposition => h' ≤ h + cap.val

/-- Whether a check agrees can be looked up. -/
instance (cap : Capacity) (h t h' : Nat) (check : BoundaryCheck) :
    Decidable (check.Agrees cap h t h') := by
  cases check <;> exact inferInstanceAs (Decidable (_ ≤ _))

section
variable {cap : Capacity} {h t h' : Nat}

/-- A check succeeds exactly when its readings of `head_` agree. -/
theorem BoundaryCheck.validate_iff (check : BoundaryCheck) (ht : t ≤ h) (hle : h ≤ h') :
    check.validate cap h t (dropBoundary cap h' t) = true ↔ check.Agrees cap h t h' := by
  have hboundary := dropBoundary_eq cap h' t
  -- Each check compares the boundary of the first head with that of the second.
  cases check with
  | inv6 =>
    have hexpected := dropBoundary_eq cap h t
    simp only [validate, validateInv6, Agrees, beq_iff_eq]
    omega
  | inv7a =>
    simp only [validate, validateInv7a, Agrees, beq_iff_eq]
    split <;> split <;> omega
  | intervalDecomposition =>
    simp only [validate, validateIntervalDecomposition, Agrees]
    have hnot : ¬ dropBoundary cap h' t < t := by omega
    rw [if_neg hnot]
    -- A boundary past the first head is refused, any other leaves an interval that fits.
    by_cases hpast : h < dropBoundary cap h' t
    · rw [if_pos hpast]
      simp only [Bool.false_eq_true, false_iff]
      omega
    · have hsub : subU64 h (dropBoundary cap h' t) = h - dropBoundary cap h' t :=
        if_pos (by omega)
      have hfits : ¬ cap.val < h - dropBoundary cap h' t := by omega
      simp only [if_neg hpast, hsub, if_neg hfits, true_iff]
      omega

/-- The second check holds where the head has not moved too far. -/
theorem validateInv2_of_le (ht : t ≤ h) (hle : h ≤ h') (hagrees : h' ≤ h + cap.val) :
    validateInv2 cap h (dropBoundary cap h' t) = true := by
  have hboundary := dropBoundary_eq cap h' t
  have hsub : subU64 h (dropBoundary cap h' t) = h - dropBoundary cap h' t := if_pos (by omega)
  simp only [validateInv2, hsub, decide_eq_true_eq]
  omega

end

/-! ### The condition -/

/-- The call gets over `head_` being `h'` before its next load, with `tail` for `tail_`. -/
def ValidatePc.Tolerates (cap : Capacity) (tail h' : Nat) : ValidatePc → Prop
  | .inv2BoundaryHead h => h' ≤ h + cap.val
  | .tail check h => check.Agrees cap h tail h'
  | .boundaryHead check h t => check.Agrees cap h t h'
  | _ => True

/-- Whether a validation tolerates a head can be looked up. -/
instance (cap : Capacity) (tail h' : Nat) (pc : ValidatePc) :
    Decidable (pc.Tolerates cap tail h') := by
  cases pc <;> simp only [ValidatePc.Tolerates] <;> infer_instance

section
variable {T : Type} [TriviallyCopyable T] {cap : Capacity}

/-- A push that the step completes does not disturb the check in progress. -/
def KeepsChecks (c : CheckedChannel T cap) : CheckedAction T → Prop
  | .stepPush => ∀ push ∈ c.channel.producer.publishes,
      c.validator.Tolerates cap c.channel.ring.tail (push.1 + 1)
  | _ => True

/-- Whether a step keeps the checks can be looked up. -/
instance (c : CheckedChannel T cap) (a : CheckedAction T) : Decidable (KeepsChecks c a) := by
  cases a <;> simp only [KeepsChecks] <;> infer_instance

/-! ### The invariant -/

/-- What a call of `validateAllInvariants` knows about the ring. -/
def ValidatePc.Ok (r : SpscRingBuffer T cap) : ValidatePc → Prop
  | .inv1Head t => t = r.tail
  | .inv2BoundaryHead h => r.tail ≤ h ∧ h ≤ r.head ∧ r.head ≤ h + cap.val
  | .inv2BoundaryTail h h' => r.tail ≤ h ∧ h ≤ h' ∧ h' ≤ h + cap.val
  | .tail check h => r.tail ≤ h ∧ h ≤ r.head ∧ check.Agrees cap h r.tail r.head
  | .boundaryHead check h t =>
    t = r.tail ∧ t ≤ h ∧ h ≤ r.head ∧ check.Agrees cap h t r.head
  | .boundaryTail check h t h' => t = r.tail ∧ t ≤ h ∧ h ≤ h' ∧ check.Agrees cap h t h'
  | .idle | .inv1Tail | .inv2Head | .head _ => True

/-- The ring is as the seqlock has it, and all checks so far held. -/
structure CheckInv (c : CheckedChannel T cap) : Prop where
  seqlock : SeqlockInv c.channel
  alone : c.validator ≠ .idle → c.channel.consumer = .idle
  validator : c.validator.Ok c.channel.ring
  verdicts : ∀ ok ∈ c.verdicts, ok = true

/-- The invariant holds at the start. -/
theorem checkInv_init : CheckInv (CheckedChannel.init : CheckedChannel T cap) where
  seqlock := seqlockInv_init
  alone h := absurd rfl h
  validator := trivial
  verdicts := nofun

/-- A check agrees as long as the head has not moved. -/
theorem BoundaryCheck.agrees_refl (check : BoundaryCheck) (h t : Nat) :
    check.Agrees cap h t h := by
  cases check with
  | inv6 | inv7a => exact Nat.le_max_right _ _
  | intervalDecomposition => exact Nat.le_add_right _ _

/-- `head_` stays, or it goes up as far as the call tolerates. -/
theorem ValidatePc.Ok.of_head {r r' : SpscRingBuffer T cap} {pc : ValidatePc} (hok : pc.Ok r)
    (htail : r'.tail = r.tail) (hhead : r.head ≤ r'.head)
    (htolerates : pc.Tolerates cap r.tail r'.head) : pc.Ok r' := by
  -- Only the heads that are still to be compared ask for the tolerance.
  cases pc with
  | idle | inv1Tail | inv2Head | head check => trivial
  | inv1Head t => exact Eq.trans hok htail.symm
  | inv2BoundaryHead h =>
    obtain ⟨ht, hle, -⟩ := hok
    exact ⟨htail ▸ ht, Nat.le_trans hle hhead, htolerates⟩
  | inv2BoundaryTail h h' =>
    obtain ⟨ht, hle, hagrees⟩ := hok
    exact ⟨htail ▸ ht, hle, hagrees⟩
  | tail check h =>
    obtain ⟨ht, hle, -⟩ := hok
    refine ⟨htail ▸ ht, Nat.le_trans hle hhead, ?_⟩
    rw [htail]
    exact htolerates
  | boundaryHead check h t =>
    obtain ⟨ht, hth, hle, -⟩ := hok
    exact ⟨ht.trans htail.symm, hth, Nat.le_trans hle hhead, htolerates⟩
  | boundaryTail check h t h' =>
    obtain ⟨ht, hagrees⟩ := hok
    exact ⟨ht.trans htail.symm, hagrees⟩

/-- What the call knows is about `head_` as it is. -/
theorem ValidatePc.Ok.tolerates {r : SpscRingBuffer T cap} {pc : ValidatePc} (hok : pc.Ok r) :
    pc.Tolerates cap r.tail r.head := by
  cases pc with
  | inv2BoundaryHead h => exact hok.2.2
  | tail check h => exact hok.2.2
  | boundaryHead check h t => exact hok.2.2.2
  | _ => trivial

/-- A load keeps what the call knows, and a call that returns returns true. -/
theorem ValidatePc.Ok.step {r : SpscRingBuffer T cap} {pc : ValidatePc} (hok : pc.Ok r)
    (htail : r.tail ≤ r.head) : (pc.step r).1.Ok r ∧ ∀ ok ∈ (pc.step r).2, ok = true := by
  cases pc with
  | idle => exact ⟨trivial, nofun⟩
  | inv1Tail => exact ⟨rfl, nofun⟩
  | inv1Head t =>
    -- The tail that was read is still the tail, as no pop is running.
    have hvalid : validateInv1 t r.head = true := by
      rw [show t = r.tail from hok]
      exact decide_eq_true htail
    simp only [ValidatePc.step, hvalid, proceed, if_true]
    exact ⟨trivial, nofun⟩
  | inv2Head => exact ⟨⟨htail, Nat.le_refl _, Nat.le_add_right _ _⟩, nofun⟩
  | inv2BoundaryHead h => exact ⟨hok, nofun⟩
  | inv2BoundaryTail h h' =>
    obtain ⟨ht, hle, hagrees⟩ := hok
    simp only [ValidatePc.step, validateInv2_of_le ht hle hagrees, proceed, if_true]
    exact ⟨trivial, nofun⟩
  | head check => exact ⟨⟨htail, Nat.le_refl _, check.agrees_refl _ _⟩, nofun⟩
  | tail check h =>
    obtain ⟨ht, hle, hagrees⟩ := hok
    exact ⟨⟨rfl, ht, hle, hagrees⟩, nofun⟩
  | boundaryHead check h t =>
    obtain ⟨ht, hth, hle, hagrees⟩ := hok
    exact ⟨⟨ht, hth, hle, hagrees⟩, nofun⟩
  | boundaryTail check h t h' =>
    obtain ⟨rfl, hth, hle, hagrees⟩ := hok
    simp only [ValidatePc.step, (check.validate_iff hth hle).mpr hagrees, proceed, if_true]
    cases check with
    | inv6 => exact ⟨trivial, nofun⟩
    | inv7a => exact ⟨trivial, nofun⟩
    | intervalDecomposition => exact ⟨trivial, by simp [BoundaryCheck.next]⟩

/-! ### Runs -/

/-- A step of the producer leaves `head_`, or completes a push. -/
theorem head_stepPush {c : Channel T cap} (hc : SeqlockInv c) :
    c.stepPush.1.ring.head = c.ring.head ∨
      ∃ push ∈ c.producer.publishes, push.1 = c.ring.head ∧
        c.stepPush.1.ring.head = push.1 + 1 := by
  have hok := hc.writer.producer
  have hhead : c.stepPush.1.ring.head = c.ring.head + c.producer.publishes.length :=
    ProducerPc.step_head c.ring c.producer hok
  cases hpc : c.producer with
  | storeHead kind item h =>
    rw [hpc] at hok hhead
    have hh : h = c.ring.head := hok.1
    refine .inr ⟨(h, item), List.mem_singleton.mpr rfl, hh, ?_⟩
    rw [hhead, hh]
    rfl
  | _ =>
    rw [hpc] at hhead
    exact .inl hhead

/-- A step of a push keeps the invariant, where it keeps the checks. -/
theorem CheckInv.stepPush {c : CheckedChannel T cap} (hc : CheckInv c)
    (hkeeps : KeepsChecks c .stepPush) :
    CheckInv { c with channel := c.channel.stepPush.1 } where
  seqlock := seqlockInv_step c.channel .stepPush hc.seqlock
  alone := hc.alone
  validator := by
    have htail : c.channel.stepPush.1.ring.tail = c.channel.ring.tail :=
      ProducerPc.step_tail c.channel.ring c.channel.producer
    show c.validator.Ok c.channel.stepPush.1.ring
    -- Only the store of `head_` can disturb the check.
    rcases head_stepPush hc.seqlock with hsame | ⟨push, hpush, hat, hhead⟩
    · refine hc.validator.of_head htail (Nat.le_of_eq hsame.symm) ?_
      rw [hsame]
      exact hc.validator.tolerates
    · refine hc.validator.of_head htail (by omega) ?_
      rw [hhead]
      exact hkeeps push hpush
  verdicts := hc.verdicts

/-- The consumer is in one call at a time. -/
theorem CheckInv.stepPop {c : CheckedChannel T cap} (hc : CheckInv c) :
    CheckInv { c with channel := c.channel.stepPop.1 } where
  seqlock := seqlockInv_step c.channel .stepPop hc.seqlock
  alone hvalidates := by
    show (c.channel.consumer.step c.channel.ring).pc = .idle
    rw [hc.alone hvalidates]
    rfl
  validator := by
    -- No check is in progress, or no `tryPop` is.
    by_cases hidle : c.validator = .idle
    · rw [hidle]
      trivial
    · have hring : c.channel.stepPop.1.ring = c.channel.ring := by
        show (c.channel.consumer.step c.channel.ring).ring = c.channel.ring
        rw [hc.alone hidle]
        rfl
      show c.validator.Ok c.channel.stepPop.1.ring
      rw [hring]
      exact hc.validator
  verdicts := hc.verdicts

/-- The call of a pop keeps the invariant. -/
theorem CheckInv.callPop {c : CheckedChannel T cap} (hc : CheckInv c) : CheckInv c.callPop := by
  simp only [CheckedChannel.callPop]
  split
  · rename_i hidle
    refine ⟨seqlockInv_step c.channel .callPop hc.seqlock, fun h => absurd hidle h, ?_, hc.verdicts⟩
    rw [hidle]
    trivial
  · exact hc

/-- The call of a validation keeps the invariant. -/
theorem CheckInv.callValidate {c : CheckedChannel T cap} (hc : CheckInv c) :
    CheckInv c.callValidate := by
  simp only [CheckedChannel.callValidate]
  split
  · rename_i _ hconsumer
    exact ⟨hc.seqlock, fun _ => hconsumer, trivial, hc.verdicts⟩
  · exact hc

/-- A step of a validation keeps the invariant. -/
theorem CheckInv.stepValidate {c : CheckedChannel T cap} (hc : CheckInv c) :
    CheckInv c.stepValidate := by
  obtain ⟨hok, hresult⟩ := hc.validator.step hc.seqlock.reader.tail_le
  refine ⟨hc.seqlock, fun hvalidates => ?_, hok, ?_⟩
  · -- A call that goes on was in progress.
    refine hc.alone fun hidle => hvalidates ?_
    show (c.validator.step c.channel.ring).1 = .idle
    rw [hidle]
    rfl
  · intro ok hmem
    rcases List.mem_append.mp hmem with hbefore | hnow
    · exact hc.verdicts ok hbefore
    · exact hresult ok (Option.mem_toList.mp hnow)

/-- Every step that keeps the checks keeps the invariant. -/
theorem CheckInv.step (c : CheckedChannel T cap) (a : CheckedAction T) (hc : CheckInv c)
    (hkeeps : KeepsChecks c a) : CheckInv ((checkedMachine T cap).step c a) := by
  cases a with
  -- A push that is called has accessed nothing yet.
  | callPush item =>
    have hframe : (c.channel.callPush .tryPushDropOldest item).ring = c.channel.ring ∧
        (c.channel.callPush .tryPushDropOldest item).consumer = c.channel.consumer := by
      rw [Channel.callPush]
      split
      · exact ⟨rfl, rfl⟩
      · exact ⟨rfl, rfl⟩
    refine ⟨seqlockInv_step c.channel (.callPush .tryPushDropOldest item) hc.seqlock, ?_, ?_,
      hc.verdicts⟩
    · exact fun hvalidates => hframe.2.trans (hc.alone hvalidates)
    · show c.validator.Ok (c.channel.callPush .tryPushDropOldest item).ring
      rw [hframe.1]
      exact hc.validator
  | stepPush => exact hc.stepPush hkeeps
  | callPop => exact hc.callPop
  | stepPop => exact hc.stepPop
  | callValidate => exact hc.callValidate
  | stepValidate => exact hc.stepValidate

/-- In a run in which no push that is completed during a check disturbs it, every call of
`validateAllInvariants` returns true. -/
theorem validateAllInvariants_true (T : Type) [TriviallyCopyable T] (cap : Capacity)
    {acts : List (CheckedAction T)} (hacts : (checkedMachine T cap).Meets KeepsChecks .init acts) :
    ∀ ok ∈ ((checkedMachine T cap).run acts).verdicts, ok = true :=
  (Machine.invariant_of_meets checkInv_init CheckInv.step hacts).verdicts

end

/-- One slot. -/
def oneSlot : Capacity := ⟨1, by decide, by decide, by decide⟩

/-- An event to push. -/
def anyEvent : RawInputEventFlat := ⟨0, 0, RawEventKind.MouseMove.toU8, 0, 0, 0, 0, 0, 0, 1⟩

/-- A push that begins and ends during a call. -/
theorem validateAllInvariants_true_push :
    let verdicts := ((checkedMachine RawInputEventFlat spscDataCapacity).run
      (.callValidate :: .stepValidate :: .callPush anyEvent :: List.replicate 12 .stepPush ++
        List.replicate 16 .stepValidate)).verdicts
    verdicts.length = 1 ∧ ∀ ok ∈ verdicts, ok = true :=
  ⟨by decide, validateAllInvariants_true RawInputEventFlat spscDataCapacity (by decide)⟩

/-- A full ring of one slot: the second push stores `head_` between the two readings of
`validateInv6`, which finds a boundary of 1 where it expects 0. -/
theorem validateAllInvariants_false_alarm :
    ((checkedMachine RawInputEventFlat oneSlot).run
      (.callPush anyEvent :: List.replicate 12 .stepPush ++
        .callPush anyEvent :: List.replicate 10 .stepPush ++
        .callValidate :: List.replicate 7 .stepValidate ++
        .stepPush :: List.replicate 2 .stepValidate)).verdicts = [false] := by
  decide

end CrossFlow
