import CrossFlow.Lib.Holding
import CrossFlow.Proofs.Injection.Release
import CrossFlow.Proofs.Injection.ReleaseDeadline

/-!
# `CrossFlow.Proofs.Injection.Bitmaps`: the bitmaps are sets

`setPressed` and `clearPressed` change the bit of one control, so a snapshot that is kept with them
holds what the changes leave held (`holds_keepAll`), as far as there is a bit for it: 8 buttons and
256 keys. `anyPressed` and `count` say whether there are such controls, and how many.
-/

set_option autoImplicit false

namespace CrossFlow

open Lib (Change heldAfter)

/-- There is a bit for the control. -/
def Held.HasBit : Held → Prop
  | .button btn => btn.toNat < 8
  | .key code => code.toNat < 256

/-- Whether a control has a bit can be looked up. -/
instance (k : Held) : Decidable k.HasBit := by
  cases k <;> exact inferInstanceAs (Decidable (_ < _))

/-- A control that `setPressed` and `clearPressed` can be called for. -/
inductive Keepable where
  | button (btn : ShiftableButton)
  | key (code : KeyCode)
  deriving DecidableEq

/-- The control. -/
def Keepable.held : Keepable → Held
  | .button btn => .button btn.val
  | .key code => .key code

namespace PressedStateSnapshot

/-- The snapshot with `setPressed` or `clearPressed` called for the control. -/
def keep (pressed : PressedStateSnapshot) (c : Change Keepable) : PressedStateSnapshot :=
  match c.control, c.down with
  | .button btn, true =>
    { pressed with pressedMouseButtons := pressed.pressedMouseButtons.setPressed btn }
  | .button btn, false =>
    { pressed with pressedMouseButtons := pressed.pressedMouseButtons.clearPressed btn }
  | .key code, true => { pressed with pressedKeys := pressed.pressedKeys.setPressed code }
  | .key code, false => { pressed with pressedKeys := pressed.pressedKeys.clearPressed code }

end PressedStateSnapshot

/-! ### One bit -/

/-- A bit that is set is set, and the others are as before. -/
theorem testBit_or_bit {width : Nat} (word : BitVec width) (i k : Nat) :
    (word ||| BitVec.ofNat width (2 ^ i)).toNat.testBit k =
      (word.toNat.testBit k || (decide (k < width) && decide (i = k))) := by
  rw [BitVec.testBit_toNat, BitVec.getLsbD_or, BitVec.testBit_toNat, BitVec.getLsbD_ofNat,
    Nat.testBit_two_pow]

/-- A bit that is cleared is not set, and the others are as before. -/
theorem testBit_and_not_bit {width : Nat} (word : BitVec width) (i k : Nat) :
    (word &&& ~~~ BitVec.ofNat width (2 ^ i)).toNat.testBit k =
      (word.toNat.testBit k && !decide (i = k)) := by
  rw [BitVec.testBit_toNat, BitVec.getLsbD_and, BitVec.testBit_toNat, BitVec.getLsbD_not,
    BitVec.getLsbD_ofNat, Nat.testBit_two_pow]
  by_cases hk : k < width
  · simp [hk]
  · simp [hk, BitVec.getLsbD_of_ge _ _ (Nat.le_of_not_lt hk)]

/-- The button of a number below 32. -/
def ShiftableButton.ofNat (n : Nat) : ShiftableButton :=
  ⟨.ofNat (n % 32), by rw [UInt8.toNat_ofNat', Nat.mod_eq_of_lt (by omega)]; omega⟩

/-- A number below 32 is that of a button. -/
theorem ShiftableButton.val_ofNat {n : Nat} (hn : n < 32) : (ofNat n).val = .ofNat n :=
  congrArg UInt8.ofNat (Nat.mod_eq_of_lt hn)

/-- A button with a bit is pressed once it is set. -/
theorem MouseButtonBitmap.isPressed_setPressed (b : MouseButtonBitmap) (btn : ShiftableButton)
    (k : UInt8) :
    (b.setPressed btn).isPressed k =
      (b.isPressed k || (decide (k.toNat < 8) && decide (btn.val = k))) := by
  have h := testBit_or_bit b.bits.toBitVec btn.val.toNat k.toNat
  simp only [UInt8.toNat_inj] at h
  exact h

/-- A button is not pressed once it is cleared. -/
theorem MouseButtonBitmap.isPressed_clearPressed (b : MouseButtonBitmap) (btn : ShiftableButton)
    (k : UInt8) :
    (b.clearPressed btn).isPressed k = (b.isPressed k && !decide (btn.val = k)) := by
  have h := testBit_and_not_bit b.bits.toBitVec btn.val.toNat k.toNat
  simp only [UInt8.toNat_inj] at h
  exact h

/-- A word that is stored is read back. -/
theorem get_set {α : Type} {n : Nat} (words : Vector α n) {i j : Nat} (hi : i < n) (hj : j < n)
    (word : α) :
    (words.set i word hi).get ⟨j, hj⟩ = if i = j then word else words.get ⟨j, hj⟩ := by
  show (words.set i word hi)[j] = if i = j then word else words[j]
  exact Vector.getElem_set ..

/-- The bits of the word of the code, and those of the other words. -/
theorem KeyCodeBitmap.isPressed_modify (b : KeyCodeBitmap) {code : KeyCode}
    (hcode : code.toNat < 256) (hword : code.toNat / 64 < 4) (k : KeyCode)
    (f : UInt64 → UInt64 → UInt64) :
    (b.modify code f).isPressed k =
      if k.toNat < 256 ∧ k.toNat / 64 = code.toNat / 64 then
        (f (b.words.get ⟨code.toNat / 64, hword⟩)
          (.ofNat (2 ^ (code.toNat % 64)))).toNat.testBit (k.toNat % 64)
      else b.isPressed k := by
  rw [KeyCodeBitmap.isPressed, KeyCodeBitmap.isPressed, KeyCodeBitmap.modify, dif_pos hcode]
  by_cases hk : k.toNat < 256
  · rw [dif_pos hk, dif_pos hk, get_set _ (by omega) (by omega)]
    by_cases hsame : k.toNat / 64 = code.toNat / 64
    · rw [if_pos hsame.symm, if_pos ⟨hk, hsame⟩]
    · rw [if_neg fun h => hsame h.symm, if_neg fun h => hsame h.2]
  · rw [dif_neg hk, dif_neg hk, if_neg fun h => hk h.1]

/-- In one word, a code is known by its bit. -/
theorem code_eq_iff {code k : KeyCode} (hword : k.toNat / 64 = code.toNat / 64) :
    code.toNat % 64 = k.toNat % 64 ↔ code = k := by
  constructor
  · intro hbit
    exact UInt16.toNat_inj.mp (by omega)
  · rintro rfl
    rfl

/-- A key is pressed when its bit is set in its word. -/
theorem KeyCodeBitmap.isPressed_of_word (b : KeyCodeBitmap) {code k : KeyCode}
    (hk : k.toNat < 256) (hword : k.toNat / 64 = code.toNat / 64) (hcode : code.toNat / 64 < 4) :
    (b.words.get ⟨code.toNat / 64, hcode⟩).toNat.testBit (k.toNat % 64) = b.isPressed k := by
  rw [KeyCodeBitmap.isPressed, dif_pos hk]
  simp only [hword]

/-- A key with a bit is pressed once it is set. -/
theorem KeyCodeBitmap.isPressed_setPressed (b : KeyCodeBitmap) (code k : KeyCode) :
    (b.setPressed code).isPressed k =
      (b.isPressed k || (decide (k.toNat < 256) && decide (code = k))) := by
  by_cases hcode : code.toNat < 256
  · rw [setPressed, isPressed_modify b hcode (by omega)]
    -- Only the word of the code changes, and in it only the bit of the code.
    by_cases hk : k.toNat < 256 ∧ k.toNat / 64 = code.toNat / 64
    · have h := testBit_or_bit (b.words.get ⟨code.toNat / 64, by omega⟩).toBitVec
        (code.toNat % 64) (k.toNat % 64)
      have hold := b.isPressed_of_word hk.1 hk.2 (by omega)
      rw [if_pos hk]
      refine h.trans ?_
      show (Nat.testBit (b.words.get ⟨code.toNat / 64, _⟩).toNat (k.toNat % 64) || _) = _
      rw [hold]
      simp [hk.1, code_eq_iff hk.2, Nat.mod_lt]
    · rw [if_neg hk]
      have hne : ¬ (k.toNat < 256 ∧ code = k) := by
        rintro ⟨hlt, rfl⟩
        exact hk ⟨hlt, rfl⟩
      rw [← Bool.decide_and, decide_eq_false hne, Bool.or_false]
  · have hne : ¬ (k.toNat < 256 ∧ code = k) := by
      rintro ⟨hlt, rfl⟩
      exact hcode hlt
    rw [setPressed, modify, dif_neg hcode, ← Bool.decide_and, decide_eq_false hne, Bool.or_false]

/-- A key is not pressed once it is cleared. -/
theorem KeyCodeBitmap.isPressed_clearPressed (b : KeyCodeBitmap) (code k : KeyCode) :
    (b.clearPressed code).isPressed k = (b.isPressed k && !decide (code = k)) := by
  by_cases hcode : code.toNat < 256
  · rw [clearPressed, isPressed_modify b hcode (by omega)]
    by_cases hk : k.toNat < 256 ∧ k.toNat / 64 = code.toNat / 64
    · have h := testBit_and_not_bit (b.words.get ⟨code.toNat / 64, by omega⟩).toBitVec
        (code.toNat % 64) (k.toNat % 64)
      have hold := b.isPressed_of_word hk.1 hk.2 (by omega)
      rw [if_pos hk]
      refine h.trans ?_
      show (Nat.testBit (b.words.get ⟨code.toNat / 64, _⟩).toNat (k.toNat % 64) && _) = _
      rw [hold]
      simp [code_eq_iff hk.2]
    · rw [if_neg hk]
      by_cases hlt : k.toNat < 256
      · have hne : code ≠ k := by
          rintro rfl
          exact hk ⟨hlt, rfl⟩
        simp [hne]
      · rw [isPressed, dif_neg hlt]
        rfl
  · rw [clearPressed, modify, dif_neg hcode]
    -- A code without a bit was not pressed before either.
    by_cases heq : code = k
    · subst heq
      rw [isPressed, dif_neg hcode]
      rfl
    · simp [heq]

/-! ### The snapshot -/

namespace PressedStateSnapshot

/-- A control without a bit is never pressed. -/
theorem holds_of_not_hasBit (pressed : PressedStateSnapshot) {k : Held} (hk : ¬ k.HasBit) :
    pressed.holds k = false := by
  cases k with
  | button btn =>
    have hbits : pressed.pressedMouseButtons.bits.toNat < 2 ^ btn.toNat :=
      Nat.lt_of_lt_of_le pressed.pressedMouseButtons.bits.toNat_lt
        (Nat.pow_le_pow_right (by decide) (Nat.le_of_not_lt hk))
    exact Nat.testBit_lt_two_pow hbits
  | key code => exact dif_neg hk

/-- A change is seen in the control that it is about. -/
theorem holds_keep (pressed : PressedStateSnapshot) (c : Change Keepable) {k : Keepable}
    (hk : k.held.HasBit) :
    (pressed.keep c).holds k.held = if c.control = k then c.down else pressed.holds k.held := by
  obtain ⟨control, down⟩ := c
  -- A change of a button leaves the keys alone, and a change of a key the buttons.
  cases k with
  | button k =>
    have hlt : k.val.toNat < 8 := hk
    cases control with
    | button btn =>
      cases down with
      | true =>
        show (pressed.pressedMouseButtons.setPressed btn).isPressed k.val = _
        rw [MouseButtonBitmap.isPressed_setPressed]
        by_cases heq : btn = k <;>
          simp [heq, Subtype.val_inj, hlt, holds, Keepable.held]
      | false =>
        show (pressed.pressedMouseButtons.clearPressed btn).isPressed k.val = _
        rw [MouseButtonBitmap.isPressed_clearPressed]
        by_cases heq : btn = k <;> simp [heq, Subtype.val_inj, holds, Keepable.held]
    | key code => cases down <;> rfl
  | key k =>
    have hlt : k.toNat < 256 := hk
    cases control with
    | button btn => cases down <;> rfl
    | key code =>
      cases down with
      | true =>
        show (pressed.pressedKeys.setPressed code).isPressed k = _
        rw [KeyCodeBitmap.isPressed_setPressed]
        by_cases heq : code = k <;> simp [heq, hlt, holds, Keepable.held]
      | false =>
        show (pressed.pressedKeys.clearPressed code).isPressed k = _
        rw [KeyCodeBitmap.isPressed_clearPressed]
        by_cases heq : code = k <;> simp [heq, holds, Keepable.held]

/-- The snapshot kept with the changes holds what the changes leave held, if there is a bit for
it. -/
theorem holds_keepAll (pressed : PressedStateSnapshot) (changes : List (Change Keepable))
    (k : Keepable) :
    (changes.foldl keep pressed).holds k.held =
      (decide k.held.HasBit && heldAfter (fun k => pressed.holds k.held) changes k) := by
  by_cases hk : k.held.HasBit
  · rw [decide_eq_true hk, Bool.true_and]
    induction changes generalizing pressed with
    | nil => rfl
    | cons c changes ih =>
      rw [List.foldl_cons, ih, Lib.heldAfter_cons]
      refine Lib.heldAfter_congr ?_
      rw [holds_keep pressed c hk]
      by_cases heq : c.control = k
      · rw [if_pos heq, heq, Function.update_self]
      · rw [if_neg heq, Function.update_of_ne (Ne.symm heq)]
  · rw [holds_of_not_hasBit _ hk, decide_eq_false hk, Bool.false_and]

end PressedStateSnapshot

/-! ### Whether any are pressed, and how many -/

/-- A number has a bit unless it is 0. -/
theorem exists_testBit_iff (n : Nat) : (∃ k, n.testBit k = true) ↔ n ≠ 0 := by
  constructor
  · rintro ⟨k, hk⟩ rfl
    exact absurd hk (by simp)
  · exact Nat.exists_testBit_of_ne_zero

/-- Some button below 8 is pressed. -/
theorem MouseButtonBitmap.anyPressed_iff (b : MouseButtonBitmap) :
    b.anyPressed = true ↔ ∃ btn : UInt8, b.isPressed btn = true ∧ btn.toNat < 8 := by
  have hbits : b.anyPressed = true ↔ b.bits.toNat ≠ 0 := by
    rw [anyPressed, bne_iff_ne, ne_eq, ← UInt8.toNat_inj]
    rfl
  rw [hbits, ← exists_testBit_iff]
  constructor
  · rintro ⟨k, hk⟩
    -- A bit from 8 on is not set in a byte.
    have hlt : k < 8 := Nat.lt_of_not_le fun hle => by
      rw [Nat.testBit_lt_two_pow (Nat.lt_of_lt_of_le b.bits.toNat_lt
        (Nat.pow_le_pow_right (by decide) hle))] at hk
      exact absurd hk (by decide)
    have hbtn : (UInt8.ofNat k).toNat = k := by
      rw [UInt8.toNat_ofNat', Nat.mod_eq_of_lt (by omega)]
    refine ⟨UInt8.ofNat k, ?_, by omega⟩
    rw [isPressed, hbtn]
    exact hk
  · rintro ⟨btn, hbtn, -⟩
    exact ⟨btn.toNat, hbtn⟩

/-- `anyPressed` says whether some key is. -/
theorem KeyCodeBitmap.anyPressed_iff (b : KeyCodeBitmap) :
    b.anyPressed = true ↔ ∃ code, b.isPressed code = true := by
  have hword (word : UInt64) : (word != 0) = true ↔ ∃ k, word.toNat.testBit k = true := by
    rw [exists_testBit_iff, bne_iff_ne, ne_eq, ← UInt64.toNat_inj]
    rfl
  rw [anyPressed, List.any_eq_true]
  constructor
  · rintro ⟨word, hmem, hne⟩
    obtain ⟨k, hk⟩ := (hword word).mp hne
    -- The bit `k` of the word `i` is the key `64 * i + k`.
    obtain ⟨i, hi, rfl⟩ := List.getElem_of_mem hmem
    have hi4 : i < 4 := by simpa using hi
    have hlt : k < 64 := Nat.lt_of_not_le fun hle => by
      rw [Nat.testBit_lt_two_pow (Nat.lt_of_lt_of_le (UInt64.toNat_lt _)
        (Nat.pow_le_pow_right (by decide) hle))] at hk
      exact absurd hk (by decide)
    refine ⟨UInt16.ofNat (64 * i + k), ?_⟩
    rw [isPressed_word b hi4 hlt]
    exact hk
  · rintro ⟨code, hcode⟩
    rw [isPressed] at hcode
    split at hcode
    · next hlt =>
      refine ⟨b.words.get ⟨code.toNat / 64, by omega⟩, ?_, (hword _).mpr ⟨_, hcode⟩⟩
      exact Vector.mem_toList_iff.mpr (Vector.getElem_mem _)
    · exact absurd hcode (by decide)

/-- **The snapshot is a set.** A snapshot that is kept with `setPressed` and `clearPressed`, in any
order, holds what the changes leave held, as far as it has bits; and its bitmaps say whether any are
held, and how many. The buttons are those that a shift is defined for. -/
theorem kept_refines (changes : List (Change Keepable)) :
    let kept := changes.foldl PressedStateSnapshot.keep .init
    let held := heldAfter (fun _ => false) changes
    (∀ k : Keepable, kept.holds k.held = (decide k.held.HasBit && held k)) ∧
      (kept.pressedMouseButtons.anyPressed = true ↔
        ∃ btn : ShiftableButton, btn.val.toNat < 8 ∧ held (.button btn) = true) ∧
      (kept.pressedKeys.anyPressed = true ↔
        ∃ code : KeyCode, code.toNat < 256 ∧ held (.key code) = true) ∧
      kept.pressedMouseButtons.count.toNat =
        (List.range 8).countP (fun btn => held (.button (.ofNat btn))) ∧
      kept.pressedKeys.count.toNat =
        (List.range 256).countP (fun code => held (.key (UInt16.ofNat code))) := by
  intro kept held
  -- Nothing is pressed at the start, whether it has a bit or not.
  have hinit : (fun k : Keepable => PressedStateSnapshot.init.holds k.held) = fun _ => false := by
    funext k
    cases k with
    | button btn => exact Nat.zero_testBit _
    | key code =>
      show PressedStateSnapshot.init.pressedKeys.isPressed code = false
      rw [KeyCodeBitmap.isPressed]
      split
      · have hword (i : Fin 4) : PressedStateSnapshot.init.pressedKeys.words.get i = 0 :=
          Vector.getElem_replicate ..
        rw [hword]
        exact Nat.zero_testBit _
      · rfl
  have hholds (k : Keepable) : kept.holds k.held = (decide k.held.HasBit && held k) := by
    rw [PressedStateSnapshot.holds_keepAll, hinit]
  have hbutton (btn : ShiftableButton) : kept.pressedMouseButtons.isPressed btn.val =
      (decide (btn.val.toNat < 8) && held (.button btn)) := hholds (.button btn)
  have hkey (code : KeyCode) : kept.pressedKeys.isPressed code =
      (decide (code.toNat < 256) && held (.key code)) := hholds (.key code)
  refine ⟨hholds, ?_, ?_, ?_, ?_⟩
  · rw [MouseButtonBitmap.anyPressed_iff]
    constructor
    · rintro ⟨btn, hpressed, hlt⟩
      have hkept := hbutton ⟨btn, Nat.lt_trans hlt (by decide)⟩
      rw [hpressed, decide_eq_true hlt, Bool.true_and] at hkept
      exact ⟨_, hlt, hkept.symm⟩
    · rintro ⟨btn, hlt, hheld⟩
      exact ⟨btn.val, by rw [hbutton, decide_eq_true hlt, hheld]; rfl, hlt⟩
  · rw [KeyCodeBitmap.anyPressed_iff]
    exact exists_congr fun code => by rw [hkey, Bool.and_eq_true, decide_eq_true_iff]
  · -- The count of a bitmap goes through its bits, and each is of a control that has one.
    rw [count_buttons]
    refine List.countP_congr fun btn hbtn => ?_
    have hlt := List.mem_range.mp hbtn
    have hkept := hbutton (.ofNat btn)
    rw [ShiftableButton.val_ofNat (by omega), UInt8.toNat_ofNat', Nat.mod_eq_of_lt (by omega),
      decide_eq_true hlt, Bool.true_and] at hkept
    rw [hkept]
  · rw [count_keys]
    refine List.countP_congr fun code hcode => ?_
    have hlt := List.mem_range.mp hcode
    rw [hkey, UInt16.toNat_ofNat', Nat.mod_eq_of_lt (by omega), decide_eq_true hlt, Bool.true_and]

end CrossFlow
