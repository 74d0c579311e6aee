import CrossFlow.Platform.Mac.EdgeDetector

/-!
# `CrossFlow.Proofs.Screen.EdgeDetector`: which overflow is reported

`detect` compares the cursor with the width and the height as signed words. A width or a height of
`2 ^ 31` or more is negative there.

* `detect_eq`: what is reported, with the arithmetic of integers.
* `detectsExactly_iff`: the positions and boundaries for which the report is exact.
-/

set_option autoImplicit false

namespace CrossFlow

open Lib (SignedWord.toInt_toInt32 SignedWord.toNat_toUInt32)

namespace EdgeDetector

/-- An overflow with exact numbers. -/
structure ExactOverflow where
  direction : EdgeDirection
  overflow : Int
  cursorY : Int
  deriving DecidableEq

/-- What an event reports, in whole numbers. -/
def exactOf (e : EdgeOverflowEvent) : ExactOverflow where
  direction := e.direction
  overflow := e.overflow.toNat
  cursorY := e.cursorY.toNat

/-- The overflow of a cursor at `(x, y)` on a screen of the width and the height. -/
def exactOverflow (x y width height : Int) : Option ExactOverflow :=
  if 0 ≤ y ∧ y ≤ height then
    if x < 0 then some { direction := .Left, overflow := -x, cursorY := y }
    else if x > width then some { direction := .Right, overflow := x - width, cursorY := y }
    else none
  else none

/-- The report is the overflow. -/
def DetectsExactly (x y : Int32) (boundary : ScreenBoundary) : Prop :=
  (detect x y boundary).map (Option.map exactOf) =
    some (exactOverflow x.toInt y.toInt boundary.width.toNat boundary.height.toNat)

/-- Whether a detection is exact can be looked up. -/
instance (x y : Int32) (boundary : ScreenBoundary) : Decidable (DetectsExactly x y boundary) :=
  inferInstanceAs (Decidable (_ = _))

/-- A height that is negative as a signed word reports nothing, and with such a width every cursor
that is not left of the screen is beyond its right side. -/
def DetectionMeets (x y width height : Int) : Prop :=
  y < 0 ∨ height < y ∨
    (x < 0 ∧ height < 2 ^ 31 ∧ x ≠ -2 ^ 31) ∨
    (0 ≤ x ∧ height < 2 ^ 31 ∧ width < 2 ^ 31) ∨
    (0 ≤ x ∧ 2 ^ 31 ≤ height ∧ x ≤ width)

/-- A width or a height as a signed word. -/
def signedSize (n : Int) : Int := if n < 2 ^ 31 then n else n - 2 ^ 32

/-- What is reported of exact numbers, where nothing overflows. -/
def reported (x y width height : Int) : Option (Option ExactOverflow) :=
  if y < 0 ∨ signedSize height < y then some none
  else if x < 0 then
    if x = -2 ^ 31 then none else some (some { direction := .Left, overflow := -x, cursorY := y })
  else if signedSize width < x then
    if 2 ^ 31 ≤ x - signedSize width then none
    else some (some { direction := .Right, overflow := x - signedSize width, cursorY := y })
  else some none

/-- A size as the code reads it. -/
theorem toInt_size (n : UInt32) : n.toInt32.toInt = signedSize n.toNat := by
  rw [Lib.SignedWord.toInt_toInt32, signedSize]
  split <;> split <;> omega

/-- A word that is not negative is kept when it is made unsigned. -/
theorem toNat_toUInt32_of_nonneg {a : Int32} (h : 0 ≤ a.toInt) :
    (a.toUInt32.toNat : Int) = a.toInt := by
  have hunsigned := Lib.SignedWord.toNat_toUInt32 a
  have hlt := a.toInt_lt
  omega

/-- The negation of a cursor left of the screen. -/
theorem neg_eq {x : Int32} (hx : x.toInt < 0) :
    (x.toInt = -2 ^ 31 ∧ Lib.SignedWord.neg x = none) ∨
      (x.toInt ≠ -2 ^ 31 ∧ ∃ overflow, Lib.SignedWord.neg x = some overflow ∧
        (overflow.toUInt32.toNat : Int) = -x.toInt) := by
  have hlow := x.le_toInt
  rcases Lib.SignedWord.neg_cases x with ⟨hnot, hneg⟩ | ⟨hfits, overflow, hneg, hexact⟩
  · simp only [Lib.SignedWord.fits_int32_iff, Lib.SignedWord.toInt_int32] at hnot
    exact .inl ⟨by omega, hneg⟩
  · simp only [Lib.SignedWord.fits_int32_iff, Lib.SignedWord.toInt_int32] at hfits hexact
    exact .inr ⟨by omega, overflow, hneg, by rw [toNat_toUInt32_of_nonneg (by omega), hexact]⟩

/-- The distance of a cursor that is right of the width. -/
theorem sub_eq {x width : Int32} (hx : width.toInt < x.toInt) :
    (2 ^ 31 ≤ x.toInt - width.toInt ∧ Lib.SignedWord.sub x width = none) ∨
      (x.toInt - width.toInt < 2 ^ 31 ∧ ∃ overflow, Lib.SignedWord.sub x width = some overflow ∧
        (overflow.toUInt32.toNat : Int) = x.toInt - width.toInt) := by
  rcases Lib.SignedWord.sub_cases x width with ⟨hnot, hsub⟩ | ⟨hfits, overflow, hsub, hexact⟩
  · simp only [Lib.SignedWord.fits_int32_iff, Lib.SignedWord.toInt_int32] at hnot
    exact .inl ⟨by omega, hsub⟩
  · simp only [Lib.SignedWord.toInt_int32] at hexact
    exact .inr ⟨hfits.2, overflow, hsub, by rw [toNat_toUInt32_of_nonneg (by omega), hexact]⟩

/-- What is detected on a valid screen, in whole numbers. -/
theorem detect_eq (x y : Int32) {boundary : ScreenBoundary} (hvalid : boundary.isValid = true) :
    (detect x y boundary).map (Option.map exactOf) =
      reported x.toInt y.toInt boundary.width.toNat boundary.height.toNat := by
  rw [detect, hvalid, if_neg (by decide), reported]
  simp only [gt_iff_lt, Int32.lt_iff_toInt_lt, toInt_size, Int32.toInt_zero]
  split
  · rfl
  · next hy =>
    -- The cursor is not above the screen, so its height is the same without a sign.
    have hcursorY : (y.toUInt32.toNat : Int) = y.toInt := toNat_toUInt32_of_nonneg (by omega)
    split
    · next hx =>
      rcases neg_eq hx with ⟨hmin, hneg⟩ | ⟨hmin, overflow, hneg, hoverflow⟩
      · rw [hneg, if_pos hmin]
        rfl
      · rw [hneg, if_neg hmin, ← hoverflow, ← hcursorY]
        rfl
    · split
      · next hx =>
        rw [← toInt_size] at hx ⊢
        -- The cursor is over the right edge, and its distance fits or wraps.
        rcases sub_eq hx with ⟨hfar, hsub⟩ | ⟨hfar, overflow, hsub, hoverflow⟩
        · rw [hsub, if_pos hfar]
          rfl
        · rw [hsub, if_neg (by omega), ← hoverflow, ← hcursorY]
          rfl
      · rfl

/-- The report is exact exactly when the height, and right of the left side the width too, is a
signed word, or nothing is to be reported. -/
theorem detectsExactly_iff (x y : Int32) {boundary : ScreenBoundary}
    (hvalid : boundary.isValid = true) :
    DetectsExactly x y boundary ↔
      DetectionMeets x.toInt y.toInt boundary.width.toNat boundary.height.toNat := by
  have hx := x.le_toInt
  have hx' := x.toInt_lt
  have hwidth := boundary.width.toNat_lt
  have hheight := boundary.height.toNat_lt
  rw [DetectsExactly, detect_eq x y hvalid, reported, exactOverflow, DetectionMeets, signedSize,
    signedSize]
  split_ifs <;> simp only [reduceCtorEq, Option.some.injEq, ExactOverflow.mk.injEq,
    true_and, and_true, true_iff, false_iff] <;> omega

/-- Five points to the right of a screen of 1920 by 1080 points. -/
theorem detectsExactly_iff_right :
    DetectsExactly 1925 540 { width := 1920, height := 1080, originX := 0, originY := 0 } ↔
      DetectionMeets 1925 540 1920 1080 :=
  detectsExactly_iff 1925 540 (by decide)

/-- The origin of a screen that is `2 ^ 31` points wide is taken for a cursor to the right of it. -/
theorem wide_screen_overflows :
    ¬ ∀ (x y : Int32) (boundary : ScreenBoundary), boundary.isValid = true →
      DetectsExactly x y boundary := by
  intro hclaim
  have hexact := hclaim 0 0 { width := 0x80000001, height := 1080, originX := 0, originY := 0 }
    (by decide)
  exact absurd hexact (by decide)

end EdgeDetector

end CrossFlow
