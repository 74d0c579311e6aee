import CrossFlow.Platform.Mac.CGEventNormalizer
import CrossFlow.Proofs.Screen.EdgeDetector

/-!
# `CrossFlow.Proofs.Screen.EdgeAgreement`: the two detectors of the screen edge

`EdgeDetector::detect` asks where the cursor is, and `CGEventNormalizer::detectEdgeOverflow` where it
would be after the movement if it had started from the origin.

* `detectEdgeOverflow_iff`: the movements that the normalizer counts.
* `detectorsAgree_iff`: the movements that the two see alike.
-/

set_option autoImplicit false

namespace CrossFlow

open EdgeDetector (detect detect_eq exactOf reported signedSize)

/-- What `detect` reports of the cursor after the movement, where the sums do not overflow. -/
def detectMoved (x y deltaX deltaY : Int32) (boundary : ScreenBoundary) :
    Option (Option EdgeOverflowEvent) := do
  let x ← Lib.SignedWord.add x deltaX
  let y ← Lib.SignedWord.add y deltaY
  detect x y boundary

/-- The movement is counted if and only if an overflow is reported. -/
def DetectorsAgree (normalizer : CGEventNormalizer) (flat : RawInputEventFlat) (x y : Int32) : Prop :=
  ∃ report, detectMoved x y flat.deltaX flat.deltaY normalizer.boundary = some report ∧
    (normalizer.detectEdgeOverflow flat = true ↔ report.isSome = true)

/-- The movement is one to a point of the screen, from the origin. -/
def StaysFromOrigin (deltaX deltaY width height : Int) : Prop :=
  0 ≤ deltaX ∧ deltaX < width ∧ 0 ≤ deltaY ∧ deltaY < height

/-- The cursor is left or right of the screen, as `detect` compares it, and not above or below. -/
def Crosses (x y width height : Int) : Prop :=
  0 ≤ y ∧ y ≤ height ∧ height < 2 ^ 31 ∧
    (x < 0 ∧ x ≠ -2 ^ 31 ∨ width < 2 ^ 31 ∧ width < x ∨
      2 ^ 31 ≤ width ∧ 0 ≤ x ∧ x < width - 2 ^ 31)

/-- The cursor is above or below the screen, or not beside it, as `detect` compares it. -/
def Remains (x y width height : Int) : Prop :=
  y < 0 ∨ height < y ∨ 2 ^ 31 ≤ height ∨ width < 2 ^ 31 ∧ 0 ≤ x ∧ x ≤ width

/-- The cursor ends at a position of 32 bits. It stays where the movement stays on the screen from
the origin, and crosses a side where the movement does not. -/
def AgreementMeets (x y deltaX deltaY width height : Int) : Prop :=
  x + deltaX < 2 ^ 31 ∧ y + deltaY < 2 ^ 31 ∧
    (StaysFromOrigin deltaX deltaY width height ∧
        Remains (x + deltaX) (y + deltaY) width height ∨
      ¬ StaysFromOrigin deltaX deltaY width height ∧
        Crosses (x + deltaX) (y + deltaY) width height)

section
variable {normalizer : CGEventNormalizer} {flat : RawInputEventFlat}

/-- The normalizer counts a movement that would leave the screen from the origin. -/
theorem detectEdgeOverflow_iff (hkind : flat.kind = RawEventKind.MouseMove.toU8)
    (hvalid : normalizer.boundary.isValid = true) (hx : normalizer.boundary.originX = 0)
    (hy : normalizer.boundary.originY = 0) :
    normalizer.detectEdgeOverflow flat = true ↔
      ¬ StaysFromOrigin flat.deltaX.toInt flat.deltaY.toInt normalizer.boundary.width.toNat
        normalizer.boundary.height.toNat := by
  rw [CGEventNormalizer.detectEdgeOverflow, if_neg (not_not.mpr hkind), hvalid,
    if_neg (by decide), hx, hy, StaysFromOrigin]
  simp only [UInt32.toNat_zero, UInt32.zero_add]
  split
  · -- The cursor is below 0 or over the right or the lower edge.
    next h =>
    refine iff_of_true rfl ?_
    omega
  · next h =>
    split
    · next h' =>
      refine iff_of_true rfl ?_
      omega
    · next h' =>
      refine iff_of_false (by simp) ?_
      omega

/-- A size is read as it is below 2^31, and less 2^32 from there on. -/
theorem signedSize_cases (n : Int) :
    n < 2 ^ 31 ∧ signedSize n = n ∨ 2 ^ 31 ≤ n ∧ signedSize n = n - 2 ^ 32 := by
  unfold signedSize
  split
  · next h => exact .inl ⟨h, rfl⟩
  · next h => exact .inr ⟨by omega, rfl⟩

/-- An overflow is reported, or none is, or the arithmetic overflows. -/
theorem reported_cases (x y width height : Int) (hx : -2 ^ 31 ≤ x ∧ x < 2 ^ 31)
    (hwidth : 0 ≤ width ∧ width < 2 ^ 32) (hheight : height < 2 ^ 32) :
    (Crosses x y width height ∧ ∃ e, reported x y width height = some (some e)) ∨
      (Remains x y width height ∧ reported x y width height = some none) ∨
        (¬ Crosses x y width height ∧ ¬ Remains x y width height ∧
          reported x y width height = none) := by
  have hsignedWidth := signedSize_cases width
  have hsignedHeight := signedSize_cases height
  unfold reported Crosses Remains
  by_cases hy : y < 0 ∨ signedSize height < y
  · -- The cursor is above or below, or the height is negative.
    rw [if_pos hy]
    exact .inr (.inl ⟨by omega, rfl⟩)
  rw [if_neg hy]
  by_cases hleft : x < 0
  · rw [if_pos hleft]
    -- The overflow of the least `int32_t` cannot be negated.
    by_cases hmin : x = -2 ^ 31
    · rw [if_pos hmin]
      exact .inr (.inr ⟨by omega, by omega, rfl⟩)
    · rw [if_neg hmin]
      exact .inl ⟨by omega, _, rfl⟩
  rw [if_neg hleft]
  by_cases hright : signedSize width < x
  · rw [if_pos hright]
    -- The overflow to the right can be beyond the greatest `int32_t`.
    by_cases hfar : 2 ^ 31 ≤ x - signedSize width
    · rw [if_pos hfar]
      exact .inr (.inr ⟨by omega, by omega, rfl⟩)
    · rw [if_neg hfar]
      exact .inl ⟨by omega, _, rfl⟩
  · rw [if_neg hright]
    exact .inr (.inl ⟨by omega, rfl⟩)

/-- A cursor that crosses an edge does not remain. -/
theorem not_remains_of_crosses {x y width height : Int} (h : Crosses x y width height) :
    ¬ Remains x y width height := by
  unfold Crosses at h
  unfold Remains
  omega

/-- What is reported, where the report is defined. -/
theorem exists_report_iff (x y : Int32) {boundary : ScreenBoundary}
    (hvalid : boundary.isValid = true) (P : Prop) :
    (∃ report, detect x y boundary = some report ∧ (P ↔ report.isSome = true)) ↔
      (¬ P ∧ Remains x.toInt y.toInt boundary.width.toNat boundary.height.toNat ∨
        P ∧ Crosses x.toInt y.toInt boundary.width.toNat boundary.height.toNat) := by
  have hheight := boundary.height.toNat_lt
  have hwidth := boundary.width.toNat_lt
  have hcases := reported_cases x.toInt y.toInt boundary.width.toNat boundary.height.toNat
    ⟨x.le_toInt, x.toInt_lt⟩ ⟨by omega, by omega⟩ (by omega)
  rw [← detect_eq x y hvalid] at hcases
  -- Nothing is returned only where the cursor crosses and the overflow is too far.
  cases hdetect : detect x y boundary with
  | none =>
    simp only [hdetect, Option.map_none, reduceCtorEq, exists_false, and_false, false_or,
      and_true] at hcases
    simp [hcases]
  | some report =>
    cases report with
    | none =>
      have hremains : Remains x.toInt y.toInt boundary.width.toNat boundary.height.toNat := by
        simpa [hdetect] using hcases
      have hcrosses := mt not_remains_of_crosses (not_not.mpr hremains)
      simp [hremains, hcrosses]
    | some e =>
      have hcrosses : Crosses x.toInt y.toInt boundary.width.toNat boundary.height.toNat := by
        simpa [hdetect] using hcases
      have hremains := not_remains_of_crosses hcrosses
      simp [hremains, hcrosses]

/-- A sum with a position that is not negative overflows at the upper end alone. -/
theorem add_cases {a d : Int32} (ha : 0 ≤ a.toInt) :
    (2 ^ 31 ≤ a.toInt + d.toInt ∧ Lib.SignedWord.add a d = none) ∨
      (a.toInt + d.toInt < 2 ^ 31 ∧ ∃ sum, Lib.SignedWord.add a d = some sum ∧
        sum.toInt = a.toInt + d.toInt) := by
  have hd := d.le_toInt
  rcases Lib.SignedWord.add_cases a d with ⟨hnot, hadd⟩ | ⟨hfits, sum, hadd, hexact⟩
  · simp only [Lib.SignedWord.fits_int32_iff, Lib.SignedWord.toInt_int32] at hnot
    exact .inl ⟨by omega, hadd⟩
  · exact .inr ⟨hfits.2, sum, hadd, hexact⟩

/-- The two detectors see a movement alike exactly when it ends at a position of 32 bits, and leaves
the screen from the origin where it makes the cursor cross a side. -/
theorem detectorsAgree_iff (hkind : flat.kind = RawEventKind.MouseMove.toU8)
    (hvalid : normalizer.boundary.isValid = true) (hx : normalizer.boundary.originX = 0)
    (hy : normalizer.boundary.originY = 0) {x y : Int32}
    (hinsideX : 0 ≤ x.toInt ∧ x.toInt ≤ normalizer.boundary.width.toNat)
    (hinsideY : 0 ≤ y.toInt ∧ y.toInt ≤ normalizer.boundary.height.toNat) :
    DetectorsAgree normalizer flat x y ↔
      AgreementMeets x.toInt y.toInt flat.deltaX.toInt flat.deltaY.toInt
        normalizer.boundary.width.toNat normalizer.boundary.height.toNat := by
  unfold DetectorsAgree detectMoved AgreementMeets
  rcases add_cases (d := flat.deltaX) hinsideX.1 with ⟨hfar, hsum⟩ | ⟨hnear, x', hsum, hx'⟩
  · rw [hsum]
    refine iff_of_false ?_ ?_
    · rintro ⟨report, hreport, -⟩
      exact absurd hreport (by simp)
    · rintro ⟨hnear, -⟩
      omega
  rcases add_cases (d := flat.deltaY) hinsideY.1 with ⟨hfar', hsum'⟩ | ⟨hnear', y', hsum', hy'⟩
  · rw [hsum, hsum']
    refine iff_of_false ?_ ?_
    · rintro ⟨report, hreport, -⟩
      exact absurd hreport (by simp)
    · rintro ⟨-, hnear', -⟩
      omega
  -- Both sums are defined, so `detect` is asked about the new position.
  rw [hsum, hsum', and_iff_right hnear, and_iff_right hnear', ← hx', ← hy',
    detectEdgeOverflow_iff hkind hvalid hx hy]
  refine (exists_report_iff x' y' hvalid _).trans ?_
  rw [not_not]

end

/-- A screen of 1920 by 1080 points. -/
def screenNormalizer : CGEventNormalizer :=
  { CGEventNormalizer.init with
    boundary := { width := 1920, height := 1080, originX := 0, originY := 0 } }

/-- A mouse movement. -/
def movedBy (deltaX deltaY : Int32) : RawInputEventFlat where
  platformTime := 0
  modifierFlags := 0
  kind := RawEventKind.MouseMove.toU8
  deltaX := deltaX
  deltaY := deltaY
  button := 0
  wheelDelta := 0
  wheelAxis := 0
  keyCode := 0
  valid := 1

/-- A movement over the right edge is as the condition says. -/
theorem detectorsAgree_iff_right :
    DetectorsAgree screenNormalizer (movedBy 5 0) 1918 540 ↔
      AgreementMeets 1918 540 5 0 1920 1080 :=
  detectorsAgree_iff (by decide) (by decide) (by decide) (by decide) (by decide) (by decide)

/-- A movement to the left in the middle of the screen is counted. -/
theorem inner_movement_counted :
    ¬ ∀ (normalizer : CGEventNormalizer) (flat : RawInputEventFlat) (x y : Int32),
      flat.kind = RawEventKind.MouseMove.toU8 → normalizer.boundary.isValid = true →
        normalizer.boundary.originX = 0 → normalizer.boundary.originY = 0 →
          0 ≤ x.toInt ∧ x.toInt ≤ normalizer.boundary.width.toNat →
            0 ≤ y.toInt ∧ y.toInt ≤ normalizer.boundary.height.toNat →
              DetectorsAgree normalizer flat x y := by
  intro hclaim
  obtain ⟨report, hreport, hagree⟩ := hclaim screenNormalizer (movedBy (-1) 0) 960 540
    (by decide) (by decide) (by decide) (by decide) (by decide) (by decide)
  have hnone : report = none := Option.some_inj.mp (hreport.symm.trans (by decide))
  rw [hnone] at hagree
  exact absurd (hagree.mp (by decide)) (by decide)

end CrossFlow
