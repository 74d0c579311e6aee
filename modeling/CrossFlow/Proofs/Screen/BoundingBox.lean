import CrossFlow.Lib.Rect
import CrossFlow.Platform.Mac.NativeCoordNormalizer

/-!
# `CrossFlow.Proofs.Screen.BoundingBox`: the box of all displays

The box is the hull of the displays, in exact numbers. A position in it is narrowed to 32 bits.

* `isHull_computeBoundingBox`: the box is the hull of the displays.
* `staysInside_iff`: the displays whose points are all normalized to positions of the merged screen.
-/

set_option autoImplicit false

namespace CrossFlow

open Lib (Rect Rect.IsHull Rect.union)

/-- The display in exact numbers. -/
def NativeScreenGeometry.rect (display : NativeScreenGeometry) : Rect Int where
  left := display.originX.toInt
  top := display.originY.toInt
  right := display.originX.toInt + display.width.toNat
  bottom := display.originY.toInt + display.height.toNat

/-- The sums of the origin and the size do not overflow. -/
def NativeScreenGeometry.SumsFit (display : NativeScreenGeometry) : Prop :=
  display.rect.right < 2 ^ 63 ∧ display.rect.bottom < 2 ^ 63

/-- Whether the sums of a display fit can be looked up. -/
instance (display : NativeScreenGeometry) : Decidable display.SumsFit :=
  inferInstanceAs (Decidable (_ ∧ _))

/-- The box in whole numbers. -/
def DisplayBoundingBox.rect (bbox : DisplayBoundingBox) : Rect Int where
  left := bbox.left.toInt
  top := bbox.top.toInt
  right := bbox.right.toInt
  bottom := bbox.bottom.toInt

/-- A box is given by its four edges. -/
theorem DisplayBoundingBox.rect_inj {bbox bbox' : DisplayBoundingBox} (h : bbox.rect = bbox'.rect) :
    bbox = bbox' := by
  obtain ⟨left, top, right, bottom⟩ := bbox
  obtain ⟨left', top', right', bottom'⟩ := bbox'
  simp only [DisplayBoundingBox.rect, Rect.mk.injEq, Int64.toInt_inj] at h
  obtain ⟨rfl, rfl, rfl, rfl⟩ := h
  rfl

namespace NativeCoordNormalizer

/-- The end of a display along an axis. -/
theorem add_widen_cases (origin : Int64) (size : UInt32) :
    (2 ^ 63 ≤ origin.toInt + size.toNat ∧
        Lib.SignedWord.add origin (Lib.SignedWord.widen size) = none) ∨
      (origin.toInt + size.toNat < 2 ^ 63 ∧
        ∃ sum, Lib.SignedWord.add origin (Lib.SignedWord.widen size) = some sum ∧
          sum.toInt = origin.toInt + size.toNat) := by
  have hlow := origin.le_toInt
  have hwiden := Lib.SignedWord.toInt_widen size
  rcases Lib.SignedWord.add_cases origin (Lib.SignedWord.widen size) with
    ⟨hnot, hadd⟩ | ⟨hfits, sum, hadd, hexact⟩
  · simp only [Lib.SignedWord.fits_int64_iff, Lib.SignedWord.toInt_int64] at hnot
    exact .inl ⟨by omega, hadd⟩
  · simp only [Lib.SignedWord.toInt_int64] at hexact
    have hlt := sum.toInt_lt
    exact .inr ⟨by omega, sum, hadd, by rw [hexact, hwiden]⟩

/-- The box of a display, where it is defined. -/
theorem boxOf_cases (display : NativeScreenGeometry) :
    (¬ display.SumsFit ∧ boxOf display = none) ∨
      (display.SumsFit ∧ ∃ box, boxOf display = some box ∧ box.rect = display.rect) := by
  unfold NativeScreenGeometry.SumsFit boxOf
  rcases add_widen_cases display.originX display.width with
    ⟨hfar, hsum⟩ | ⟨hfits, right, hsum, hright⟩
  · rw [hsum]
    exact .inl ⟨fun h => absurd h.1 (Int.not_lt.mpr hfar), rfl⟩
  · rcases add_widen_cases display.originY display.height with
      ⟨hfar, hsum'⟩ | ⟨hfits', bottom, hsum', hbottom⟩
    · rw [hsum, hsum']
      exact .inl ⟨fun h => absurd h.2 (Int.not_lt.mpr hfar), rfl⟩
    · rw [hsum, hsum']
      refine .inr ⟨⟨hfits, hfits'⟩, _, rfl, ?_⟩
      exact Rect.ext rfl rfl hright hbottom

/-- A turn of the loop takes the box around one display more. -/
theorem extendBox_eq (bbox : DisplayBoundingBox) {display : NativeScreenGeometry}
    (hsums : display.SumsFit) :
    ∃ bbox', extendBox bbox display = some bbox' ∧ bbox'.rect = bbox.rect.union display.rect := by
  rcases boxOf_cases display with ⟨hnot, -⟩ | ⟨-, box, hbox, hrect⟩
  · exact absurd hsums hnot
  · rw [extendBox, hbox]
    refine ⟨_, rfl, ?_⟩
    rw [← hrect]
    exact Rect.ext (Lib.SignedWord.toInt_min _ _) (Lib.SignedWord.toInt_min _ _)
      (Lib.SignedWord.toInt_max _ _) (Lib.SignedWord.toInt_max _ _)

/-- The loop is the fold of `union`. -/
theorem foldlM_extendBox {displays : List NativeScreenGeometry}
    (hsums : ∀ d ∈ displays, d.SumsFit) (bbox : DisplayBoundingBox) :
    ∃ bbox', displays.foldlM extendBox bbox = some bbox' ∧
      bbox'.rect = (displays.map NativeScreenGeometry.rect).foldl Rect.union bbox.rect := by
  induction displays generalizing bbox with
  | nil => exact ⟨bbox, rfl, rfl⟩
  | cons display displays ih =>
    obtain ⟨next, hnext, hrect⟩ := extendBox_eq bbox (hsums display List.mem_cons_self)
    obtain ⟨bbox', hfold, hrect'⟩ := ih (fun d hd => hsums d (List.mem_cons_of_mem display hd)) next
    refine ⟨bbox', ?_, ?_⟩
    · rw [List.foldlM_cons, hnext]
      exact hfold
    · rw [List.map_cons, List.foldl_cons, ← hrect]
      exact hrect'

/-- The box is the hull of the displays. -/
theorem isHull_computeBoundingBox {displays : List NativeScreenGeometry} (hne : displays ≠ [])
    (hsums : ∀ d ∈ displays, d.SumsFit) :
    ∃ bbox, computeBoundingBox displays = some bbox ∧
      Rect.IsHull bbox.rect (displays.map NativeScreenGeometry.rect) := by
  cases displays with
  | nil => exact absurd rfl hne
  | cons display displays =>
    rcases boxOf_cases display with ⟨hnot, -⟩ | ⟨-, box, hbox, hrect⟩
    · exact absurd (hsums display List.mem_cons_self) hnot
    · obtain ⟨bbox, hfold, hbbox⟩ := foldlM_extendBox
        (fun d hd => hsums d (List.mem_cons_of_mem display hd)) box
      refine ⟨bbox, ?_, ?_⟩
      · rw [computeBoundingBox, hbox]
        exact hfold
      · rw [hbbox, hrect, List.map_cons]
        exact Rect.isHull_foldl (Rect.isHull_singleton display.rect) _

/-- The box does not depend on the order of the displays. -/
theorem computeBoundingBox_perm {displays displays' : List NativeScreenGeometry}
    (hne : displays ≠ []) (hsums : ∀ d ∈ displays, d.SumsFit) (hperm : displays'.Perm displays) :
    computeBoundingBox displays' = computeBoundingBox displays := by
  have hmem : ∀ d, d ∈ displays' ↔ d ∈ displays := fun d => hperm.mem_iff
  have hne' : displays' ≠ [] := by
    rintro rfl
    exact hne (List.nil_perm.mp hperm)
  obtain ⟨bbox, hbox, hhull⟩ := isHull_computeBoundingBox hne hsums
  obtain ⟨bbox', hbox', hhull'⟩ := isHull_computeBoundingBox hne'
    fun d hd => hsums d ((hmem d).mp hd)
  rw [hbox, hbox', Option.some_inj]
  refine DisplayBoundingBox.rect_inj (hhull'.unique hhull ?_)
  intro r
  simp only [List.mem_map, hmem]

/-! ### Positions in the box -/

/-- The point is on the display, its edges included. -/
def OnDisplay (p : NativeCoord) (display : NativeScreenGeometry) : Prop :=
  (display.rect.left ≤ p.x.toInt ∧ p.x.toInt ≤ display.rect.right) ∧
    display.rect.top ≤ p.y.toInt ∧ p.y.toInt ≤ display.rect.bottom

/-- The point is normalized without truncation, to a position of the merged screen. -/
def NormalizesInside (p : NativeCoord) (bbox : DisplayBoundingBox) : Prop :=
  ∃ q boundary, normalizeMultiDisplay p bbox = some q ∧
    toScreenBoundaryMerged bbox = some boundary ∧
      (q.x.toInt = p.x.toInt - bbox.left.toInt ∧ 0 ≤ q.x.toInt ∧
        q.x.toInt ≤ boundary.width.toNat) ∧
        q.y.toInt = p.y.toInt - bbox.top.toInt ∧ 0 ≤ q.y.toInt ∧
          q.y.toInt ≤ boundary.height.toNat

/-- The box is the least around all displays, whatever their order, and every point on a display is
normalized to a position of the merged screen. -/
def StaysInside (displays : List NativeScreenGeometry) : Prop :=
  ∃ bbox, computeBoundingBox displays = some bbox ∧
    IsLUB { r | r ∈ displays.map NativeScreenGeometry.rect } bbox.rect ∧
      (∀ displays', displays'.Perm displays → computeBoundingBox displays' = some bbox) ∧
        ∀ d ∈ displays, ∀ p, OnDisplay p d → NormalizesInside p bbox

/-- From no display to another, in either direction, there are `2 ^ 31` points or more. -/
def ExtentMeets (displays : List NativeScreenGeometry) : Prop :=
  ∀ d ∈ displays, ∀ e ∈ displays,
    d.rect.right - e.rect.left < 2 ^ 31 ∧ d.rect.bottom - e.rect.top < 2 ^ 31

/-- A difference of 64 bits that is small is kept. -/
theorem sub_small {a b : Int64} (hnonneg : 0 ≤ a.toInt - b.toInt)
    (hsmall : a.toInt - b.toInt < 2 ^ 31) :
    ∃ c, Lib.SignedWord.sub a b = some c ∧ c.toInt32.toInt = a.toInt - b.toInt ∧
      ((Lib.SignedWord.lowBits c).toNat : Int) = a.toInt - b.toInt := by
  obtain ⟨c, hsub, hexact, hlow⟩ := Lib.SignedWord.exists_sub_of_lt hnonneg (by omega)
  have hnarrow := (Lib.SignedWord.toInt_narrow_iff c).mpr
    (Lib.SignedWord.fits_int32_iff.mpr ⟨by omega, by omega⟩)
  exact ⟨c, hsub, hnarrow.trans hexact, hlow⟩

/-- A box of less than `2 ^ 31` points each way keeps its points. -/
theorem normalizesInside_of_small {p : NativeCoord} {bbox : DisplayBoundingBox}
    (hx : bbox.left.toInt ≤ p.x.toInt ∧ p.x.toInt ≤ bbox.right.toInt)
    (hy : bbox.top.toInt ≤ p.y.toInt ∧ p.y.toInt ≤ bbox.bottom.toInt)
    (hwidth : bbox.right.toInt - bbox.left.toInt < 2 ^ 31)
    (hheight : bbox.bottom.toInt - bbox.top.toInt < 2 ^ 31) : NormalizesInside p bbox := by
  -- No difference overflows, as each is between 0 and the size of the box.
  obtain ⟨x, hsubX, hx', -⟩ := sub_small (a := p.x) (b := bbox.left) (by omega) (by omega)
  obtain ⟨y, hsubY, hy', -⟩ := sub_small (a := p.y) (b := bbox.top) (by omega) (by omega)
  obtain ⟨width, hsubW, -, hwidth'⟩ :=
    sub_small (a := bbox.right) (b := bbox.left) (by omega) (by omega)
  obtain ⟨height, hsubH, -, hheight'⟩ :=
    sub_small (a := bbox.bottom) (b := bbox.top) (by omega) (by omega)
  refine ⟨{ x := x.toInt32, y := y.toInt32 },
    { width := Lib.SignedWord.lowBits width
      height := Lib.SignedWord.lowBits height
      originX := 0
      originY := 0 }, ?_, ?_, ⟨hx', ?_, ?_⟩, hy', ?_, ?_⟩
  · rw [normalizeMultiDisplay, hsubX, hsubY]
    rfl
  · rw [toScreenBoundaryMerged, hsubW, hsubH]
    rfl
  · show 0 ≤ x.toInt32.toInt
    omega
  · show x.toInt32.toInt ≤ (Lib.SignedWord.lowBits width).toNat
    omega
  · show 0 ≤ y.toInt32.toInt
    omega
  · show y.toInt32.toInt ≤ (Lib.SignedWord.lowBits height).toNat
    omega

/-- Every point on every display is normalized to a position of the merged screen exactly when the
displays extend over less than `2 ^ 31` points each way. The box is right for all displays. -/
theorem staysInside_iff {displays : List NativeScreenGeometry} (hne : displays ≠ [])
    (hsums : ∀ d ∈ displays, d.SumsFit) : StaysInside displays ↔ ExtentMeets displays := by
  obtain ⟨bbox, hbox, hhull⟩ := isHull_computeBoundingBox hne hsums
  have hin : ∀ d ∈ displays, d.rect ≤ bbox.rect :=
    fun d hd => hhull.le (List.mem_map_of_mem hd)
  constructor
  · rintro ⟨bbox', hbox', -, -, hpoints⟩ d hd e he
    cases hbox.symm.trans hbox'
    -- The lower right corner of `d` is on it.
    rcases boxOf_cases d with ⟨hnot, -⟩ | ⟨-, box, -, hrect⟩
    · exact absurd (hsums d hd) hnot
    have hright : box.right.toInt = d.rect.right := congrArg Rect.right hrect
    have hbottom : box.bottom.toInt = d.rect.bottom := congrArg Rect.bottom hrect
    have hcorner : OnDisplay { x := box.right, y := box.bottom } d := by
      have hright' : d.rect.right = d.rect.left + d.width.toNat := rfl
      have hbottom' : d.rect.bottom = d.rect.top + d.height.toNat := rfl
      refine ⟨⟨?_, ?_⟩, ?_, ?_⟩
      · show d.rect.left ≤ box.right.toInt
        omega
      · exact hright.le
      · show d.rect.top ≤ box.bottom.toInt
        omega
      · exact hbottom.le
    obtain ⟨q, boundary, -, -, ⟨hx, -, -⟩, hy, -, -⟩ := hpoints d hd _ hcorner
    have hleft : bbox.left.toInt ≤ e.rect.left := (hin e he).1
    have htop : bbox.top.toInt ≤ e.rect.top := (hin e he).2.1
    have hxlt := q.x.toInt_lt
    have hylt := q.y.toInt_lt
    change q.x.toInt = box.right.toInt - bbox.left.toInt at hx
    change q.y.toInt = box.bottom.toInt - bbox.top.toInt at hy
    omega
  · intro hextent
    have hedges : ∀ r ∈ displays.map NativeScreenGeometry.rect,
        ∀ s ∈ displays.map NativeScreenGeometry.rect,
          r.right - s.left < 2 ^ 31 ∧ r.bottom - s.top < 2 ^ 31 := by
      intro r hr s hs
      obtain ⟨d, hd, rfl⟩ := List.mem_map.mp hr
      obtain ⟨e, he, rfl⟩ := List.mem_map.mp hs
      exact hextent d hd e he
    have hwidth : bbox.rect.right - bbox.rect.left < 2 ^ 31 :=
      hhull.right_left (P := fun right left => right - left < 2 ^ 31)
        fun r hr s hs => (hedges r hr s hs).1
    have hheight : bbox.rect.bottom - bbox.rect.top < 2 ^ 31 :=
      hhull.bottom_top (P := fun bottom top => bottom - top < 2 ^ 31)
        fun r hr s hs => (hedges r hr s hs).2
    refine ⟨bbox, hbox, hhull.isLUB, ?_, ?_⟩
    · intro displays' hperm
      rw [computeBoundingBox_perm hne hsums hperm]
      exact hbox
    · intro d hd p hp
      have hrect := hin d hd
      exact normalizesInside_of_small ⟨hrect.1.trans hp.1.1, hp.1.2.trans hrect.2.2.1⟩
        ⟨hrect.2.1.trans hp.2.1, hp.2.2.trans hrect.2.2.2⟩ hwidth hheight

/-- A display of 1920 by 1080 points at a distance from the main one. -/
def displayAt (originX : Int64) : NativeScreenGeometry where
  originX := originX
  originY := 0
  width := 1920
  height := 1080
  apiSource := .CGDisplay

/-- Two displays side by side are as the condition says. -/
theorem staysInside_iff_beside :
    StaysInside [displayAt 0, displayAt 1920] ↔ ExtentMeets [displayAt 0, displayAt 1920] :=
  staysInside_iff (by decide) (by decide)

/-- The origin of a display that is `2 ^ 31` points away gets a negative position. -/
theorem far_display_truncated :
    ¬ ∀ displays : List NativeScreenGeometry, displays ≠ [] → (∀ d ∈ displays, d.SumsFit) →
      StaysInside displays := by
  intro hclaim
  let far : NativeScreenGeometry := displayAt 2147483648
  obtain ⟨bbox, hbox, -, -, hpoints⟩ := hclaim [displayAt 0, far] (by decide) (by decide)
  have hbbox : bbox = { left := 0, top := 0, right := 2147485568, bottom := 1080 } :=
    Option.some_inj.mp (hbox.symm.trans (by decide))
  have hon : OnDisplay { x := 2147483648, y := 0 } far := ⟨by decide, by decide⟩
  obtain ⟨q, boundary, hq, -, ⟨-, hnonneg, -⟩, -⟩ := hpoints far (by decide) _ hon
  have hposition : q = { x := -2147483648, y := 0 } := by
    rw [hbbox] at hq
    exact Option.some_inj.mp (hq.symm.trans (by decide))
  rw [hposition] at hnonneg
  exact absurd hnonneg (by decide)

end NativeCoordNormalizer

end CrossFlow
