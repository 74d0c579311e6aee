import CrossFlow.Proofs.Screen.BoundingBox

/-!
# `CrossFlow.Proofs.Screen.SingleDisplay`: one display as a list of displays

The path for one display turns the vertical axis of an `NSScreen` display around. The path for
several displays works from the box, which has no API source, and never does.

* `boundaryOfBox_eq`: the boundary is that of the display.
* `pathsAgree_iff`: the points that both paths normalize alike.
-/

set_option autoImplicit false

namespace CrossFlow

open Lib (SignedWord.Fits)

namespace NativeCoordNormalizer

/-- `normalizeMultiDisplay` in the box of the display. -/
def normalizeInBox (p : NativeCoord) (g : NativeScreenGeometry) : Option NormalizedCoord := do
  let bbox ← computeBoundingBox [g]
  normalizeMultiDisplay p bbox

/-- `toScreenBoundaryMerged` of the box of the display. -/
def boundaryOfBox (g : NativeScreenGeometry) : Option ScreenBoundary := do
  let bbox ← computeBoundingBox [g]
  toScreenBoundaryMerged bbox

/-- Both paths are defined, and have the same results. -/
def PathsAgree (p : NativeCoord) (g : NativeScreenGeometry) : Prop :=
  (∃ q, normalizeSingleDisplay p g = some q ∧ normalizeInBox p g = some q) ∧
    boundaryOfBox g = some (toScreenBoundary g)

/-- The distance of the point from the bottom of the display. -/
def fromBottom (p : NativeCoord) (g : NativeScreenGeometry) : Int :=
  g.height.toNat + g.originY.toInt - p.y.toInt

/-- The distance of the point from the top of the display. -/
def fromTop (p : NativeCoord) (g : NativeScreenGeometry) : Int := p.y.toInt - g.originY.toInt

/-- No sum and no difference overflows. Where the axis is turned around, the point is as far from the
bottom as from the top, in 32 bits. -/
def PathsMeet (p : NativeCoord) (g : NativeScreenGeometry) : Prop :=
  g.SumsFit ∧ SignedWord.Fits Int64 (p.x.toInt - g.originX.toInt) ∧
    SignedWord.Fits Int64 (fromTop p g) ∧
      (g.apiSource = .CGDisplay ∨
        SignedWord.Fits Int64 (fromBottom p g) ∧
          (2 ^ 32 : Int) ∣ fromBottom p g - fromTop p g)

/-- A difference that is a size is kept. -/
theorem sub_size {a b : Int64} {size : UInt32} (h : a.toInt - b.toInt = size.toNat) :
    ∃ c, Lib.SignedWord.sub a b = some c ∧ Lib.SignedWord.lowBits c = size := by
  have hlt := size.toNat_lt
  obtain ⟨c, hsub, -, hlow⟩ := Lib.SignedWord.exists_sub_of_lt (a := a) (b := b) (by omega) (by omega)
  refine ⟨c, hsub, ?_⟩
  rw [← UInt32.toNat_inj]
  omega

/-- The box of one display is that display. -/
theorem computeBoundingBox_singleton (g : NativeScreenGeometry) :
    computeBoundingBox [g] = boxOf g := by
  rw [computeBoundingBox]
  cases boxOf g <;> rfl

/-- The boundary of the box is that of the display, where the box is defined. -/
theorem boundaryOfBox_eq {g : NativeScreenGeometry} (hsums : g.SumsFit) :
    boundaryOfBox g = some (toScreenBoundary g) := by
  rcases boxOf_cases g with ⟨hnot, -⟩ | ⟨-, box, hbox, hrect⟩
  · exact absurd hsums hnot
  -- The box of the display has its size, and the differences give it back.
  have hwidth : box.right.toInt - box.left.toInt = g.width.toNat := by
    have hright : box.right.toInt = g.originX.toInt + g.width.toNat := congrArg Lib.Rect.right hrect
    have hleft : box.left.toInt = g.originX.toInt := congrArg Lib.Rect.left hrect
    omega
  have hheight : box.bottom.toInt - box.top.toInt = g.height.toNat := by
    have hbottom : box.bottom.toInt = g.originY.toInt + g.height.toNat :=
      congrArg Lib.Rect.bottom hrect
    have htop : box.top.toInt = g.originY.toInt := congrArg Lib.Rect.top hrect
    omega
  obtain ⟨width, hsubW, hwidth'⟩ := sub_size hwidth
  obtain ⟨height, hsubH, hheight'⟩ := sub_size hheight
  rw [boundaryOfBox, computeBoundingBox_singleton, hbox]
  show toScreenBoundaryMerged box = _
  rw [toScreenBoundaryMerged, hsubW, hsubH, toScreenBoundary, ← hwidth', ← hheight']
  rfl

/-- In the box the point is taken from the origin of the display. -/
theorem normalizeInBox_eq {g : NativeScreenGeometry} (hsums : g.SumsFit) (p : NativeCoord) :
    normalizeInBox p g =
      (Lib.SignedWord.sub p.x g.originX).bind fun x =>
        (Lib.SignedWord.sub p.y g.originY).bind fun y =>
          some { x := x.toInt32, y := y.toInt32 } := by
  rcases boxOf_cases g with ⟨hnot, -⟩ | ⟨-, box, hbox, hrect⟩
  · exact absurd hsums hnot
  have hleft : box.left = g.originX := Int64.toInt_inj.mp (congrArg Lib.Rect.left hrect)
  have htop : box.top = g.originY := Int64.toInt_inj.mp (congrArg Lib.Rect.top hrect)
  rw [normalizeInBox, computeBoundingBox_singleton, hbox, ← hleft, ← htop]
  rfl

/-- The bottom of a display whose sums fit. -/
theorem add_bottom {g : NativeScreenGeometry} (hsums : g.SumsFit) :
    ∃ bottom, Lib.SignedWord.add (Lib.SignedWord.widen g.height) g.originY = some bottom ∧
      bottom.toInt = g.height.toNat + g.originY.toInt := by
  have hlow := g.originY.le_toInt
  have hhigh : g.originY.toInt + g.height.toNat < 2 ^ 63 := hsums.2
  have hwiden := Lib.SignedWord.toInt_widen g.height
  rcases Lib.SignedWord.add_cases (Lib.SignedWord.widen g.height) g.originY with
    ⟨hnot, -⟩ | ⟨-, bottom, hadd, hexact⟩
  · simp only [Lib.SignedWord.fits_int64_iff, Lib.SignedWord.toInt_int64] at hnot
    omega
  · simp only [Lib.SignedWord.toInt_int64] at hexact
    exact ⟨bottom, hadd, by rw [hexact, hwiden]⟩

/-- The path for one display, where the axis is not turned around. -/
theorem normalizeSingleDisplay_cgDisplay {p : NativeCoord} {g : NativeScreenGeometry}
    (happ : g.apiSource = .CGDisplay) :
    normalizeSingleDisplay p g =
      (Lib.SignedWord.sub p.x g.originX).bind fun x =>
        (Lib.SignedWord.sub p.y g.originY).bind fun y =>
          some { x := x.toInt32, y := y.toInt32 } := by
  rw [normalizeSingleDisplay, happ]
  rfl

/-- The same, where it is. -/
theorem normalizeSingleDisplay_nsScreen {p : NativeCoord} {g : NativeScreenGeometry}
    (happ : g.apiSource = .NSScreen) {bottom : Int64}
    (hadd : Lib.SignedWord.add (Lib.SignedWord.widen g.height) g.originY = some bottom) :
    normalizeSingleDisplay p g =
      (Lib.SignedWord.sub p.x g.originX).bind fun x =>
        (Lib.SignedWord.sub bottom p.y).bind fun y =>
          some { x := x.toInt32, y := y.toInt32 } := by
  rw [normalizeSingleDisplay, happ, hadd]
  rfl

/-- Two results with one `x` are the same when their `y` are. -/
theorem exists_same_iff {x y y' : Int32} :
    (∃ q : NormalizedCoord, some { x := x, y := y } = some q ∧ some { x := x, y := y' } = some q) ↔
      y = y' := by
  constructor
  · rintro ⟨q, hq, hq'⟩
    cases hq
    cases hq'
    rfl
  · rintro rfl
    exact ⟨_, rfl, rfl⟩

/-- The two paths agree exactly when no sum and no difference overflows, and where the axis is turned
around the point is as far from the bottom as from the top, in 32 bits. -/
theorem pathsAgree_iff (p : NativeCoord) (g : NativeScreenGeometry) :
    PathsAgree p g ↔ PathsMeet p g := by
  unfold PathsAgree PathsMeet
  by_cases hsums : g.SumsFit
  swap
  · -- Without a box there is nothing to compare.
    refine iff_of_false ?_ fun h => hsums h.1
    rintro ⟨-, hboundary⟩
    rcases boxOf_cases g with ⟨-, hnone⟩ | ⟨hfits, -⟩
    · rw [boundaryOfBox, computeBoundingBox_singleton, hnone] at hboundary
      exact absurd hboundary (by simp)
    · exact hsums hfits
  rw [boundaryOfBox_eq hsums, normalizeInBox_eq hsums, and_iff_right hsums]
  refine (and_iff_left rfl).trans ?_
  -- The path in the box takes two differences, and it is defined when both fit.
  rcases Lib.SignedWord.sub_cases p.x g.originX with ⟨hnotX, hsubX⟩ | ⟨hfitsX, x, hsubX, -⟩
  · refine iff_of_false ?_ fun h => hnotX h.1
    rintro ⟨q, -, hq⟩
    rw [hsubX] at hq
    exact absurd hq (by simp)
  refine Iff.trans ?_ (and_iff_right hfitsX).symm
  rcases Lib.SignedWord.sub_cases p.y g.originY with ⟨hnotY, hsubY⟩ | ⟨hfitsY, y, hsubY, hy⟩
  · refine iff_of_false ?_ fun h => hnotY h.1
    rintro ⟨q, -, hq⟩
    rw [hsubX, hsubY] at hq
    exact absurd hq (by simp)
  refine Iff.trans ?_ (and_iff_right hfitsY).symm
  cases happ : g.apiSource with
  | CGDisplay =>
    rw [normalizeSingleDisplay_cgDisplay happ, hsubX, hsubY]
    exact iff_of_true ⟨_, rfl, rfl⟩ (.inl rfl)
  | NSScreen =>
    obtain ⟨bottom, hadd, hbottom⟩ := add_bottom hsums
    rw [normalizeSingleDisplay_nsScreen happ hadd, hsubX, hsubY]
    have hsource : ¬ ApiSource.NSScreen = ApiSource.CGDisplay := by decide
    rw [or_iff_right hsource]
    have hfromBottom : fromBottom p g = bottom.toInt - p.y.toInt := by rw [fromBottom, hbottom]
    have hfromTop : fromTop p g = y.toInt := hy.symm
    rw [hfromBottom, hfromTop]
    rcases Lib.SignedWord.sub_cases bottom p.y with ⟨hnot, hsub⟩ | ⟨hfits, y', hsub, hy'⟩
    · rw [hsub]
      refine iff_of_false ?_ fun h => hnot h.1
      rintro ⟨q, hq, -⟩
      exact absurd hq (by simp)
    · have hy'' : bottom.toInt - p.y.toInt = y'.toInt := hy'.symm
      rw [hsub, hy'', ← Lib.SignedWord.toInt32_inj]
      exact exists_same_iff.trans (and_iff_right (Lib.SignedWord.fits_toInt y')).symm

/-- The point at the bottom of the main display is at the top for the other path. -/
theorem flipped_point_differs :
    ¬ ∀ (p : NativeCoord) (g : NativeScreenGeometry), PathsAgree p g := by
  intro hclaim
  obtain ⟨⟨q, hsingle, hbox⟩, -⟩ := hclaim { x := 0, y := 0 }
    { originX := 0, originY := 0, width := 1920, height := 1080, apiSource := .NSScreen }
  have hq : q = { x := 0, y := 1080 } := Option.some_inj.mp (hsingle.symm.trans (by decide))
  have hq' : q = { x := 0, y := 0 } := Option.some_inj.mp (hbox.symm.trans (by decide))
  exact absurd (hq.symm.trans hq') (by decide)

end NativeCoordNormalizer

end CrossFlow
