import CrossFlow.Platform.Mac.MultiDisplayMergePolicy
import CrossFlow.Proofs.Screen.BoundingBox

/-!
# `CrossFlow.Proofs.Screen.MergedBoundary`: the two merges of several displays

`mergeBoundingBox` adds origins and sizes in unsigned words, which wrap around, and
`computeBoundingBox` in signed words of 64 bits.

* `isHull_mergeBoundingBox`: the edges that are merged are those that have wrapped around.
* `mergesAgree_iff`: the lists of boundaries of which both merges have the same size.
-/

set_option autoImplicit false

namespace CrossFlow

open Lib (Rect Rect.IsHull Rect.union)
open NativeCoordNormalizer (computeBoundingBox toScreenBoundaryMerged isHull_computeBoundingBox)
open MultiDisplayMergePolicyConfig (mergeBoundingBox edgesOf extendEdges)

namespace ScreenBoundary

/-- The display with the same origin and size. -/
def geometry (apiSource : ApiSource) (b : ScreenBoundary) : NativeScreenGeometry where
  originX := Lib.SignedWord.widen b.originX
  originY := Lib.SignedWord.widen b.originY
  width := b.width
  height := b.height
  apiSource := apiSource

/-- The boundary in exact numbers. -/
def rect (b : ScreenBoundary) : Rect Int where
  left := b.originX.toNat
  top := b.originY.toNat
  right := b.originX.toNat + b.width.toNat
  bottom := b.originY.toNat + b.height.toNat

/-- The boundary in 32 bits. -/
def wrappedRect (b : ScreenBoundary) : Rect Int where
  left := b.rect.left
  top := b.rect.top
  right := b.rect.right % 2 ^ 32
  bottom := b.rect.bottom % 2 ^ 32

/-- A boundary as a geometry covers the same rectangle. -/
theorem rect_geometry (apiSource : ApiSource) (b : ScreenBoundary) :
    (b.geometry apiSource).rect = b.rect := by
  have hx := Lib.SignedWord.toInt_widen b.originX
  have hy := Lib.SignedWord.toInt_widen b.originY
  refine Rect.ext hx hy ?_ ?_
  · exact congrArg (· + (b.width.toNat : Int)) hx
  · exact congrArg (· + (b.height.toNat : Int)) hy

/-- The edges of a boundary lie between 0 and 2^33. -/
theorem rect_bounds (b : ScreenBoundary) :
    (0 ≤ b.rect.left ∧ b.rect.left ≤ b.rect.right ∧ b.rect.right < 2 ^ 33) ∧
      0 ≤ b.rect.top ∧ b.rect.top ≤ b.rect.bottom ∧ b.rect.bottom < 2 ^ 33 := by
  have hx := b.originX.toNat_lt
  have hy := b.originY.toNat_lt
  have hw := b.width.toNat_lt
  have hh := b.height.toNat_lt
  simp only [rect]
  omega

end ScreenBoundary

namespace MergedEdges

/-- The edges in whole numbers. -/
def rect (edges : MergedEdges) : Rect Int where
  left := edges.minX.toNat
  top := edges.minY.toNat
  right := edges.maxX.toNat
  bottom := edges.maxY.toNat

/-- The smaller of two numbers, as a whole number. -/
theorem toNat_min (a b : UInt32) : ((min a b).toNat : Int) = min (a.toNat : Int) b.toNat := by
  rw [Int.min_def]
  show (((if a ≤ b then a else b).toNat : Nat) : Int) = _
  simp only [UInt32.le_iff_toNat_le, Int.ofNat_le]
  split <;> rfl

/-- The larger of two numbers, as a whole number. -/
theorem toNat_max (a b : UInt32) : ((max a b).toNat : Int) = max (a.toNat : Int) b.toNat := by
  rw [Int.max_def]
  show (((if a ≤ b then b else a).toNat : Nat) : Int) = _
  simp only [UInt32.le_iff_toNat_le, Int.ofNat_le]
  split <;> rfl

/-- The end of a side wraps at 2^32. -/
theorem toNat_end (origin size : UInt32) :
    ((origin + size).toNat : Int) = (origin.toNat + size.toNat : Int) % 2 ^ 32 := by
  rw [UInt32.toNat_add]
  omega

/-- The edges a merge starts from. -/
theorem rect_edgesOf (b : ScreenBoundary) : (edgesOf b).rect = b.wrappedRect :=
  Rect.ext rfl rfl (toNat_end b.originX b.width) (toNat_end b.originY b.height)

/-- A step of the merge unites with the next boundary. -/
theorem rect_extendEdges (edges : MergedEdges) (b : ScreenBoundary) :
    (extendEdges edges b).rect = edges.rect.union b.wrappedRect := by
  rw [← rect_edgesOf]
  exact Rect.ext (toNat_min _ _) (toNat_min _ _) (toNat_max _ _) (toNat_max _ _)

/-- The whole merge unites all boundaries. -/
theorem rect_foldl (boundaries : List ScreenBoundary) (edges : MergedEdges) :
    (boundaries.foldl extendEdges edges).rect =
      (boundaries.map ScreenBoundary.wrappedRect).foldl Rect.union edges.rect := by
  induction boundaries generalizing edges with
  | nil => rfl
  | cons b boundaries ih =>
    rw [List.foldl_cons, List.map_cons, List.foldl_cons, ← rect_extendEdges]
    exact ih (extendEdges edges b)

end MergedEdges

/-- The merge is of the edges that have wrapped around. -/
theorem isHull_mergeBoundingBox {boundaries : List ScreenBoundary} (hne : boundaries ≠ []) :
    ∃ edges : MergedEdges, Rect.IsHull edges.rect (boundaries.map ScreenBoundary.wrappedRect) ∧
      (mergeBoundingBox boundaries).width = edges.maxX - edges.minX ∧
        (mergeBoundingBox boundaries).height = edges.maxY - edges.minY := by
  cases boundaries with
  | nil => exact absurd rfl hne
  | cons b boundaries =>
    refine ⟨boundaries.foldl extendEdges (edgesOf b), ?_, rfl, rfl⟩
    rw [MergedEdges.rect_foldl, MergedEdges.rect_edgesOf, List.map_cons]
    exact Rect.isHull_foldl (Rect.isHull_singleton b.wrappedRect) _

/-! ### One axis -/

section
variable {α : Type} {xs : List α} {lo hi : α → Int} {low high wrapped : Int}

/-- Extents along an axis, from `low` to `high`, of the intervals from `lo` to `hi`, and the greatest
end `wrapped` in 32 bits. -/
structure AxisExtents (xs : List α) (lo hi : α → Int) (low high wrapped : Int) : Prop where
  low : IsLeast (lo '' { x | x ∈ xs }) low
  high : IsGreatest (hi '' { x | x ∈ xs }) high
  wrapped : IsGreatest ((fun x => hi x % 2 ^ 32) '' { x | x ∈ xs }) wrapped

/-- The extent in 32 bits is the true one exactly when no end reaches `2 ^ 32`, or all do. -/
theorem AxisExtents.extent_iff (h : AxisExtents xs lo hi low high wrapped)
    (hbounds : ∀ x ∈ xs, 0 ≤ lo x ∧ lo x ≤ hi x ∧ hi x < 2 ^ 33)
    (hfits : high - low < 2 ^ 32) :
    (wrapped - low) % 2 ^ 32 = high - low ↔
      (∀ x ∈ xs, hi x < 2 ^ 32) ∨ ∀ x ∈ xs, 2 ^ 32 ≤ hi x := by
  obtain ⟨l, hl, hlow⟩ := h.low.1
  obtain ⟨r, hr, hhigh⟩ := h.high.1
  obtain ⟨w, hw, hwrapped⟩ := h.wrapped.1
  have hle : low ≤ high := by
    have hlbounds := hbounds l hl
    have hlr : hi l ≤ high := h.high.2 ⟨l, hl, rfl⟩
    omega
  have hlower : ∀ x ∈ xs, hi x % 2 ^ 32 ≤ wrapped := fun x hx => h.wrapped.2 ⟨x, hx, rfl⟩
  have hwhigh : hi w ≤ high := h.high.2 ⟨w, hw, rfl⟩
  have hrwrapped := hlower r hr
  have hrbounds := hbounds r hr
  dsimp only at hwrapped
  constructor
  · intro heq
    by_contra hnot
    obtain ⟨hsome, hsome'⟩ := not_or.mp hnot
    -- One end wraps around and one does not, so the greatest is between.
    obtain ⟨b, hb, hbig⟩ : ∃ b ∈ xs, 2 ^ 32 ≤ hi b := by simpa using hsome
    obtain ⟨c, hc, hsmall⟩ : ∃ c ∈ xs, hi c < 2 ^ 32 := by simpa using hsome'
    have hbhigh : hi b ≤ high := h.high.2 ⟨b, hb, rfl⟩
    have hclow : low ≤ lo c := h.low.2 ⟨c, hc, rfl⟩
    have hcwrapped := hlower c hc
    have hcbounds := hbounds c hc
    omega
  · rintro (hall | hall)
    · have hwsmall := hall w hw
      have hrsmall := hall r hr
      have hwbounds := hbounds w hw
      omega
    · have hwbig := hall w hw
      have hrbig := hall r hr
      have hwbounds := hbounds w hw
      omega

end

/-! ### The two merges -/

/-- The merge through the box of all displays. -/
def boxMerge (apiSource : ApiSource) (boundaries : List ScreenBoundary) : Option ScreenBoundary := do
  let bbox ← computeBoundingBox (boundaries.map (·.geometry apiSource))
  toScreenBoundaryMerged bbox

/-- Both merges give the same size. -/
def MergesAgree (apiSource : ApiSource) (boundaries : List ScreenBoundary) : Prop :=
  ∃ boundary, boxMerge apiSource boundaries = some boundary ∧
    (mergeBoundingBox boundaries).width = boundary.width ∧
      (mergeBoundingBox boundaries).height = boundary.height

/-- The true extent fits in 32 bits, both ways. -/
def ExtentFits (boundaries : List ScreenBoundary) : Prop :=
  ∀ b ∈ boundaries, ∀ c ∈ boundaries,
    b.rect.right - c.rect.left < 2 ^ 32 ∧ b.rect.bottom - c.rect.top < 2 ^ 32

/-- Along each axis the ends of all boundaries wrap around, or none does. -/
def MergeMeets (boundaries : List ScreenBoundary) : Prop :=
  ((∀ b ∈ boundaries, b.rect.right < 2 ^ 32) ∨ ∀ b ∈ boundaries, 2 ^ 32 ≤ b.rect.right) ∧
    ((∀ b ∈ boundaries, b.rect.bottom < 2 ^ 32) ∨ ∀ b ∈ boundaries, 2 ^ 32 ≤ b.rect.bottom)

/-- Whether the extent fits can be looked up. -/
instance (boundaries : List ScreenBoundary) : Decidable (ExtentFits boundaries) :=
  inferInstanceAs (Decidable (∀ _ ∈ _, _))

/-- The image of the elements of a mapped list. -/
theorem image_map {α β γ : Type} (xs : List α) (f : α → β) (g : β → γ) :
    g '' { y | y ∈ xs.map f } = (fun x => g (f x)) '' { x | x ∈ xs } := by
  have hset : { y | y ∈ xs.map f } = f '' { x | x ∈ xs } := by
    ext y
    exact List.mem_map
  rw [hset, Set.image_image]

/-- The sums of a boundary fit 64 bits. -/
theorem sumsFit_geometry (apiSource : ApiSource) (b : ScreenBoundary) :
    (b.geometry apiSource).SumsFit := by
  have hbounds := b.rect_bounds
  unfold NativeScreenGeometry.SumsFit
  rw [b.rect_geometry apiSource]
  omega

/-- The merge through the box gives the true extent. -/
theorem boxMerge_eq (apiSource : ApiSource) {boundaries : List ScreenBoundary}
    (hne : boundaries ≠ []) (hfits : ExtentFits boundaries) :
    ∃ hull : Rect Int, Rect.IsHull hull (boundaries.map ScreenBoundary.rect) ∧
      (hull.right - hull.left < 2 ^ 32 ∧ hull.bottom - hull.top < 2 ^ 32) ∧
        ∃ boundary, boxMerge apiSource boundaries = some boundary ∧
          (boundary.width.toNat : Int) = hull.right - hull.left ∧
            (boundary.height.toNat : Int) = hull.bottom - hull.top := by
  have hne' : boundaries.map (·.geometry apiSource) ≠ [] := by
    intro h
    exact hne (List.map_eq_nil_iff.mp h)
  have hsums : ∀ d ∈ boundaries.map (·.geometry apiSource), d.SumsFit := by
    intro d hd
    obtain ⟨b, -, rfl⟩ := List.mem_map.mp hd
    exact sumsFit_geometry apiSource b
  obtain ⟨bbox, hbox, hhull⟩ := isHull_computeBoundingBox hne' hsums
  -- As geometries the boundaries cover what they cover.
  have hrects : (boundaries.map (·.geometry apiSource)).map NativeScreenGeometry.rect =
      boundaries.map ScreenBoundary.rect := by
    rw [List.map_map]
    exact List.map_congr_left fun b _ => b.rect_geometry apiSource
  rw [hrects] at hhull
  have hedges : ∀ r ∈ boundaries.map ScreenBoundary.rect, ∀ s ∈ boundaries.map ScreenBoundary.rect,
      r.right - s.left < 2 ^ 32 ∧ r.bottom - s.top < 2 ^ 32 := by
    intro r hr s hs
    obtain ⟨b, hb, rfl⟩ := List.mem_map.mp hr
    obtain ⟨c, hc, rfl⟩ := List.mem_map.mp hs
    exact hfits b hb c hc
  have hwidth : bbox.rect.right - bbox.rect.left < 2 ^ 32 :=
    hhull.right_left (P := fun right left => right - left < 2 ^ 32)
      fun r hr s hs => (hedges r hr s hs).1
  have hheight : bbox.rect.bottom - bbox.rect.top < 2 ^ 32 :=
    hhull.bottom_top (P := fun bottom top => bottom - top < 2 ^ 32)
      fun r hr s hs => (hedges r hr s hs).2
  -- There is a boundary, and the hull is at least as large.
  have hle : 0 ≤ bbox.rect.right - bbox.rect.left ∧ 0 ≤ bbox.rect.bottom - bbox.rect.top := by
    obtain ⟨b, hb⟩ := List.exists_mem_of_ne_nil boundaries hne
    have hbounds := b.rect_bounds
    have hin := hhull.le (List.mem_map_of_mem hb)
    rw [Rect.le_def] at hin
    omega
  obtain ⟨width, hsubW, -, hwidth'⟩ := Lib.SignedWord.exists_sub_of_lt hle.1 hwidth
  obtain ⟨height, hsubH, -, hheight'⟩ := Lib.SignedWord.exists_sub_of_lt hle.2 hheight
  refine ⟨bbox.rect, hhull, ⟨hwidth, hheight⟩,
    { width := Lib.SignedWord.lowBits width
      height := Lib.SignedWord.lowBits height
      originX := 0
      originY := 0 }, ?_, hwidth', hheight'⟩
  rw [boxMerge, hbox]
  show toScreenBoundaryMerged bbox = _
  rw [toScreenBoundaryMerged, hsubW, hsubH]
  rfl

/-- The extent between two edges wraps at 2^32. -/
theorem toNat_extent (high low : UInt32) :
    ((high - low).toNat : Int) = (high.toNat - low.toNat : Int) % 2 ^ 32 := by
  have hhigh := high.toNat_lt
  have hlow := low.toNat_lt
  rw [UInt32.toNat_sub]
  omega

/-- While the true extent fits in 32 bits, the merges agree exactly when along each axis the ends of
all boundaries wrap around or none does. -/
theorem mergesAgree_iff (apiSource : ApiSource) {boundaries : List ScreenBoundary}
    (hne : boundaries ≠ []) (hfits : ExtentFits boundaries) :
    MergesAgree apiSource boundaries ↔ MergeMeets boundaries := by
  obtain ⟨edges, hedges, hwidth, hheight⟩ := isHull_mergeBoundingBox hne
  obtain ⟨hull, hhull, hextent, boundary, hbox, hwidth', hheight'⟩ :=
    boxMerge_eq apiSource hne hfits
  have hx : AxisExtents boundaries (fun b => b.rect.left) (fun b => b.rect.right) hull.left
      hull.right edges.rect.right := by
    refine ⟨?_, ?_, ?_⟩
    · rw [← image_map boundaries ScreenBoundary.rect]
      exact hhull.left
    · rw [← image_map boundaries ScreenBoundary.rect]
      exact hhull.right
    · exact image_map boundaries ScreenBoundary.wrappedRect Rect.right ▸ hedges.right
  have hy : AxisExtents boundaries (fun b => b.rect.top) (fun b => b.rect.bottom) hull.top
      hull.bottom edges.rect.bottom := by
    refine ⟨?_, ?_, ?_⟩
    · rw [← image_map boundaries ScreenBoundary.rect]
      exact hhull.top
    · rw [← image_map boundaries ScreenBoundary.rect]
      exact hhull.bottom
    · exact image_map boundaries ScreenBoundary.wrappedRect Rect.bottom ▸ hedges.bottom
  -- Both merges have the same left and upper edge, so only the far edges can differ.
  have hleft : edges.rect.left = hull.left :=
    IsLeast.unique (image_map boundaries ScreenBoundary.wrappedRect Rect.left ▸ hedges.left) hx.low
  have htop : edges.rect.top = hull.top :=
    IsLeast.unique (image_map boundaries ScreenBoundary.wrappedRect Rect.top ▸ hedges.top) hy.low
  have hxiff := hx.extent_iff (fun b _ => b.rect_bounds.1) hextent.1
  have hyiff := hy.extent_iff (fun b _ => b.rect_bounds.2) hextent.2
  have hagree : MergesAgree apiSource boundaries ↔
      (mergeBoundingBox boundaries).width = boundary.width ∧
        (mergeBoundingBox boundaries).height = boundary.height := by
    unfold MergesAgree
    rw [hbox]
    simp only [Option.some_inj, exists_eq_left']
  rw [hagree, hwidth, hheight, ← UInt32.toNat_inj, ← UInt32.toNat_inj, ← Int.natCast_inj,
    ← Int.natCast_inj, toNat_extent, toNat_extent, hwidth', hheight']
  unfold MergeMeets
  rw [← hxiff, ← hyiff, ← hleft, ← htop]
  rfl

/-- A boundary of 1920 by 1080 points. -/
def boundaryAt (originX : UInt32) : ScreenBoundary where
  width := 1920
  height := 1080
  originX := originX
  originY := 0

/-- Two boundaries side by side are as the condition says. -/
theorem mergesAgree_iff_beside :
    MergesAgree .CGDisplay [boundaryAt 0, boundaryAt 1920] ↔
      MergeMeets [boundaryAt 0, boundaryAt 1920] :=
  mergesAgree_iff .CGDisplay (by decide) (by decide)

/-- Of two boundaries side by side, the end of the right one wraps around, and its width is lost. -/
theorem wrapped_end_lost :
    ¬ ∀ boundaries : List ScreenBoundary, boundaries ≠ [] → ExtentFits boundaries →
      MergesAgree .CGDisplay boundaries := by
  intro hclaim
  let boundaries := [boundaryAt 4294965296, boundaryAt 4294967216]
  obtain ⟨boundary, hbox, hwidth, -⟩ := hclaim boundaries (by decide) (by decide)
  have hboundary : boundary = { width := 3840, height := 1080, originX := 0, originY := 0 } :=
    Option.some_inj.mp (hbox.symm.trans (by decide))
  have hmerged : (mergeBoundingBox boundaries).width = 1920 := by decide
  rw [hmerged, hboundary] at hwidth
  exact absurd hwidth (by decide)

end CrossFlow
