import Mathlib.Order.Bounds.Basic
import Mathlib.Data.Set.Insert

/-!
# `CrossFlow.Lib.Rect`: rectangles and their hulls

A rectangle is its four edges, with the vertical axis downwards. Rectangles are ordered by inclusion.
The hull of a list of rectangles is the one whose edges are the outermost of theirs.

* `isHull_foldl`: the hull is built by a fold with `union`.
* `IsHull.right_left`, `IsHull.bottom_top`: what holds of the edges of any two holds of the hull's.
* `IsHull.isLUB`: the hull is the least rectangle that includes all of them.
* `IsHull.unique`: it is the only one, and it does not depend on the order.
-/

set_option autoImplicit false

namespace CrossFlow.Lib

/-- A rectangle, as its edges. -/
@[ext] structure Rect (β : Type) where
  left : β
  top : β
  right : β
  bottom : β

namespace Rect

variable {β : Type}

section
variable [LinearOrder β]

/-- The order is inclusion. -/
instance : PartialOrder (Rect β) where
  le r s := s.left ≤ r.left ∧ s.top ≤ r.top ∧ r.right ≤ s.right ∧ r.bottom ≤ s.bottom
  le_refl r := ⟨le_rfl, le_rfl, le_rfl, le_rfl⟩
  le_trans r s t h h' :=
    ⟨h'.1.trans h.1, h'.2.1.trans h.2.1, h.2.2.1.trans h'.2.2.1, h.2.2.2.trans h'.2.2.2⟩
  le_antisymm r s h h' :=
    Rect.ext (h'.1.antisymm h.1) (h'.2.1.antisymm h.2.1) (h.2.2.1.antisymm h'.2.2.1)
      (h.2.2.2.antisymm h'.2.2.2)

/-- A rectangle is within another one, edge by edge. -/
theorem le_def {r s : Rect β} :
    r ≤ s ↔ s.left ≤ r.left ∧ s.top ≤ r.top ∧ r.right ≤ s.right ∧ r.bottom ≤ s.bottom := Iff.rfl

/-- The rectangle around two. -/
def union (r s : Rect β) : Rect β where
  left := min r.left s.left
  top := min r.top s.top
  right := max r.right s.right
  bottom := max r.bottom s.bottom

/-- The edges are the outermost of those in the list. -/
structure IsHull (hull : Rect β) (rects : List (Rect β)) : Prop where
  left : IsLeast (Rect.left '' { r | r ∈ rects }) hull.left
  top : IsLeast (Rect.top '' { r | r ∈ rects }) hull.top
  right : IsGreatest (Rect.right '' { r | r ∈ rects }) hull.right
  bottom : IsGreatest (Rect.bottom '' { r | r ∈ rects }) hull.bottom

/-- A rectangle is its own hull. -/
theorem isHull_singleton (r : Rect β) : IsHull r [r] := by
  have hset : { s | s ∈ [r] } = {r} := by
    ext s
    exact List.mem_singleton
  constructor <;> rw [hset, Set.image_singleton]
  · exact isLeast_singleton
  · exact isLeast_singleton
  · exact isGreatest_singleton
  · exact isGreatest_singleton

variable {hull : Rect β} {rects rects' : List (Rect β)}

/-- One rectangle more. -/
theorem IsHull.append (h : IsHull hull rects) (r : Rect β) :
    IsHull (hull.union r) (rects ++ [r]) := by
  have hset : { s | s ∈ rects ++ [r] } = insert r { s | s ∈ rects } := by
    ext s
    simp [or_comm]
  constructor <;> rw [hset, Set.image_insert_eq]
  · -- Each edge is the extreme one of those so far and the new one.
    show IsLeast _ (min hull.left r.left)
    rw [min_comm]
    exact h.left.insert r.left
  · show IsLeast _ (min hull.top r.top)
    rw [min_comm]
    exact h.top.insert r.top
  · show IsGreatest _ (max hull.right r.right)
    rw [max_comm]
    exact h.right.insert r.right
  · show IsGreatest _ (max hull.bottom r.bottom)
    rw [max_comm]
    exact h.bottom.insert r.bottom

/-- The hull is built by a fold. -/
theorem isHull_foldl (h : IsHull hull rects) (rs : List (Rect β)) :
    IsHull (rs.foldl union hull) (rects ++ rs) := by
  induction rs generalizing hull rects with
  | nil =>
    rw [List.append_nil]
    exact h
  | cons r rs ih =>
    rw [List.append_cons]
    exact ih (h.append r)

/-- What holds of the right edge of one and the left edge of another, for any two, holds of the edges
of the hull. -/
theorem IsHull.right_left (h : IsHull hull rects) {P : β → β → Prop}
    (hP : ∀ r ∈ rects, ∀ s ∈ rects, P r.right s.left) : P hull.right hull.left := by
  obtain ⟨r, hr, hright⟩ := h.right.1
  obtain ⟨s, hs, hleft⟩ := h.left.1
  have hrs := hP r hr s hs
  rw [hright, hleft] at hrs
  exact hrs

/-- What holds of the bottom edge of one and the top edge of another, for any two, holds of those of
the hull. -/
theorem IsHull.bottom_top (h : IsHull hull rects) {P : β → β → Prop}
    (hP : ∀ r ∈ rects, ∀ s ∈ rects, P r.bottom s.top) : P hull.bottom hull.top := by
  obtain ⟨r, hr, hbottom⟩ := h.bottom.1
  obtain ⟨s, hs, htop⟩ := h.top.1
  have hrs := hP r hr s hs
  rw [hbottom, htop] at hrs
  exact hrs

/-- Every rectangle is in the hull. -/
theorem IsHull.le (h : IsHull hull rects) {r : Rect β} (hr : r ∈ rects) : r ≤ hull :=
  ⟨h.left.2 ⟨r, hr, rfl⟩, h.top.2 ⟨r, hr, rfl⟩, h.right.2 ⟨r, hr, rfl⟩, h.bottom.2 ⟨r, hr, rfl⟩⟩

/-- The hull is the least rectangle that includes all of them. -/
theorem IsHull.isLUB (h : IsHull hull rects) : IsLUB { r | r ∈ rects } hull := by
  refine ⟨fun r hr => h.le hr, ?_⟩
  intro s hs
  -- Each edge of the hull is that of one of the rectangles, which is in `s`.
  obtain ⟨r₁, hr₁, hleft⟩ := h.left.1
  obtain ⟨r₂, hr₂, htop⟩ := h.top.1
  obtain ⟨r₃, hr₃, hright⟩ := h.right.1
  obtain ⟨r₄, hr₄, hbottom⟩ := h.bottom.1
  refine ⟨?_, ?_, ?_, ?_⟩
  · exact hleft ▸ (hs hr₁).1
  · exact htop ▸ (hs hr₂).2.1
  · exact hright ▸ (hs hr₃).2.2.1
  · exact hbottom ▸ (hs hr₄).2.2.2

/-- Lists of the same rectangles have one hull. -/
theorem IsHull.unique (h : IsHull hull rects) {hull' : Rect β} (h' : IsHull hull' rects')
    (hmem : ∀ r, r ∈ rects ↔ r ∈ rects') : hull = hull' := by
  have hset : { r | r ∈ rects } = { r | r ∈ rects' } := Set.ext hmem
  have hlub := h.isLUB
  rw [hset] at hlub
  exact hlub.unique h'.isLUB

end

end Rect

end CrossFlow.Lib
