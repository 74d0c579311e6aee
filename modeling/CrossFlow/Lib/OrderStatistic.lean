import Mathlib.Data.List.Sort

/-!
# `CrossFlow.Lib.OrderStatistic`: the elements of a sorted list by their rank

The element of rank `k` of a list is the one at the index `k` when the list is sorted, the first
rank being 0. `sorted r l` is the list `l` in the order `r`.

* `sorted_eq_of_perm`: the order of the list does not matter.
* `rel_of_le`: a greater rank has a greater element.
* `succ_le_countP`: so many elements are up to the element of a rank.
* `length_sub_le_countP`: so many are from it on.
-/

set_option autoImplicit false

namespace CrossFlow.Lib.OrderStatistic

variable {α : Type} {r : α → α → Prop} [DecidableRel r]

/-- The list in the order `r`. -/
def sorted (r : α → α → Prop) [DecidableRel r] (l : List α) : List α := l.insertionSort r

/-- To sort is to put in another order. -/
theorem perm_sorted (l : List α) : (sorted r l).Perm l := List.perm_insertionSort r l

/-- Sorting keeps the length. -/
@[simp] theorem length_sorted (l : List α) : (sorted r l).length = l.length :=
  (perm_sorted l).length_eq

/-- Sorting keeps the elements. -/
@[simp] theorem mem_sorted {l : List α} {x : α} : x ∈ sorted r l ↔ x ∈ l := (perm_sorted l).mem_iff

section
variable [Std.Total r] [IsTrans α r]

/-- What is sorted is in order. -/
theorem pairwise_sorted (l : List α) : (sorted r l).Pairwise r := List.pairwise_insertionSort r l

/-- The order before does not matter. -/
theorem sorted_eq_of_perm [Std.Antisymm r] {l l' : List α} (h : l.Perm l') :
    sorted r l = sorted r l' := by
  have hperm : (sorted r l).Perm (sorted r l') :=
    (perm_sorted l).trans (h.trans (perm_sorted l').symm)
  exact hperm.eq_of_pairwise' (pairwise_sorted l) (pairwise_sorted l')

end

section
variable [Std.Refl r] {l : List α}

omit [DecidableRel r] in
/-- In a sorted list what comes later is no smaller. -/
theorem rel_of_le (hl : l.Pairwise r) {i j : Nat} (hij : i ≤ j) (hj : j < l.length) :
    r l[i] l[j] := by
  rcases Nat.lt_or_eq_of_le hij with hlt | rfl
  · exact List.pairwise_iff_getElem.mp hl i j (by omega) hj hlt
  · exact Std.Refl.refl _

/-- The elements up to rank `k` are up to the element of that rank. -/
theorem succ_le_countP (hl : l.Pairwise r) {k : Nat} (hk : k < l.length) :
    k + 1 ≤ l.countP fun x => r x l[k] := by
  have hall : ∀ x ∈ l.take (k + 1), decide (r x l[k]) = true := by
    intro x hx
    obtain ⟨i, hi, rfl⟩ := List.mem_take_iff_getElem.mp hx
    simp only [decide_eq_true_eq]
    exact rel_of_le hl (by omega) hk
  calc k + 1 = (l.take (k + 1)).length := by simp; omega
    _ = (l.take (k + 1)).countP fun x => r x l[k] := (List.countP_eq_length.mpr hall).symm
    _ ≤ l.countP fun x => r x l[k] := (List.take_sublist _ _).countP_le

/-- The elements from rank `k` on are from the element of that rank on. -/
theorem length_sub_le_countP (hl : l.Pairwise r) {k : Nat} (hk : k < l.length) :
    l.length - k ≤ l.countP fun x => r l[k] x := by
  have hall : ∀ x ∈ l.drop k, decide (r l[k] x) = true := by
    intro x hx
    obtain ⟨i, hi, rfl⟩ := List.mem_drop_iff_getElem.mp hx
    simp only [decide_eq_true_eq]
    have hlt : k + i < l.length := by omega
    exact rel_of_le hl (Nat.le_add_right k i) hlt
  calc l.length - k = (l.drop k).length := by simp
    _ = (l.drop k).countP fun x => r l[k] x := (List.countP_eq_length.mpr hall).symm
    _ ≤ l.countP fun x => r l[k] x := (List.drop_sublist _ _).countP_le

end

end CrossFlow.Lib.OrderStatistic
