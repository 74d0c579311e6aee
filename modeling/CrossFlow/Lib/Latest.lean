import Mathlib.Data.List.Nodup
import Mathlib.Order.Lattice

/-!
# `CrossFlow.Lib.Latest`: a register that keeps the latest value

A register that is offered values one after the other, and keeps of two values the one with the
greater key. Which of two values with one key it keeps is left open.

* `isLatest_foldl`: after any values it holds one with the greatest key.
* `foldl_store_of_perm`: values with different keys leave it the same in any order.
-/

set_option autoImplicit false

namespace CrossFlow.Lib.Latest

section
variable {α κ : Type} [LinearOrder κ]

/-- `choose a b` is what is kept of `a` when `b` is offered. -/
structure KeepsLater (key : α → κ) (choose : α → α → α) : Prop where
  old : ∀ {a b}, key b < key a → choose a b = a
  new : ∀ {a b}, key a < key b → choose a b = b
  same : ∀ {a b}, key a = key b → choose a b = a ∨ choose a b = b

/-- A value is offered to the register, which may be empty. -/
def store (choose : α → α → α) : Option α → α → Option α
  | none, b => some b
  | some a, b => some (choose a b)

/-- The value is one of the greatest key. -/
def IsLatest (key : α → κ) (values : List α) (a : α) : Prop :=
  a ∈ values ∧ ∀ b ∈ values, key b ≤ key a

variable {key : α → κ} {choose : α → α → α}

/-- One of the two is chosen. -/
theorem KeepsLater.choose_mem (h : KeepsLater key choose) (a b : α) :
    choose a b = a ∨ choose a b = b := by
  rcases lt_trichotomy (key a) (key b) with hlt | heq | hgt
  · exact .inr (h.new hlt)
  · exact h.same heq
  · exact .inl (h.old hgt)

/-- What is chosen has the later key. -/
theorem KeepsLater.key_choose (h : KeepsLater key choose) (a b : α) :
    key (choose a b) = max (key a) (key b) := by
  rcases lt_trichotomy (key a) (key b) with hlt | heq | hgt
  · rw [h.new hlt, max_eq_right (le_of_lt hlt)]
  · rw [← heq, max_self]
    rcases h.same heq with ha | hb
    · rw [ha]
    · rw [hb, heq]
  · rw [h.old hgt, max_eq_left (le_of_lt hgt)]

/-- The key in the register never goes back. -/
theorem KeepsLater.key_le_of_store (h : KeepsLater key choose) {a b c : α}
    (hstore : store choose (some a) b = some c) : key a ≤ key c := by
  cases hstore
  rw [h.key_choose]
  exact le_max_left _ _

/-- The only value is the latest one. -/
theorem isLatest_singleton (a : α) : IsLatest key [a] a :=
  ⟨List.mem_singleton.mpr rfl, fun _ hb => le_of_eq (congrArg key (List.mem_singleton.mp hb))⟩

/-- What is latest after a choice is latest of both values it was made from. -/
theorem KeepsLater.isLatest_of_choose (h : KeepsLater key choose) {values : List α} {a b c : α}
    (hc : IsLatest key (choose a b :: values) c) : IsLatest key (a :: b :: values) c := by
  obtain ⟨hmem, hle⟩ := hc
  -- The choice is as late as the later of the two, so `c` is not before either of them.
  have hchosen : max (key a) (key b) ≤ key c := by
    rw [← h.key_choose]
    exact hle _ List.mem_cons_self
  constructor
  · rcases List.mem_cons.mp hmem with hchoice | hlater
    · rcases h.choose_mem a b with ha | hb
      · rw [hchoice, ha]
        exact List.mem_cons_self
      · rw [hchoice, hb]
        exact List.mem_cons_of_mem a List.mem_cons_self
    · exact List.mem_cons_of_mem a (List.mem_cons_of_mem b hlater)
  · intro d hd
    rcases List.mem_cons.mp hd with rfl | hd
    · exact le_trans (le_max_left _ _) hchosen
    · rcases List.mem_cons.mp hd with rfl | hd
      · exact le_trans (le_max_right _ _) hchosen
      · exact hle d (List.mem_cons_of_mem _ hd)

/-- By induction on the values, whatever the register held before them. -/
theorem isLatest_foldl (h : KeepsLater key choose) (values : List α) (before : Option α) {a : α}
    (hafter : values.foldl (store choose) before = some a) :
    IsLatest key (before.toList ++ values) a := by
  induction values generalizing before with
  | nil =>
    rw [List.foldl_nil] at hafter
    rw [hafter]
    exact isLatest_singleton a
  | cons b values ih =>
    have hlatest := ih (store choose before b) hafter
    cases before with
    | none => exact hlatest
    | some c => exact h.isLatest_of_choose hlatest

/-- After a value the register is not empty. -/
theorem isSome_foldl {values : List α} {before : Option α}
    (hoffered : before.toList ++ values ≠ []) :
    (values.foldl (store choose) before).isSome = true := by
  induction values generalizing before with
  | nil =>
    cases before with
    | none => exact absurd rfl hoffered
    | some a => rfl
  | cons b values ih =>
    refine ih ?_
    cases before with
    | none => exact List.cons_ne_nil _ _
    | some a => exact List.cons_ne_nil _ _

/-- Two values with different keys may come in either order. -/
theorem store_right_comm (h : KeepsLater key choose) {b c : α} (hne : key b ≠ key c)
    (before : Option α) :
    store choose (store choose before b) c = store choose (store choose before c) b := by
  have hlt : ∀ {b c : α}, key b < key c →
      store choose (store choose before b) c = store choose (store choose before c) b := by
    intro b c hbc
    cases before with
    | none => simp only [store, h.new hbc, h.old hbc]
    | some a =>
      simp only [store]
      refine congrArg some ?_
      rcases lt_or_ge (key a) (key c) with hac | hca
      · -- The later of the two replaces whatever is there.
        have hbefore : key (choose a b) < key c := by
          rw [h.key_choose]
          exact max_lt hac hbc
        rw [h.new hbefore, h.new hac, h.old hbc]
      · -- The earlier of the two never gets in.
        have hbelow : key b < key (choose a c) := by
          rw [h.key_choose]
          exact lt_of_lt_of_le hbc (le_max_right _ _)
        rw [h.old (lt_of_lt_of_le hbc hca), h.old hbelow]
  -- Whichever of the two is the later, the order does not matter.
  rcases lt_or_gt_of_ne hne with hbc | hcb
  · exact hlt hbc
  · exact (hlt hcb).symm

/-- The order in which values come does not matter when no key comes twice. -/
theorem foldl_store_of_perm (h : KeepsLater key choose) {values values' : List α}
    (hperm : values'.Perm values) (hkeys : (values.map key).Nodup) (before : Option α) :
    values'.foldl (store choose) before = values.foldl (store choose) before := by
  refine (hperm.symm.foldl_eq' ?_ before).symm
  intro b hb c hc before
  by_cases heq : key b = key c
  · rw [List.inj_on_of_nodup_map hkeys hb hc heq]
  · exact store_right_comm h heq before

end

end CrossFlow.Lib.Latest
