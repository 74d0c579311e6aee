import Mathlib.Data.List.Basic
import Mathlib.Logic.Function.Basic

/-!
# `CrossFlow.Lib.Holding`: what is held down after a list of changes

Controls (keys, buttons) go down and up. What is held after a list of changes is what the last
change of each control says. Two lists may be about controls of two kinds: when one is the other
with each control renamed, or left out, the two agree on a control that no other control is
renamed to (`heldAfter_rename`).
-/

set_option autoImplicit false

namespace CrossFlow.Lib

universe u v

/-- A control goes down, or up. -/
structure Change (κ : Type u) where
  control : κ
  down : Bool
  deriving DecidableEq

namespace Change

variable {κ : Type u} {ι : Type v}

/-- The change under another name of its control, if it has one. -/
def rename (f : κ → Option ι) (c : Change κ) : Option (Change ι) :=
  (f c.control).map fun control => { control, down := c.down }

/-- The control goes up. -/
def up (control : κ) : Change κ where
  control := control
  down := false

end Change

section Held

variable {κ : Type u} {ι : Type v} [DecidableEq κ] [DecidableEq ι]

/-- What is held after the changes, from what was held before. -/
def heldAfter (held : κ → Bool) (changes : List (Change κ)) : κ → Bool :=
  changes.foldl (fun held c => Function.update held c.control c.down) held

/-- Nothing changes without a change. -/
@[simp] theorem heldAfter_nil (held : κ → Bool) : heldAfter held [] = held := rfl

/-- The first change is made, then the others. -/
@[simp] theorem heldAfter_cons (held : κ → Bool) (c : Change κ) (changes : List (Change κ)) :
    heldAfter held (c :: changes) = heldAfter (Function.update held c.control c.down) changes := rfl

/-- Changes are made one after the other. -/
@[simp] theorem heldAfter_append (held : κ → Bool) (before later : List (Change κ)) :
    heldAfter held (before ++ later) = heldAfter (heldAfter held before) later := List.foldl_append

/-- A control without a change stays as it was. -/
theorem heldAfter_of_forall_ne {held : κ → Bool} {changes : List (Change κ)} {k : κ}
    (h : ∀ c ∈ changes, c.control ≠ k) : heldAfter held changes k = held k := by
  induction changes generalizing held with
  | nil => rfl
  | cons c changes ih =>
    rw [heldAfter_cons, ih fun d hd => h d (List.mem_cons_of_mem c hd)]
    exact Function.update_of_ne (h c List.mem_cons_self).symm _ _

/-- What the changes leave of a control depends on that control only. -/
theorem heldAfter_congr {held held' : κ → Bool} {changes : List (Change κ)} {k : κ}
    (h : held k = held' k) : heldAfter held changes k = heldAfter held' changes k := by
  induction changes generalizing held held' with
  | nil => exact h
  | cons c changes ih =>
    rw [heldAfter_cons, heldAfter_cons]
    refine ih ?_
    by_cases hk : k = c.control
    · rw [hk, Function.update_self, Function.update_self]
    · rw [Function.update_of_ne hk, Function.update_of_ne hk]
      exact h

/-- What is held after the changes was held before, or has been pressed. -/
theorem held_of_heldAfter {held : κ → Bool} {changes : List (Change κ)} {k : κ}
    (h : heldAfter held changes k = true) :
    held k = true ∨ ∃ c ∈ changes, c.control = k ∧ c.down = true := by
  induction changes generalizing held with
  | nil => exact .inl h
  | cons c changes ih =>
    rw [heldAfter_cons] at h
    rcases ih h with hheld | ⟨d, hd, hpress⟩
    · by_cases hk : c.control = k
      · rw [hk, Function.update_self] at hheld
        exact .inr ⟨c, List.mem_cons_self, hk, hheld⟩
      · rw [Function.update_of_ne (Ne.symm hk)] at hheld
        exact .inl hheld
    · exact .inr ⟨d, List.mem_cons_of_mem c hd, hpress⟩

/-- When all changes of a control say the same, that is how it is left. -/
theorem heldAfter_eq_of_forall {held : κ → Bool} {changes : List (Change κ)} {k : κ} {b : Bool}
    (hall : ∀ c ∈ changes, c.control = k → c.down = b)
    (h : held k = b ∨ ∃ c ∈ changes, c.control = k) : heldAfter held changes k = b := by
  induction changes generalizing held with
  | nil =>
    rcases h with h | ⟨c, hc, -⟩
    · exact h
    · exact absurd hc List.not_mem_nil
  | cons c changes ih =>
    rw [heldAfter_cons]
    refine ih (fun d hd => hall d (List.mem_cons_of_mem c hd)) ?_
    -- The first change decides only about its own control.
    by_cases hk : c.control = k
    · left
      rw [hk, Function.update_self, hall c List.mem_cons_self hk]
    · rcases h with h | ⟨d, hd, hdk⟩
      · exact .inl ((Function.update_of_ne (Ne.symm hk) _ _).trans h)
      · rcases List.mem_cons.mp hd with rfl | hd
        · exact absurd hdk hk
        · exact .inr ⟨d, hd, hdk⟩

/-- The changes with their controls renamed leave the new name as the changes leave the control,
when no other control has that name. -/
theorem heldAfter_rename {f : κ → Option ι} {held : κ → Bool} {held' : ι → Bool}
    {changes : List (Change κ)} {k : κ} {i : ι} (hki : f k = some i) (hheld : held' i = held k)
    (h : ∀ c ∈ changes, f c.control = some i → c.control = k) :
    heldAfter held' (changes.filterMap (Change.rename f)) i = heldAfter held changes k := by
  induction changes generalizing held held' with
  | nil => exact hheld
  | cons c changes ih =>
    have hlater : ∀ d ∈ changes, f d.control = some i → d.control = k :=
      fun d hd => h d (List.mem_cons_of_mem c hd)
    have hc := h c List.mem_cons_self
    rw [heldAfter_cons]
    cases hfc : f c.control with
    | none =>
      -- The change is left out, and it is not one of `k`.
      have hne : k ≠ c.control := by
        intro hk
        rw [← hk, hki] at hfc
        exact absurd hfc (by simp)
      rw [List.filterMap_cons_none (by simp [Change.rename, hfc])]
      exact ih (hheld.trans (Function.update_of_ne hne _ _).symm) hlater
    | some j =>
      rw [List.filterMap_cons_some (b := ⟨j, c.down⟩) (by simp [Change.rename, hfc]),
        heldAfter_cons]
      refine ih ?_ hlater
      by_cases hj : j = i
      · rw [hc (hj ▸ hfc), hj, Function.update_self, Function.update_self]
      · have hne : k ≠ c.control := by
          intro hk
          rw [← hk, hki] at hfc
          exact hj (Option.some.inj hfc).symm
        rw [Function.update_of_ne (Ne.symm hj), Function.update_of_ne hne]
        exact hheld

/-- Controls that go up are not held, and the others are as they were. -/
theorem heldAfter_ups (held : κ → Bool) (ks : List κ) (k : κ) :
    heldAfter held (ks.map Change.up) k = (held k && !decide (k ∈ ks)) := by
  induction ks generalizing held with
  | nil => simp
  | cons j ks ih =>
    rw [List.map_cons, heldAfter_cons, ih]
    by_cases hkj : k = j
    · simp [Change.up, hkj]
    · rw [Change.up, Function.update_of_ne hkj]
      simp [hkj]

end Held

end CrossFlow.Lib
