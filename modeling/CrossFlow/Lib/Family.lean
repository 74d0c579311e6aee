import CrossFlow.Lib.Machine
import Mathlib.Logic.Function.Basic

/-!
# `CrossFlow.Lib.Family`: copies of a machine side by side

`Machine.family` runs one copy of a machine for each index. An action names the copy it is of, so a
run is an interleaving of runs of the copies, and `family_runFrom_of_meets` takes what the steps of
the machine keep to all its copies.
-/

set_option autoImplicit false

namespace CrossFlow.Lib.Machine

variable {ι σ α : Type} [DecidableEq ι]

/-- A copy of `m` for each index; the action `(i, a)` is a step of the copy `i`. -/
def family (m : Machine σ α) (ι : Type) [DecidableEq ι] : Machine (ι → σ) (ι × α) where
  init := fun _ => m.init
  step s a := Function.update s a.1 (m.step (s a.1) a.2)

/-- The machine that a step is of takes it. -/
theorem family_step_self (m : Machine σ α) (s : ι → σ) (i : ι) (a : α) :
    (m.family ι).step s (i, a) i = m.step (s i) a := Function.update_self i _ s

/-- The others stay as they are. -/
theorem family_step_ne (m : Machine σ α) (s : ι → σ) {i j : ι} (a : α) (hj : j ≠ i) :
    (m.family ι).step s (i, a) j = s j := Function.update_of_ne hj _ s

/-- What the steps of the copies keep from one moment on holds of every copy then. -/
theorem family_runFrom_of_meets {m : Machine σ α} {C : (ι → σ) → ι × α → Prop} {P : ι → σ → Prop}
    (hstep : ∀ s i a, P i (s i) → C s (i, a) → P i (m.step (s i) a)) {s : ι → σ}
    {as : List (ι × α)} (hs : ∀ i, P i (s i)) (has : (m.family ι).Meets C s as) (i : ι) :
    P i ((m.family ι).runFrom s as i) := by
  refine runFrom_of_meets (P := fun s => ∀ i, P i (s i)) ?_ hs has i
  rintro s ⟨i, a⟩ hs hC j
  by_cases hj : j = i
  · subst hj
    rw [family_step_self]
    exact hstep s j a (hs j) hC
  · rw [family_step_ne m s a hj]
    exact hs j

end CrossFlow.Lib.Machine
