import Mathlib.Data.Option.Basic

/-!
# `CrossFlow.Lib.Mutex`: one thread at a time

A `Mutex` is held by one thread or by none. `Guards` ties it to the program: the threads that are in
a guarded part of their program are the ones that hold the mutex, so there is one at most.
-/

set_option autoImplicit false

namespace CrossFlow.Lib

/-- The thread that holds it, if there is one. -/
structure Mutex (τ : Type) where
  holder : Option τ

namespace Mutex

variable {τ : Type}

/-- Nobody holds it. -/
def free : Mutex τ where
  holder := none

/-- The mutex after the thread has locked it. `none` is for a thread that has to wait. -/
def lock (m : Mutex τ) (t : τ) : Option (Mutex τ) :=
  match m.holder with
  | none => some { holder := some t }
  | some _ => none

/-- The threads of which `inside` holds are the ones that hold the mutex. -/
def Guards (m : Mutex τ) (inside : τ → Prop) : Prop := ∀ t, inside t ↔ m.holder = some t

variable {m m' : Mutex τ} {inside inside' : τ → Prop} {t u : τ}

/-- A free mutex guards when nobody is inside. -/
theorem guards_free (h : ∀ t, ¬ inside t) : (free : Mutex τ).Guards inside :=
  fun t => iff_of_false (h t) (by simp [free])

/-- There is one thread inside at most. -/
theorem Guards.unique (h : m.Guards inside) (ht : inside t) (hu : inside u) : t = u :=
  Option.some_inj.mp (((h t).mp ht).symm.trans ((h u).mp hu))

/-- A step that moves no thread in or out. -/
theorem Guards.of_same (h : m.Guards inside) (hsame : ∀ t, inside' t ↔ inside t) :
    m.Guards inside' := fun t => (hsame t).trans (h t)

/-- The thread that takes the mutex may go inside. -/
theorem Guards.lock (h : m.Guards inside) (hlock : m.lock t = some m') (hin : inside' t)
    (hothers : ∀ u, u ≠ t → (inside' u ↔ inside u)) : m'.Guards inside' := by
  have hm : m.holder = none ∧ m' = { holder := some t } := by
    unfold Mutex.lock at hlock
    split at hlock
    · exact ⟨‹_›, (Option.some.inj hlock).symm⟩
    · cases hlock
  obtain ⟨hfree, rfl⟩ := hm
  intro u
  by_cases hu : u = t
  · subst hu
    exact iff_of_true hin rfl
  · -- The mutex was free, so no other thread was inside.
    refine iff_of_false ?_ fun heq => hu (Option.some.inj heq).symm
    rw [hothers u hu, h u, hfree]
    simp

/-- The thread that releases the mutex goes outside. -/
theorem Guards.unlock (h : m.Guards inside) (hin : inside t) (hout : ¬ inside' t)
    (hothers : ∀ u, u ≠ t → (inside' u ↔ inside u)) : (free : Mutex τ).Guards inside' := by
  refine guards_free fun u => ?_
  by_cases hu : u = t
  · subst hu
    exact hout
  · rw [hothers u hu]
    exact fun hinside => hu (h.unique hinside hin)

end Mutex

end CrossFlow.Lib
