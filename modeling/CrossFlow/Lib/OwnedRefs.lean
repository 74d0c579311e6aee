import Mathlib.Data.Multiset.AddSub

/-!
# `CrossFlow.Lib.OwnedRefs`: the references that a program owns

A program gets a reference to an object, uses it as long as it owns it, and gives it up. What the
objects do is left open, and so is which of them are one: a reference that was given up may be got
once more.

* `owned`: what is owned after some steps, unless one of them uses or releases a reference that is
  not owned.
* `Owned.acquire`, `Owned.use`, `Owned.release`: the rule of each step.
-/

set_option autoImplicit false

namespace CrossFlow.Lib

/-- What a program does with a reference. -/
inductive RefStep (α : Type*) where
  | acquire (o : α)
  | use (o : α)
  | release (o : α)

variable {α : Type*} [DecidableEq α]

/-- What is owned after a step, if the step is about a reference that is owned. A reference that was
got twice is owned twice. -/
def RefStep.apply (refs : Multiset α) : RefStep α → Option (Multiset α)
  | .acquire o => some (o ::ₘ refs)
  | .use o => if o ∈ refs then some refs else none
  | .release o => if o ∈ refs then some (refs.erase o) else none

/-- What is owned after all steps, when nothing is owned before them. -/
def owned (steps : List (RefStep α)) : Option (Multiset α) := steps.foldlM RefStep.apply 0

/-- No step was about a reference that was not owned, and these are owned now. -/
def Owned (steps : List (RefStep α)) (refs : Multiset α) : Prop := owned steps = some refs

variable {steps : List (RefStep α)} {refs : Multiset α} {o : α}

/-- Nothing is owned before the first step. -/
theorem Owned.nil : Owned ([] : List (RefStep α)) 0 := rfl

/-- The last step is applied to what is owned before it. -/
theorem Owned.snoc (h : Owned steps refs) (step : RefStep α) :
    owned (steps ++ [step]) = step.apply refs := by
  have hbefore : steps.foldlM RefStep.apply 0 = some refs := h
  unfold owned
  rw [List.foldlM_append, hbefore]
  exact bind_pure (step.apply refs)

/-- A reference that was got is owned. -/
theorem Owned.acquire (h : Owned steps refs) (o : α) :
    Owned (steps ++ [.acquire o]) (o ::ₘ refs) :=
  h.snoc (.acquire o)

/-- A reference that is owned may be used, and is owned afterwards. -/
theorem Owned.use (h : Owned steps refs) (ho : o ∈ refs) : Owned (steps ++ [.use o]) refs :=
  (h.snoc (.use o)).trans (if_pos ho)

/-- A reference that is owned may be released, and is not owned once more. -/
theorem Owned.release (h : Owned steps (o ::ₘ refs)) : Owned (steps ++ [.release o]) refs := by
  have hlast : RefStep.apply (o ::ₘ refs) (.release o) = some ((o ::ₘ refs).erase o) :=
    if_pos (Multiset.mem_cons_self o refs)
  rw [Multiset.erase_cons_head] at hlast
  exact (h.snoc (.release o)).trans hlast

end CrossFlow.Lib
