import CrossFlow.Lib.Machine

/-!
# `CrossFlow.Lib.PastTime`: what has happened in a run

The steps of a run, newest first, each with the state it was taken in, and two operators of
past-time temporal logic over them.

* `Just P φ`: the newest step has the property `P`, and `φ` held before it.
* `Since reset φ`: `φ` held at some moment, and no step since then was a `reset`.
* `Machine.past_of_meets`: the induction rule for a property of the state reached and of the steps
  that led to it.
-/

set_option autoImplicit false

namespace CrossFlow.Lib

section
variable {ε : Type}

/-- The newest step has the property `P`, and `φ` held before it. -/
def Just (P : ε → Prop) (φ : List ε → Prop) : List ε → Prop
  | [] => False
  | e :: past => P e ∧ φ past

/-- `φ` held at some moment, and no step since then was a `reset`. -/
def Since (reset : ε → Prop) (φ : List ε → Prop) : List ε → Prop
  | [] => φ []
  | e :: past => φ (e :: past) ∨ ¬ reset e ∧ Since reset φ past

variable {reset P : ε → Prop} {φ : List ε → Prop} {e : ε} {past : List ε}

/-- Nothing has just happened at the start. -/
@[simp] theorem just_nil : ¬ Just P φ [] := id

/-- What has happened last. -/
@[simp] theorem just_cons : Just P φ (e :: past) ↔ P e ∧ φ past := Iff.rfl

/-- At the start it holds since then when it holds then. -/
@[simp] theorem since_nil : Since reset φ [] ↔ φ [] := Iff.rfl

/-- It holds now, or held and was not undone since. -/
theorem since_cons :
    Since reset φ (e :: past) ↔ φ (e :: past) ∨ ¬ reset e ∧ Since reset φ past := Iff.rfl

/-- It holds at the moment itself. -/
theorem Since.now (h : φ past) : Since reset φ past := by
  cases past with
  | nil => exact h
  | cons e past => exact .inl h

/-- A step that is no `reset` keeps it. -/
theorem Since.keep (hreset : ¬ reset e) (h : Since reset φ past) : Since reset φ (e :: past) :=
  .inr ⟨hreset, h⟩

/-- A step that neither is the one nor a `reset` changes nothing. -/
theorem since_just_cons_other (hP : ¬ P e) (hreset : ¬ reset e) :
    Since reset (Just P φ) (e :: past) ↔ Since reset (Just P φ) past := by
  rw [since_cons, just_cons, and_iff_right hreset]
  exact or_iff_right fun h => hP h.1

/-- There was such a step. -/
theorem Since.exists_mem (h : Since reset (Just P φ) past) : ∃ e ∈ past, P e := by
  induction past with
  | nil => exact h.elim
  | cons e past ih =>
    rcases h with ⟨he, -⟩ | ⟨-, h⟩
    · exact ⟨e, List.mem_cons_self, he⟩
    · obtain ⟨e', hmem, he'⟩ := ih h
      exact ⟨e', List.mem_cons_of_mem e hmem, he'⟩

/-- What held at a later moment of it held at the earlier one. -/
theorem Since.of_just (hP : ∀ e, P e → ¬ reset e)
    (h : Since reset (Just P (Since reset φ)) past) : Since reset φ past := by
  induction past with
  | nil => exact h.elim
  | cons e past ih =>
    rcases h with ⟨he, hφ⟩ | ⟨hreset, h⟩
    · exact hφ.keep (hP e he)
    · exact (ih h).keep hreset

end

namespace Machine

variable {σ α : Type}

/-- The steps of the run `acts` from `s`, newest first, in front of those in `past`. -/
def pastFrom (m : Machine σ α) : σ → List (σ × α) → List α → List (σ × α)
  | _, past, [] => past
  | s, past, a :: as => m.pastFrom (m.step s a) ((s, a) :: past) as

/-- The steps of the run `acts`, newest first. -/
def past (m : Machine σ α) (acts : List α) : List (σ × α) := m.pastFrom m.init [] acts

/-- The past of two parts of a run. -/
theorem pastFrom_append (m : Machine σ α) (s : σ) (past : List (σ × α)) (as bs : List α) :
    m.pastFrom s past (as ++ bs) = m.pastFrom (m.runFrom s as) (m.pastFrom s past as) bs := by
  induction as generalizing s past with
  | nil => rfl
  | cons a as ih => exact ih (m.step s a) ((s, a) :: past)

/-- The last step of a run is the newest. -/
theorem past_append_singleton (m : Machine σ α) (as : List α) (a : α) :
    m.past (as ++ [a]) = (m.run as, a) :: m.past as := by
  rw [past, pastFrom_append]
  rfl

/-- The induction rule for the state reached and the steps that led to it. -/
theorem past_of_meets {m : Machine σ α} {C : σ → α → Prop} {P : σ → List (σ × α) → Prop}
    (hinit : P m.init [])
    (hstep : ∀ s past a, P s past → C s a → P (m.step s a) ((s, a) :: past)) {as : List α}
    (has : m.Meets C m.init as) : P (m.run as) (m.past as) := by
  -- The rule for a run from any state, with any steps behind it.
  have hfrom : ∀ (as : List α) (s : σ) (past : List (σ × α)), P s past → m.Meets C s as →
      P (m.runFrom s as) (m.pastFrom s past as) := by
    intro as
    induction as with
    | nil =>
      intro s past hs _
      exact hs
    | cons a as ih =>
      intro s past hs has
      exact ih (m.step s a) ((s, a) :: past) (hstep s past a hs has.1) has.2
  exact hfrom as m.init [] hinit has

/-- The same for a property that every step keeps. -/
theorem past_of_step {m : Machine σ α} {P : σ → List (σ × α) → Prop} (hinit : P m.init [])
    (hstep : ∀ s past a, P s past → P (m.step s a) ((s, a) :: past)) (as : List α) :
    P (m.run as) (m.past as) :=
  past_of_meets (C := fun _ _ => True) hinit (fun s past a h _ => hstep s past a h)
    (meets_of_forall fun _ _ _ => trivial)

end Machine

end CrossFlow.Lib
