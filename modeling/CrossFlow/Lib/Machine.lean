import Mathlib.Data.List.Basic
import Mathlib.Data.List.Induction

/-!
# `CrossFlow.Lib.Machine`: runs of a step function

A `Machine` is a start state and a step function. A run is the fold of the steps over a list of
actions, so "every run" is "every list of actions". An action that is not enabled is a step that
leaves the state as it is.

* `Invariant.of_step`: the induction rule for a property of every reachable state, and
  `run_induction` for a property of a run and of the state it leads to.
* `invariant_of_meets`: the same rule for the runs whose steps all meet a condition `C`.
* `Refinement`: a view of one machine as another, where one step of the first is a list of steps
  of the second. `Refinement.view_run` carries whole runs over.
* `Machine.Reaches`, `Machine.Leads`: some actions of a kind, some steps under a condition, lead
  from one state to another.
* `Machine.total`: the sum of a quantity over the steps of a run.
* `Machine.outputs`: what the steps of a run put out.
* `Completes`: a call of several steps that runs alone until it returns. `Pending.reaches` places
  its steps in a run of a larger system.
-/

set_option autoImplicit false

namespace CrossFlow.Lib

/-- A start state and a step function. -/
structure Machine (σ α : Type) where
  init : σ
  step : σ → α → σ

namespace Machine

variable {σ α τ β : Type}

/-- The state after the actions `acts`, from `s`. -/
def runFrom (m : Machine σ α) (s : σ) (acts : List α) : σ := acts.foldl m.step s

/-- The state after the actions `acts`, from the start state. -/
def run (m : Machine σ α) (acts : List α) : σ := m.runFrom m.init acts

/-- No actions lead nowhere. -/
@[simp] theorem runFrom_nil (m : Machine σ α) (s : σ) : m.runFrom s [] = s := rfl

/-- The first action is taken, then the others. -/
@[simp] theorem runFrom_cons (m : Machine σ α) (s : σ) (a : α) (as : List α) :
    m.runFrom s (a :: as) = m.runFrom (m.step s a) as := rfl

/-- Actions are taken one after the other. -/
@[simp] theorem runFrom_append (m : Machine σ α) (s : σ) (as bs : List α) :
    m.runFrom s (as ++ bs) = m.runFrom (m.runFrom s as) bs := List.foldl_append

/-- The last action is taken where the others have led. -/
theorem run_append_singleton (m : Machine σ α) (as : List α) (a : α) :
    m.run (as ++ [a]) = m.step (m.run as) a := by
  rw [run, runFrom_append]
  rfl

/-- The steps of the run `acts` from `s` all meet `C`, each in the state it is taken in. -/
def Meets (m : Machine σ α) (C : σ → α → Prop) : σ → List α → Prop
  | _, [] => True
  | s, a :: as => C s a ∧ m.Meets C (m.step s a) as

/-- A condition is met by both parts of a run. -/
theorem meets_append {m : Machine σ α} {C : σ → α → Prop} {s : σ} {as bs : List α} :
    m.Meets C s (as ++ bs) ↔ m.Meets C s as ∧ m.Meets C (m.runFrom s as) bs := by
  induction as generalizing s with
  | nil => simp [Meets]
  | cons a as ih => simp [Meets, ih, and_assoc]

/-- A condition that does not read the state holds along a run when every action has it. -/
theorem meets_of_forall {m : Machine σ α} {C : σ → α → Prop} {s : σ} {as : List α}
    (h : ∀ a ∈ as, ∀ s, C s a) : m.Meets C s as := by
  induction as generalizing s with
  | nil => trivial
  | cons a as ih =>
    exact ⟨h a List.mem_cons_self s, ih fun b hb => h b (List.mem_cons_of_mem a hb)⟩

/-- Conditions that say the same are met by the same runs. -/
theorem meets_congr {m : Machine σ α} {C D : σ → α → Prop} (h : ∀ s a, C s a ↔ D s a) {s : σ}
    {as : List α} : m.Meets C s as ↔ m.Meets D s as := by
  induction as generalizing s with
  | nil => exact Iff.rfl
  | cons a as ih => exact and_congr (h s a) ih

/-- Steps that meet a condition meet a weaker one. -/
theorem meets_mono {m : Machine σ α} {C D : σ → α → Prop} (h : ∀ s a, C s a → D s a) {s : σ}
    {as : List α} (has : m.Meets C s as) : m.Meets D s as := by
  induction as generalizing s with
  | nil => trivial
  | cons a as ih => exact ⟨h s a has.1, ih has.2⟩

/-- The steps of a run meet `C` when each of its calls does, in the state the ones before it led
to. -/
theorem meets_iff_forall {m : Machine σ α} {C : σ → α → Prop} {s : σ} {as : List α} :
    m.Meets C s as ↔ ∀ pre a, pre ++ [a] <+: as → C (m.runFrom s pre) a := by
  induction as generalizing s with
  | nil =>
    refine iff_of_true trivial ?_
    intro pre a h
    exact absurd (List.prefix_nil.mp h) (by simp)
  | cons b as ih =>
    constructor
    · -- The first step of the run, and the steps after it by the induction.
      rintro ⟨hb, has⟩ pre a h
      cases pre with
      | nil =>
        obtain ⟨rfl, -⟩ := List.cons_prefix_cons.mp h
        exact hb
      | cons c pre =>
        obtain ⟨rfl, hpre⟩ := List.cons_prefix_cons.mp h
        exact ih.mp has pre a hpre
    · intro h
      refine ⟨h [] b (List.cons_prefix_cons.mpr ⟨rfl, List.nil_prefix⟩), ih.mpr ?_⟩
      intro pre a hpre
      exact h (b :: pre) a (List.cons_prefix_cons.mpr ⟨rfl, hpre⟩)

/-- A property that the steps under `C` preserve holds after a run whose steps meet `C`. -/
theorem runFrom_of_meets {m : Machine σ α} {C : σ → α → Prop} {P : σ → Prop}
    (hstep : ∀ s a, P s → C s a → P (m.step s a)) {s : σ} {as : List α}
    (hs : P s) (has : m.Meets C s as) : P (m.runFrom s as) := by
  induction as generalizing s with
  | nil => exact hs
  | cons a as ih => exact ih (hstep s a hs has.1) has.2

/-- Steps that are the same actions of `n` in the view make a run of `n`. -/
theorem view_runFrom_of_meets {m : Machine σ α} {n : Machine τ α} {view : σ → τ} {s : σ}
    {as : List α} (has : m.Meets (fun s a => view (m.step s a) = n.step (view s) a) s as) :
    view (m.runFrom s as) = n.runFrom (view s) as := by
  induction as generalizing s with
  | nil => rfl
  | cons a as ih => rw [runFrom_cons, runFrom_cons, ih has.2, has.1]

/-- The induction rule for the runs whose steps all meet `C`. -/
theorem invariant_of_meets {m : Machine σ α} {C : σ → α → Prop} {P : σ → Prop}
    (hinit : P m.init) (hstep : ∀ s a, P s → C s a → P (m.step s a)) {as : List α}
    (has : m.Meets C m.init as) : P (m.run as) :=
  runFrom_of_meets hstep hinit has

/-- When the steps that keep `P` and have `Q` are the ones under `C`, the runs in which `P` always
holds and all steps have `Q` are those whose steps all meet `C`. -/
theorem meets_iff_forall_run_and_meets {m : Machine σ α} {C Q : σ → α → Prop} {P : σ → Prop}
    (hinit : P m.init) (hstep : ∀ s a, P s → (P (m.step s a) ∧ Q s a ↔ C s a)) {as : List α} :
    m.Meets C m.init as ↔ (∀ pre, pre <+: as → P (m.run pre)) ∧ m.Meets Q m.init as := by
  constructor
  · intro has
    have hrun : ∀ pre, pre <+: as → P (m.run pre) := by
      rintro pre ⟨rest, rfl⟩
      refine invariant_of_meets hinit ?_ (meets_append.mp has).1
      exact fun s a hs hC => ((hstep s a hs).mpr hC).1
    -- Before each step the invariant holds already, as the steps up to there kept it.
    refine ⟨hrun, meets_iff_forall.mpr ?_⟩
    intro pre a hpre
    have hbefore := hrun pre ((List.prefix_append pre [a]).trans hpre)
    exact ((hstep _ a hbefore).mpr (meets_iff_forall.mp has pre a hpre)).2
  · -- The state after a step is on the run as well, which is what the condition is stronger by.
    rintro ⟨hrun, hQ⟩
    rw [meets_iff_forall]
    intro pre a hpre
    have hbefore := hrun pre ((List.prefix_append pre [a]).trans hpre)
    have hafter := hrun (pre ++ [a]) hpre
    rw [run_append_singleton] at hafter
    exact (hstep _ a hbefore).mp ⟨hafter, meets_iff_forall.mp hQ pre a hpre⟩

/-- The same for a property of the states alone. -/
theorem meets_iff_forall_run {m : Machine σ α} {C : σ → α → Prop} {P : σ → Prop} (hinit : P m.init)
    (hstep : ∀ s a, P s → (P (m.step s a) ↔ C s a)) {as : List α} :
    m.Meets C m.init as ↔ ∀ pre, pre <+: as → P (m.run pre) := by
  have hstep' (s : σ) (a : α) (hs : P s) : P (m.step s a) ∧ True ↔ C s a := by
    rw [and_true]
    exact hstep s a hs
  rw [meets_iff_forall_run_and_meets hinit hstep']
  exact and_iff_left (meets_of_forall fun _ _ _ => trivial)

/-- `P` holds in every reachable state. -/
def Invariant (m : Machine σ α) (P : σ → Prop) : Prop := ∀ acts, P (m.run acts)

/-- The induction rule: `P` holds at the start and every step preserves it. -/
theorem Invariant.of_step {m : Machine σ α} {P : σ → Prop} (hinit : P m.init)
    (hstep : ∀ s a, P s → P (m.step s a)) : m.Invariant P := fun _ =>
  invariant_of_meets (C := fun _ _ => True) hinit (fun s a h _ => hstep s a h)
    (meets_of_forall fun _ _ _ => trivial)

/-- A condition that keeps an invariant and implies another one under it. -/
theorem meets_of_invariant {m : Machine σ α} {C D : σ → α → Prop} {P : σ → Prop} (hinit : P m.init)
    (hstep : ∀ s a, P s → C s a → P (m.step s a)) (h : ∀ s a, P s → C s a → D s a) {as : List α}
    (has : m.Meets C m.init as) : m.Meets D m.init as := by
  have hfrom : ∀ (as : List α) (s : σ), P s → m.Meets C s as → m.Meets D s as := by
    intro as
    induction as with
    | nil => exact fun _ _ _ => trivial
    | cons a as ih =>
      exact fun s hs has => ⟨h s a hs has.1, ih _ (hstep s a hs has.1) has.2⟩
  exact hfrom as m.init hinit has

/-- In the reachable states two conditions that agree under an invariant are the same. -/
theorem meets_congr_of_invariant {m : Machine σ α} {C D : σ → α → Prop} {P : σ → Prop}
    (hinit : P m.init) (hstep : ∀ s a, P s → P (m.step s a)) (h : ∀ s a, P s → (C s a ↔ D s a))
    {as : List α} : m.Meets C m.init as ↔ m.Meets D m.init as := by
  constructor
  · exact meets_of_invariant hinit (fun s a hs _ => hstep s a hs) fun s a hs => (h s a hs).mp
  · exact meets_of_invariant hinit (fun s a hs _ => hstep s a hs) fun s a hs => (h s a hs).mpr

/-- The induction rule for what a run has to do with the actions it took. -/
theorem run_induction {m : Machine σ α} {P : List α → σ → Prop} (hnil : P [] m.init)
    (hstep : ∀ as a, P as (m.run as) → P (as ++ [a]) (m.step (m.run as) a)) (as : List α) :
    P as (m.run as) := by
  induction as using List.reverseRecOn with
  | nil => exact hnil
  | append_singleton as a ih =>
    rw [run_append_singleton]
    exact hstep as a ih

/-- Some actions, each of the kind `P`, lead from `s` to `s'`. -/
def Reaches (m : Machine σ α) (P : α → Prop) (s s' : σ) : Prop :=
  ∃ acts, (∀ a ∈ acts, P a) ∧ m.runFrom s acts = s'

/-- Every state is reached from itself. -/
theorem Reaches.refl {m : Machine σ α} {P : α → Prop} (s : σ) : m.Reaches P s s :=
  ⟨[], fun _ ha => absurd ha List.not_mem_nil, rfl⟩

/-- What is reached from a state that is reached is reached. -/
theorem Reaches.trans {m : Machine σ α} {P : α → Prop} {s s' s'' : σ}
    (h : m.Reaches P s s') (h' : m.Reaches P s' s'') : m.Reaches P s s'' := by
  obtain ⟨as, has, rfl⟩ := h
  obtain ⟨bs, hbs, rfl⟩ := h'
  refine ⟨as ++ bs, ?_, runFrom_append m s as bs⟩
  intro a ha
  rcases List.mem_append.mp ha with ha | ha
  · exact has a ha
  · exact hbs a ha

/-- A step reaches the next state. -/
theorem Reaches.single {m : Machine σ α} {P : α → Prop} {s s' : σ} {a : α} (ha : P a)
    (hstep : m.step s a = s') : m.Reaches P s s' :=
  ⟨[a], fun _ hb => List.mem_singleton.mp hb ▸ ha, hstep⟩

/-- With more actions at hand no fewer states are reached. -/
theorem Reaches.mono {m : Machine σ α} {P Q : α → Prop} {s s' : σ} (h : m.Reaches P s s')
    (hPQ : ∀ a, P a → Q a) : m.Reaches Q s s' := by
  obtain ⟨acts, hacts, hrun⟩ := h
  exact ⟨acts, fun a ha => hPQ a (hacts a ha), hrun⟩

/-- A property that the actions of the kind `P` keep holds where they lead. -/
theorem Reaches.invariant {m : Machine σ α} {P : α → Prop} {Q : σ → Prop} {s s' : σ}
    (h : m.Reaches P s s') (hQ : ∀ s a, P a → Q s → Q (m.step s a)) (hs : Q s) : Q s' := by
  obtain ⟨acts, hacts, rfl⟩ := h
  refine runFrom_of_meets (C := fun _ a => P a) (fun s a hs ha => hQ s a ha hs) hs ?_
  exact meets_of_forall fun a ha _ => hacts a ha

/-- A condition that does not read the state holds of the actions of a run whose steps meet it. -/
theorem forall_of_meets {m : Machine σ α} {C : σ → α → Prop} {P : α → Prop}
    (hC : ∀ s a, C s a → P a) {s : σ} {as : List α} (has : m.Meets C s as) : ∀ a ∈ as, P a := by
  induction as generalizing s with
  | nil => exact fun _ ha => absurd ha List.not_mem_nil
  | cons b as ih => exact List.forall_mem_cons.mpr ⟨hC s b has.1, ih has.2⟩

/-- Some steps that all meet `C` lead from `s` to `s'`. -/
def Leads (m : Machine σ α) (C : σ → α → Prop) (s s' : σ) : Prop :=
  ∃ acts, m.Meets C s acts ∧ m.runFrom s acts = s'

/-- No step leads from a state to itself. -/
theorem Leads.refl {m : Machine σ α} {C : σ → α → Prop} (s : σ) : m.Leads C s s :=
  ⟨[], trivial, rfl⟩

/-- Steps after steps. -/
theorem Leads.trans {m : Machine σ α} {C : σ → α → Prop} {s s' s'' : σ}
    (h : m.Leads C s s') (h' : m.Leads C s' s'') : m.Leads C s s'' := by
  obtain ⟨as, has, rfl⟩ := h
  obtain ⟨bs, hbs, rfl⟩ := h'
  exact ⟨as ++ bs, meets_append.mpr ⟨has, hbs⟩, runFrom_append m s as bs⟩

/-- One step under `C`. -/
theorem Leads.single {m : Machine σ α} {C : σ → α → Prop} {s s' : σ} {a : α} (ha : C s a)
    (hstep : m.step s a = s') : m.Leads C s s' := ⟨[a], ⟨ha, trivial⟩, hstep⟩

/-- A property that every step under `C` keeps holds where they lead. -/
theorem Leads.invariant {m : Machine σ α} {C : σ → α → Prop} {Q : σ → Prop} {s s' : σ}
    (h : m.Leads C s s') (hQ : ∀ s a, Q s → C s a → Q (m.step s a)) (hs : Q s) : Q s' := by
  obtain ⟨acts, hacts, rfl⟩ := h
  exact runFrom_of_meets hQ hs hacts

/-- Actions of the kind `P` are steps under `C` where they keep a property under which they
meet `C`. -/
theorem Reaches.leads {m : Machine σ α} {P : α → Prop} {C : σ → α → Prop} {Q : σ → Prop}
    {s s' : σ} (h : m.Reaches P s s') (hQ : ∀ s a, P a → Q s → C s a ∧ Q (m.step s a))
    (hs : Q s) : m.Leads C s s' := by
  obtain ⟨acts, hacts, hrun⟩ := h
  refine ⟨acts, ?_, hrun⟩
  clear hrun
  induction acts generalizing s with
  | nil => trivial
  | cons a acts ih =>
    obtain ⟨ha, hacts⟩ := List.forall_mem_cons.mp hacts
    obtain ⟨hC, hnext⟩ := hQ s a ha hs
    exact ⟨hC, ih hnext hacts⟩

/-- The sum over the steps of a run of a quantity read off each step. -/
def total (m : Machine σ α) (f : σ → α → Nat) : σ → List α → Nat
  | _, [] => 0
  | s, a :: as => f s a + m.total f (m.step s a) as

/-- The last action adds its own part. -/
theorem total_append_singleton (m : Machine σ α) (f : σ → α → Nat) (s : σ) (as : List α) (a : α) :
    m.total f s (as ++ [a]) = m.total f s as + f (m.runFrom s as) a := by
  induction as generalizing s with
  | nil => simp [total]
  | cons b as ih => simp [total, ih, Nat.add_assoc]

/-- A quantity that is read off no step adds up to nothing. -/
theorem total_eq_zero_iff {m : Machine σ α} {f : σ → α → Nat} {s : σ} {as : List α} :
    m.total f s as = 0 ↔ m.Meets (fun s a => f s a = 0) s as := by
  induction as generalizing s with
  | nil => exact iff_of_true rfl trivial
  | cons a as ih => simp only [total, Meets, Nat.add_eq_zero_iff, ih]

/-- The accounting rule. When each step keeps `x + y` in balance up to the quantities `f` and `g`
read off it, a run does up to their totals. -/
theorem total_balance {m : Machine σ α} {P : σ → Prop} {C : σ → α → Prop} {x y : σ → Nat}
    {f g : σ → α → Nat} (hP : ∀ s a, P s → C s a → P (m.step s a))
    (hstep : ∀ s a, P s → C s a → x (m.step s a) + f s a + y s = x s + g s a + y (m.step s a))
    {s : σ} {as : List α} (hs : P s) (has : m.Meets C s as) :
    x (m.runFrom s as) + m.total f s as + y s = x s + m.total g s as + y (m.runFrom s as) := by
  induction as generalizing s with
  | nil => simp only [runFrom_nil, total]
  | cons a as ih =>
    -- The balance of the first step, and the one of the rest by induction.
    have hfirst := hstep s a hs has.1
    have hrest := ih (hP s a hs has.1) has.2
    simp only [runFrom_cons, total]
    omega

/-- What the steps of a run put out, in order. -/
def outputs {ω : Type} (m : Machine σ α) (out : σ → α → List ω) : σ → List α → List ω
  | _, [] => []
  | s, a :: as => out s a ++ m.outputs out (m.step s a) as

/-- The last action puts out after all others. -/
theorem outputs_append_singleton {ω : Type} (m : Machine σ α) (out : σ → α → List ω) (s : σ)
    (as : List α) (a : α) :
    m.outputs out s (as ++ [a]) = m.outputs out s as ++ out (m.runFrom s as) a := by
  induction as generalizing s with
  | nil => simp [outputs]
  | cons b as ih => simp [outputs, ih]

/-- A machine that is seen, where `P` holds, to do the same and put out the same as another. -/
theorem outputs_of_view {ω : Type} {m : Machine σ α} {n : Machine τ α} {out : σ → α → List ω}
    {out' : τ → α → List ω} {view : σ → τ} {P : σ → Prop} (hP : ∀ s a, P s → P (m.step s a))
    (hview : ∀ s a, P s → view (m.step s a) = n.step (view s) a)
    (hout : ∀ s a, P s → out s a = out' (view s) a) {s : σ} (hs : P s) (as : List α) :
    view (m.runFrom s as) = n.runFrom (view s) as ∧
      m.outputs out s as = n.outputs out' (view s) as := by
  induction as generalizing s with
  | nil => exact ⟨rfl, rfl⟩
  | cons a as ih =>
    obtain ⟨hrun, houts⟩ := ih (hP s a hs)
    rw [hview s a hs] at hrun houts
    constructor
    · rw [runFrom_cons, runFrom_cons, hrun]
    · rw [outputs, outputs, hout s a hs, houts]

/-- Whether a run meets a condition is decided step by step. -/
instance decidableMeets (m : Machine σ α) (C : σ → α → Prop) [∀ s a, Decidable (C s a)] :
    ∀ (s : σ) (as : List α), Decidable (m.Meets C s as)
  | _, [] => .isTrue trivial
  | s, a :: as =>
    have : Decidable (m.Meets C (m.step s a) as) := m.decidableMeets C (m.step s a) as
    inferInstanceAs (Decidable (C s a ∧ m.Meets C (m.step s a) as))

end Machine

/-! ### Calls that run alone -/

section
variable {σ τ α ρ : Type}

/-- Steps of a call that is not over: `step` returns a result with the last step only. -/
inductive Pending (step : σ → σ × Option ρ) : σ → σ → Prop where
  | refl (s : σ) : Pending step s s
  | step {s s' : σ} (hret : (step s).2 = none) (h : Pending step (step s).1 s') :
    Pending step s s'

/-- The call in progress in `s`, run alone, returns `r` in `s'`. -/
def Completes (step : σ → σ × Option ρ) (s : σ) (r : ρ) (s' : σ) : Prop :=
  ∃ last, Pending step s last ∧ step last = (s', some r)

/-- One more step in front. -/
theorem Pending.of_step {step : σ → σ × Option ρ} {s s' s'' : σ} (hstep : step s = (s', none))
    (h : Pending step s' s'') : Pending step s s'' := by
  refine .step (by rw [hstep]) ?_
  rw [hstep]
  exact h

/-- A step that gives no result leads on. -/
theorem Completes.of_step {step : σ → σ × Option ρ} {s t u : σ} {r : ρ}
    (hstep : step s = (t, none)) (h : Completes step t r u) : Completes step s r u := by
  obtain ⟨last, hpending, hlast⟩ := h
  exact ⟨last, hpending.of_step hstep, hlast⟩

/-- A step that gives a result is the last one. -/
theorem Completes.of_last {step : σ → σ × Option ρ} {s s' : σ} {r : ρ}
    (hstep : step s = (s', some r)) : Completes step s r s' := ⟨s, .refl s, hstep⟩

/-- A call that runs alone has one outcome. -/
theorem Completes.unique {step : σ → σ × Option ρ} {s s₁ s₂ : σ} {r₁ r₂ : ρ}
    (h₁ : Completes step s r₁ s₁) (h₂ : Completes step s r₂ s₂) : r₁ = r₂ ∧ s₁ = s₂ := by
  obtain ⟨last₁, hpending, hlast₁⟩ := h₁
  induction hpending with
  | refl s =>
    obtain ⟨last₂, hpending₂, hlast₂⟩ := h₂
    cases hpending₂ with
    | refl _ => simp_all
    | step hret _ => simp [hlast₁] at hret
  | step hret _ ih =>
    -- The first step is the same for both, so the second call is not over either.
    refine ih ?_ hlast₁
    obtain ⟨last₂, hpending₂, hlast₂⟩ := h₂
    cases hpending₂ with
    | refl _ => simp [hlast₂] at hret
    | step _ hrest => exact ⟨last₂, hrest, hlast₂⟩

/-- What the steps keep holds when the call has returned. -/
theorem Completes.keeps {step : σ → σ × Option ρ} {P : σ → Prop}
    (hP : ∀ s, P s → P (step s).1) {s s' : σ} {r : ρ} (h : Completes step s r s') (hs : P s) :
    P s' := by
  obtain ⟨last, hpending, hlast⟩ := h
  have hend : P last := by
    induction hpending with
    | refl s => exact hs
    | step _ _ ih => exact ih (hP _ hs) hlast
  have hstep := hP last hend
  rwa [hlast] at hstep

/-- A call that is seen as another one completes when that does. -/
theorem Completes.of_view {step : σ → σ × Option ρ} {step' : τ → τ × Option ρ} (view : σ → τ)
    (hview : ∀ s, step' (view s) = (view (step s).1, (step s).2)) {s : σ} {r : ρ} {t : τ}
    (h : Completes step' (view s) r t) : ∃ s', Completes step s r s' ∧ view s' = t := by
  obtain ⟨last, hpending, hlast⟩ := h
  generalize hs : view s = start at hpending
  induction hpending generalizing s with
  | refl start =>
    rw [← hs, hview, Prod.mk.injEq] at hlast
    exact ⟨(step s).1, .of_last (Prod.ext rfl hlast.2), hlast.1⟩
  | step hret _ ih =>
    rw [← hs, hview] at hret
    obtain ⟨s', hcompletes, hs'⟩ := ih (s := (step s).1) hlast (by rw [← hs, hview])
    exact ⟨s', hcompletes.of_step (Prod.ext rfl hret), hs'⟩

/-- The steps of a call that is part of a larger system: `put` places the caller's state in the
system's, and the action `a` makes the call's next step there. -/
theorem Pending.reaches {step : σ → σ × Option ρ} {m : Machine τ α} {P : α → Prop} {a : α}
    (put : σ → τ) (ha : P a)
    (hstep : ∀ s, (step s).2 = none → m.step (put s) a = put (step s).1) {s s' : σ}
    (h : Pending step s s') : m.Reaches P (put s) (put s') := by
  induction h with
  | refl s => exact .refl (put s)
  | step hret _ ih => exact (Machine.Reaches.single ha (hstep _ hret)).trans ih

end

/-- A view of the machine `m` as the machine `n`. One step of `m` is seen as the list
`acts s a` of steps of `n`, which may be empty. -/
structure Refinement {σ α τ β : Type} (m : Machine σ α) (n : Machine τ β) where
  view : σ → τ
  acts : σ → α → List β
  view_init : view m.init = n.init
  view_step : ∀ s a, view (m.step s a) = n.runFrom (view s) (acts s a)

namespace Refinement

variable {σ α τ β : Type} {m : Machine σ α} {n : Machine τ β}

/-- The steps of `n` that a run of `m` from `s` is seen as. -/
def trace (R : Refinement m n) : σ → List α → List β
  | _, [] => []
  | s, a :: as => R.acts s a ++ R.trace (m.step s a) as

/-- A run of the machine is seen as a run of the other one. -/
theorem view_runFrom (R : Refinement m n) (s : σ) (as : List α) :
    R.view (m.runFrom s as) = n.runFrom (R.view s) (R.trace s as) := by
  induction as generalizing s with
  | nil => rfl
  | cons a as ih =>
    rw [Machine.runFrom_cons, ih, R.view_step, trace, Machine.runFrom_append]

/-- A run of `m` is seen as a run of `n`. -/
theorem view_run (R : Refinement m n) (as : List α) :
    R.view (m.run as) = n.run (R.trace m.init as) := by
  unfold Machine.run
  rw [view_runFrom, R.view_init]

/-- A view of a view. -/
def comp {υ γ : Type} {k : Machine υ γ} (S : Refinement n k) (R : Refinement m n) :
    Refinement m k where
  view s := S.view (R.view s)
  acts s a := S.trace (R.view s) (R.acts s a)
  view_init := by rw [R.view_init, S.view_init]
  view_step s a := by rw [R.view_step, S.view_runFrom]

/-- What every step of `n` preserves is preserved in the view. -/
theorem view_preserves (R : Refinement m n) {P : τ → Prop} (hP : ∀ t b, P t → P (n.step t b))
    {s : σ} (a : α) (hs : P (R.view s)) : P (R.view (m.step s a)) := by
  rw [R.view_step]
  exact Machine.runFrom_of_meets (C := fun _ _ => True) (fun t b ht _ => hP t b ht) hs
    (Machine.meets_of_forall fun _ _ _ => trivial)

/-- A step of `n` in a trace is one that some step of `m` is seen as. -/
theorem mem_trace (R : Refinement m n) {s : σ} {as : List α} {b : β} (hb : b ∈ R.trace s as) :
    ∃ s' a, a ∈ as ∧ b ∈ R.acts s' a := by
  induction as generalizing s with
  | nil => exact absurd hb List.not_mem_nil
  | cons a as ih =>
    rw [trace, List.mem_append] at hb
    rcases hb with hb | hb
    · exact ⟨s, a, List.mem_cons_self, hb⟩
    · obtain ⟨s', a', ha', hb'⟩ := ih hb
      exact ⟨s', a', List.mem_cons_of_mem a ha', hb'⟩

/-- A view that keeps or drops each step sees a run as a sublist of it. -/
theorem trace_sublist {m n : Machine σ α} (R : Refinement m n)
    (h : ∀ s a, (R.acts s a).Sublist [a]) (s : σ) (as : List α) : (R.trace s as).Sublist as := by
  induction as generalizing s with
  | nil => exact List.Sublist.refl []
  | cons a as ih => exact (h s a).append (ih (m.step s a))

end Refinement

end CrossFlow.Lib
