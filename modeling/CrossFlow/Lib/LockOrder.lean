import CrossFlow.Lib.Machine
import CrossFlow.Lib.Mutex
import Mathlib.Algebra.Order.BigOperators.Group.Finset
import Mathlib.Logic.Function.Basic

/-!
# `CrossFlow.Lib.LockOrder`: threads that wait for mutexes and for each other

A thread has a list of operations left: it locks and unlocks mutexes, waits for other threads to end,
and does other things, which always end. A `LockOrder` gives every mutex a rank and every thread a
level. A program respects it when it locks a mutex only while it holds lower ones, unlocks the mutex
that it locked last, and waits for threads of lower levels only, while it holds no mutex.

* `Ordered.can_step`: where all programs respect the order, some thread can go on.
* `Ordered.finishes`: so all of them can come to their end.
* `reenters_run`: a thread that locks a mutex it holds never comes to its end.
-/

set_option autoImplicit false

namespace CrossFlow.Lib

/-- What a thread does with mutexes and other threads. -/
inductive LockOp (μ θ : Type) where
  | acquire (m : μ)
  | release (m : μ)
  | join (t : θ)
  | other

/-- The mutexes, and the threads. -/
structure LockState (μ θ : Type) where
  mutexes : μ → Mutex θ
  /-- What the thread has still to do. -/
  left : θ → List (LockOp μ θ)

/-- A thread starts, or takes a step. -/
inductive LockAction (μ θ : Type) where
  /-- A thread that has nothing left gets a program. -/
  | start (t : θ) (program : List (LockOp μ θ))
  | step (t : θ)

section
variable {μ θ : Type} [DecidableEq μ] [DecidableEq θ]

namespace LockState

/-- All mutexes are free, and no thread has anything to do. -/
def init : LockState μ θ where
  mutexes _ := .free
  left _ := []

/-- The thread has done the first of its operations. -/
def pop (s : LockState μ θ) (t : θ) : LockState μ θ :=
  { s with left := Function.update s.left t (s.left t).tail }

/-- The next operation of the thread. `none` is for a thread that waits, that has nothing left, or
that would unlock a mutex which it does not hold. -/
def step (s : LockState μ θ) (t : θ) : Option (LockState μ θ) :=
  match s.left t with
  | [] => none
  | .acquire m :: _ =>
    match (s.mutexes m).lock t with
    | some mutex => some { s.pop t with mutexes := Function.update s.mutexes m mutex }
    | none => none
  | .release m :: _ =>
    if (s.mutexes m).holder = some t then
      some { s.pop t with mutexes := Function.update s.mutexes m .free }
    else none
  | .join u :: _ => if (s.left u).isEmpty then some (s.pop t) else none
  | .other :: _ => some (s.pop t)

end LockState

/-- Threads with mutexes, in every interleaving. A thread that cannot go on leaves all as it is. -/
def lockMachine : Machine (LockState μ θ) (LockAction μ θ) where
  init := .init
  step s
    | .start t program =>
      if (s.left t).isEmpty then { s with left := Function.update s.left t program } else s
    | .step t => (s.step t).getD s

/-! ### The order -/

/-- A rank of the mutexes and a level of the threads. -/
structure LockOrder (μ θ : Type) where
  rank : μ → Nat
  bound : Nat
  rank_lt : ∀ m, rank m < bound
  level : θ → Nat

namespace LockOrder

/-- The mutexes that the thread holds after the program, if this respects the order. The one that
was locked last is the first. -/
def check (o : LockOrder μ θ) (t : θ) : List μ → List (LockOp μ θ) → Option (List μ)
  | held, [] => some held
  | held, .acquire m :: program =>
    if ∀ m' ∈ held, o.rank m' < o.rank m then o.check t (m :: held) program else none
  | held, .release m :: program =>
    match held with
    | [] => none
    | m' :: held => if m' = m then o.check t held program else none
  | held, .join u :: program =>
    if held = [] ∧ o.level u < o.level t then o.check t held program else none
  | held, .other :: program => o.check t held program

/-- The program takes mutexes in the order of their ranks and waits for lower threads only, and
holds none at its end. -/
def Respects (o : LockOrder μ θ) (t : θ) (program : List (LockOp μ θ)) : Prop :=
  o.check t [] program = some []

omit [DecidableEq θ] in
/-- A program is checked one part after the other. -/
theorem check_append (o : LockOrder μ θ) (t : θ) (held : List μ) (p q : List (LockOp μ θ)) :
    o.check t held (p ++ q) = (o.check t held p).bind fun held' => o.check t held' q := by
  induction p generalizing held with
  | nil => rfl
  | cons op p ih =>
    -- Each operation is checked with what is held before it, whatever comes after.
    cases op with
    | acquire m =>
      rw [List.cons_append, check, check]
      split
      · exact ih (m :: held)
      · rfl
    | release m =>
      cases held with
      | nil => rfl
      | cons m' held =>
        rw [List.cons_append, check, check]
        split
        · exact ih held
        · rfl
    | join u =>
      rw [List.cons_append, check, check]
      split
      · exact ih held
      · rfl
    | other => exact ih held

omit [DecidableEq θ] in
/-- What a thread does first, while it holds some mutexes. -/
theorem check_cons_cases {o : LockOrder μ θ} {t : θ} {held held' : List μ} {op : LockOp μ θ}
    {p : List (LockOp μ θ)} (h : o.check t held (op :: p) = some held') :
    (∃ m, op = .acquire m ∧ (∀ m' ∈ held, o.rank m' < o.rank m) ∧
      o.check t (m :: held) p = some held') ∨
    (∃ m rest, op = .release m ∧ held = m :: rest ∧ o.check t rest p = some held') ∨
    (∃ u, op = .join u ∧ held = [] ∧ o.level u < o.level t ∧ o.check t held p = some held') ∨
    (op = .other ∧ o.check t held p = some held') := by
  -- Of the two ways in which a check goes on, only the one that passes is left.
  cases op with
  | acquire m =>
    rw [check] at h
    split at h
    · next hrank => exact .inl ⟨m, rfl, hrank, h⟩
    · cases h
  | release m =>
    cases held with
    | nil => cases h
    | cons m' rest =>
      rw [check] at h
      split at h
      · next heq =>
        subst heq
        exact .inr (.inl ⟨m', rest, rfl, rfl, h⟩)
      · cases h
  | join u =>
    rw [check] at h
    split at h
    · next hjoin => exact .inr (.inr (.inl ⟨u, rfl, hjoin.1, hjoin.2, h⟩))
    · cases h
  | other => exact .inr (.inr (.inr ⟨rfl, h⟩))

end LockOrder

namespace LockState

variable {s s' : LockState μ θ} {t u : θ}

/-! ### Steps -/

omit [DecidableEq μ] in
/-- A thread that takes a step has one operation less to do. -/
theorem left_pop_self (s : LockState μ θ) (t : θ) : (s.pop t).left t = (s.left t).tail :=
  Function.update_self t _ s.left

omit [DecidableEq μ] in
/-- The other threads have to do what they had. -/
theorem left_pop_of_ne (s : LockState μ θ) (h : u ≠ t) : (s.pop t).left u = s.left u :=
  Function.update_of_ne h _ s.left

/-- A step does the first operation of its thread. -/
theorem step_cases (h : s.step t = some s') :
    ∃ op p, s.left t = op :: p ∧ s'.left = (s.pop t).left ∧
      ((∃ m, op = .acquire m ∧ (s.mutexes m).holder = none ∧
        s'.mutexes = Function.update s.mutexes m { holder := some t }) ∨
      (∃ m, op = .release m ∧ (s.mutexes m).holder = some t ∧
        s'.mutexes = Function.update s.mutexes m .free) ∨
      (∃ u, op = .join u ∧ s.left u = [] ∧ s'.mutexes = s.mutexes) ∨
      (op = .other ∧ s'.mutexes = s.mutexes)) := by
  unfold step at h
  cases hleft : s.left t with
  | nil =>
    rw [hleft] at h
    cases h
  | cons op p =>
    rw [hleft] at h
    -- A thread goes on by exactly its next operation, if the state admits it.
    refine ⟨op, p, rfl, ?_⟩
    cases op with
    | acquire m =>
      dsimp only at h
      unfold Mutex.lock at h
      cases hholder : (s.mutexes m).holder with
      | none =>
        rw [hholder] at h
        cases h
        exact ⟨rfl, .inl ⟨m, rfl, hholder, rfl⟩⟩
      | some u =>
        rw [hholder] at h
        cases h
    | release m =>
      dsimp only at h
      split at h
      · next hholder =>
        cases h
        exact ⟨rfl, .inr (.inl ⟨m, rfl, hholder, rfl⟩)⟩
      · cases h
    | join u =>
      dsimp only at h
      split at h
      · next hempty =>
        cases h
        exact ⟨rfl, .inr (.inr (.inl ⟨u, rfl, List.isEmpty_iff.mp hempty, rfl⟩))⟩
      · cases h
    | other =>
      cases h
      exact ⟨rfl, .inr (.inr (.inr ⟨rfl, rfl⟩))⟩

/-- A step takes the first operation of its thread from what is left. -/
theorem left_of_step (h : s.step t = some s') :
    (∃ op, s.left t = op :: s'.left t) ∧ ∀ u, u ≠ t → s'.left u = s.left u := by
  obtain ⟨op, p, hcons, hleft, -⟩ := step_cases h
  refine ⟨⟨op, ?_⟩, fun u hu => ?_⟩
  · rw [hleft, left_pop_self, hcons]
    rfl
  · rw [hleft, s.left_pop_of_ne hu]

/-- There is one operation less to do. -/
theorem sum_left_lt (h : s.step t = some s') {threads : Finset θ} (ht : t ∈ threads) :
    ∑ u ∈ threads, (s'.left u).length < ∑ u ∈ threads, (s.left u).length := by
  obtain ⟨⟨op, hcons⟩, hothers⟩ := left_of_step h
  refine Finset.sum_lt_sum (fun u _ => ?_) ⟨t, ht, ?_⟩
  · by_cases hu : u = t
    · rw [hu, hcons, List.length_cons]
      omega
    · rw [hothers u hu]
  · rw [hcons, List.length_cons]
    omega

/-- A thread that cannot go on waits for a mutex or for another thread, or does not hold what it
unlocks. -/
theorem step_eq_none_cases (h : s.step t = none) (hleft : s.left t ≠ []) :
    (∃ m p u, s.left t = .acquire m :: p ∧ (s.mutexes m).holder = some u) ∨
    (∃ u p, s.left t = .join u :: p ∧ s.left u ≠ []) ∨
      ∃ m p, s.left t = .release m :: p ∧ (s.mutexes m).holder ≠ some t := by
  unfold step at h
  -- Each operation is stuck in one way only: a held mutex, a thread not done, a mutex not its own.
  cases hcons : s.left t with
  | nil => exact absurd hcons hleft
  | cons op p =>
    rw [hcons] at h
    cases op with
    | acquire m =>
      dsimp only at h
      unfold Mutex.lock at h
      cases hholder : (s.mutexes m).holder with
      | none =>
        rw [hholder] at h
        cases h
      | some u => exact .inl ⟨m, p, u, rfl, hholder⟩
    | release m =>
      dsimp only at h
      split at h
      · cases h
      · next hholder => exact .inr (.inr ⟨m, p, rfl, hholder⟩)
    | join u =>
      dsimp only at h
      split at h
      · cases h
      · next hempty =>
        refine .inr (.inl ⟨u, p, rfl, fun hnil => hempty ?_⟩)
        rw [hnil]
        rfl
    | other => cases h

end LockState

/-! ### Programs that respect the order -/

/-- Each thread holds mutexes with which the rest of its program respects the order. -/
structure Ordered (o : LockOrder μ θ) (s : LockState μ θ) (held : θ → List μ) : Prop where
  mem_held : ∀ t m, m ∈ held t ↔ (s.mutexes m).holder = some t
  nodup : ∀ t, (held t).Nodup
  check : ∀ t, o.check t (held t) (s.left t) = some []

namespace Ordered

variable {o : LockOrder μ θ} {s s' : LockState μ θ} {held : θ → List μ} {t u : θ}

omit [DecidableEq θ] in
/-- At the start nobody holds anything. -/
theorem init (o : LockOrder μ θ) : Ordered o .init fun _ => [] where
  mem_held _ _ := iff_of_false List.not_mem_nil (by simp [LockState.init, Mutex.free])
  nodup _ := List.nodup_nil
  check _ := rfl

omit [DecidableEq θ] in
/-- A thread without a program holds nothing. -/
theorem held_eq_nil (h : Ordered o s held) (hleft : s.left t = []) : held t = [] := by
  have hcheck := h.check t
  rw [hleft] at hcheck
  exact Option.some.inj hcheck

/-- A program that respects the order may be started. -/
theorem start (h : Ordered o s held) (hleft : s.left t = []) {program : List (LockOp μ θ)}
    (hprogram : o.Respects t program) :
    Ordered o { s with left := Function.update s.left t program } held where
  mem_held := h.mem_held
  nodup := h.nodup
  check u := by
    show o.check u (held u) (Function.update s.left t program u) = some []
    by_cases hu : u = t
    · rw [hu, Function.update_self, h.held_eq_nil hleft]
      exact hprogram
    · rw [Function.update_of_ne hu]
      exact h.check u

/-- A step of a thread changes what this thread holds. -/
theorem of_step (h : Ordered o s held) (now : List μ)
    (hleft : ∀ u, u ≠ t → s'.left u = s.left u) (hnow : o.check t now (s'.left t) = some [])
    (hnodup : now.Nodup) (hself : ∀ m, m ∈ now ↔ (s'.mutexes m).holder = some t)
    (hothers : ∀ m u, u ≠ t → ((s'.mutexes m).holder = some u ↔ (s.mutexes m).holder = some u)) :
    Ordered o s' (Function.update held t now) where
  mem_held u m := by
    -- The thread that moved holds what it holds now, and the others what they held.
    by_cases hu : u = t
    · rw [hu, Function.update_self]
      exact hself m
    · rw [Function.update_of_ne hu, h.mem_held, hothers m u hu]
  nodup u := by
    by_cases hu : u = t
    · rw [hu, Function.update_self]
      exact hnodup
    · rw [Function.update_of_ne hu]
      exact h.nodup u
  check u := by
    by_cases hu : u = t
    · rw [hu, Function.update_self]
      exact hnow
    · rw [Function.update_of_ne hu, hleft u hu]
      exact h.check u

/-- A step that locks and unlocks nothing. -/
theorem of_same (h : Ordered o s held) (hleft : ∀ u, u ≠ t → s'.left u = s.left u)
    (hnow : o.check t (held t) (s'.left t) = some []) (hmutexes : s'.mutexes = s.mutexes) :
    Ordered o s' (Function.update held t (held t)) := by
  refine h.of_step (held t) hleft hnow (h.nodup t) (fun m => ?_) fun m u _ => ?_
  · rw [hmutexes, h.mem_held]
  · rw [hmutexes]

/-- The step lemma. -/
theorem step (h : Ordered o s held) (hstep : s.step t = some s') :
    ∃ held', Ordered o s' held' := by
  obtain ⟨op, p, hleft, hleft', hop⟩ := LockState.step_cases hstep
  have hself : s'.left t = p := by
    rw [hleft', LockState.left_pop_self, hleft]
    rfl
  have hothers : ∀ u, u ≠ t → s'.left u = s.left u := fun u hu => by
    rw [hleft', s.left_pop_of_ne hu]
  have hcheck := h.check t
  rw [hleft] at hcheck
  -- The thread does what the order allows it to do with what it holds.
  rcases LockOrder.check_cons_cases hcheck with ⟨m, rfl, hrank, hrest⟩ |
    ⟨m, rest, rfl, hheld, hrest⟩ | ⟨u, rfl, -, -, hrest⟩ | ⟨rfl, hrest⟩
  · rcases hop with ⟨m', hm, hfree, hmutexes⟩ | ⟨m', hm, -⟩ | ⟨u, hm, -⟩ | ⟨hm, -⟩ <;> cases hm
    -- It locks `m`, which is above all that it holds, so it has not locked it before.
    have hnew : m ∉ held t := fun hm => Nat.lt_irrefl _ (hrank m hm)
    refine ⟨_, h.of_step (m :: held t) hothers ?_ (List.nodup_cons.mpr ⟨hnew, h.nodup t⟩)
      (fun m' => ?_) fun m' u hu => ?_⟩
    · rw [hself]
      exact hrest
    · rw [hmutexes]
      by_cases hm' : m' = m
      · subst hm'
        rw [Function.update_self]
        exact iff_of_true List.mem_cons_self rfl
      · rw [Function.update_of_ne hm', List.mem_cons, or_iff_right hm', h.mem_held]
    · rw [hmutexes]
      by_cases hm' : m' = m
      · subst hm'
        rw [Function.update_self, hfree]
        exact iff_of_false (fun heq => hu (Option.some.inj heq).symm) nofun
      · rw [Function.update_of_ne hm']
  · rcases hop with ⟨m', hm, -⟩ | ⟨m', hm, -, hmutexes⟩ | ⟨u, hm, -⟩ | ⟨hm, -⟩ <;> cases hm
    -- It unlocks `m`, the last that it has locked.
    have hnodup := h.nodup t
    rw [hheld] at hnodup
    obtain ⟨hnotin, hrestNodup⟩ := List.nodup_cons.mp hnodup
    have hholder : (s.mutexes m).holder = some t := by
      rw [← h.mem_held, hheld]
      exact List.mem_cons_self
    refine ⟨_, h.of_step rest hothers ?_ hrestNodup (fun m' => ?_) fun m' u hu => ?_⟩
    · rw [hself]
      exact hrest
    · rw [hmutexes]
      by_cases hm' : m' = m
      · subst hm'
        rw [Function.update_self]
        exact iff_of_false hnotin nofun
      · rw [Function.update_of_ne hm', ← h.mem_held, hheld, List.mem_cons, or_iff_right hm']
    · rw [hmutexes]
      by_cases hm' : m' = m
      · subst hm'
        rw [Function.update_self, hholder]
        exact iff_of_false nofun fun heq => hu (Option.some.inj heq).symm
      · rw [Function.update_of_ne hm']
  · rcases hop with ⟨m', hm, -⟩ | ⟨m', hm, -⟩ | ⟨u, hm, -, hmutexes⟩ | ⟨hm, -⟩ <;> cases hm
    exact ⟨_, h.of_same hothers (hself ▸ hrest) hmutexes⟩
  · rcases hop with ⟨m', hm, -⟩ | ⟨m', hm, -⟩ | ⟨u, hm, -⟩ | ⟨-, hmutexes⟩
    · cases hm
    · cases hm
    · cases hm
    exact ⟨_, h.of_same hothers (hself ▸ hrest) hmutexes⟩

/-! #### Progress -/

/-- A thread that cannot go on waits for a mutex above those it holds, or holds none and waits for a
thread on a lower level. -/
theorem waits (h : Ordered o s held) (hwaits : s.step t = none) (hleft : s.left t ≠ []) :
    (∃ m u, (∀ m' ∈ held t, o.rank m' < o.rank m) ∧ (s.mutexes m).holder = some u) ∨
      held t = [] ∧ ∃ u, o.level u < o.level t ∧ s.left u ≠ [] := by
  have hcheck := h.check t
  rcases LockState.step_eq_none_cases hwaits hleft with ⟨m, p, u, hcons, hholder⟩ |
    ⟨u, p, hcons, hunfinished⟩ | ⟨m, p, hcons, hholder⟩
  all_goals
    rw [hcons] at hcheck
    rcases LockOrder.check_cons_cases hcheck with ⟨_, hop, hrank, -⟩ | ⟨_, rest, hop, hheld, -⟩ |
      ⟨_, hop, hnil, hlevel, -⟩ | ⟨hop, -⟩ <;> cases hop
  · exact .inl ⟨m, u, hrank, hholder⟩
  · exact .inr ⟨hnil, u, hlevel, hunfinished⟩
  · -- The order lets a thread unlock only what it holds.
    refine absurd ((h.mem_held t m).mp ?_) hholder
    rw [hheld]
    exact List.mem_cons_self

/-- A thread that holds a mutex of a rank can go on, or waits for one of a higher rank. -/
theorem waits_higher (h : Ordered o s held) {m : μ} (hm : (s.mutexes m).holder = some t)
    (hwaits : s.step t = none) :
    ∃ m' u, o.rank m < o.rank m' ∧ (s.mutexes m').holder = some u := by
  have hheld : m ∈ held t := (h.mem_held t m).mpr hm
  have hleft : s.left t ≠ [] := fun hnil => by
    rw [h.held_eq_nil hnil] at hheld
    exact absurd hheld List.not_mem_nil
  rcases h.waits hwaits hleft with ⟨m', u, hrank, hholder⟩ | ⟨hnil, -⟩
  · exact ⟨m', u, hrank m hheld, hholder⟩
  · rw [hnil] at hheld
    exact absurd hheld List.not_mem_nil

/-- Where a mutex is held, some thread can go on. -/
theorem can_step_of_held (h : Ordered o s held) {m : μ} (hm : (s.mutexes m).holder = some t) :
    ∃ u, s.step u ≠ none := by
  -- The holder waits for a mutex of a higher rank, and so on, but no rank reaches the bound.
  induction hk : o.bound - o.rank m using Nat.strong_induction_on generalizing m t with
  | h k ih =>
    by_cases hstep : s.step t = none
    · obtain ⟨m', u, hrank, hholder⟩ := h.waits_higher hm hstep
      have hlt := o.rank_lt m'
      exact ih (o.bound - o.rank m') (by omega) hholder rfl
    · exact ⟨t, hstep⟩

/-- Where all programs respect the order, some thread can go on, unless none has anything left. -/
theorem can_step (h : Ordered o s held) (hleft : s.left t ≠ []) : ∃ u, s.step u ≠ none := by
  -- A thread that waits for another one holds nothing, and the other is on a lower level.
  induction hk : o.level t using Nat.strong_induction_on generalizing t with
  | h k ih =>
    by_cases hstep : s.step t = none
    · rcases h.waits hstep hleft with ⟨m, u, -, hholder⟩ | ⟨-, u, hlevel, hunfinished⟩
      · exact h.can_step_of_held hholder
      · rw [hk] at hlevel
        exact ih _ hlevel hunfinished rfl
    · exact ⟨t, hstep⟩

/-- All threads can come to the end of their programs. -/
theorem finishes (h : Ordered o s held) {threads : Finset θ}
    (hthreads : ∀ t, t ∉ threads → s.left t = []) :
    ∃ s', lockMachine.Reaches (fun a => ∃ t, a = .step t) s s' ∧ ∀ t, s'.left t = [] := by
  -- On the operations that are left: as long as there are any, some thread does one.
  induction hn : ∑ t ∈ threads, (s.left t).length using Nat.strong_induction_on
    generalizing s held with
  | h n ih =>
    by_cases hend : ∀ t, s.left t = []
    · exact ⟨s, .refl s, hend⟩
    · rw [not_forall] at hend
      obtain ⟨t, hleft⟩ := hend
      obtain ⟨u, hu⟩ := h.can_step hleft
      obtain ⟨s₁, hstep⟩ := Option.ne_none_iff_exists'.mp hu
      obtain ⟨⟨op, hcons⟩, hothers⟩ := LockState.left_of_step hstep
      obtain ⟨held₁, h₁⟩ := h.step hstep
      have hmem : u ∈ threads := by
        by_contra hnot
        rw [hthreads u hnot] at hcons
        cases hcons
      have hthreads₁ : ∀ v, v ∉ threads → s₁.left v = [] := fun v hv => by
        rw [hothers v fun heq => hv (heq ▸ hmem)]
        exact hthreads v hv
      have hless : ∑ v ∈ threads, (s₁.left v).length < n := hn ▸ LockState.sum_left_lt hstep hmem
      obtain ⟨s', hreaches, hend⟩ := ih _ hless h₁ hthreads₁ rfl
      have hmachine : lockMachine.step s (.step u) = s₁ := by
        show (s.step u).getD s = s₁
        rw [hstep]
        rfl
      exact ⟨s', (Machine.Reaches.single ⟨u, rfl⟩ hmachine).trans hreaches, hend⟩

end Ordered

/-! ### Runs -/

/-- The programs that are started respect the order. -/
def LockOrder.Starts (o : LockOrder μ θ) (_ : LockState μ θ) : LockAction μ θ → Prop
  | .start t program => o.Respects t program
  | .step _ => True

/-- The threads keep to the order in every run. -/
theorem ordered_run {o : LockOrder μ θ} {as : List (LockAction μ θ)}
    (has : lockMachine.Meets o.Starts lockMachine.init as) :
    ∃ held, Ordered o (lockMachine.run as) held := by
  refine Machine.invariant_of_meets (P := fun s => ∃ held, Ordered o s held) ⟨_, Ordered.init o⟩ ?_
    has
  rintro s a ⟨held, h⟩ ha
  cases a with
  | start t program =>
    show ∃ held, Ordered o (if (s.left t).isEmpty then _ else s) held
    split
    · next hempty => exact ⟨held, h.start (List.isEmpty_iff.mp hempty) ha⟩
    · exact ⟨held, h⟩
  | step t =>
    show ∃ held, Ordered o ((s.step t).getD s) held
    cases hstep : s.step t with
    | none => exact ⟨held, h⟩
    | some s' => exact h.step hstep

/-- In a run finitely many threads get a program. -/
theorem threads_run (as : List (LockAction μ θ)) :
    ∃ threads : Finset θ, ∀ t, t ∉ threads → (lockMachine.run as).left t = [] := by
  have hinv : (lockMachine (μ := μ) (θ := θ)).Invariant
      fun s => ∃ threads : Finset θ, ∀ t, t ∉ threads → s.left t = [] := by
    refine .of_step ⟨∅, fun _ _ => rfl⟩ ?_
    rintro s a ⟨threads, h⟩
    cases a with
    | start t program =>
      refine ⟨insert t threads, fun u hu => ?_⟩
      rw [Finset.mem_insert, not_or] at hu
      -- A thread that is started belongs to the finite set from then on.
      show (if (s.left t).isEmpty then _ else s : LockState μ θ).left u = []
      split
      · show Function.update s.left t program u = []
        rw [Function.update_of_ne hu.1]
        exact h u hu.2
      · exact h u hu.2
    | step t =>
      refine ⟨threads, fun u hu => ?_⟩
      show ((s.step t).getD s).left u = []
      cases hstep : s.step t with
      | none => exact h u hu
      | some s' =>
        obtain ⟨⟨op, hcons⟩, hothers⟩ := LockState.left_of_step hstep
        show s'.left u = []
        -- A thread outside the set has nothing left, so it was not the one that moved.
        by_cases hut : u = t
        · rw [← hut, h u hu] at hcons
          cases hcons
        · rw [hothers u hut]
          exact h u hu
  exact hinv as

/-! ### A thread that waits for itself -/

/-- The program locks a mutex that it has locked before and not unlocked since. -/
def Reenters (program : List (LockOp μ θ)) : Prop :=
  ∃ m before between after, program = before ++ .acquire m :: (between ++ .acquire m :: after) ∧
    .release m ∉ between

omit [DecidableEq μ] [DecidableEq θ] in
/-- What comes before and after does not matter to a lock that is taken again. -/
theorem Reenters.append {p : List (LockOp μ θ)} (h : Reenters p) (q r : List (LockOp μ θ)) :
    Reenters (q ++ (p ++ r)) := by
  obtain ⟨m, before, between, after, rfl, hkeeps⟩ := h
  exact ⟨m, q ++ before, between, after ++ r, by simp, hkeeps⟩

/-- The thread will lock a mutex that it holds. -/
def LockState.Caught (s : LockState μ θ) (t : θ) : Prop :=
  Reenters (s.left t) ∨ ∃ m between after, (s.mutexes m).holder = some t ∧
    s.left t = between ++ .acquire m :: after ∧ .release m ∉ between

omit [DecidableEq μ] [DecidableEq θ] in
/-- A thread that is caught has still something to do. -/
theorem LockState.Caught.left_ne_nil {s : LockState μ θ} {t : θ} (h : s.Caught t) :
    s.left t ≠ [] := by
  rcases h with ⟨m, before, between, after, heq, -⟩ | ⟨m, between, after, -, heq, -⟩
  · rw [heq]
    exact List.append_ne_nil_of_right_ne_nil _ (List.cons_ne_nil _ _)
  · rw [heq]
    exact List.append_ne_nil_of_right_ne_nil _ (List.cons_ne_nil _ _)

/-- Only the thread that holds a mutex unlocks it. -/
theorem LockState.holder_of_step {s s' : LockState μ θ} {t u : θ} {m : μ}
    (hstep : s.step u = some s') (hm : (s.mutexes m).holder = some t)
    (hkeeps : u = t → (s.left t).head? ≠ some (.release m)) : (s'.mutexes m).holder = some t := by
  obtain ⟨op, p, hcons, -, hop⟩ := LockState.step_cases hstep
  rcases hop with ⟨m', -, hfree, hmutexes⟩ | ⟨m', rfl, hholder, hmutexes⟩ | ⟨_, -, -, hmutexes⟩ |
    ⟨-, hmutexes⟩
  · -- The mutex that is taken was free, so it is another one.
    have hne : m ≠ m' := fun heq => by
      rw [heq, hfree] at hm
      cases hm
    rw [hmutexes, Function.update_of_ne hne]
    exact hm
  · -- The mutex that is released was held by `u`; if that is `t`, it keeps it by hypothesis.
    have hne : m ≠ m' := fun heq => by
      subst heq
      have hut : u = t := Option.some.inj (hholder.symm.trans hm)
      subst hut
      rw [hcons] at hkeeps
      exact hkeeps rfl rfl
    rw [hmutexes, Function.update_of_ne hne]
    exact hm
  · rw [hmutexes]
    exact hm
  · rw [hmutexes]
    exact hm

/-- A thread that is caught stays so. -/
theorem LockState.Caught.step {s : LockState μ θ} {t : θ} (h : s.Caught t) (a : LockAction μ θ) :
    (lockMachine.step s a).Caught t := by
  cases a with
  | start u program =>
    show LockState.Caught (if (s.left u).isEmpty then _ else s) t
    split
    · next hempty =>
      have hut : t ≠ u := fun heq => h.left_ne_nil (heq ▸ List.isEmpty_iff.mp hempty)
      have hleft : ({ s with left := Function.update s.left u program } : LockState μ θ).left t =
          s.left t := Function.update_of_ne hut _ _
      unfold LockState.Caught
      rw [hleft]
      exact h
    · exact h
  | step u =>
    show ((s.step u).getD s).Caught t
    cases hstep : s.step u with
    | none => exact h
    | some s' =>
      obtain ⟨op, p, hcons, hleft, hop⟩ := LockState.step_cases hstep
      show s'.Caught t
      unfold LockState.Caught
      by_cases hut : t = u
      · subst hut
        have hself : s'.left t = p := by
          rw [hleft, LockState.left_pop_self, hcons]
          rfl
        rw [hself]
        rcases h with ⟨m, before, between, after, heq, hkeeps⟩ |
          ⟨m, between, after, hholder, heq, hkeeps⟩
        · rw [hcons] at heq
          cases before with
          | nil =>
            -- It locks the mutex for the first time.
            obtain ⟨rfl, rfl⟩ := List.cons.inj heq
            refine .inr ⟨m, between, after, ?_, rfl, hkeeps⟩
            rcases hop with ⟨m', hm, -, hmutexes⟩ | ⟨m', hm, -⟩ | ⟨u, hm, -⟩ | ⟨hm, -⟩ <;> cases hm
            rw [hmutexes, Function.update_self]
          | cons op' before =>
            obtain ⟨-, rfl⟩ := List.cons.inj heq
            exact .inl ⟨m, before, between, after, rfl, hkeeps⟩
        · rw [hcons] at heq
          cases between with
          | nil =>
            -- It cannot lock the mutex for the second time.
            obtain ⟨rfl, -⟩ := List.cons.inj heq
            rcases hop with ⟨m', hm, hfree, -⟩ | ⟨m', hm, -⟩ | ⟨u, hm, -⟩ | ⟨hm, -⟩ <;> cases hm
            rw [hfree] at hholder
            cases hholder
          | cons op' between =>
            obtain ⟨rfl, rfl⟩ := List.cons.inj heq
            rw [List.mem_cons, not_or] at hkeeps
            refine .inr ⟨m, between, after, LockState.holder_of_step hstep hholder fun _ => ?_, rfl,
              hkeeps.2⟩
            rw [hcons]
            exact fun hhead => hkeeps.1 (Option.some.inj hhead).symm
      · -- Another thread neither changes the program nor unlocks the mutex.
        have hsame : s'.left t = s.left t := by rw [hleft, s.left_pop_of_ne hut]
        rw [hsame]
        rcases h with h | ⟨m, between, after, hholder, heq, hkeeps⟩
        · exact .inl h
        · exact .inr ⟨m, between, after,
            LockState.holder_of_step hstep hholder fun heq => absurd heq.symm hut, heq, hkeeps⟩

/-- A thread whose program locks a mutex that it holds never comes to its end. -/
theorem reenters_run {s : LockState μ θ} {t : θ} (h : Reenters (s.left t))
    (as : List (LockAction μ θ)) : (lockMachine.runFrom s as).left t ≠ [] := by
  have hcaught : (lockMachine.runFrom s as).Caught t :=
    Machine.runFrom_of_meets (C := fun _ _ => True) (P := fun s : LockState μ θ => s.Caught t)
      (fun _ a hs _ => hs.step a) (.inl h) (Machine.meets_of_forall fun _ _ _ => trivial)
  exact hcaught.left_ne_nil

end

end CrossFlow.Lib
