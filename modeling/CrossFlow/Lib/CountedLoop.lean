import Mathlib.Algebra.Group.Nat.Defs
import Mathlib.Data.List.Basic

/-!
# `CrossFlow.Lib.CountedLoop`: loops over a range of words, and counters in words

`inclusiveLoop` is the loop `for (i = lo; i <= hi; ++i)` over words of 64 bits. Its counter wraps
around, so with the greatest word as its bound it has no end. Without that bound it is the fold over
`interval lo hi`.

A counter in a word that a fold increments is exact as long as the list is not longer than a word
counts.

* `inclusiveLoop_eq_some_iff`: the results of the loop, for any fuel.
* `inclusiveLoop_max`: with the greatest word as its bound it does not return.
* `counter_foldl`, `counter_eq_zero_iff`: the counter after a fold.
* `foldlM_range`: the rule of a loop from 0 whose body may fail.
-/

set_option autoImplicit false

namespace CrossFlow.Lib

section
variable {σ : Type}

/-- `for (i = lo; i <= hi; ++i) body`, which is out of fuel after so many tests of its bound. -/
def inclusiveLoop (body : UInt64 → σ → σ) (hi : UInt64) : Nat → UInt64 → σ → Option σ
  | 0, _, _ => none
  | fuel + 1, i, s => if i ≤ hi then inclusiveLoop body hi fuel (i + 1) (body i s) else some s

/-- The words from `lo` up to `hi`, both of them included. -/
def interval (lo hi : UInt64) : List UInt64 :=
  (List.range' lo.toNat (hi.toNat + 1 - lo.toNat)).map UInt64.ofNat

/-- How many words an interval has. -/
theorem length_interval (lo hi : UInt64) :
    (interval lo hi).length = hi.toNat + 1 - lo.toNat := by
  simp [interval]

/-- An interval has its bounds and what is between them. -/
theorem mem_interval {lo hi i : UInt64} : i ∈ interval lo hi ↔ lo ≤ i ∧ i ≤ hi := by
  simp only [interval, List.mem_map, List.mem_range'_1, UInt64.le_iff_toNat_le]
  have hhi := hi.toNat_lt
  constructor
  · rintro ⟨n, hn, rfl⟩
    have hlt : n < 2 ^ 64 := by omega
    rw [UInt64.toNat_ofNat_of_lt' hlt]
    omega
  · intro h
    exact ⟨i.toNat, by omega, UInt64.ofNat_toNat⟩

/-- There is nothing between bounds in the wrong order. -/
theorem interval_of_lt {lo hi : UInt64} (h : hi < lo) : interval lo hi = [] := by
  rw [UInt64.lt_iff_toNat_lt] at h
  have hlength := length_interval lo hi
  exact List.eq_nil_of_length_eq_zero (by omega)

/-- The smaller of two words is one of them. -/
theorem min_word_cases (a b : UInt64) : min a b = a ∧ a ≤ b ∨ min a b = b ∧ b ≤ a := by
  show (if a ≤ b then a else b) = a ∧ a ≤ b ∨ (if a ≤ b then a else b) = b ∧ b ≤ a
  split
  · exact .inl ⟨rfl, ‹_›⟩
  · exact .inr ⟨rfl, UInt64.le_of_lt (UInt64.not_le.mp ‹_›)⟩

/-- The larger of two words is one of them. -/
theorem max_word_cases (a b : UInt64) : max a b = a ∧ b ≤ a ∨ max a b = b ∧ a ≤ b := by
  show (if a ≤ b then b else a) = a ∧ b ≤ a ∨ (if a ≤ b then b else a) = b ∧ a ≤ b
  split
  · exact .inr ⟨rfl, ‹_›⟩
  · exact .inl ⟨rfl, UInt64.le_of_lt (UInt64.not_le.mp ‹_›)⟩

/-- The next word is one more, but for the last one. -/
theorem toNat_succ {i : UInt64} (h : i.toNat + 1 < 2 ^ 64) : (i + 1).toNat = i.toNat + 1 := by
  rw [UInt64.toNat_add]
  exact Nat.mod_eq_of_lt h

/-- An interval begins with its lower bound. -/
theorem interval_of_le {lo hi : UInt64} (hlo : lo ≤ hi) (hhi : hi.toNat + 1 < 2 ^ 64) :
    interval lo hi = lo :: interval (lo + 1) hi := by
  rw [UInt64.le_iff_toNat_le] at hlo
  have hsucc := toNat_succ (i := lo) (by omega)
  have hlength : hi.toNat + 1 - lo.toNat = (hi.toNat + 1 - (lo + 1).toNat) + 1 := by omega
  rw [interval, hlength, List.range'_succ, List.map_cons, UInt64.ofNat_toNat, interval, hsucc]

/-- The loop that its counter can leave is the fold over the interval, when the fuel lasts. -/
theorem inclusiveLoop_of_lt {body : UInt64 → σ → σ} {hi : UInt64} (hhi : hi.toNat + 1 < 2 ^ 64)
    (fuel : Nat) (i : UInt64) (s : σ) :
    inclusiveLoop body hi fuel i s =
      if (interval i hi).length < fuel then some ((interval i hi).foldl (fun s j => body j s) s)
      else none := by
  induction fuel generalizing i s with
  | zero => rfl
  | succ fuel ih =>
    rw [inclusiveLoop]
    by_cases h : i ≤ hi
    · rw [if_pos h, ih, interval_of_le h hhi]
      simp
    · rw [if_neg h, interval_of_lt (UInt64.not_le.mp h)]
      simp

/-- No word is above the bound, so no test ends the loop. -/
theorem inclusiveLoop_max {body : UInt64 → σ → σ} {hi : UInt64} (hhi : hi.toNat = 2 ^ 64 - 1)
    (fuel : Nat) (i : UInt64) (s : σ) : inclusiveLoop body hi fuel i s = none := by
  induction fuel generalizing i s with
  | zero => rfl
  | succ fuel ih =>
    have hle : i ≤ hi := by
      have hi_lt := i.toNat_lt
      rw [UInt64.le_iff_toNat_le]
      omega
    rw [inclusiveLoop, if_pos hle, ih]

/-- The loop returns, for some fuel, when its bound is not the greatest word, and then the fold over
the interval. -/
theorem inclusiveLoop_eq_some_iff {body : UInt64 → σ → σ} {hi i : UInt64} {s s' : σ} :
    (∃ fuel, inclusiveLoop body hi fuel i s = some s') ↔
      hi.toNat ≠ 2 ^ 64 - 1 ∧ (interval i hi).foldl (fun s j => body j s) s = s' := by
  by_cases hmax : hi.toNat = 2 ^ 64 - 1
  · simp [inclusiveLoop_max hmax, hmax]
  · have hhi : hi.toNat + 1 < 2 ^ 64 := by
      have hlt := hi.toNat_lt
      omega
    simp only [inclusiveLoop_of_lt hhi]
    constructor
    · rintro ⟨fuel, hfuel⟩
      split at hfuel
      · exact ⟨hmax, Option.some.inj hfuel⟩
      · cases hfuel
    · rintro ⟨-, rfl⟩
      exact ⟨(interval i hi).length + 1, if_pos (Nat.lt_succ_self _)⟩

end

section
variable {α β : Type} {step : β → α → β} {counter : β → UInt64} {p : α → Bool}

/-- A counter that a step increments for the elements with `p`, after a list of them. -/
theorem counter_foldl (hstep : ∀ b a, counter (step b a) = counter b + if p a then 1 else 0)
    (l : List α) (b : β) :
    counter (l.foldl step b) = counter b + UInt64.ofNat (l.countP p) := by
  induction l generalizing b with
  | nil => simp
  | cons a l ih =>
    rw [List.foldl_cons, ih, hstep, List.countP_cons, UInt64.ofNat_add, UInt64.add_assoc,
      UInt64.add_comm (UInt64.ofNat _)]
    congr 2
    by_cases ha : p a
    · simp [ha]
    · simp [ha]

/-- It is zero after a list that a word counts when no element has `p`. -/
theorem counter_eq_zero_iff (hstep : ∀ b a, counter (step b a) = counter b + if p a then 1 else 0)
    {l : List α} (hl : l.length < 2 ^ 64) {b : β} (hb : counter b = 0) :
    counter (l.foldl step b) = 0 ↔ ∀ a ∈ l, p a = false := by
  rw [counter_foldl hstep, hb, UInt64.zero_add, ← UInt64.toNat_inj,
    UInt64.toNat_ofNat_of_lt' (Nat.lt_of_le_of_lt List.countP_le_length hl)]
  simp [List.countP_eq_zero]

/-- What no step changes is the same after a fold. -/
theorem foldl_unchanged {γ : Type} {f : β → γ} (hstep : ∀ b a, f (step b a) = f b) (l : List α)
    (b : β) : f (l.foldl step b) = f b := by
  induction l generalizing b with
  | nil => rfl
  | cons a l ih => rw [List.foldl_cons, ih, hstep]

end

/-- The loop `for (k = 0; k < n; ++k)` of a body that may fail: it does not when each iteration
keeps `P`. -/
theorem foldlM_range {σ : Type} (body : σ → Nat → Option σ) (n : Nat) (P : Nat → σ → Prop) {s : σ}
    (hs : P 0 s)
    (hbody : ∀ k s, k < n → P k s → ∃ s', body s k = some s' ∧ P (k + 1) s') :
    ∃ s', (List.range n).foldlM body s = some s' ∧ P n s' := by
  induction n with
  | zero => exact ⟨s, rfl, hs⟩
  | succ n ih =>
    obtain ⟨s', hfold, hP⟩ := ih fun k s hk => hbody k s (Nat.lt_succ_of_lt hk)
    obtain ⟨s'', hlast, hP'⟩ := hbody n s' (Nat.lt_succ_self n) hP
    refine ⟨s'', ?_, hP'⟩
    rw [List.range_succ, List.foldlM_append, hfold]
    show [n].foldlM body s' = some s''
    rw [List.foldlM_cons, hlast]
    rfl

end CrossFlow.Lib
