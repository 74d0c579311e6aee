import Mathlib.Data.Nat.Digits.Defs
import Mathlib.Data.Nat.Digits.Lemmas

/-!
# `CrossFlow.Lib.Digits`: digit strings, and reading them in another base

A digit string is a list of digits with the most significant one first. `readFrom b x ds` appends
`ds` to the number `x` in base `b`, the way a parser accumulates it, and `digitsOf b n` is the
string that prints `n`.

The second part is about a string that is printed in base `b` and read back in base `B`.
`misreads b B m k x p` searches for the strings of length `k` whose reading on from `x` in base
`B` starts, in base `b`, with the very digits that were read. The search is sound
(`mem_misreads`): the bounds `le_readFrom` and `readFrom_lt` only prune the digits that no
continuation can repair.

* `readFrom_digitsOf`: reading what was printed gives the number back.
* `mem_misreads_of_take`: a number that equals the misreading of its own first `k` digits is found
  by the search.
-/

set_option autoImplicit false

namespace CrossFlow.Lib

/-! ### Reading -/

/-- The digits `ds` appended to the number `x` in base `b`. -/
def readFrom (b x : Nat) (ds : List Nat) : Nat :=
  ds.foldl (fun x d => x * b + d) x

/-- No digits leave the number. -/
@[simp] theorem readFrom_nil (b x : Nat) : readFrom b x [] = x := rfl

/-- One digit. -/
@[simp] theorem readFrom_cons (b x d : Nat) (ds : List Nat) :
    readFrom b x (d :: ds) = readFrom b (x * b + d) ds := rfl

/-- Digits are read one after the other. -/
theorem readFrom_append (b x : Nat) (ds es : List Nat) :
    readFrom b x (ds ++ es) = readFrom b (readFrom b x ds) es :=
  List.foldl_append

/-- Read from 0, they are Mathlib's digits in the other order. -/
theorem readFrom_zero_eq_ofDigits (b : Nat) (ds : List Nat) :
    readFrom b 0 ds = Nat.ofDigits b ds.reverse := by
  rw [readFrom, Nat.ofDigits_eq_foldr, List.foldr_reverse]
  simp [Nat.mul_comm, Nat.add_comm]

/-- What was read before is moved up by the digits that are read after it. -/
theorem readFrom_eq_mul_add (b x : Nat) (ds : List Nat) :
    readFrom b x ds = x * b ^ ds.length + readFrom b 0 ds := by
  induction ds generalizing x with
  | nil => simp
  | cons d ds ih =>
    calc readFrom b x (d :: ds)
        = (x * b + d) * b ^ ds.length + readFrom b 0 ds := ih (x * b + d)
      _ = x * b ^ (d :: ds).length + (d * b ^ ds.length + readFrom b 0 ds) := by
          rw [List.length_cons, pow_succ]; ring
      _ = x * b ^ (d :: ds).length + readFrom b 0 (d :: ds) := by
          rw [← ih d, readFrom_cons, Nat.zero_mul, Nat.zero_add]

/-- Each digit multiplies by the base at least. -/
theorem le_readFrom (b x : Nat) (ds : List Nat) : x * b ^ ds.length ≤ readFrom b x ds := by
  rw [readFrom_eq_mul_add]
  exact Nat.le_add_right _ _

/-- Digits below the base make less than the next multiple. -/
theorem readFrom_lt (b x : Nat) (ds : List Nat) (hds : ∀ d ∈ ds, d < b) :
    readFrom b x ds < (x + 1) * b ^ ds.length := by
  induction ds generalizing x with
  | nil => simp
  | cons d ds ih =>
    have hd : d + 1 ≤ b := hds d (by simp)
    calc readFrom b x (d :: ds)
        < (x * b + d + 1) * b ^ ds.length := ih (x * b + d) (fun e he => hds e (by simp [he]))
      _ ≤ ((x + 1) * b) * b ^ ds.length := Nat.mul_le_mul_right _ (by rw [Nat.add_mul]; omega)
      _ = (x + 1) * b ^ (d :: ds).length := by rw [List.length_cons, pow_succ]; ring

/-- What is written with digits below `c` has no digit from `c` on. -/
theorem readFrom_digit_lt {b c : Nat} (hcb : c ≤ b) {ds : List Nat} (hds : ∀ d ∈ ds, d < c)
    (hc : 0 < c) (i : Nat) : readFrom b 0 ds / b ^ i % b < c := by
  induction ds using List.reverseRecOn generalizing i with
  | nil => simpa using hc
  | append_singleton ds d ih =>
    have hd : d < c := hds d (List.mem_append_right ds List.mem_cons_self)
    have hlast : readFrom b 0 (ds ++ [d]) = readFrom b 0 ds * b + d := readFrom_append b 0 ds [d]
    rw [hlast]
    cases i with
    | zero =>
      rw [pow_zero, Nat.div_one, Nat.mul_add_mod_of_lt (hd.trans_le hcb)]
      exact hd
    | succ i =>
      -- The last digit is below the base, so that dividing by the base drops it.
      have hdiv : (readFrom b 0 ds * b + d) / b = readFrom b 0 ds := by
        rw [Nat.mul_comm, Nat.mul_add_div (hc.trans_le hcb), Nat.div_eq_of_lt (hd.trans_le hcb),
          Nat.add_zero]
      rw [pow_succ', ← Nat.div_div_eq_div_mul, hdiv]
      exact ih (fun d' hd' => hds d' (List.mem_append_left [d] hd')) i

/-! ### Printing -/

/-- The digits of `n` in base `b`; zero has one digit. -/
def digitsOf (b n : Nat) : List Nat :=
  if n = 0 then [0] else (Nat.digits b n).reverse

variable {b : Nat}

/-- The digits of a number are read as the number. -/
theorem readFrom_digitsOf (b n : Nat) : readFrom b 0 (digitsOf b n) = n := by
  unfold digitsOf
  split
  · simp [*]
  · rw [readFrom_zero_eq_ofDigits, List.reverse_reverse, Nat.ofDigits_digits]

/-- The digits of a number are below the base. -/
theorem digitsOf_lt (hb : 1 < b) (n : Nat) : ∀ d ∈ digitsOf b n, d < b := by
  intro d hd
  unfold digitsOf at hd
  split at hd
  · simp at hd
    omega
  · exact Nat.digits_lt_base hb (List.mem_reverse.mp hd)

/-- A number is less than the power of the number of its digits. -/
theorem lt_pow_length_digitsOf (hb : 1 < b) (n : Nat) : n < b ^ (digitsOf b n).length := by
  have hlt := readFrom_lt b 0 (digitsOf b n) (digitsOf_lt hb n)
  rw [readFrom_digitsOf] at hlt
  simpa using hlt

/-- A number below `b ^ k` has at most `k` digits. -/
theorem length_digitsOf_le (hb : 1 < b) {n k : Nat} (hk : 0 < k) (hn : n < b ^ k) :
    (digitsOf b n).length ≤ k := by
  unfold digitsOf
  split
  · exact hk
  · rw [List.length_reverse]
    exact (Nat.digits_length_le_iff hb n).mpr hn

/-- The first digit of a number that is not zero is not zero. -/
theorem digitsOf_eq_cons (b : Nat) {n : Nat} (hn : n ≠ 0) :
    ∃ d ds, digitsOf b n = d :: ds ∧ 0 < d := by
  have hne : Nat.digits b n ≠ [] := Nat.digits_ne_nil_iff_ne_zero.mpr hn
  refine ⟨(Nat.digits b n).getLast hne, (Nat.digits b n).dropLast.reverse, ?_, ?_⟩
  -- `Nat.digits` has the least significant digit first, so its last is the first printed.
  · rw [digitsOf, if_neg hn]
    conv_lhs => rw [← List.dropLast_append_getLast hne]
    rw [List.reverse_append, List.reverse_singleton, List.singleton_append]
  · exact Nat.pos_of_ne_zero (Nat.getLast_digit_ne_zero b hn)

/-- A number has no digits that it could do without. -/
theorem pow_length_le_of_digitsOf {n : Nat} (hn : n ≠ 0) :
    b ^ ((digitsOf b n).length - 1) ≤ n := by
  obtain ⟨d, ds, hds, hd⟩ := digitsOf_eq_cons b hn
  have hle := le_readFrom b d ds
  have hread : readFrom b d ds = n := by
    rw [← readFrom_digitsOf b n, hds, readFrom_cons, Nat.zero_mul, Nat.zero_add]
  rw [hread] at hle
  rw [hds, List.length_cons, Nat.add_sub_cancel]
  exact le_trans (Nat.le_mul_of_pos_left _ hd) hle

/-! ### Misreading -/

/-- The numbers `x'` and `p'` that a string of `k` digits below `b` gives, read on from `x` in base
`B` and from `p` in base `b`, when `x'` lies in the `p'`-th block of `m` numbers. -/
def misreads (b B m : Nat) : Nat → Nat → Nat → List (Nat × Nat)
  | 0, x, p => if p * m ≤ x ∧ x < (p + 1) * m then [(x, p)] else []
  | k + 1, x, p =>
    if p * b ^ (k + 1) * m < (x + 1) * B ^ (k + 1) ∧
        x * B ^ (k + 1) < (p + 1) * b ^ (k + 1) * m then
      (List.range b).flatMap fun d => misreads b B m k (x * B + d) (p * b + d)
    else []

variable {B m : Nat}

/-- The search for the digits that two bases read with nearly the same result finds them. -/
theorem mem_misreads (hbB : b ≤ B) (ds : List Nat) (x p : Nat) (hds : ∀ d ∈ ds, d < b)
    (hle : readFrom b p ds * m ≤ readFrom B x ds)
    (hlt : readFrom B x ds < (readFrom b p ds + 1) * m) :
    (readFrom B x ds, readFrom b p ds) ∈ misreads b B m ds.length x p := by
  induction ds generalizing x p with
  | nil =>
    simp only [readFrom_nil] at hle hlt
    simp [misreads, hle, hlt]
  | cons d ds ih =>
    -- The block of every continuation lies inside the block of the prefix read so far.
    have hlow : p * b ^ (d :: ds).length * m ≤ readFrom b p (d :: ds) * m :=
      Nat.mul_le_mul_right m (le_readFrom b p (d :: ds))
    have hhigh : (readFrom b p (d :: ds) + 1) * m ≤ (p + 1) * b ^ (d :: ds).length * m :=
      Nat.mul_le_mul_right m (readFrom_lt b p (d :: ds) hds)
    have hxlow := le_readFrom B x (d :: ds)
    have hxhigh := readFrom_lt B x (d :: ds) (fun e he => lt_of_lt_of_le (hds e he) hbB)
    rw [List.length_cons] at *
    rw [misreads, if_pos ⟨by omega, by omega⟩, List.mem_flatMap]
    refine ⟨d, List.mem_range.mpr (hds d (by simp)), ?_⟩
    exact ih (x * B + d) (p * b + d) (fun e he => hds e (by simp [he])) hle hlt

/-- A number that is the misreading of its own first `k` digits, read on from `x`. -/
theorem mem_misreads_of_take (hb : 1 < b) (hbB : b ≤ B) {n k x : Nat}
    (hk : k ≤ (digitsOf b n).length) (hread : readFrom B x ((digitsOf b n).take k) = n) :
    (n, readFrom b 0 ((digitsOf b n).take k)) ∈
      misreads b B (b ^ ((digitsOf b n).length - k)) k x 0 := by
  have hdigits := digitsOf_lt hb n
  -- `n` lies in the block of the numbers that begin with these digits.
  have hsplit : readFrom b (readFrom b 0 ((digitsOf b n).take k)) ((digitsOf b n).drop k) = n := by
    rw [← readFrom_append, List.take_append_drop, readFrom_digitsOf]
  have hle := le_readFrom b (readFrom b 0 ((digitsOf b n).take k)) ((digitsOf b n).drop k)
  have hlt := readFrom_lt b (readFrom b 0 ((digitsOf b n).take k)) ((digitsOf b n).drop k)
    (fun d hd => hdigits d (List.mem_of_mem_drop hd))
  rw [hsplit, List.length_drop] at hle hlt
  have hmem := mem_misreads (m := b ^ ((digitsOf b n).length - k)) hbB ((digitsOf b n).take k) x 0
    (fun d hd => hdigits d (List.mem_of_mem_take hd)) (hle.trans hread.ge) (hread.trans_lt hlt)
  rwa [hread, List.length_take, Nat.min_eq_left hk] at hmem

end CrossFlow.Lib
