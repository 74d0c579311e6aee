import Mathlib.Algebra.Group.Int.Defs
import Mathlib.Algebra.Group.Nat.Defs
import Mathlib.Order.Lattice

/-!
# `CrossFlow.Lib.SignedWord`: signed words, their arithmetic and their conversions

A sum, a difference or a negation of signed words of the C family of languages is defined when the
exact result is a value of the type. The operations here return it then, and `none` otherwise. A
conversion to another type of words takes the value modulo a power of two.

* `add_cases`, `sub_cases`, `neg_cases`: there is the exact result, or it does not fit.
* `toInt_toInt32`, `toNat_toUInt32`: the conversions between signed and unsigned words of 32 bits.
* `toInt_widen`, `toNat_lowBits`: those between signed words of 64 bits and unsigned ones of 32.
* `exists_sub_of_lt`: the differences of 64 bits that fit in 32 bits without a sign.
* `toInt_narrow_iff`: the values that a narrower type keeps.
-/

set_option autoImplicit false

namespace CrossFlow.Lib

/-- A type of signed words: the integers from `-bound` up to `bound`. -/
class SignedWord (α : Type) where
  toInt : α → Int
  ofInt : Int → α
  bound : Int
  toInt_inj : ∀ {a b : α}, toInt a = toInt b → a = b
  le_toInt : ∀ a, -bound ≤ toInt a
  toInt_lt : ∀ a, toInt a < bound
  toInt_ofInt : ∀ n, -bound ≤ n → n < bound → toInt (ofInt n) = n

/-- The words of 32 bits. -/
instance : SignedWord Int32 where
  toInt := Int32.toInt
  ofInt := Int32.ofInt
  bound := 2 ^ 31
  toInt_inj := Int32.toInt_inj.mp
  le_toInt := Int32.le_toInt
  toInt_lt := Int32.toInt_lt
  toInt_ofInt _ := Int32.toInt_ofInt_of_le

/-- The words of 64 bits. -/
instance : SignedWord Int64 where
  toInt := Int64.toInt
  ofInt := Int64.ofInt
  bound := 2 ^ 63
  toInt_inj := Int64.toInt_inj.mp
  le_toInt := Int64.le_toInt
  toInt_lt := Int64.toInt_lt
  toInt_ofInt _ := Int64.toInt_ofInt_of_le

namespace SignedWord

section
variable {α : Type} [SignedWord α]

/-- The integer is a value of the type. -/
def Fits (α : Type) [SignedWord α] (n : Int) : Prop := -bound α ≤ n ∧ n < bound α

/-- Whether a number has room in a word can be looked up. -/
instance (n : Int) : Decidable (Fits α n) := inferInstanceAs (Decidable (_ ∧ _))

/-- The value of the type that is the integer. -/
def exact (n : Int) : Option α := if Fits α n then some (ofInt n) else none

/-- The sum, if it has room. -/
def add (a b : α) : Option α := exact (toInt a + toInt b)

/-- The difference, if it has room. -/
def sub (a b : α) : Option α := exact (toInt a - toInt b)

/-- The negative, if it has room. -/
def neg (a : α) : Option α := exact (-toInt a)

variable {a b c : α} {n : Int}

/-- The number of a word has room in one. -/
theorem fits_toInt (a : α) : Fits α (toInt a) := ⟨le_toInt a, toInt_lt a⟩

/-- A word is that of a number just when it stands for it. -/
theorem exact_eq_some_iff : exact n = some c ↔ toInt c = n := by
  unfold exact
  constructor
  · intro h
    split at h
    · next hfits =>
      cases h
      exact toInt_ofInt n hfits.1 hfits.2
    · exact absurd h (by simp)
  · rintro rfl
    rw [if_pos (fits_toInt c), Option.some_inj]
    exact toInt_inj (toInt_ofInt _ (fits_toInt c).1 (fits_toInt c).2)

/-- There is no word just when the number has no room. -/
theorem exact_eq_none_iff : (exact n : Option α) = none ↔ ¬ Fits α n := by
  unfold exact
  split <;> simp_all

/-- The value is none of the type, or there is the value. -/
theorem exact_cases (α : Type) [SignedWord α] (n : Int) :
    (¬ Fits α n ∧ (exact n : Option α) = none) ∨
      (Fits α n ∧ ∃ c : α, exact n = some c ∧ toInt c = n) := by
  cases hexact : (exact n : Option α) with
  | none => exact .inl ⟨exact_eq_none_iff.mp hexact, rfl⟩
  | some c =>
    have hc := exact_eq_some_iff.mp hexact
    exact .inr ⟨hc ▸ fits_toInt c, c, rfl, hc⟩

/-- A sum has no room, or is the word of the sum. -/
theorem add_cases (a b : α) :
    (¬ Fits α (toInt a + toInt b) ∧ add a b = none) ∨
      (Fits α (toInt a + toInt b) ∧ ∃ c, add a b = some c ∧ toInt c = toInt a + toInt b) :=
  exact_cases α _

/-- A difference has no room, or is the word of the difference. -/
theorem sub_cases (a b : α) :
    (¬ Fits α (toInt a - toInt b) ∧ sub a b = none) ∨
      (Fits α (toInt a - toInt b) ∧ ∃ c, sub a b = some c ∧ toInt c = toInt a - toInt b) :=
  exact_cases α _

/-- A negative has no room, or is the word of the negative. -/
theorem neg_cases (a : α) :
    (¬ Fits α (-toInt a) ∧ neg a = none) ∨
      (Fits α (-toInt a) ∧ ∃ c, neg a = some c ∧ toInt c = -toInt a) :=
  exact_cases α _

end

/-- The number of a word of 32 bits is Lean's. -/
@[simp] theorem toInt_int32 (a : Int32) : toInt a = a.toInt := rfl

/-- The number of a word of 64 bits is Lean's. -/
@[simp] theorem toInt_int64 (a : Int64) : toInt a = a.toInt := rfl

/-- The bounds of 32 bits. -/
@[simp] theorem fits_int32_iff {n : Int} : Fits Int32 n ↔ -2 ^ 31 ≤ n ∧ n < 2 ^ 31 := Iff.rfl

/-- The bounds of 64 bits. -/
@[simp] theorem fits_int64_iff {n : Int} : Fits Int64 n ↔ -2 ^ 63 ≤ n ∧ n < 2 ^ 63 := Iff.rfl

/-! ### Conversions -/

/-- A word from `2 ^ 31` on is negative when it is read with a sign. -/
theorem toInt_toInt32 (a : UInt32) :
    a.toInt32.toInt = if a.toNat < 2 ^ 31 then (a.toNat : Int) else a.toNat - 2 ^ 32 := by
  have hcond := BitVec.toInt_eq_toNat_cond a.toBitVec
  show a.toBitVec.toInt = _
  rw [hcond]
  show (if 2 * a.toNat < 2 ^ 32 then (a.toNat : Int) else a.toNat - 2 ^ 32) = _
  split <;> split <;> omega

/-- A negative word is read without a sign modulo `2 ^ 32`. -/
theorem toNat_toUInt32 (a : Int32) : (a.toUInt32.toNat : Int) = a.toInt % 2 ^ 32 := by
  have hsigned := toInt_toInt32 a.toUInt32
  have hlt := a.toUInt32.toNat_lt
  rw [Int32.toInt32_toUInt32] at hsigned
  rw [hsigned]
  split <;> omega

/-- A word of 32 bits without a sign, in 64 bits. -/
def widen (a : UInt32) : Int64 := .ofNat a.toNat

/-- The lower 32 bits, without a sign. -/
def lowBits (a : Int64) : UInt32 := a.toUInt64.toUInt32

/-- Widening keeps the number. -/
theorem toInt_widen (a : UInt32) : (widen a).toInt = a.toNat := by
  have hlt := a.toNat_lt
  exact Int64.toInt_ofNat_of_lt (by omega)

/-- The low bits are the number modulo `2 ^ 32`. -/
theorem toNat_lowBits (a : Int64) : ((lowBits a).toNat : Int) = a.toInt % 2 ^ 32 := by
  have hcond := BitVec.toInt_eq_toNat_cond a.toBitVec
  have hlt := a.toBitVec.isLt
  have hlow : (lowBits a).toNat = a.toBitVec.toNat % 2 ^ 32 := rfl
  have hsigned : a.toInt = a.toBitVec.toInt := rfl
  rw [hlow, hsigned, hcond]
  split <;> omega

/-- A difference of 64 bits that a word of 32 bits without a sign can hold. -/
theorem exists_sub_of_lt {a b : Int64} (hnonneg : 0 ≤ a.toInt - b.toInt)
    (hlt : a.toInt - b.toInt < 2 ^ 32) :
    ∃ c, sub a b = some c ∧ c.toInt = a.toInt - b.toInt ∧
      ((lowBits c).toNat : Int) = a.toInt - b.toInt := by
  rcases sub_cases a b with ⟨hnot, -⟩ | ⟨-, c, hsub, hexact⟩
  · simp only [fits_int64_iff, toInt_int64] at hnot
    omega
  · simp only [toInt_int64] at hexact
    have hlow := toNat_lowBits c
    exact ⟨c, hsub, hexact, by omega⟩

/-- A value is kept by the narrower type when it is one of its values. -/
theorem toInt_narrow_iff (a : Int64) : a.toInt32.toInt = a.toInt ↔ Fits Int32 a.toInt := by
  rw [Int64.toInt_toInt32, fits_int32_iff, Int.bmod_def]
  omega

/-- Two values are the same in the narrower type when they differ by a multiple of `2 ^ 32`. -/
theorem toInt32_inj {a b : Int64} : a.toInt32 = b.toInt32 ↔ (2 ^ 32 : Int) ∣ a.toInt - b.toInt := by
  rw [← Int32.toInt_inj, Int64.toInt_toInt32, Int64.toInt_toInt32, Int.bmod_def, Int.bmod_def]
  omega

/-- The smaller word is that of the smaller number. -/
theorem toInt_min (a b : Int64) : (min a b).toInt = min a.toInt b.toInt := by
  rw [Int.min_def]
  show (if a ≤ b then a else b).toInt = _
  simp only [Int64.le_iff_toInt_le, apply_ite Int64.toInt]

/-- The larger word is that of the larger number. -/
theorem toInt_max (a b : Int64) : (max a b).toInt = max a.toInt b.toInt := by
  rw [Int.max_def]
  show (if a ≤ b then b else a).toInt = _
  simp only [Int64.le_iff_toInt_le, apply_ite Int64.toInt]

end SignedWord

end CrossFlow.Lib
