import CrossFlow.Lib.Digits
import Mathlib.Data.List.TakeWhile

/-!
# `CrossFlow.Core.Common.StdString`: `std::string` and its number conversions

A `std::string` is the list of its bytes. `toString` is `std::to_string` of an unsigned integer
and `stoull` is `std::stoull`: leading white space, a sign, in base 16 a `0x` prefix, then the
longest run of digits. What follows the digits is ignored, as the source passes no `pos`.

* `stoull_digits`, `stoul_digits`: a string of digits is read as a whole.
* `stoull_toString`: `stoull` in base 10 reads what `to_string` prints.
* `stoull_map_digitChar`: decimal digits read in any base from 10 to 16.
-/

set_option autoImplicit false

namespace CrossFlow

open Lib (readFrom digitsOf)

/-- The bytes of a `std::string`. -/
abbrev StdString := List UInt8

/-- What a conversion throws. -/
inductive StdException where
  | invalid_argument
  | out_of_range
  deriving DecidableEq

namespace StdString

/-- A string literal of the source, all of them ASCII. -/
def lit (s : String) : StdString :=
  s.toList.map (·.toNat.toUInt8)

/-- The character of a decimal digit. -/
def digitChar (d : Nat) : UInt8 := (48 + d).toUInt8

/-- `std::to_string` -/
def toString (n : Nat) : StdString := (digitsOf 10 n).map digitChar

/-- The value of a character as a digit, 36 when it is not one in any base. -/
def digitValue (c : UInt8) : Nat :=
  if 48 ≤ c ∧ c ≤ 57 then c.toNat - 48
  else if 97 ≤ c ∧ c ≤ 122 then c.toNat - 87
  else if 65 ≤ c ∧ c ≤ 90 then c.toNat - 55
  else 36

/-- `std::isdigit`, for a base. -/
def isDigit (base : Nat) (c : UInt8) : Bool := digitValue c < base

/-- `std::isspace` -/
def isSpace (c : UInt8) : Bool := c = 32 ∨ (9 ≤ c ∧ c ≤ 13)

/-- The sign in front of a number, and the rest. -/
def splitSign : StdString → Bool × StdString
  | 45 :: s => (true, s)
  | 43 :: s => (false, s)
  | s => (false, s)

/-- A `0x` in front of a hexadecimal digit is skipped. -/
def skipHexPrefix : StdString → StdString
  | 48 :: x :: c :: s => if (x = 120 ∨ x = 88) ∧ isDigit 16 c then c :: s else 48 :: x :: c :: s
  | s => s

/-- `std::stoull`: spaces, a sign, for the base 16 a prefix, and the digits that follow. -/
def stoull (s : StdString) (base : Nat) : Except StdException UInt64 :=
  let (negative, unsigned) := splitSign (s.dropWhile isSpace)
  let digits := (if base = 16 then skipHexPrefix unsigned else unsigned).takeWhile (isDigit base)
  let value := readFrom base 0 (digits.map digitValue)
  if digits = [] then .error .invalid_argument
  else if 2 ^ 64 ≤ value then .error .out_of_range
  else .ok (if negative then -value.toUInt64 else value.toUInt64)

/-- `std::stoul` in base 10, where `unsigned long` has `bits` bits. -/
def stoul (bits : Nat) (s : StdString) : Except StdException Nat :=
  let (negative, unsigned) := splitSign (s.dropWhile isSpace)
  let digits := unsigned.takeWhile (isDigit 10)
  let value := readFrom 10 0 (digits.map digitValue)
  if digits = [] then .error .invalid_argument
  else if 2 ^ bits ≤ value then .error .out_of_range
  else .ok (if negative then (2 ^ bits - value) % 2 ^ bits else value)

/-! ### Strings of digits -/

/-- A digit is neither white space nor a sign nor the letter of a prefix. -/
theorem of_isDigit {base : Nat} (hbase : base ≤ 16) {c : UInt8} (hc : isDigit base c = true) :
    isSpace c = false ∧ c ≠ 45 ∧ c ≠ 43 ∧ c ≠ 120 ∧ c ≠ 88 := by
  have hall : ∀ n < 256, digitValue (UInt8.ofNat n) < 16 →
      isSpace (UInt8.ofNat n) = false ∧ UInt8.ofNat n ≠ 45 ∧ UInt8.ofNat n ≠ 43 ∧
        UInt8.ofNat n ≠ 120 ∧ UInt8.ofNat n ≠ 88 := by decide +kernel
  have hvalue : digitValue c < 16 := (of_decide_eq_true hc).trans_le hbase
  rw [← UInt8.ofNat_toNat (x := c)] at hvalue ⊢
  exact hall c.toNat c.toNat_lt hvalue

section
variable {base : Nat} {ds : StdString} (hds : ∀ c ∈ ds, isDigit base c = true)
include hds

/-- Some digits stand for less than the power of their number. -/
theorem readFrom_digits_lt : readFrom base 0 (ds.map digitValue) < base ^ ds.length := by
  have hlt := Lib.readFrom_lt base 0 (ds.map digitValue) ?_
  · rwa [Nat.zero_add, Nat.one_mul, List.length_map] at hlt
  · intro d hd
    obtain ⟨c, hc, rfl⟩ := List.mem_map.mp hd
    exact of_decide_eq_true (hds c hc)

variable (hbase : base ≤ 16)
include hbase

/-- No white space and no sign is skipped in front of digits. -/
theorem splitSign_digits (hne : ds ≠ []) (rest : StdString) :
    splitSign ((ds ++ rest).dropWhile isSpace) = (false, ds ++ rest) := by
  cases ds with
  | nil => exact absurd rfl hne
  | cons d ds =>
    obtain ⟨hspace, hminus, hplus, -⟩ := of_isDigit hbase (hds d List.mem_cons_self)
    rw [List.cons_append, List.dropWhile_cons, hspace, if_neg Bool.false_ne_true]
    unfold splitSign
    split
    next heq => exact absurd (List.cons.inj heq).1 hminus
    next heq => exact absurd (List.cons.inj heq).1 hplus
    next => rfl

/-- Digits alone have no prefix. -/
theorem skipHexPrefix_digits : skipHexPrefix ds = ds := by
  unfold skipHexPrefix
  split
  next x c s =>
    -- The second character is a digit, so it is not an `x`.
    obtain ⟨-, -, -, hx, hX⟩ := of_isDigit hbase (hds x (by simp))
    rw [if_neg fun h => h.1.elim hx hX]
  next => rfl

/-- A string of digits is read as a whole. -/
theorem stoull_digits (hne : ds ≠ []) (hlt : readFrom base 0 (ds.map digitValue) < 2 ^ 64) :
    stoull ds base = .ok (readFrom base 0 (ds.map digitValue)).toUInt64 := by
  have hsign := splitSign_digits hds hbase hne []
  have hskip : (if base = 16 then skipHexPrefix ds else ds) = ds := by
    rw [skipHexPrefix_digits hds hbase, ite_self]
  rw [List.append_nil] at hsign
  unfold stoull
  rw [hsign]
  simp only [hskip]
  rw [List.takeWhile_eq_self_iff.mpr hds, if_neg hne, if_neg (Nat.not_le.mpr hlt)]
  rfl

end

/-- The digits in front are read, up to what is no digit. -/
theorem stoul_digits {bits : Nat} {ds rest : StdString} (hds : ∀ c ∈ ds, isDigit 10 c = true)
    (hne : ds ≠ []) (hrest : ∀ c, rest.head? = some c → isDigit 10 c = false)
    (hlt : readFrom 10 0 (ds.map digitValue) < 2 ^ bits) :
    stoul bits (ds ++ rest) = .ok (readFrom 10 0 (ds.map digitValue)) := by
  have htake : (ds ++ rest).takeWhile (isDigit 10) = ds := by
    rw [List.takeWhile_append_of_pos hds]
    cases rest with
    | nil => rw [List.takeWhile_nil, List.append_nil]
    | cons c rest =>
      rw [List.takeWhile_cons_of_neg (by rw [hrest c rfl]; exact Bool.false_ne_true),
        List.append_nil]
  unfold stoul
  rw [splitSign_digits hds (by decide) hne]
  dsimp only
  rw [htake, if_neg hne, if_neg (Nat.not_le.mpr hlt)]
  rfl

/-! ### Strings of decimal digits -/

/-- What the number parser asks of a character, at a decimal digit. -/
theorem digitChar_spec (d : Nat) (hd : d < 10) :
    digitValue (digitChar d) = d ∧ isSpace (digitChar d) = false ∧ digitChar d ≠ 45 ∧
      digitChar d ≠ 43 ∧ digitChar d ≠ 120 ∧ digitChar d ≠ 88 := by
  revert d
  decide

/-- The characters of digits have their values. -/
theorem map_digitValue_digitChar (ds : List Nat) (hds : ∀ d ∈ ds, d < 10) :
    (ds.map digitChar).map digitValue = ds := by
  -- `digitValue` undoes `digitChar` on every digit.
  have hid : ∀ d ∈ ds, (digitValue ∘ digitChar) d = id d := by
    intro d hd
    exact (digitChar_spec d (hds d hd)).1
  rw [List.map_map, List.map_congr_left hid, List.map_id]

/-- The characters of decimal digits are digits in every larger base. -/
theorem takeWhile_isDigit_digitChar (base : Nat) (hbase : 10 ≤ base) (ds : List Nat)
    (hds : ∀ d ∈ ds, d < 10) :
    (ds.map digitChar).takeWhile (isDigit base) = ds.map digitChar := by
  rw [List.takeWhile_eq_self_iff]
  intro c hc
  obtain ⟨d, hd, rfl⟩ := List.mem_map.mp hc
  have hvalue := (digitChar_spec d (hds d hd)).1
  have hlt := hds d hd
  simp only [isDigit, hvalue, decide_eq_true_eq]
  omega

/-- Decimal digits are digits in base 16 too; their value there is another number. -/
theorem stoull_map_digitChar (base : Nat) (hbase : 10 ≤ base) (hbase' : base ≤ 16) (ds : List Nat)
    (hds : ∀ d ∈ ds, d < 10) (hne : ds ≠ []) (hlt : readFrom base 0 ds < 2 ^ 64) :
    stoull (ds.map digitChar) base = .ok (readFrom base 0 ds).toUInt64 := by
  have hdigits : ∀ c ∈ ds.map digitChar, isDigit base c = true :=
    List.takeWhile_eq_self_iff.mp (takeWhile_isDigit_digitChar base hbase ds hds)
  have hread := stoull_digits hdigits hbase' (mt List.map_eq_nil_iff.mp hne)
  rw [map_digitValue_digitChar ds hds] at hread
  exact hread hlt

/-- A number of 64 bits is read back as it was written. -/
theorem stoull_toString (n : UInt64) : stoull (toString n.toNat) 10 = .ok n := by
  have hread : readFrom 10 0 (digitsOf 10 n.toNat) = n.toNat := Lib.readFrom_digitsOf 10 n.toNat
  -- `to_string` prints at least one digit.
  have hne : digitsOf 10 n.toNat ≠ [] := by
    intro hnil
    have hlt := Lib.lt_pow_length_digitsOf (b := 10) (by decide) n.toNat
    simp [hnil] at hlt
    simp [digitsOf, hlt] at hnil
  rw [toString, stoull_map_digitChar 10 (Nat.le_refl 10) (by decide) _
    (Lib.digitsOf_lt (by decide) _) hne
    (by rw [hread]; exact n.toNat_lt), hread]
  simp

end StdString

end CrossFlow
