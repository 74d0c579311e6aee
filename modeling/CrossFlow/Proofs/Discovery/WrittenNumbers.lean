import CrossFlow.Core.Common.Domain
import CrossFlow.Core.Common.StdString

/-!
# `CrossFlow.Proofs.Discovery.WrittenNumbers`: numbers and node ids as they are written

What a string says when all of it is a number: decimal digits for a number, 32 hexadecimal digits
for a node id. The parsers of the discovery read more than that: white space, signs, prefixes and
whatever follows the digits.

* `stoull_of_isNumber`, `stoull_of_isHexId`: what is written so is read as it is.
-/

set_option autoImplicit false

namespace CrossFlow

open Lib (readFrom)
open StdString (isDigit digitValue stoull stoul)

/-! ### Numbers -/

/-- The value of a string of digits. -/
def digitsValue (base : Nat) (s : StdString) : Nat := readFrom base 0 (s.map digitValue)

/-- All of the string is a decimal number below the bound. -/
def IsNumber (bound : Nat) (s : StdString) : Prop :=
  s ≠ [] ∧ (∀ c ∈ s, isDigit 10 c = true) ∧ digitsValue 10 s < bound

/-- Whether a text is a number below a bound can be looked up. -/
instance (bound : Nat) (s : StdString) : Decidable (IsNumber bound s) :=
  inferInstanceAs (Decidable (_ ∧ _ ∧ _))

/-- The string is the number, in decimal digits. -/
def WritesNumber (s : StdString) (n : Nat) : Prop :=
  s ≠ [] ∧ (∀ c ∈ s, isDigit 10 c = true) ∧ digitsValue 10 s = n

/-- What writes a number below the bound is one. -/
theorem WritesNumber.isNumber {s : StdString} {n bound : Nat} (h : WritesNumber s n)
    (hn : n < bound) : IsNumber bound s := ⟨h.1, h.2.1, h.2.2 ▸ hn⟩

/-- A text of digits writes the number that they stand for. -/
theorem IsNumber.writesNumber {s : StdString} {bound : Nat} (h : IsNumber bound s) :
    WritesNumber s (digitsValue 10 s) := ⟨h.1, h.2.1, rfl⟩

/-- A number below `2 ^ 64` is read as it is written. -/
theorem stoull_of_isNumber {s : StdString} (h : IsNumber (2 ^ 64) s) :
    stoull s 10 = .ok (digitsValue 10 s).toUInt64 :=
  StdString.stoull_digits h.2.1 (by decide) h.1 h.2.2

/-! ### Node ids -/

/-- All of the string is 32 hexadecimal digits. -/
def IsHexId (s : StdString) : Prop := s.length = 32 ∧ ∀ c ∈ s, isDigit 16 c = true

/-- Whether a text is an id in hexadecimal digits can be looked up. -/
instance (s : StdString) : Decidable (IsHexId s) := inferInstanceAs (Decidable (_ ∧ _))

/-- The node id of a number of 128 bits. -/
def NodeId.ofNat (n : Nat) : NodeId where
  high := (n / 2 ^ 64).toUInt64
  low := (n % 2 ^ 64).toUInt64

/-- The node id that 32 hexadecimal digits write. -/
def hexId (s : StdString) : NodeId := .ofNat (digitsValue 16 s)

/-- The digits that follow count for less. -/
theorem digitsValue_append (base : Nat) (s t : StdString) :
    digitsValue base (s ++ t) = digitsValue base s * base ^ t.length + digitsValue base t := by
  rw [digitsValue, List.map_append, Lib.readFrom_append, Lib.readFrom_eq_mul_add, List.length_map]
  rfl

/-- Both halves are read, and make the number of the whole. -/
theorem stoull_of_isHexId {s : StdString} (h : IsHexId s) :
    stoull (s.take 16) 16 = .ok (hexId s).high ∧
      stoull ((s.drop 16).take 16) 16 = .ok (hexId s).low := by
  obtain ⟨hlength, hdigits⟩ := h
  have hlow : (s.drop 16).take 16 = s.drop 16 :=
    List.take_of_length_le (by rw [List.length_drop, hlength])
  have hhigh16 : (s.take 16).length = 16 := by rw [List.length_take, hlength]; rfl
  have hlow16 : (s.drop 16).length = 16 := by rw [List.length_drop, hlength]
  have hhighDigits : ∀ c ∈ s.take 16, isDigit 16 c = true :=
    fun c hc => hdigits c (List.mem_of_mem_take hc)
  have hlowDigits : ∀ c ∈ s.drop 16, isDigit 16 c = true :=
    fun c hc => hdigits c (List.mem_of_mem_drop hc)
  have hhighLt : digitsValue 16 (s.take 16) < 2 ^ 64 := by
    have hlt := StdString.readFrom_digits_lt hhighDigits
    rw [hhigh16] at hlt
    exact hlt
  have hlowLt : digitsValue 16 (s.drop 16) < 2 ^ 64 := by
    have hlt := StdString.readFrom_digits_lt hlowDigits
    rw [hlow16] at hlt
    exact hlt
  -- The number of the whole is that of the first half, moved up by 64 bits, and the second.
  have hwhole : digitsValue 16 s =
      digitsValue 16 (s.take 16) * 2 ^ 64 + digitsValue 16 (s.drop 16) := by
    have hsplit := digitsValue_append 16 (s.take 16) (s.drop 16)
    rw [List.take_append_drop, hlow16] at hsplit
    exact hsplit
  have hhalves : digitsValue 16 s / 2 ^ 64 = digitsValue 16 (s.take 16) ∧
      digitsValue 16 s % 2 ^ 64 = digitsValue 16 (s.drop 16) := by
    rw [hwhole]
    omega
  rw [hexId, NodeId.ofNat, hhalves.1, hhalves.2, hlow]
  constructor
  · refine StdString.stoull_digits hhighDigits (by decide) ?_ hhighLt
    exact List.ne_nil_of_length_pos (by omega)
  · refine StdString.stoull_digits hlowDigits (by decide) ?_ hlowLt
    exact List.ne_nil_of_length_pos (by omega)

end CrossFlow
