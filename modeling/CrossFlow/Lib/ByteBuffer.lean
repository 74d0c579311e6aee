import Mathlib.Algebra.Group.Nat.Defs
import Mathlib.Data.List.Basic

/-!
# `CrossFlow.Lib.ByteBuffer`: copies between objects, and words as bytes

An object in memory is a vector of bytes. `memcpy` has no result when it would leave one of the two
objects, so a program that has a result made no access out of bounds. A word of 64 bits is an object
of 8 bytes, the lowest one first.

* `getElem_memcpy`: the bytes after a copy.
* `memcpy_whole`: a whole object copied over another one.
* `leBytes_leValue`, `leValue_leBytes`: numbers as bytes, and back.
* `wordBytes_ofWordBytes`: a word holds the bytes it was made of.
-/

set_option autoImplicit false

namespace CrossFlow.Lib

/-! ### Copies -/

section
variable {m n : Nat}

/-- `memcpy(dst + dstOffset, src + srcOffset, count)` -/
def memcpy (dst : Vector UInt8 m) (dstOffset : Nat) (src : Vector UInt8 n) (srcOffset count : Nat) :
    Option (Vector UInt8 m) :=
  if h : dstOffset + count ≤ m ∧ srcOffset + count ≤ n then
    some <| .ofFn fun i =>
      if hi : dstOffset ≤ i ∧ i < dstOffset + count then src[srcOffset + (i - dstOffset)]
      else dst[i]
  else none

/-- A copy within both objects replaces the bytes from `dstOffset` on. -/
theorem getElem_memcpy (dst : Vector UInt8 m) (dstOffset : Nat) (src : Vector UInt8 n)
    (srcOffset count : Nat) (hdst : dstOffset + count ≤ m) (hsrc : srcOffset + count ≤ n) :
    ∃ dst', memcpy dst dstOffset src srcOffset count = some dst' ∧
      ∀ i (hi : i < m), dst'[i] =
        if h : dstOffset ≤ i ∧ i < dstOffset + count then src[srcOffset + (i - dstOffset)]
        else dst[i] := by
  refine ⟨_, dif_pos ⟨hdst, hsrc⟩, ?_⟩
  intro i hi
  rw [Vector.getElem_ofFn]
  rfl

/-- A copy of a whole buffer is the buffer. -/
theorem memcpy_whole (dst src : Vector UInt8 n) : memcpy dst 0 src 0 n = some src := by
  obtain ⟨dst', heq, hbytes⟩ := getElem_memcpy dst 0 src 0 n (by omega) (by omega)
  rw [heq, Option.some.injEq]
  refine Vector.ext ?_
  intro i hi
  rw [hbytes i hi, dif_pos ⟨Nat.zero_le i, by omega⟩]
  congr 1
  omega

end

/-! ### Words -/

/-- The lowest `k` bytes of a number. -/
def leBytes : Nat → Nat → List UInt8
  | 0, _ => []
  | k + 1, n => n.toUInt8 :: leBytes k (n / 256)

/-- The number that bytes stand for, the lowest first. -/
def leValue : List UInt8 → Nat
  | [] => 0
  | byte :: bytes => byte.toNat + 256 * leValue bytes

/-- As many bytes as were asked for. -/
@[simp] theorem length_leBytes (k n : Nat) : (leBytes k n).length = k := by
  induction k generalizing n with
  | zero => rfl
  | succ k ih => rw [leBytes, List.length_cons, ih]

/-- Bytes stand for less than the power of their number. -/
theorem leValue_lt (bytes : List UInt8) : leValue bytes < 256 ^ bytes.length := by
  induction bytes with
  | nil => exact Nat.zero_lt_one
  | cons byte bytes ih =>
    have hbyte := byte.toNat_lt
    rw [leValue, List.length_cons, Nat.pow_succ]
    omega

/-- Bytes are those of the number they stand for. -/
theorem leBytes_leValue (bytes : List UInt8) : leBytes bytes.length (leValue bytes) = bytes := by
  induction bytes with
  | nil => rfl
  | cons byte bytes ih =>
    have hbyte := byte.toNat_lt
    have hrest : (byte.toNat + 256 * leValue bytes) / 256 = leValue bytes := by omega
    have hhead : (byte.toNat + 256 * leValue bytes).toUInt8 = byte := by
      refine UInt8.toNat_inj.mp ?_
      show (byte.toNat + 256 * leValue bytes) % 256 = byte.toNat
      omega
    rw [List.length_cons, leValue, leBytes, hrest, hhead, ih]

/-- The bytes that follow count for more. -/
theorem leValue_append (xs ys : List UInt8) :
    leValue (xs ++ ys) = leValue xs + 256 ^ xs.length * leValue ys := by
  induction xs with
  | nil => rw [List.nil_append, leValue, List.length_nil, Nat.pow_zero, Nat.one_mul, Nat.zero_add]
  | cons x xs ih =>
    calc leValue (x :: xs ++ ys)
        = x.toNat + 256 * (leValue xs + 256 ^ xs.length * leValue ys) := by
          rw [List.cons_append, leValue, ih]
      _ = leValue (x :: xs) + 256 ^ (x :: xs).length * leValue ys := by
          rw [leValue, List.length_cons, Nat.pow_succ, Nat.mul_add, ← Nat.mul_assoc,
            Nat.mul_comm 256 (256 ^ xs.length), Nat.add_assoc]

/-- The lowest bytes of a number are the number, when it has no others. -/
theorem leValue_leBytes {k n : Nat} (h : n < 256 ^ k) : leValue (leBytes k n) = n := by
  induction k generalizing n with
  | zero =>
    rw [Nat.pow_zero] at h
    show 0 = n
    omega
  | succ k ih =>
    rw [Nat.pow_succ] at h
    have hrest : n / 256 < 256 ^ k := Nat.div_lt_of_lt_mul (by omega)
    have hhead : n.toUInt8.toNat = n % 256 := rfl
    rw [leBytes, leValue, ih hrest, hhead]
    omega

/-- The bytes of a word in memory. -/
def wordBytes (word : UInt64) : Vector UInt8 8 := ⟨(leBytes 8 word.toNat).toArray, by simp⟩

/-- The bytes of 0 are 0. -/
theorem wordBytes_zero : wordBytes 0 = .replicate 8 0 := rfl

/-- The word that an object of 8 bytes is. -/
def ofWordBytes (bytes : Vector UInt8 8) : UInt64 := .ofNat (leValue bytes.toList)

/-- Eight bytes are those of the word that they make. -/
theorem wordBytes_ofWordBytes (bytes : Vector UInt8 8) : wordBytes (ofWordBytes bytes) = bytes := by
  have hlength : bytes.toList.length = 8 := Vector.length_toList
  have hlt : leValue bytes.toList < 2 ^ 64 := by
    have hlt := leValue_lt bytes.toList
    rwa [hlength] at hlt
  have hvalue : (ofWordBytes bytes).toNat = leValue bytes.toList := UInt64.toNat_ofNat_of_lt' hlt
  refine Vector.toList_inj.mp ?_
  show leBytes 8 (ofWordBytes bytes).toNat = bytes.toList
  have hbytes := leBytes_leValue bytes.toList
  rw [hlength] at hbytes
  rw [hvalue, hbytes]

end CrossFlow.Lib
