import CrossFlow.Lib.ByteBuffer
import Mathlib.Data.Nat.Basic

/-!
# `CrossFlow.Platform.Common.AtomicPayload`: the words of a payload

`AtomicPayload<T>` (`platform/common/atomic_payload.hpp`) keeps a trivially copyable `T` as
`N = (sizeof(T) + 7) / 8` atomic 64-bit words. `store` copies the object into the words one word
at a time and `load` copies the words back, so another thread can see the payload between any
two words. The ring buffer model therefore only needs the word image of a `T`.

An object is its bytes here, and its size is any number. The memory orders say what other threads
see, and are left out.
-/

set_option autoImplicit false

namespace CrossFlow

open Lib (memcpy wordBytes ofWordBytes)

namespace AtomicPayload

/-- `N` of a type of `size` bytes. -/
def N (size : Nat) : Nat := (size + 7) / 8

/-- In the second branch `byteOffset` is below `size` when it is that of one of the `N` words. -/
def bytesToCopy (size byteOffset : Nat) : Nat :=
  if byteOffset + 8 ≤ size then 8 else size - byteOffset

variable {size : Nat}

/-- One iteration of `store`. -/
def storeWord (src : Vector UInt8 size) (words : Vector UInt64 (N size)) (k : Nat) :
    Option (Vector UInt64 (N size)) := do
  let byteOffset := k * 8
  let word ← memcpy (wordBytes 0) 0 src byteOffset (bytesToCopy size byteOffset)
  if hk : k < N size then some (words.set k (ofWordBytes word)) else none

/-- `src` is what the local array holds before the first `memcpy`. -/
def store (value : Vector UInt8 size) (words : Vector UInt64 (N size)) (src : Vector UInt8 size) :
    Option (Vector UInt64 (N size)) := do
  let src ← memcpy src 0 value 0 size
  (List.range (N size)).foldlM (storeWord src) words

/-- One iteration of `load`. -/
def loadWord (words : Vector UInt64 (N size)) (dst : Vector UInt8 size) (k : Nat) :
    Option (Vector UInt8 size) := do
  let word ← words[k]?
  let byteOffset := k * 8
  memcpy dst byteOffset (wordBytes word) 0 (bytesToCopy size byteOffset)

/-- `result` is what the local object holds before the last `memcpy`. -/
def load (words : Vector UInt64 (N size)) (result : Vector UInt8 size) :
    Option (Vector UInt8 size) := do
  let dst ← (List.range (N size)).foldlM (loadWord words) (.replicate size 0)
  memcpy result 0 dst 0 size

end AtomicPayload

/-- The memory image of a trivially copyable type in 64-bit words. -/
class TriviallyCopyable (T : Type) where
  /-- `AtomicPayload<T>::N`. -/
  wordCount : Nat
  /-- The words `AtomicPayload::store` writes. -/
  toWords : T → Vector UInt64 wordCount
  /-- The object `AtomicPayload::load` builds from the words it reads. -/
  ofWords : Vector UInt64 wordCount → T
  ofWords_toWords : ∀ x, ofWords (toWords x) = x

open TriviallyCopyable in
attribute [simp] ofWords_toWords

/-- `words_` of an `AtomicPayload<T>`. -/
abbrev AtomicPayload (T : Type) [TriviallyCopyable T] : Type :=
  Vector UInt64 (TriviallyCopyable.wordCount T)

end CrossFlow
