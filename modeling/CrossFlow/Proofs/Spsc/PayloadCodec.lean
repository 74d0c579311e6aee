import CrossFlow.Lib.CountedLoop
import CrossFlow.Platform.Mac.DualChannelSpsc

/-!
# `CrossFlow.Proofs.Spsc.PayloadCodec`: the bytes of an object in the words of a payload

`store` cuts the bytes of an object into words of 8, the last one filled up with zeros, and `load`
puts them together again. Each of the two works out for itself how many bytes of the last word it
copies.

* `store_eq`: the words that `store` leaves, whatever was there before.
* `load_eq`: the bytes that `load` reads, of any words.
* `bytesOf_wordsOf`: the two are inverse.
* `load_store`: a payload that was stored is loaded, and no access is out of bounds.
* `RawInputEventFlat.store_toBytes`: the words of the events in the rings are those `store` writes.
-/

set_option autoImplicit false

namespace CrossFlow

open Lib

namespace AtomicPayload

variable {size : Nat}

/-- Every word begins inside the object. -/
theorem offset_lt {k : Nat} (hk : k < N size) : k * 8 < size := by
  unfold N at hk
  omega

/-- The bytes copied for a word stay inside the object and the word. -/
theorem bytesToCopy_le {k : Nat} (hk : k < N size) :
    k * 8 + bytesToCopy size (k * 8) ≤ size ∧ bytesToCopy size (k * 8) ≤ 8 := by
  have hlt := offset_lt hk
  unfold bytesToCopy
  split
  · omega
  · omega

/-! ### Storing -/

/-- The word `k` of an object, with zeros after its last byte. -/
def wordOf (value : Vector UInt8 size) (k : Nat) : UInt64 :=
  ofWordBytes (.ofFn fun i => if h : k * 8 + i < size then value[k * 8 + i] else 0)

/-- The words of a value. -/
def wordsOf (value : Vector UInt8 size) : Vector UInt64 (N size) := .ofFn fun k => wordOf value k

/-- The bytes copied for the word `k` are those of the object that fall in it. -/
theorem lt_bytesToCopy_iff {k i : Nat} (hi : i < 8) :
    i < bytesToCopy size (k * 8) ↔ k * 8 + i < size := by
  unfold bytesToCopy
  split
  · omega
  · omega

/-- Storing a word sets it to that of the value. -/
theorem storeWord_eq (src : Vector UInt8 size) (words : Vector UInt64 (N size)) {k : Nat}
    (hk : k < N size) : storeWord src words k = some (words.set k (wordOf src k)) := by
  have hbounds := bytesToCopy_le hk
  obtain ⟨word, heq, hbytes⟩ := getElem_memcpy (wordBytes 0) 0 src (k * 8)
    (bytesToCopy size (k * 8)) (by omega) (by omega)
  -- The bytes past the end of the value stay 0.
  have hword : word = .ofFn fun i => if h : k * 8 + i < size then src[k * 8 + i] else 0 := by
    refine Vector.ext ?_
    intro i hi
    have hcopied : i < bytesToCopy size (k * 8) ↔ k * 8 + i < size := lt_bytesToCopy_iff hi
    rw [hbytes i hi, Vector.getElem_ofFn]
    dsimp only
    split
    · rename_i hlt
      rw [dif_pos (hcopied.mp (by omega))]
      rfl
    · rename_i hge
      rw [dif_neg (fun h => hge ⟨Nat.zero_le i, by omega⟩)]
      simp only [wordBytes_zero, Vector.getElem_replicate]
  simp only [storeWord, heq, Option.bind_eq_bind, Option.bind_some, dif_pos hk, hword]
  rfl

/-- `store` writes the words of the object over all that was there. -/
theorem store_eq (value src : Vector UInt8 size) (words : Vector UInt64 (N size)) :
    store value words src = some (wordsOf value) := by
  -- After `k` iterations the first `k` words are those of the object.
  have hloop : ∃ words', (List.range (N size)).foldlM (storeWord value) words = some words' ∧
      ∀ j (hj : j < N size), j < N size → words'[j] = wordOf value j := by
    refine foldlM_range (storeWord value) (N size)
      (fun k words' => ∀ j (hj : j < N size), j < k → words'[j] = wordOf value j) ?_ ?_
    · exact fun j _ h => absurd h (Nat.not_lt_zero j)
    · intro k words' hk hwords
      refine ⟨_, storeWord_eq value words' hk, ?_⟩
      intro j hj hjk
      rw [Vector.getElem_set]
      split
      · rename_i heq
        rw [heq]
      · rename_i hne
        exact hwords j hj (by omega)
  obtain ⟨words', heq, hwords⟩ := hloop
  have hall : words' = wordsOf value := by
    refine Vector.ext ?_
    intro j hj
    rw [hwords j hj hj, wordsOf, Vector.getElem_ofFn]
  simp only [store, memcpy_whole, Option.bind_eq_bind, Option.bind_some, heq, hall]

/-! ### Loading -/

/-- Every byte lies in one of the words. -/
theorem div_lt {i : Nat} (hi : i < size) : i / 8 < N size := by
  unfold N
  omega

/-- The byte `i` of the object whose words these are. -/
def byteOf (words : Vector UInt64 (N size)) (i : Nat) (hi : i < size) : UInt8 :=
  have hword := div_lt hi
  (wordBytes words[i / 8])[i % 8]

/-- The bytes of the words. -/
def bytesOf (words : Vector UInt64 (N size)) : Vector UInt8 size :=
  .ofFn fun i => byteOf words i i.isLt

/-- An iteration fills in the bytes of its word. -/
theorem loadWord_eq (words : Vector UInt64 (N size)) (dst : Vector UInt8 size) {k : Nat}
    (hk : k < N size) : ∃ dst', loadWord words dst k = some dst' ∧
      ∀ i (hi : i < size), dst'[i] = if i / 8 = k then byteOf words i hi else dst[i] := by
  have hbounds := bytesToCopy_le hk
  obtain ⟨dst', heq, hbytes⟩ := getElem_memcpy dst (k * 8) (wordBytes words[k]) 0
    (bytesToCopy size (k * 8)) (by omega) (by omega)
  refine ⟨dst', ?_, ?_⟩
  · simp only [loadWord, Vector.getElem?_eq_getElem hk, Option.bind_eq_bind, Option.bind_some, heq]
  · intro i hi
    rw [hbytes i hi]
    -- Only the eight bytes of word `k` are written.
    by_cases hword : i / 8 = k
    · have hlt : i - k * 8 < bytesToCopy size (k * 8) :=
        (lt_bytesToCopy_iff (by omega)).mpr (by omega)
      rw [if_pos hword, dif_pos ⟨by omega, by omega⟩]
      subst hword
      unfold byteOf
      congr 1
      omega
    · rw [if_neg hword, dif_neg]
      omega

/-- `load` reads the bytes of the words over all that was there. -/
theorem load_eq (words : Vector UInt64 (N size)) (result : Vector UInt8 size) :
    load words result = some (bytesOf words) := by
  -- After `k` iterations the bytes of the first `k` words are there.
  have hloop : ∃ dst, (List.range (N size)).foldlM (loadWord words) (.replicate size 0) = some dst ∧
      ∀ i (hi : i < size), i / 8 < N size → dst[i] = byteOf words i hi := by
    refine foldlM_range (loadWord words) (N size)
      (fun k dst => ∀ i (hi : i < size), i / 8 < k → dst[i] = byteOf words i hi) ?_ ?_
    · exact fun i _ h => absurd h (Nat.not_lt_zero _)
    · intro k dst hk hdst
      obtain ⟨dst', heq, hbytes⟩ := loadWord_eq words dst hk
      refine ⟨dst', heq, ?_⟩
      intro i hi hik
      rw [hbytes i hi]
      split
      · rfl
      · rename_i hne
        exact hdst i hi (by omega)
  obtain ⟨dst, heq, hdst⟩ := hloop
  have hall : dst = bytesOf words := by
    refine Vector.ext ?_
    intro i hi
    rw [hdst i hi (div_lt hi), bytesOf, Vector.getElem_ofFn]
  simp only [load, heq, Option.bind_eq_bind, Option.bind_some, memcpy_whole, hall]

/-! ### Storing and loading -/

/-- The bytes of the words of a value are the value. -/
theorem bytesOf_wordsOf (value : Vector UInt8 size) : bytesOf (wordsOf value) = value := by
  refine Vector.ext ?_
  intro i hi
  have hoffset : i / 8 * 8 + i % 8 = i := by omega
  simp only [bytesOf, Vector.getElem_ofFn, byteOf, wordsOf, wordOf, wordBytes_ofWordBytes, hoffset,
    dif_pos hi]

/-- An object of any size that was stored is loaded with the same bytes. Its words are as many as it
needs: the last one begins inside it, and it ends inside the last one. -/
theorem load_store (value src result : Vector UInt8 size) (words : Vector UInt64 (N size)) :
    (∃ stored, store value words src = some stored ∧ load stored result = some value) ∧
      (∀ k < N size, k * 8 < size) ∧ size ≤ N size * 8 := by
  refine ⟨⟨wordsOf value, store_eq value src words, ?_⟩, fun k hk => offset_lt hk, ?_⟩
  · rw [load_eq, bytesOf_wordsOf]
  · unfold N
    omega

end AtomicPayload

/-! ### The events in the rings -/

namespace RawInputEventFlat

/-- The 48 bytes of the object, with zeros in its padding. -/
def toBytes (e : RawInputEventFlat) : Vector UInt8 48 :=
  ⟨(leBytes 8 e.platformTime.toNat ++ (leBytes 8 e.modifierFlags.toNat ++
    (e.kind :: leBytes 3 0 ++ (leBytes 4 e.deltaX.toUInt32.toNat ++
    (leBytes 4 e.deltaY.toUInt32.toNat ++ (e.button :: leBytes 3 0 ++
    (leBytes 4 e.wheelDelta.toUInt32.toNat ++ (e.wheelAxis :: leBytes 1 0 ++
    (leBytes 2 e.keyCode.toNat ++ (e.valid :: leBytes 7 0)))))))))).toArray, by simp⟩

/-- A member of 8 bytes is a word. -/
theorem ofNat_leBytes (word : UInt64) : UInt64.ofNat (leValue (leBytes 8 word.toNat)) = word := by
  rw [leValue_leBytes word.toNat_lt, UInt64.ofNat_toNat]

/-- A member of one byte, and zeros behind it. -/
theorem leValue_byte (byte : UInt8) (k : Nat) : leValue (byte :: leBytes k 0) = byte.toNat := by
  rw [leValue, leValue_leBytes (Nat.pow_pos (by decide)), Nat.mul_zero, Nat.add_zero]

/-- The words of an event's bytes are its words. -/
theorem wordsOf_toBytes (e : RawInputEventFlat) : AtomicPayload.wordsOf e.toBytes = e.toWords := by
  have hdx := e.deltaX.toUInt32.toNat_lt
  have hdy := e.deltaY.toUInt32.toNat_lt
  have hwheel := e.wheelDelta.toUInt32.toNat_lt
  have hkey := e.keyCode.toNat_lt
  -- Each word is the little-endian number of its fields, with the padding as 0.
  have h0 : AtomicPayload.wordOf e.toBytes 0 = e.platformTime := ofNat_leBytes e.platformTime
  have h1 : AtomicPayload.wordOf e.toBytes 1 = e.modifierFlags := ofNat_leBytes e.modifierFlags
  have h2 : AtomicPayload.wordOf e.toBytes 2 =
      .ofNat (e.kind.toNat + e.deltaX.toUInt32.toNat * 2 ^ 32) := by
    show UInt64.ofNat (leValue (e.kind :: leBytes 3 0 ++ leBytes 4 e.deltaX.toUInt32.toNat)) = _
    rw [leValue_append, leValue_byte, leValue_leBytes hdx, List.length_cons, length_leBytes,
      Nat.mul_comm]
    rfl
  have h3 : AtomicPayload.wordOf e.toBytes 3 =
      .ofNat (e.deltaY.toUInt32.toNat + e.button.toNat * 2 ^ 32) := by
    show UInt64.ofNat (leValue (leBytes 4 e.deltaY.toUInt32.toNat ++ (e.button :: leBytes 3 0))) = _
    rw [leValue_append, leValue_byte, leValue_leBytes hdy, length_leBytes, Nat.mul_comm]
    rfl
  have h4 : AtomicPayload.wordOf e.toBytes 4 = .ofNat (e.wheelDelta.toUInt32.toNat +
      e.wheelAxis.toNat * 2 ^ 32 + e.keyCode.toNat * 2 ^ 48) := by
    show UInt64.ofNat (leValue (leBytes 4 e.wheelDelta.toUInt32.toNat ++
      (e.wheelAxis :: leBytes 1 0 ++ leBytes 2 e.keyCode.toNat))) = _
    rw [leValue_append, leValue_append, leValue_byte, leValue_leBytes hwheel, leValue_leBytes hkey,
      List.length_cons, length_leBytes, length_leBytes]
    congr 1
    omega
  have h5 : AtomicPayload.wordOf e.toBytes 5 = .ofNat e.valid.toNat := by
    show UInt64.ofNat (leValue (e.valid :: leBytes 7 0)) = _
    rw [leValue_byte]
  show #v[AtomicPayload.wordOf e.toBytes 0, AtomicPayload.wordOf e.toBytes 1,
    AtomicPayload.wordOf e.toBytes 2, AtomicPayload.wordOf e.toBytes 3,
    AtomicPayload.wordOf e.toBytes 4, AtomicPayload.wordOf e.toBytes 5] = e.toWords
  rw [h0, h1, h2, h3, h4, h5]
  rfl

/-- The words in which the rings keep an event are those that `store` makes of its bytes. -/
theorem store_toBytes (e : RawInputEventFlat) (words : Vector UInt64 6) (src : Vector UInt8 48) :
    AtomicPayload.store e.toBytes words src = some e.toWords :=
  (AtomicPayload.store_eq e.toBytes src words).trans (congrArg some (wordsOf_toBytes e))

end RawInputEventFlat

end CrossFlow
