import CrossFlow.Core.Common.StdString

/-!
# `CrossFlow.Core.Common.StdStream`: reading from a `std::istream`

`operator>>` of a new stream in the "C" locale: white space is skipped, a number is the longest run
of decimal digits after a sign, a string ends where white space begins. The functions return what is
read and what is left of the stream, and `none` when `failbit` is set. `operator<<` writes a number
as `StdString.toString` does.

* `extractU64_toString`, `extractU32_toString`: a number that was written is read back.
* `extractU64_cut`: after a number that is cut off, nothing is left.
* `extractWord_eq`: a string is read back when it is one word.
-/

set_option autoImplicit false

namespace CrossFlow

namespace StdString

open Lib (readFrom digitsOf)

/-- The sign, the digits' value and the rest. -/
def extractDigits (s : StdString) : Option (Bool × Nat × StdString) :=
  let (negative, unsigned) := splitSign (s.dropWhile isSpace)
  let digits := unsigned.takeWhile (isDigit 10)
  if digits = [] then none
  else some (negative, readFrom 10 0 (digits.map digitValue), unsigned.dropWhile (isDigit 10))

/-- `operator>>(u64&)`. A number with a minus sign is negated modulo `2 ^ 64`. -/
def extractU64 (s : StdString) : Option (UInt64 × StdString) := do
  let (negative, value, rest) ← extractDigits s
  if 2 ^ 64 ≤ value then none
  else some (if negative then -value.toUInt64 else value.toUInt64, rest)

/-- `operator>>(u32&)` -/
def extractU32 (s : StdString) : Option (UInt32 × StdString) := do
  let (negative, value, rest) ← extractDigits s
  if 2 ^ 32 ≤ value then none
  else some (if negative then -value.toUInt32 else value.toUInt32, rest)

/-- `operator>>(int&)` -/
def extractInt (s : StdString) : Option (Int × StdString) := do
  let (negative, value, rest) ← extractDigits s
  if negative then
    if 2 ^ 31 < value then none else some (-value, rest)
  else if 2 ^ 31 ≤ value then none
  else some (value, rest)

/-- `operator>>(std::string&)` -/
def extractWord (s : StdString) : Option (StdString × StdString) :=
  let s := s.dropWhile isSpace
  let word := s.takeWhile fun c => !isSpace c
  if word = [] then none else some (word, s.dropWhile fun c => !isSpace c)

/-! ### Numbers -/

/-- No digit is a space. -/
theorem not_isDigit_of_isSpace {c : UInt8} (hc : isSpace c = true) : isDigit 10 c = false := by
  have hspace : c = 32 ∨ (9 ≤ c ∧ c ≤ 13) := by simpa [isSpace] using hc
  have hsmall : ¬ 48 ≤ c ∧ ¬ 97 ≤ c ∧ ¬ 65 ≤ c := by
    simp only [UInt8.le_iff_toNat_le, ← UInt8.toNat_inj] at hspace ⊢
    change c.toNat = 32 ∨ 9 ≤ c.toNat ∧ c.toNat ≤ 13 at hspace
    change ¬ 48 ≤ c.toNat ∧ ¬ 97 ≤ c.toNat ∧ ¬ 65 ≤ c.toNat
    omega
  simp [isDigit, digitValue, hsmall]

/-- A rest that does not go on with a digit. -/
def EndsNumber (rest : StdString) : Prop := ∀ c, rest.head? = some c → isDigit 10 c = false

/-- A number ends with the text. -/
theorem endsNumber_nil : EndsNumber [] := by
  intro c hc
  exact absurd hc (by simp)

/-- A number ends at a space. -/
theorem endsNumber_cons {c : UInt8} (hc : isSpace c = true) (rest : StdString) :
    EndsNumber (c :: rest) := by
  intro c' hc'
  rw [List.head?_cons, Option.some_inj] at hc'
  exact hc' ▸ not_isDigit_of_isSpace hc

/-- Nothing is taken of a text whose first character is not taken. -/
theorem takeWhile_eq_nil_of_head {p : UInt8 → Bool} {rest : StdString}
    (h : ∀ c, rest.head? = some c → p c = false) :
    rest.takeWhile p = [] ∧ rest.dropWhile p = rest := by
  cases rest with
  | nil => exact ⟨rfl, rfl⟩
  | cons c rest =>
    have hc := h c rfl
    exact ⟨List.takeWhile_cons_of_neg (by simp [hc]), List.dropWhile_cons_of_neg (by simp [hc])⟩

/-- Digits are read up to where they end. -/
theorem extractDigits_map_digitChar {ws : StdString} (hws : ∀ c ∈ ws, isSpace c = true)
    {ds : List Nat} (hds : ∀ d ∈ ds, d < 10) (hne : ds ≠ []) {rest : StdString}
    (hrest : EndsNumber rest) :
    extractDigits (ws ++ (ds.map digitChar ++ rest)) = some (false, readFrom 10 0 ds, rest) := by
  have hdigit : ∀ c ∈ ds.map digitChar, isDigit 10 c = true := by
    intro c hc
    rw [← takeWhile_isDigit_digitChar 10 (Nat.le_refl 10) ds hds] at hc
    exact List.mem_takeWhile_imp hc
  -- The first character that is not white space is a digit, and so no sign.
  have hsign : splitSign ((ws ++ (ds.map digitChar ++ rest)).dropWhile isSpace) =
      (false, ds.map digitChar ++ rest) := by
    rw [List.dropWhile_append_of_pos hws]
    cases ds with
    | nil => exact absurd rfl hne
    | cons d ds =>
      obtain ⟨-, hspace, hminus, hplus, -⟩ := digitChar_spec d (hds d List.mem_cons_self)
      rw [List.map_cons, List.cons_append, List.dropWhile_cons, hspace, if_neg Bool.false_ne_true]
      unfold splitSign
      split <;> simp_all
  obtain ⟨htake, hdrop⟩ := takeWhile_eq_nil_of_head hrest
  unfold extractDigits
  rw [hsign]
  dsimp only
  -- The digits end where `rest` begins, since that does not begin with one.
  rw [List.takeWhile_append_of_pos hdigit, List.dropWhile_append_of_pos hdigit, htake, hdrop,
    List.append_nil, map_digitValue_digitChar ds hds, if_neg (by simpa using hne)]

/-- There is no number in a text of spaces. -/
theorem extractDigits_of_isSpace {ws : StdString} (hws : ∀ c ∈ ws, isSpace c = true) :
    extractDigits ws = none := by
  have hnil : ws.dropWhile isSpace = [] := List.dropWhile_eq_nil_iff.mpr hws
  unfold extractDigits
  rw [hnil]
  rfl

/-- Every number has a digit. -/
theorem digitsOf_ne_nil (n : Nat) : digitsOf 10 n ≠ [] := by
  intro hnil
  have hlt := Lib.lt_pow_length_digitsOf (b := 10) (by decide) n
  simp [hnil] at hlt
  simp [digitsOf, hlt] at hnil

/-- The digits of a number are read back, up to where it ends. -/
theorem extractDigits_toString {ws : StdString} (hws : ∀ c ∈ ws, isSpace c = true) (n : Nat)
    {rest : StdString} (hrest : EndsNumber rest) :
    extractDigits (ws ++ (toString n ++ rest)) = some (false, n, rest) := by
  have hread := extractDigits_map_digitChar hws (Lib.digitsOf_lt (by decide) n)
    (digitsOf_ne_nil n) hrest
  rw [Lib.readFrom_digitsOf] at hread
  exact hread

/-- A number that was written is read back as one of 64 bits. -/
theorem extractU64_toString {ws : StdString} (hws : ∀ c ∈ ws, isSpace c = true) (n : UInt64)
    {rest : StdString} (hrest : EndsNumber rest) :
    extractU64 (ws ++ (toString n.toNat ++ rest)) = some (n, rest) := by
  rw [extractU64, extractDigits_toString hws n.toNat hrest]
  show (if 2 ^ 64 ≤ n.toNat then none else some (n.toNat.toUInt64, rest)) = some (n, rest)
  rw [if_neg (Nat.not_le.mpr n.toNat_lt), Nat.toUInt64_eq, UInt64.ofNat_toNat]

/-- A number that was written is read back as one of 32 bits. -/
theorem extractU32_toString {ws : StdString} (hws : ∀ c ∈ ws, isSpace c = true) (n : UInt32)
    {rest : StdString} (hrest : EndsNumber rest) :
    extractU32 (ws ++ (toString n.toNat ++ rest)) = some (n, rest) := by
  rw [extractU32, extractDigits_toString hws n.toNat hrest]
  show (if 2 ^ 32 ≤ n.toNat then none else some (n.toNat.toUInt32, rest)) = some (n, rest)
  rw [if_neg (Nat.not_le.mpr n.toNat_lt), Nat.toUInt32_eq, UInt32.ofNat_toNat]

/-- A number that was written and has room in an `int` is read back. -/
theorem extractInt_toString {ws : StdString} (hws : ∀ c ∈ ws, isSpace c = true) {n : Nat}
    (hn : n < 2 ^ 31) {rest : StdString} (hrest : EndsNumber rest) :
    extractInt (ws ++ (toString n ++ rest)) = some ((n : Int), rest) := by
  rw [extractInt, extractDigits_toString hws n hrest]
  show (if 2 ^ 31 ≤ n then none else some ((n : Int), rest)) = some ((n : Int), rest)
  rw [if_neg (Nat.not_le.mpr hn)]

/-- No number is read at the end of a text. -/
theorem extractU64_nil : extractU64 [] = none := rfl

/-- No number is read at the end of a text. -/
theorem extractU32_nil : extractU32 [] = none := rfl

/-- Where a number is read there are digits, perhaps after a sign. -/
theorem extractU64_cases {s : StdString} {v : UInt64} {rest : StdString}
    (h : extractU64 s = some (v, rest)) :
    ∃ negative value, extractDigits s = some (negative, value, rest) := by
  unfold extractU64 at h
  cases hdigits : extractDigits s with
  | none =>
    rw [hdigits] at h
    exact absurd h (by simp)
  | some r =>
    obtain ⟨negative, value, rest'⟩ := r
    rw [hdigits] at h
    dsimp only [Option.bind_eq_bind, Option.bind_some] at h
    split at h
    · exact absurd h (by simp)
    · cases h
      exact ⟨negative, value, rfl⟩

/-- Taking off a sign makes a text no longer. -/
theorem length_splitSign_le (s : StdString) : (splitSign s).2.length ≤ s.length := by
  unfold splitSign
  split
  · exact Nat.le_succ _
  · exact Nat.le_succ _
  · exact Nat.le_refl _

/-- A number takes at least one character from the stream. -/
theorem length_lt_of_extractU64 {s : StdString} {v : UInt64} {rest : StdString}
    (h : extractU64 s = some (v, rest)) : rest.length < s.length := by
  obtain ⟨negative, value, hdigits⟩ := extractU64_cases h
  have hskip : (s.dropWhile isSpace).length ≤ s.length := (List.dropWhile_suffix _).length_le
  have hsign := length_splitSign_le (s.dropWhile isSpace)
  unfold extractDigits at hdigits
  generalize splitSign (s.dropWhile isSpace) = signed at hdigits hsign
  obtain ⟨sign, unsigned⟩ := signed
  dsimp only at hdigits hsign
  -- Without a digit nothing is extracted, and there is nothing to show.
  by_cases hne : unsigned.takeWhile (isDigit 10) = []
  · rw [if_pos hne] at hdigits
    exact absurd hdigits (by simp)
  · -- There is a digit, and it is not in what is left.
    have hdigit := List.length_pos_of_ne_nil hne
    have hsplit := congrArg List.length
      (List.takeWhile_append_dropWhile (p := isDigit 10) (l := unsigned))
    rw [List.length_append] at hsplit
    rw [if_neg hne] at hdigits
    cases hdigits
    omega

/-- After a number that is cut off, nothing is left. -/
theorem extractU64_cut {ws : StdString} (hws : ∀ c ∈ ws, isSpace c = true) (n : UInt64)
    (tail : StdString) {k : Nat} (hk : k ≤ (toString n.toNat).length) {v : UInt64}
    {rest : StdString} (h : extractU64 (ws ++ (toString n.toNat ++ tail).take k) = some (v, rest)) :
    rest = [] := by
  -- The cut leaves the first digits of the number and nothing after them.
  have hcut : (toString n.toNat ++ tail).take k =
      ((digitsOf 10 n.toNat).take k).map digitChar ++ [] := by
    rw [List.take_append_of_le_length hk, List.append_nil, List.map_take]
    rfl
  have hds : ∀ d ∈ (digitsOf 10 n.toNat).take k, d < 10 :=
    fun d hd => Lib.digitsOf_lt (by decide) n.toNat d (List.mem_of_mem_take hd)
  obtain ⟨negative, value, hdigits⟩ := extractU64_cases h
  rw [hcut] at hdigits
  -- A cut at the very beginning leaves no digit to extract.
  by_cases hne : (digitsOf 10 n.toNat).take k = []
  · rw [hne, List.map_nil, List.append_nil, List.append_nil, extractDigits_of_isSpace hws]
      at hdigits
    exact absurd hdigits (by simp)
  · rw [extractDigits_map_digitChar hws hds hne endsNumber_nil] at hdigits
    cases hdigits
    rfl

/-- A number that is not cut off is read, and the cut is in what is left. -/
theorem extractU64_take {ws : StdString} (hws : ∀ c ∈ ws, isSpace c = true) (n : UInt64)
    {c : UInt8} (hc : isSpace c = true) (tail : StdString) {k : Nat}
    (hk : (toString n.toNat).length < k) :
    extractU64 (ws ++ (toString n.toNat ++ c :: tail).take k) =
      some (n, c :: tail.take (k - (toString n.toNat).length - 1)) := by
  obtain ⟨m, rfl⟩ : ∃ m, k = (toString n.toNat).length + (m + 1) :=
    ⟨k - (toString n.toNat).length - 1, by omega⟩
  rw [List.take_length_add_append, List.take_succ_cons,
    extractU64_toString hws n (endsNumber_cons hc _), Nat.add_sub_cancel_left, Nat.add_sub_cancel]

/-- A number that is cut off behind its first digit is a number. -/
theorem extractU32_take_isSome {ws : StdString} (hws : ∀ c ∈ ws, isSpace c = true) (n : UInt32)
    {c : UInt8} (hc : isSpace c = true) (tail : StdString) {k : Nat} (hk : 0 < k) :
    (extractU32 (ws ++ (toString n.toNat ++ c :: tail).take k)).isSome = true := by
  -- A cut inside the digits leaves a smaller number, which fits 32 bits as well.
  by_cases hcut : k ≤ (toString n.toNat).length
  · have htake : (toString n.toNat ++ c :: tail).take k =
        ((digitsOf 10 n.toNat).take k).map digitChar ++ [] := by
      rw [List.take_append_of_le_length hcut, List.append_nil, List.map_take]
      rfl
    have hds : ∀ d ∈ (digitsOf 10 n.toNat).take k, d < 10 :=
      fun d hd => Lib.digitsOf_lt (by decide) n.toNat d (List.mem_of_mem_take hd)
    have hne : (digitsOf 10 n.toNat).take k ≠ [] := by
      rw [Ne, List.take_eq_nil_iff, not_or]
      exact ⟨by omega, digitsOf_ne_nil n.toNat⟩
    have hle : readFrom 10 0 ((digitsOf 10 n.toNat).take k) ≤ n.toNat := by
      have hread := Lib.readFrom_digitsOf 10 n.toNat
      rw [← List.take_append_drop k (digitsOf 10 n.toNat), Lib.readFrom_append] at hread
      have hlow := Lib.le_readFrom 10 (readFrom 10 0 ((digitsOf 10 n.toNat).take k))
        ((digitsOf 10 n.toNat).drop k)
      rw [hread] at hlow
      exact (Nat.le_mul_of_pos_right _ (Nat.pow_pos (by decide))).trans hlow
    rw [htake, extractU32, extractDigits_map_digitChar hws hds hne endsNumber_nil]
    show (if 2 ^ 32 ≤ readFrom 10 0 ((digitsOf 10 n.toNat).take k) then none
      else some (_, [])).isSome = true
    rw [if_neg (Nat.not_le.mpr (hle.trans_lt n.toNat_lt))]
    rfl
  · -- A cut after the digits leaves the number and what ends it.
    obtain ⟨m, rfl⟩ : ∃ m, k = (toString n.toNat).length + (m + 1) :=
      ⟨k - (toString n.toNat).length - 1, by omega⟩
    rw [List.take_length_add_append, List.take_succ_cons,
      extractU32_toString hws n (endsNumber_cons hc _)]
    rfl

/-! ### Strings -/

/-- A string without white space in it is one word. -/
def IsWord (s : StdString) : Prop := s ≠ [] ∧ ∀ c ∈ s, isSpace c = false

/-- What is read as a word is one. -/
theorem isWord_of_extractWord {s word rest : StdString} (h : extractWord s = some (word, rest)) :
    IsWord word := by
  unfold extractWord at h
  dsimp only at h
  split at h
  · exact absurd h (by simp)
  · next hne =>
    cases h
    refine ⟨hne, fun c hc => ?_⟩
    simpa using List.mem_takeWhile_imp hc

/-- A string is read back when it is one word. -/
theorem extractWord_eq {ws : StdString} (hws : ∀ c ∈ ws, isSpace c = true) {word : StdString}
    (hword : IsWord word) {c : UInt8} (hc : isSpace c = true) (rest : StdString) :
    extractWord (ws ++ (word ++ c :: rest)) = some (word, c :: rest) := by
  have hnot : ∀ c ∈ word, (!isSpace c) = true := fun c hc => by simp [hword.2 c hc]
  have hskip : (ws ++ (word ++ c :: rest)).dropWhile isSpace = word ++ c :: rest := by
    rw [List.dropWhile_append_of_pos hws]
    obtain ⟨hne, hspace⟩ := hword
    cases word with
    | nil => exact absurd rfl hne
    | cons c' word =>
      exact List.dropWhile_cons_of_neg (by simp [hspace c' List.mem_cons_self])
  unfold extractWord
  rw [hskip]
  dsimp only
  rw [List.takeWhile_append_of_pos hnot, List.dropWhile_append_of_pos hnot,
    List.takeWhile_cons_of_neg (by simp [hc]), List.dropWhile_cons_of_neg (by simp [hc]),
    List.append_nil, if_neg hword.1]

/-- After a word that is cut off, nothing is left. -/
theorem extractWord_cut {ws : StdString} (hws : ∀ c ∈ ws, isSpace c = true) {word : StdString}
    (hword : IsWord word) (tail : StdString) {k : Nat} (hk : k ≤ word.length)
    {word' rest : StdString} (h : extractWord (ws ++ (word ++ tail).take k) = some (word', rest)) :
    rest = [] := by
  have hnot : ∀ c ∈ word.take k, (!isSpace c) = true :=
    fun c hc => by simp [hword.2 c (List.mem_of_mem_take hc)]
  -- What is left of the word does not begin with white space either.
  have hskip : (word.take k).dropWhile isSpace = word.take k := by
    cases hcut : word.take k with
    | nil => rfl
    | cons c cs =>
      rw [hcut] at hnot
      exact List.dropWhile_cons_of_neg (by simpa using hnot c List.mem_cons_self)
  unfold extractWord at h
  rw [List.take_append_of_le_length hk, List.dropWhile_append_of_pos hws, hskip] at h
  dsimp only at h
  -- Of a word cut to nothing, nothing is extracted.
  split at h
  · exact absurd h (by simp)
  · cases h
    exact List.dropWhile_eq_nil_iff.mpr hnot

end StdString

end CrossFlow
