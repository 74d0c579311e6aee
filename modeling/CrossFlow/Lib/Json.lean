import CrossFlow.Lib.Digits

/-!
# `CrossFlow.Lib.Json`: reading JSON texts

A reader of JSON texts as lists of bytes. The bytes of a string that are not escaped stand for
themselves, also those that are no UTF-8. An object keeps its members in their order, and a key that
comes twice. A number is its digits as an integer, times a power of ten.

The readers return what they have read, and the rest of the input. The fuel of a loop bounds its
turns; the length of the input is enough.

* `readString_eq_some`: what the text of a string has in common with its value.
* `readString_self_iff`: the texts that are read as themselves.
* `writes_digitText`, `writes_string`: the texts of integers and strings.
* `parse_objectText_iff`: the objects that are parsed as they are written.
-/

set_option autoImplicit false

namespace CrossFlow.Lib.Json

/-- A JSON value. -/
inductive Value where
  | null
  | bool (value : Bool)
  /-- The number `mantissa * 10 ^ exponent`. -/
  | number (mantissa exponent : Int)
  | string (bytes : List UInt8)
  | array (items : List Value)
  | object (members : List (List UInt8 × Value))

/-- The character `"`. -/
def quote : UInt8 := 34
/-- The character `\`. -/
def backslash : UInt8 := 92
/-- The character `,`. -/
def comma : UInt8 := 44
/-- The character `:`. -/
def colon : UInt8 := 58

/-! ### Strings -/

/-- What a hexadecimal digit stands for. -/
def hexValue (c : UInt8) : Option Nat :=
  if 48 ≤ c ∧ c ≤ 57 then some (c.toNat - 48)
  else if 97 ≤ c ∧ c ≤ 102 then some (c.toNat - 87)
  else if 65 ≤ c ∧ c ≤ 70 then some (c.toNat - 55)
  else none

/-- The number that four hexadecimal digits write. -/
def hex4 : List UInt8 → Option (Nat × List UInt8)
  | a :: b :: c :: d :: rest => do
    let digits ← [a, b, c, d].mapM hexValue
    return (readFrom 16 0 digits, rest)
  | _ => none

/-- The bytes of a code point in UTF-8. -/
def utf8 (n : Nat) : List UInt8 :=
  if n < 0x80 then [n.toUInt8]
  else if n < 0x800 then [(0xC0 + n / 64).toUInt8, (0x80 + n % 64).toUInt8]
  else if n < 0x10000 then
    [(0xE0 + n / 4096).toUInt8, (0x80 + n / 64 % 64).toUInt8, (0x80 + n % 64).toUInt8]
  else
    [(0xF0 + n / 262144).toUInt8, (0x80 + n / 4096 % 64).toUInt8, (0x80 + n / 64 % 64).toUInt8,
      (0x80 + n % 64).toUInt8]

/-- After a backslash and `u`: a code point, or the first half of a pair and then the second. -/
def readUnicode (input : List UInt8) : Option (List UInt8 × List UInt8) := do
  let (n, rest) ← hex4 input
  if 0xD800 ≤ n ∧ n < 0xDC00 then
    match rest with
    | b :: u :: rest =>
      if b = backslash ∧ u = 117 then do
        let (low, rest) ← hex4 rest
        if 0xDC00 ≤ low ∧ low < 0xE000 then
          some (utf8 (0x10000 + (n - 0xD800) * 0x400 + (low - 0xDC00)), rest)
        else none
      else none
    | _ => none
  else if 0xDC00 ≤ n ∧ n < 0xE000 then none
  else some (utf8 n, rest)

/-- What a letter after a backslash stands for. -/
def escaped (c : UInt8) : Option UInt8 :=
  if c = quote ∨ c = backslash ∨ c = 47 then some c
  else if c = 98 then some 8
  else if c = 102 then some 12
  else if c = 110 then some 10
  else if c = 114 then some 13
  else if c = 116 then some 9
  else none

/-- After a backslash. -/
def readEscape : List UInt8 → Option (List UInt8 × List UInt8)
  | [] => none
  | c :: rest => if c = 117 then readUnicode rest else (escaped c).map fun b => ([b], rest)

/-- A character of a string that begins with `c`, which is not the quote. -/
def readChar (c : UInt8) (rest : List UInt8) : Option (List UInt8 × List UInt8) :=
  if c = backslash then readEscape rest
  else if c < 32 then none
  else some ([c], rest)

/-- The rest of a string, up to the quote at its end. -/
def readString : Nat → List UInt8 → Option (List UInt8 × List UInt8)
  | 0, _ => none
  | _ + 1, [] => none
  | fuel + 1, c :: rest =>
    if c = quote then some ([], rest)
    else do
      let (bytes, rest) ← readChar c rest
      let (string, rest) ← readString fuel rest
      return (bytes ++ string, rest)

/-! ### Numbers -/

/-- A decimal digit. -/
def isDigit (c : UInt8) : Bool := 48 ≤ c ∧ c ≤ 57

/-- What decimal digits stand for. -/
def digitsValue (digits : List UInt8) : Nat := readFrom 10 0 (digits.map fun c => c.toNat - 48)

/-- One or more digits. -/
def readDigits (input : List UInt8) : Option (List UInt8 × List UInt8) :=
  let digits := input.takeWhile isDigit
  if digits = [] then none else some (digits, input.dropWhile isDigit)

/-- The digits in front of the point, of which a zero is the only one. -/
def readWhole : List UInt8 → Option (List UInt8 × List UInt8)
  | [] => none
  | c :: rest => if c = 48 then some ([c], rest) else readDigits (c :: rest)

/-- The digits after a point, if there is one. -/
def readFraction : List UInt8 → Option (List UInt8 × List UInt8)
  | [] => some ([], [])
  | c :: rest => if c = 46 then readDigits rest else some ([], c :: rest)

/-- A sign, if there is one. -/
def readSign : List UInt8 → Bool × List UInt8
  | [] => (false, [])
  | c :: rest =>
    if c = 45 then (true, rest) else if c = 43 then (false, rest) else (false, c :: rest)

/-- The exponent after an `e`, if there is one. -/
def readExponent : List UInt8 → Option (Int × List UInt8)
  | [] => some (0, [])
  | c :: rest =>
    if c = 101 ∨ c = 69 then do
      let (negative, rest) := readSign rest
      let (digits, rest) ← readDigits rest
      let exponent : Int := digitsValue digits
      return (if negative then -exponent else exponent, rest)
    else some (0, c :: rest)

/-- A number that may follow a minus sign. -/
def readUnsigned (negative : Bool) (input : List UInt8) : Option (Value × List UInt8) := do
  let (whole, rest) ← readWhole input
  let (fraction, rest) ← readFraction rest
  let (exponent, rest) ← readExponent rest
  let mantissa : Int := digitsValue (whole ++ fraction)
  return (.number (if negative then -mantissa else mantissa) (exponent - fraction.length), rest)

/-- A number, with its sign. -/
def readNumber : List UInt8 → Option (Value × List UInt8)
  | [] => none
  | c :: rest => if c = 45 then readUnsigned true rest else readUnsigned false (c :: rest)

/-! ### Values -/

/-- What may stand between the tokens. -/
def isSpace (c : UInt8) : Bool := c = 32 ∨ c = 9 ∨ c = 10 ∨ c = 13

/-- The next character that is not white space. -/
def nextToken (input : List UInt8) : Option (UInt8 × List UInt8) :=
  match input.dropWhile isSpace with
  | [] => none
  | c :: rest => some (c, rest)

section
variable (readValue : List UInt8 → Option (Value × List UInt8))

/-- The values of an array, after its bracket or a comma. -/
def readItems : Nat → List UInt8 → Option (List Value × List UInt8)
  | 0, _ => none
  | fuel + 1, input => do
    let (value, rest) ← readValue input
    let (c, rest) ← nextToken rest
    if c = comma then
      let (values, rest) ← readItems fuel rest
      return (value :: values, rest)
    else if c = 93 then return ([value], rest)
    else none

/-- A key, a colon and a value. -/
def readMember (input : List UInt8) : Option ((List UInt8 × Value) × List UInt8) := do
  let (c, rest) ← nextToken input
  if c = quote then
    let (key, rest) ← readString (rest.length + 1) rest
    let (d, rest) ← nextToken rest
    if d = colon then
      let (value, rest) ← readValue rest
      return ((key, value), rest)
    else none
  else none

/-- The members of an object, after its brace or a comma. -/
def readMembers : Nat → List UInt8 → Option (List (List UInt8 × Value) × List UInt8)
  | 0, _ => none
  | fuel + 1, input => do
    let (member, rest) ← readMember readValue input
    let (c, rest) ← nextToken rest
    if c = comma then
      let (members, rest) ← readMembers fuel rest
      return (member :: members, rest)
    else if c = 125 then return ([member], rest)
    else none

end

/-- The value, when the input goes on with the word. -/
def readWord (word : List UInt8) (value : Value) (input : List UInt8) :
    Option (Value × List UInt8) :=
  if word.isPrefixOf input then some (value, input.drop word.length) else none

/-- A value. `fuel` bounds how deep values are nested. -/
def readValue : Nat → List UInt8 → Option (Value × List UInt8)
  | 0, _ => none
  | fuel + 1, input => do
    let (c, rest) ← nextToken input
    if c = quote then
      let (string, rest) ← readString (rest.length + 1) rest
      return (.string string, rest)
    else if c = 123 then
      let (d, rest') ← nextToken rest
      if d = 125 then return (.object [], rest')
      else
        let (members, rest) ← readMembers (readValue fuel) fuel rest
        return (.object members, rest)
    else if c = 91 then
      let (d, rest') ← nextToken rest
      if d = 93 then return (.array [], rest')
      else
        let (items, rest) ← readItems (readValue fuel) fuel rest
        return (.array items, rest)
    else if c = 110 then readWord [117, 108, 108] .null rest
    else if c = 116 then readWord [114, 117, 101] (.bool true) rest
    else if c = 102 then readWord [97, 108, 115, 101] (.bool false) rest
    else readNumber (c :: rest)

/-- The value of a text that is one value, with white space around it. -/
def parse (input : List UInt8) : Option Value := do
  let (value, rest) ← readValue (input.length + 1) input
  if rest.all isSpace then some value else none

/-! ### What a string is read from -/

/-- The character stands for itself in a string. -/
def IsPlain (c : UInt8) : Prop := c ≠ quote ∧ c ≠ backslash ∧ 32 ≤ c

/-- Whether a character stands for itself can be looked up. -/
instance (c : UInt8) : Decidable (IsPlain c) := inferInstanceAs (Decidable (_ ∧ _ ∧ _))

/-- A hexadecimal digit is no quote and stands for less than 16. -/
theorem hexValue_eq_some {c : UInt8} {n : Nat} (h : hexValue c = some n) : c ≠ quote ∧ n < 16 := by
  constructor
  · rintro rfl
    simp [hexValue, quote] at h
  · simp only [hexValue, UInt8.le_iff_toNat_le, UInt8.reduceToNat] at h
    split at h
    · cases h
      omega
    · split at h
      · cases h
        omega
      · split at h
        · cases h
          omega
        · cases h

/-- Four hexadecimal digits stand for less than `2 ^ 16`. -/
theorem hex4_eq_some {input rest : List UInt8} {n : Nat} (h : hex4 input = some (n, rest)) :
    ∃ w, input = w ++ rest ∧ w.length = 4 ∧ w.count quote = 0 ∧ n < 2 ^ 16 := by
  match input with
  | a :: b :: c :: d :: tail =>
    simp only [hex4, List.mapM_cons, List.mapM_nil, Option.pure_def, Option.bind_eq_bind,
      Option.bind_eq_some_iff, Option.some.injEq, Prod.mk.injEq] at h
    obtain ⟨digits, ⟨wa, ha, -, ⟨wb, hb, -, ⟨wc, hc, -, ⟨wd, hd, -, rfl, rfl⟩, rfl⟩, rfl⟩, rfl⟩,
      rfl, rfl⟩ := h
    obtain ⟨ha, hwa⟩ := hexValue_eq_some ha
    obtain ⟨hb, hwb⟩ := hexValue_eq_some hb
    obtain ⟨hc, hwc⟩ := hexValue_eq_some hc
    obtain ⟨hd, hwd⟩ := hexValue_eq_some hd
    refine ⟨[a, b, c, d], rfl, rfl, ?_, ?_⟩
    · simp [ha, hb, hc, hd]
    · simp only [readFrom_cons, readFrom_nil]
      omega

/-- A character has at most four bytes. -/
theorem length_utf8_le (n : Nat) : (utf8 n).length ≤ 4 := by
  simp only [utf8]
  split
  · simp
  · split
    · simp
    · split
      · simp
      · simp

/-- What is read after a backslash and `u` is shorter than it, and has no quote. -/
theorem readUnicode_eq_some {input rest bytes : List UInt8}
    (h : readUnicode input = some (bytes, rest)) :
    ∃ w, input = w ++ rest ∧ bytes.length ≤ w.length ∧ w.count quote = 0 := by
  simp only [readUnicode, Option.bind_eq_bind, Option.bind_eq_some_iff] at h
  obtain ⟨⟨n, tail⟩, hn, h⟩ := h
  obtain ⟨w, rfl, hlength, hquote, -⟩ := hex4_eq_some hn
  dsimp only at h
  split at h
  · split at h
    · rename_i b u tail
      split at h
      · -- The first half of a pair needs the second, which is another `\u` and four digits.
        rename_i hpair
        obtain ⟨rfl, rfl⟩ := hpair
        simp only [Option.bind_eq_some_iff] at h
        obtain ⟨⟨low, tail'⟩, hlow, h⟩ := h
        obtain ⟨w', rfl, hlength', hquote', -⟩ := hex4_eq_some hlow
        dsimp only at h
        split at h
        · simp only [Option.some.injEq, Prod.mk.injEq] at h
          obtain ⟨rfl, rfl⟩ := h
          refine ⟨w ++ backslash :: 117 :: w', by simp, ?_, ?_⟩
          · have hle := length_utf8_le (0x10000 + (n - 0xD800) * 0x400 + (low - 0xDC00))
            simp only [List.length_append, List.length_cons]
            omega
          · rw [List.count_append, List.count_cons_of_ne (by decide),
              List.count_cons_of_ne (by decide), hquote, hquote']
        · cases h
      · cases h
    · cases h
  · split at h
    · cases h
    · cases h
      -- One code of four digits is at most three bytes.
      have hle := length_utf8_le n
      exact ⟨w, rfl, by omega, hquote⟩

/-- A character is read from at least as much, with at most as many quotes, and from as much only
when it stands for itself. -/
theorem readChar_eq_some {c : UInt8} {input rest bytes : List UInt8} (hc : c ≠ quote)
    (h : readChar c input = some (bytes, rest)) :
    ∃ w, input = w ++ rest ∧ bytes.length ≤ (c :: w).length ∧
      (c :: w).count quote ≤ bytes.count quote ∧
      (bytes.length = (c :: w).length → w = [] ∧ bytes = [c] ∧ IsPlain c) := by
  have hcount (w : List UInt8) : (c :: w).count quote = w.count quote := List.count_cons_of_ne hc
  simp only [hcount, List.length_cons]
  rw [readChar] at h
  split at h
  · cases input with
    | nil => simp [readEscape] at h
    | cons d input =>
      rw [readEscape] at h
      split at h
      · rename_i hd
        obtain ⟨w, rfl, hlength, hquote⟩ := readUnicode_eq_some h
        refine ⟨d :: w, rfl, ?_, ?_, ?_⟩
        · simp only [List.length_cons]
          omega
        · rw [hd, List.count_cons_of_ne (by decide), hquote]
          exact Nat.zero_le _
        · simp only [List.length_cons]
          omega
      · simp only [Option.map_eq_some_iff, Prod.mk.injEq] at h
        obtain ⟨b, hb, rfl, rfl⟩ := h
        refine ⟨[d], rfl, by simp, ?_, by simp⟩
        -- Of the letters only the quote itself stands for a quote.
        by_cases hd : d = quote
        · subst hd
          obtain rfl : quote = b := by simpa [escaped] using hb
          simp
        · simp [hd]
  · split at h
    · cases h
    · rename_i hbackslash hcontrol
      cases h
      have hplain : IsPlain c := ⟨hc, hbackslash, UInt8.not_lt.mp hcontrol⟩
      exact ⟨[], rfl, by simp, by simp, fun _ => ⟨rfl, rfl, hplain⟩⟩

/-- A string is read from at least as much as it is long, with at most as many quotes in front of
the one at its end, and from as much only when all of it stands for itself. -/
theorem readString_eq_some {fuel : Nat} {input rest bytes : List UInt8}
    (h : readString fuel input = some (bytes, rest)) :
    ∃ w, input = w ++ quote :: rest ∧ bytes.length ≤ w.length ∧ w.count quote ≤ bytes.count quote ∧
      (bytes.length = w.length → w = bytes ∧ ∀ c ∈ bytes, IsPlain c) := by
  induction fuel generalizing input bytes with
  | zero => simp [readString] at h
  | succ fuel ih =>
    cases input with
    | nil => simp [readString] at h
    | cons c input =>
      rw [readString] at h
      split at h
      · rename_i hc
        cases h
        exact ⟨[], by simp [hc], by simp, by simp, fun _ => ⟨rfl, by simp⟩⟩
      · rename_i hc
        simp only [Option.bind_eq_bind, Option.bind_eq_some_iff, Option.pure_def,
          Option.some.injEq, Prod.mk.injEq] at h
        obtain ⟨⟨first, tail⟩, hfirst, ⟨string, rest'⟩, hstring, rfl, rfl⟩ := h
        obtain ⟨w, rfl, hlength, hquotes, hplain⟩ := readChar_eq_some hc hfirst
        -- The first character and the rest are each as long as what was written for them, at most.
        obtain ⟨w', htail, hlength', hquotes', hplain'⟩ := ih hstring
        dsimp only at htail
        subst htail
        refine ⟨c :: w ++ w', by simp, ?_, ?_, ?_⟩
        · simp only [List.length_append]
          omega
        · simp only [List.count_append]
          omega
        · -- Where nothing was shortened, neither part was.
          intro hsame
          simp only [List.length_append] at hsame
          obtain ⟨rfl, rfl, hc⟩ := hplain (by omega)
          obtain ⟨rfl, hstring⟩ := hplain' (by omega)
          exact ⟨rfl, List.forall_mem_cons.mpr ⟨hc, hstring⟩⟩

/-- A text up to a quote is read as itself when all of it stands for itself, and only then. -/
theorem readString_self_iff {fuel : Nat} {s tail rest : List UInt8} (hfuel : s.length < fuel) :
    readString fuel (s ++ quote :: tail) = some (s, rest) ↔ (∀ c ∈ s, IsPlain c) ∧ rest = tail := by
  constructor
  · intro h
    obtain ⟨w, hw, hlength, hquotes, hplain⟩ := readString_eq_some h
    rcases Nat.lt_or_eq_of_le hlength with hlt | heq
    · -- The quote after `s` lies inside what was read, so that has one more quote than `s`.
      have hs : s ++ [quote] <+: w ++ quote :: rest := ⟨tail, by simp [← hw]⟩
      have hwhole : w <+: w ++ quote :: rest := List.prefix_append _ _
      obtain ⟨w', hw'⟩ := List.prefix_of_prefix_length_le hs hwhole (by simp; omega)
      rw [← hw'] at hquotes
      simp at hquotes
    · -- What was read is as long as what was written, so it is what was written.
      obtain ⟨rfl, hs⟩ := hplain heq
      exact ⟨hs, by simpa using hw.symm⟩
  · -- Plain characters are read one by one, up to the quote.
    rintro ⟨hs, rfl⟩
    induction s generalizing fuel with
    | nil =>
      cases fuel with
      | zero => simp at hfuel
      | succ fuel => simp [readString]
    | cons c s ih =>
      cases fuel with
      | zero => simp at hfuel
      | succ fuel =>
        obtain ⟨⟨hquote, hbackslash, hcontrol⟩, hs⟩ := List.forall_mem_cons.mp hs
        have hrest : readString fuel (s ++ quote :: rest) = some (s, rest) :=
          ih (by simpa using hfuel) hs
        simp [readString, readChar, hquote, hbackslash, UInt8.not_lt.mpr hcontrol, hrest]

/-! ### Integers -/

/-- The decimal digits of a number. -/
def digitText (n : Nat) : List UInt8 := (digitsOf 10 n).map fun d => (48 + d).toUInt8

/-- What the readers ask of a character, for a digit. -/
theorem digit_spec {d : Nat} (hd : d < 10) :
    isDigit (48 + d).toUInt8 = true ∧ (48 + d).toUInt8.toNat - 48 = d ∧
      isSpace (48 + d).toUInt8 = false ∧ (48 + d).toUInt8 ∉ [quote, 123, 91, 110, 116, 102, 45] ∧
      ((48 + d).toUInt8 = 48 → d = 0) := by
  revert d
  decide

/-- How a number begins. -/
theorem digitText_eq_cons (n : Nat) :
    ∃ c cs, digitText n = c :: cs ∧ isSpace c = false ∧
      c ∉ [quote, 123, 91, 110, 116, 102, 45] ∧ (c = 48 → n = 0) := by
  by_cases hn : n = 0
  · subst hn
    exact ⟨48, [], rfl, by decide, by decide, fun _ => rfl⟩
  · obtain ⟨d, ds, hds, hd⟩ := digitsOf_eq_cons 10 hn
    obtain ⟨-, -, hspace, hother, hzero⟩ := digit_spec (digitsOf_lt (by decide) n d (by simp [hds]))
    refine ⟨(48 + d).toUInt8, ds.map fun d => (48 + d).toUInt8, ?_, hspace, hother, ?_⟩
    · rw [digitText, hds, List.map_cons]
    · intro h
      have := hzero h
      omega

/-- The text of a number is of digits. -/
theorem isDigit_digitText (n : Nat) : ∀ c ∈ digitText n, isDigit c = true := by
  intro c hc
  obtain ⟨d, hd, rfl⟩ := List.mem_map.mp hc
  exact (digit_spec (digitsOf_lt (by decide) n d hd)).1

/-- The digits of a number stand for it. -/
theorem digitsValue_digitText (n : Nat) : digitsValue (digitText n) = n := by
  have hid : ∀ d ∈ digitsOf 10 n, (48 + d).toUInt8.toNat - 48 = id d := by
    intro d hd
    exact (digit_spec (digitsOf_lt (by decide) n d hd)).2.1
  rw [digitsValue, digitText, List.map_map]
  have hmap := List.map_congr_left hid
  rw [List.map_id] at hmap
  exact (congrArg (readFrom 10 0) hmap).trans (readFrom_digitsOf 10 n)

/-- A number does not go on with this character. -/
def EndsNumber (c : UInt8) : Prop := isDigit c = false ∧ c ≠ 46 ∧ c ≠ 101 ∧ c ≠ 69

/-- Whether a number ends at a character can be looked up. -/
instance (c : UInt8) : Decidable (EndsNumber c) := inferInstanceAs (Decidable (_ ∧ _ ∧ _ ∧ _))

/-- Digits are read up to the first character that is none. -/
theorem readDigits_append {digits rest : List UInt8} {c : UInt8}
    (hdigits : ∀ d ∈ digits, isDigit d = true) (hne : digits ≠ []) (hc : isDigit c = false) :
    readDigits (digits ++ c :: rest) = some (digits, c :: rest) := by
  have htake : (digits ++ c :: rest).takeWhile isDigit = digits := by
    rw [List.takeWhile_append_of_pos hdigits]
    simp [hc]
  have hdrop : (digits ++ c :: rest).dropWhile isDigit = c :: rest := by
    rw [List.dropWhile_append_of_pos hdigits]
    simp [hc]
  simp [readDigits, htake, hdrop, hne]

/-- A zero is one digit, and another number does not begin with a zero. -/
theorem readWhole_digitText (n : Nat) {c : UInt8} (hc : isDigit c = false) (rest : List UInt8) :
    readWhole (digitText n ++ c :: rest) = some (digitText n, c :: rest) := by
  obtain ⟨first, cs, htext, -, -, hzero⟩ := digitText_eq_cons n
  have hread : readDigits (digitText n ++ c :: rest) = some (digitText n, c :: rest) :=
    readDigits_append (isDigit_digitText n) (by simp [htext]) hc
  by_cases hfirst : first = 48
  · rw [hzero hfirst]
    rfl
  · rw [htext, List.cons_append] at hread ⊢
    rw [readWhole, if_neg hfirst, hread]

/-- An integer in decimal digits, up to what it does not go on with. -/
theorem readUnsigned_digitText (n : Nat) {c : UInt8} (hc : EndsNumber c) (rest : List UInt8) :
    readUnsigned false (digitText n ++ c :: rest) = some (.number n 0, c :: rest) := by
  obtain ⟨hdigit, hpoint, he, hE⟩ := hc
  simp [readUnsigned, readWhole_digitText n hdigit, readFraction, readExponent, hpoint, he, hE,
    digitsValue_digitText]

/-! ### Members -/

/-- A token is where no space is. -/
theorem nextToken_cons {c : UInt8} (hc : isSpace c = false) (rest : List UInt8) :
    nextToken (c :: rest) = some (c, rest) := by
  simp [nextToken, hc]

/-- The text of a value, which is read up to a comma or a closing brace. -/
def Writes (readValue : List UInt8 → Option (Value × List UInt8)) (text : List UInt8)
    (value : Value) : Prop :=
  ∀ c rest, c = comma ∨ c = 125 → readValue (text ++ c :: rest) = some (value, c :: rest)

/-- The text of a number is read as the number. -/
theorem writes_digitText (fuel n : Nat) :
    Writes (readValue (fuel + 1)) (digitText n) (.number n 0) := by
  intro c rest hc
  have hends : EndsNumber c := by
    rcases hc with rfl | rfl
    · decide
    · decide
  have hread := readUnsigned_digitText n hends rest
  obtain ⟨first, cs, htext, hspace, hother, -⟩ := digitText_eq_cons n
  simp only [List.mem_cons, List.not_mem_nil, or_false, not_or] at hother
  obtain ⟨hquote, hbrace, hbracket, hn, ht, hf, hminus⟩ := hother
  rw [htext, List.cons_append] at hread ⊢
  simp [readValue, nextToken_cons hspace, readNumber, hquote, hbrace, hbracket, hn, ht, hf, hminus,
    hread]

/-- A text between quotes is read as a string when the reader of strings reads it. -/
theorem writes_string (fuel : Nat) {text bytes : List UInt8}
    (h : ∀ fuel rest, text.length < fuel →
      readString fuel (text ++ quote :: rest) = some (bytes, rest)) :
    Writes (readValue (fuel + 1)) (quote :: text ++ [quote]) (.string bytes) := by
  intro c rest _
  have hquote : isSpace quote = false := by decide
  have hread := h ((text ++ quote :: c :: rest).length + 1) (c :: rest) (by simp)
  simp only [readValue, List.cons_append, List.append_assoc, List.nil_append,
    nextToken_cons hquote, Option.bind_eq_bind, Option.bind_some, if_true, hread, Option.pure_def]

/-- A member of an object: its key, and its value with the text of it. -/
structure Member where
  key : List UInt8
  text : List UInt8
  value : Value

/-- The text of a member. -/
def memberText (m : Member) : List UInt8 := quote :: m.key ++ quote :: colon :: m.text

/-- The text of the members of an object, between its braces. -/
def membersText : List Member → List UInt8
  | [] => []
  | [m] => memberText m
  | m :: ms => memberText m ++ comma :: membersText ms

/-- A comma stands between the members. -/
theorem membersText_cons (m m' : Member) (ms : List Member) :
    membersText (m :: m' :: ms) = memberText m ++ comma :: membersText (m' :: ms) := rfl

/-- The last member stands behind a comma, unless it is the only one. -/
theorem membersText_append_singleton (ms : List Member) (m : Member) :
    membersText (ms ++ [m]) =
      if ms = [] then memberText m else membersText ms ++ comma :: memberText m := by
  induction ms with
  | nil => rfl
  | cons m' ms ih =>
    rw [if_neg (List.cons_ne_nil m' ms)]
    cases ms with
    | nil => rfl
    | cons m'' ms =>
      rw [if_neg (List.cons_ne_nil m'' ms)] at ih
      rw [List.cons_append, List.cons_append, membersText_cons, ← List.cons_append, ih,
        membersText_cons, List.append_assoc, List.cons_append]

section
variable {readValue : List UInt8 → Option (Value × List UInt8)}

/-- The key of a member is read as it is written when all of it stands for itself, and only then. -/
theorem readMember_eq_some_iff {m : Member} (hm : Writes readValue m.text m.value) {c : UInt8}
    (hc : c = comma ∨ c = 125) {tail rest : List UInt8} {value : Value} :
    readMember readValue (memberText m ++ c :: tail) = some ((m.key, value), rest) ↔
      (∀ c ∈ m.key, IsPlain c) ∧ value = m.value ∧ rest = c :: tail := by
  have hquote : isSpace quote = false := by decide
  have hcolon : isSpace colon = false := by decide
  have hvalue := hm c tail hc
  -- The key is read back exactly if it is plain; the value is read back in any case.
  have hkey (rest : List UInt8) :
      readString ((m.key ++ quote :: colon :: (m.text ++ c :: tail)).length + 1)
          (m.key ++ quote :: colon :: (m.text ++ c :: tail)) = some (m.key, rest) ↔
        (∀ c ∈ m.key, IsPlain c) ∧ rest = colon :: (m.text ++ c :: tail) :=
    readString_self_iff (by simp)
  simp only [readMember, memberText, List.cons_append, List.append_assoc, nextToken_cons hquote,
    Option.bind_eq_bind, Option.bind_some, if_true]
  constructor
  · intro h
    obtain ⟨⟨key, rest₁⟩, hstring, h⟩ := Option.bind_eq_some_iff.mp h
    obtain ⟨⟨d, rest₂⟩, hcolon', h⟩ := Option.bind_eq_some_iff.mp h
    dsimp only at hcolon' h
    split at h
    · obtain ⟨⟨value', rest₃⟩, hvalue', h⟩ := Option.bind_eq_some_iff.mp h
      simp only [Option.pure_def, Option.some.injEq, Prod.mk.injEq] at h
      obtain ⟨⟨rfl, rfl⟩, rfl⟩ := h
      obtain ⟨hplain, rfl⟩ := (hkey rest₁).mp hstring
      rw [nextToken_cons hcolon] at hcolon'
      obtain ⟨rfl, rfl⟩ := Prod.mk.inj (Option.some.inj hcolon')
      rw [hvalue] at hvalue'
      obtain ⟨rfl, rfl⟩ := Prod.mk.inj (Option.some.inj hvalue')
      exact ⟨hplain, rfl, rfl⟩
    · cases h
  · rintro ⟨hplain, rfl, rfl⟩
    rw [(hkey _).mpr ⟨hplain, rfl⟩]
    simp [nextToken_cons hcolon, hvalue]

/-- The first member of an object, and what follows it. -/
theorem readMembers_succ_iff {m : Member} (hm : Writes readValue m.text m.value) {c : UInt8}
    (hc : c = comma ∨ c = 125) {fuel : Nat} {tail rest : List UInt8}
    {others : List (List UInt8 × Value)} :
    readMembers readValue (fuel + 1) (memberText m ++ c :: tail) =
        some ((m.key, m.value) :: others, rest) ↔
      (∀ c ∈ m.key, IsPlain c) ∧
        (if c = comma then readMembers readValue fuel tail = some (others, rest)
        else others = [] ∧ rest = tail) := by
  have hspace : isSpace c = false := by
    rcases hc with rfl | rfl
    · decide
    · decide
  simp only [readMembers, Option.bind_eq_bind]
  constructor
  · -- The member is followed by a comma, and by more members, or by the closing brace.
    intro h
    obtain ⟨⟨⟨key, value⟩, rest₁⟩, hfirst, h⟩ := Option.bind_eq_some_iff.mp h
    obtain ⟨⟨d, rest₂⟩, hnext, h⟩ := Option.bind_eq_some_iff.mp h
    dsimp only at hnext h
    split at h
    · obtain ⟨⟨members, rest₃⟩, hrest, h⟩ := Option.bind_eq_some_iff.mp h
      simp only [Option.pure_def, Option.some.injEq, Prod.mk.injEq, List.cons.injEq] at h
      obtain ⟨⟨⟨rfl, rfl⟩, rfl⟩, rfl⟩ := h
      obtain ⟨hplain, -, rfl⟩ := (readMember_eq_some_iff hm hc).mp hfirst
      rw [nextToken_cons hspace] at hnext
      obtain ⟨rfl, rfl⟩ := Prod.mk.inj (Option.some.inj hnext)
      exact ⟨hplain, by rwa [if_pos ‹_›]⟩
    · split at h
      · simp only [Option.pure_def, Option.some.injEq, Prod.mk.injEq, List.cons.injEq] at h
        obtain ⟨⟨⟨rfl, rfl⟩, rfl⟩, rfl⟩ := h
        obtain ⟨hplain, -, rfl⟩ := (readMember_eq_some_iff hm hc).mp hfirst
        rw [nextToken_cons hspace] at hnext
        obtain ⟨rfl, rfl⟩ := Prod.mk.inj (Option.some.inj hnext)
        exact ⟨hplain, by rw [if_neg ‹_›]; exact ⟨rfl, rfl⟩⟩
      · cases h
  · rintro ⟨hplain, hrest⟩
    rw [(readMember_eq_some_iff hm hc).mpr ⟨hplain, rfl, rfl⟩]
    rcases hc with rfl | rfl
    · rw [if_pos rfl] at hrest
      simp [nextToken_cons hspace, hrest]
    · rw [if_neg (by decide)] at hrest
      obtain ⟨rfl, rfl⟩ := hrest
      simp [nextToken_cons hspace, comma]

/-- The members of an object are read as they are written when that holds of all their keys, and
only then. -/
theorem readMembers_eq_some_iff {ms : List Member} (hne : ms ≠ [])
    (hms : ∀ m ∈ ms, Writes readValue m.text m.value) {fuel : Nat} (hfuel : ms.length ≤ fuel)
    {tail rest : List UInt8} :
    readMembers readValue fuel (membersText ms ++ 125 :: tail) =
        some (ms.map fun m => (m.key, m.value), rest) ↔
      (∀ m ∈ ms, ∀ c ∈ m.key, IsPlain c) ∧ rest = tail := by
  induction ms generalizing fuel with
  | nil => exact absurd rfl hne
  | cons m ms ih =>
    obtain ⟨hm, hms⟩ := List.forall_mem_cons.mp hms
    cases fuel with
    | zero => simp at hfuel
    | succ fuel =>
      cases ms with
      | nil =>
        rw [membersText, List.map_cons, readMembers_succ_iff hm (.inr rfl), if_neg (by decide)]
        simp
      -- The first member is followed by a comma, since there is a next one.
      | cons m' ms =>
        rw [membersText_cons, List.append_assoc, List.cons_append, List.map_cons,
          readMembers_succ_iff hm (.inl rfl), if_pos rfl,
          ih (by simp) hms (by simpa using hfuel), ← and_assoc]
        have hall : (∀ x ∈ m :: m' :: ms, ∀ c ∈ x.key, IsPlain c) ↔ (∀ c ∈ m.key, IsPlain c) ∧
            ∀ x ∈ m' :: ms, ∀ c ∈ x.key, IsPlain c := List.forall_mem_cons
        rw [hall]

end

/-- The text of an object, in no white space. -/
def objectText (ms : List Member) : List UInt8 := 123 :: membersText ms ++ [125]

/-- Each member takes some text. -/
theorem length_le_membersText (ms : List Member) : ms.length ≤ (membersText ms).length := by
  induction ms with
  | nil => simp
  | cons m ms ih =>
    cases ms with
    | nil => simp [membersText, memberText]
    | cons m' ms =>
      simp only [membersText, memberText, List.length_append, List.length_cons] at ih ⊢
      omega

/-- An object that is not empty is read as its members. -/
theorem readValue_objectText {ms : List Member} (hne : ms ≠ []) (fuel : Nat) :
    readValue (fuel + 1) (objectText ms) =
      (readMembers (readValue fuel) fuel (membersText ms ++ [125])).map
        fun read => (.object read.1, read.2) := by
  obtain ⟨rest, hrest⟩ : ∃ rest, membersText ms ++ [125] = quote :: rest := by
    match ms with
    | [m] => exact ⟨_, rfl⟩
    | m :: m' :: ms => exact ⟨_, rfl⟩
  have hnext : nextToken (membersText ms ++ [125]) = some (quote, rest) := by
    rw [hrest]
    exact nextToken_cons (by decide) rest
  rw [readValue, objectText, List.cons_append, nextToken_cons (by decide)]
  simp [hnext, quote, Option.map_eq_bind]

/-- The text of an object with members is parsed as it is written when all its keys stand for
themselves, and only then. -/
theorem parse_objectText_iff {ms : List Member} (hne : ms ≠ [])
    (hms : ∀ m ∈ ms, ∀ fuel, Writes (readValue (fuel + 1)) m.text m.value) :
    parse (objectText ms) = some (.object (ms.map fun m => (m.key, m.value))) ↔
      ∀ m ∈ ms, ∀ c ∈ m.key, IsPlain c := by
  -- The fuel is the length of the text, which is enough for its members.
  have hlength : ms.length ≤ (membersText ms ++ [125]).length := by
    have hle := length_le_membersText ms
    simp
    omega
  have hfuel : (objectText ms).length = (membersText ms ++ [125]).length + 1 := rfl
  generalize (membersText ms ++ [125]).length = fuel at hlength hfuel
  have hmembers (rest : List UInt8) :
      readMembers (readValue (fuel + 1)) (fuel + 1) (membersText ms ++ [125]) =
          some (ms.map fun m => (m.key, m.value), rest) ↔
        (∀ m ∈ ms, ∀ c ∈ m.key, IsPlain c) ∧ rest = [] :=
    readMembers_eq_some_iff hne (fun m hm => hms m hm fuel) (Nat.le_succ_of_le hlength)
  rw [parse, hfuel, readValue_objectText hne]
  constructor
  · intro h
    obtain ⟨⟨value, rest⟩, hvalue, h⟩ := Option.bind_eq_some_iff.mp h
    obtain ⟨⟨members, rest'⟩, hread, heq⟩ := Option.map_eq_some_iff.mp hvalue
    obtain ⟨rfl, rfl⟩ := Prod.mk.inj heq
    dsimp only at h
    split at h
    · obtain rfl := Value.object.inj (Option.some.inj h)
      exact ((hmembers rest').mp hread).1
    · cases h
  · intro hplain
    rw [(hmembers []).mpr ⟨hplain, rfl⟩]
    rfl

end CrossFlow.Lib.Json
