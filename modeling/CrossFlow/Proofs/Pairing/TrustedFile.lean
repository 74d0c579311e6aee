import CrossFlow.Core.Pairing.TrustedListFile
import CrossFlow.Proofs.Discovery.WrittenNumbers

/-!
# `CrossFlow.Proofs.Pairing.TrustedFile`: whole and damaged trusted-list files

A file is whole when it is made of entries of four numbers, with white space between them. `load`
stops at what it cannot read, as it does at the end of the file, so it takes the front of a damaged
file for a list.

* `readEntries_eq`: a file of numbers is read as the entries that they make.
* `words_fileText`: `persist` writes a whole file, of the entries that it has.
* `refusesDamage_iff`: a file is not taken for a whole one exactly when it is one or is not read.
-/

set_option autoImplicit false

namespace CrossFlow

open Lib (readFrom digitsOf)
open StdString (isSpace isDigit digitValue digitChar extractDigits extractU64 lit EndsNumber)

/-! ### Words -/

/-- The pieces of a text between white space. -/
def words (s : StdString) : List StdString := (s.splitOnP isSpace).filter (· ≠ [])

/-- The empty text has no words. -/
@[simp] theorem words_nil : words [] = [] := rfl

/-- White space before a text is no part of its words. -/
theorem words_space {c : UInt8} (hc : isSpace c = true) (s : StdString) :
    words (c :: s) = words s := by
  simp [words, List.splitOnP_cons_eq_if_modifyHead, hc]

/-- A text without white space is one word. -/
theorem words_word {w : StdString} (hne : w ≠ []) (hw : ∀ c ∈ w, isSpace c = false) :
    words w = [w] := by
  simp [words, List.splitOnP_eq_singleton hw, hne]

/-- A word that white space ends is the first. -/
theorem words_append {w : StdString} (hne : w ≠ []) (hw : ∀ c ∈ w, isSpace c = false) {c : UInt8}
    (hc : isSpace c = true) (s : StdString) : words (w ++ c :: s) = w :: words s := by
  simp [words, List.splitOnP_append_cons_of_forall_mem hw c hc, hne]

/-- The first word goes up to the first white space. -/
theorem words_cons {c : UInt8} (hc : isSpace c = false) (s : StdString) :
    words (c :: s) = (c :: s).takeWhile (fun c => !isSpace c) ::
      words ((c :: s).dropWhile fun c => !isSpace c) := by
  have hsplit := List.takeWhile_append_dropWhile (p := fun c => !isSpace c) (l := c :: s)
  have hne : (c :: s).takeWhile (fun c => !isSpace c) ≠ [] := by simp [hc]
  have hword : ∀ c' ∈ (c :: s).takeWhile fun c => !isSpace c, isSpace c' = false := by
    intro c' hc'
    simpa using List.mem_takeWhile_imp hc'
  have hnext := List.head?_dropWhile_not (fun c => !isSpace c) (c :: s)
  cases hdrop : (c :: s).dropWhile fun c => !isSpace c with
  | nil =>
    rw [hdrop, List.append_nil] at hsplit
    rw [words_nil, hsplit, words_word (by simp) (hsplit ▸ hword)]
  | cons c' rest =>
    rw [hdrop] at hsplit hnext
    have hc' : isSpace c' = true := by simpa using hnext
    rw [words_space hc', ← words_append hne hword hc', hsplit]

/-- A text begins with its first word, after white space, and goes on with white space. -/
theorem exists_of_words_eq_cons {s w : StdString} {ws : List StdString} (h : words s = w :: ws) :
    ∃ sp rest, (∀ c ∈ sp, isSpace c = true) ∧ s = sp ++ (w ++ rest) ∧ EndsNumber rest ∧
      words rest = ws := by
  induction s with
  | nil => exact absurd h (by simp)
  | cons c s ih =>
    -- White space is skipped, and the first other character begins the word.
    cases hc : isSpace c with
    | true =>
      rw [words_space hc] at h
      obtain ⟨sp, rest, hsp, rfl, hrest⟩ := ih h
      refine ⟨c :: sp, rest, ?_, rfl, hrest⟩
      intro c' hc'
      rcases List.mem_cons.mp hc' with rfl | hc'
      · exact hc
      · exact hsp c' hc'
    | false =>
      rw [words_cons hc] at h
      obtain ⟨rfl, rfl⟩ := List.cons.inj h
      refine ⟨[], _, by simp, List.takeWhile_append_dropWhile.symm, ?_, rfl⟩
      intro c' hc'
      have hnext := List.head?_dropWhile_not (fun c => !isSpace c) (c :: s)
      rw [hc'] at hnext
      exact StdString.not_isDigit_of_isSpace (by simpa using hnext)

/-- A text without words is white space. -/
theorem isSpace_of_words_eq_nil {s : StdString} (h : words s = []) : ∀ c ∈ s, isSpace c = true := by
  induction s with
  | nil => simp
  | cons c s ih =>
    cases hc : isSpace c with
    | true =>
      rw [words_space hc] at h
      simpa [hc] using ih h
    | false =>
      rw [words_cons hc] at h
      exact absurd h (List.cons_ne_nil _ _)

/-! ### Numbers -/

/-- A number has no white space in it. -/
theorem IsNumber.notSpace {bound : Nat} {w : StdString} (h : IsNumber bound w) :
    ∀ c ∈ w, isSpace c = false :=
  fun c hc => (StdString.of_isDigit (by decide) (h.2.1 c hc)).1

/-- The digit of the value of a digit is that digit. -/
theorem digitChar_digitValue {c : UInt8} (hc : isDigit 10 c = true) :
    digitChar (digitValue c) = c := by
  have hall : ∀ n < 256, isDigit 10 (UInt8.ofNat n) = true →
      digitChar (digitValue (UInt8.ofNat n)) = UInt8.ofNat n := by decide +kernel
  rw [← UInt8.ofNat_toNat (x := c)] at hc ⊢
  exact hall c.toNat c.toNat_lt hc

/-- A number is read, up to white space. -/
theorem extractU64_of_isNumber {sp : StdString} (hsp : ∀ c ∈ sp, isSpace c = true) {w : StdString}
    (hw : IsNumber (2 ^ 64) w) {rest : StdString} (hrest : EndsNumber rest) :
    extractU64 (sp ++ (w ++ rest)) = some ((digitsValue 10 w).toUInt64, rest) := by
  obtain ⟨hne, hdigits, hlt⟩ := hw
  -- The characters of the word are those of its digits.
  have hchars : (w.map digitValue).map digitChar = w := by
    rw [List.map_map]
    conv_rhs => rw [← List.map_id w]
    exact List.map_congr_left fun c hc => digitChar_digitValue (hdigits c hc)
  have hvalues : ∀ d ∈ w.map digitValue, d < 10 := by
    intro d hd
    obtain ⟨c, hc, rfl⟩ := List.mem_map.mp hd
    exact of_decide_eq_true (hdigits c hc)
  have hread := StdString.extractDigits_map_digitChar hsp hvalues
    (mt List.map_eq_nil_iff.mp hne) hrest
  rw [hchars] at hread
  rw [extractU64, hread]
  show (if 2 ^ 64 ≤ digitsValue 10 w then none else some ((digitsValue 10 w).toUInt64, rest)) = _
  rw [if_neg (Nat.not_le.mpr hlt)]

/-- The number that is read of a text. -/
theorem extractU64_of_words {s w : StdString} {ws : List StdString} (h : words s = w :: ws)
    (hw : IsNumber (2 ^ 64) w) :
    ∃ rest, extractU64 s = some ((digitsValue 10 w).toUInt64, rest) ∧ words rest = ws := by
  obtain ⟨sp, rest, hsp, rfl, hends, hrest⟩ := exists_of_words_eq_cons h
  exact ⟨rest, extractU64_of_isNumber hsp hw hends, hrest⟩

/-- Where no word is left, nothing is extracted. -/
theorem extractU64_of_words_nil {s : StdString} (h : words s = []) : extractU64 s = none := by
  rw [extractU64, StdString.extractDigits_of_isSpace (isSpace_of_words_eq_nil h)]
  rfl

/-! ### Entries -/

/-- The number that a word is. -/
def wordValue (w : StdString) : UInt64 := (digitsValue 10 w).toUInt64

/-- The entries that words make, four at a time. -/
def entriesOf : List StdString → List TrustedNodeEntry
  | high :: low :: pairedAt :: epoch :: ws =>
    { nodeId := { high := wordValue high, low := wordValue low }
      pairedAt := wordValue pairedAt
      lastSeenEpoch := { value := wordValue epoch } } :: entriesOf ws
  | _ => []

namespace PersistentTrustedList

/-- Where no entry can be read, the reading ends. -/
theorem readEntries_of_none {s : StdString} (h : readEntry s = none) : readEntries s = [] := by
  rw [readEntries]
  split
  · rfl
  · next heq => exact absurd (h.symm.trans heq) (by simp)

/-- An entry that can be read is followed by those of the rest. -/
theorem readEntries_of_some {s rest : StdString} {e : TrustedNodeEntry}
    (h : readEntry s = some (e, rest)) : readEntries s = e :: readEntries rest := by
  rw [readEntries]
  split
  · next heq => exact absurd (heq.symm.trans h) (by simp)
  · next heq =>
    cases heq.symm.trans h
    rfl

/-- Less than four numbers are no entry. -/
theorem readEntry_of_few {s : StdString} (hnumbers : ∀ w ∈ words s, IsNumber (2 ^ 64) w)
    (hfew : (words s).length < 4) : readEntry s = none := by
  unfold readEntry
  -- Fewer than four words: the stream fails at the first that is missing.
  cases h₁ : words s with
  | nil => simp [extractU64_of_words_nil h₁]
  | cons w₁ ws₁ =>
    rw [h₁] at hnumbers hfew
    obtain ⟨s₁, hs₁, hws₁⟩ := extractU64_of_words h₁ (hnumbers w₁ (by simp))
    rw [hs₁]
    cases ws₁ with
    | nil => simp [extractU64_of_words_nil hws₁]
    | cons w₂ ws₂ =>
      obtain ⟨s₂, hs₂, hws₂⟩ := extractU64_of_words hws₁ (hnumbers w₂ (by simp))
      cases ws₂ with
      | nil => simp [hs₂, extractU64_of_words_nil hws₂]
      | cons w₃ ws₃ =>
        obtain ⟨s₃, hs₃, hws₃⟩ := extractU64_of_words hws₂ (hnumbers w₃ (by simp))
        have hnil : ws₃ = [] := by
          rw [← List.length_eq_zero_iff]
          simp only [List.length_cons] at hfew
          omega
        simp [hs₂, hs₃, extractU64_of_words_nil (hws₃.trans hnil)]

/-- Four words that are numbers are read as an entry. -/
theorem readEntry_of_words {s a b c d : StdString} {ws : List StdString}
    (hwords : words s = a :: b :: c :: d :: ws) (hnumbers : ∀ w ∈ words s, IsNumber (2 ^ 64) w) :
    ∃ rest, words rest = ws ∧
      readEntry s =
        some
          ({ nodeId := { high := wordValue a, low := wordValue b }
             pairedAt := wordValue c
             lastSeenEpoch := { value := wordValue d } }, rest) := by
  rw [hwords] at hnumbers
  obtain ⟨s₁, hs₁, hws₁⟩ := extractU64_of_words hwords (hnumbers a (by simp))
  obtain ⟨s₂, hs₂, hws₂⟩ := extractU64_of_words hws₁ (hnumbers b (by simp))
  obtain ⟨s₃, hs₃, hws₃⟩ := extractU64_of_words hws₂ (hnumbers c (by simp))
  obtain ⟨s₄, hs₄, hws₄⟩ := extractU64_of_words hws₃ (hnumbers d (by simp))
  refine ⟨s₄, hws₄, ?_⟩
  rw [readEntry, hs₁]
  simp [hs₂, hs₃, hs₄, wordValue]

/-- A file of numbers is read as the entries that they make. -/
theorem readEntries_eq {s : StdString} (hnumbers : ∀ w ∈ words s, IsNumber (2 ^ 64) w) :
    readEntries s = entriesOf (words s) := by
  generalize hws : words s = ws
  induction ws using entriesOf.induct generalizing s with
  -- Four words make an entry, and what is left begins with the next.
  | case1 a b c d ws ih =>
    obtain ⟨rest, hrest, hread⟩ := readEntry_of_words hws hnumbers
    have htail : ∀ w ∈ words rest, IsNumber (2 ^ 64) w := by
      intro w hw
      rw [hrest] at hw
      exact hnumbers w (by simp [hws, hw])
    rw [readEntries_of_some hread, ih htail hrest, entriesOf]
  -- Less than four words are left, and the loop ends.
  | case2 ws hfew =>
    have hlength : (words s).length < 4 := by
      rw [hws]
      by_contra hge
      rcases ws with _ | ⟨a, _ | ⟨b, _ | ⟨c, _ | ⟨d, ws⟩⟩⟩⟩ <;> simp at hge
      exact hfew a b c d ws rfl
    rw [readEntries_of_none (readEntry_of_few hnumbers hlength), entriesOf]
    exact hfew

/-! ### The text that is written -/

/-- What a number is written as is that number. -/
theorem isNumber_toString (n : UInt64) : IsNumber (2 ^ 64) (.toString n.toNat) ∧
    wordValue (.toString n.toNat) = n := by
  have hvalue : digitsValue 10 (.toString n.toNat) = n.toNat := by
    rw [digitsValue, StdString.toString,
      StdString.map_digitValue_digitChar _ (Lib.digitsOf_lt (by decide) _), Lib.readFrom_digitsOf]
  refine ⟨⟨?_, ?_, ?_⟩, ?_⟩
  · exact mt List.map_eq_nil_iff.mp (StdString.digitsOf_ne_nil n.toNat)
  · exact List.takeWhile_eq_self_iff.mp (StdString.takeWhile_isDigit_digitChar 10 (Nat.le_refl 10)
      _ (Lib.digitsOf_lt (by decide) _))
  · rw [hvalue]
    exact n.toNat_lt
  · rw [wordValue, hvalue, Nat.toUInt64_eq, UInt64.ofNat_toNat]

/-- The four words of an entry. -/
def entryWords (e : TrustedNodeEntry) : List StdString :=
  [.toString e.nodeId.high.toNat, .toString e.nodeId.low.toNat, .toString e.pairedAt.toNat,
    .toString e.lastSeenEpoch.value.toNat]

/-- A number that was written is a word. -/
theorem words_toString (n : UInt64) {c : UInt8} (hc : isSpace c = true) (s : StdString) :
    words (.toString n.toNat ++ c :: s) = .toString n.toNat :: words s :=
  words_append (isNumber_toString n).1.1 (isNumber_toString n).1.notSpace hc s

/-- The words of an entry that was written come first. -/
theorem words_entryText (e : TrustedNodeEntry) (s : StdString) :
    words (entryText e ++ s) = entryWords e ++ words s := by
  have htext : entryText e ++ s = StdString.toString e.nodeId.high.toNat ++ 32 ::
      (StdString.toString e.nodeId.low.toNat ++ 32 ::
        (StdString.toString e.pairedAt.toNat ++ 32 ::
          (StdString.toString e.lastSeenEpoch.value.toNat ++ 10 :: s))) := by
    simp [entryText, lit]
  have hblank : isSpace 32 = true := by decide
  have hnewline : isSpace 10 = true := by decide
  rw [htext, words_toString _ hblank, words_toString _ hblank, words_toString _ hblank,
    words_toString _ hnewline]
  rfl

/-- The words of a file are those of its entries. -/
theorem words_fileText (entries : List TrustedNodeEntry) :
    words (fileText entries) = entries.flatMap entryWords := by
  induction entries with
  | nil => rfl
  | cons e entries ih =>
    show words (entryText e ++ fileText entries) = entryWords e ++ entries.flatMap entryWords
    rw [words_entryText, ih]

/-- Every word of a file that was written is a number. -/
theorem isNumber_of_mem_fileText {entries : List TrustedNodeEntry} :
    ∀ w ∈ words (fileText entries), IsNumber (2 ^ 64) w := by
  intro w hw
  rw [words_fileText, List.mem_flatMap] at hw
  obtain ⟨e, -, hw⟩ := hw
  simp only [entryWords, List.mem_cons, List.not_mem_nil, or_false] at hw
  rcases hw with rfl | rfl | rfl | rfl <;> exact (isNumber_toString _).1

/-- The words of an entry give it back. -/
theorem entriesOf_entryWords (e : TrustedNodeEntry) (ws : List StdString) :
    entriesOf (entryWords e ++ ws) = e :: entriesOf ws := by
  show _ :: entriesOf ws = e :: entriesOf ws
  rw [(isNumber_toString _).2, (isNumber_toString _).2, (isNumber_toString _).2,
    (isNumber_toString _).2]

/-- What is written is read back. -/
theorem readEntries_fileText (entries : List TrustedNodeEntry) :
    readEntries (fileText entries) = entries := by
  rw [readEntries_eq isNumber_of_mem_fileText, words_fileText]
  induction entries with
  | nil => rfl
  | cons e entries ih =>
    rw [List.flatMap_cons, entriesOf_entryWords, ih]

/-! ### Damaged files -/

/-- The whole file is entries of four numbers. -/
def Whole (file : StdString) : Prop :=
  (∀ w ∈ words file, IsNumber (2 ^ 64) w) ∧ 4 ∣ (words file).length

/-- Whether a file is whole can be looked up. -/
instance (file : StdString) : Decidable (Whole file) := inferInstanceAs (Decidable (_ ∧ _))

/-- A file that was written is whole. -/
theorem whole_fileText (entries : List TrustedNodeEntry) : Whole (fileText entries) := by
  refine ⟨isNumber_of_mem_fileText, ?_⟩
  rw [words_fileText]
  induction entries with
  | nil => exact Nat.dvd_zero 4
  | cons e entries ih =>
    rw [List.flatMap_cons, List.length_append]
    exact Nat.dvd_add (Nat.dvd_refl 4) ih

/-- The list has a file, and the file is whole. -/
def ReadsWhole (l : PersistentTrustedList) (file : Option StdString) : Prop :=
  l.persistPath ≠ [] ∧ ∃ s, file = some s ∧ Whole s

/-- A file that is damaged is refused: `load` reports an error and keeps the list, and the recovery
says that the list was cleared. -/
def RefusesDamage (l : PersistentTrustedList) (file : Option StdString) : Prop :=
  ((l.load file).2 = none → l.ReadsWhole file) ∧
    (¬ l.ReadsWhole file → (l.load file).2 ≠ none ∧ (l.load file).1.entries = l.entries ∧
      ∀ opens, (l.recoverFromCorruption file opens).1.lastRecovery.listCleared = true)

variable {l : PersistentTrustedList}

/-- Without a path or a file, loading fails and changes nothing. -/
theorem load_eq_error {file : Option StdString} (h : l.persistPath = [] ∨ file = none) :
    l.load file = (l, some .PairTrustCorrupt) := by
  unfold load
  by_cases hpath : l.persistPath = []
  · rw [if_pos hpath]
  · rw [if_neg hpath, h.resolve_left hpath]

/-- Loading takes the entries that can be read. -/
theorem load_eq (hpath : l.persistPath ≠ []) (s : StdString) :
    l.load (some s) = ({ l with entries := readEntries s }, none) := by
  rw [load, if_neg hpath]

/-- A whole file is loaded as it is. -/
theorem load_of_whole (hpath : l.persistPath ≠ []) {s : StdString} (hs : Whole s) :
    l.load (some s) = ({ l with entries := entriesOf (words s) }, none) := by
  rw [load_eq hpath, readEntries_eq hs.1]

/-- Where loading fails, the recovery clears the list. -/
theorem recoverFromCorruption_of_error {file : Option StdString}
    (h : l.persistPath = [] ∨ file = none) (opens : Bool) :
    (l.recoverFromCorruption file opens).1.lastRecovery.listCleared = true := by
  have hload : ({ l with lastRecovery := .init } : PersistentTrustedList).load file =
      ({ l with lastRecovery := .init }, some .PairTrustCorrupt) := load_eq_error h
  simp only [recoverFromCorruption, hload]
  rfl

/-- A damaged file is refused exactly when there is no path or the file cannot be opened: all that is
opened is taken for a whole file. -/
theorem refusesDamage_iff (l : PersistentTrustedList) (file : Option StdString) :
    l.RefusesDamage file ↔ l.persistPath = [] ∨ file = none ∨ ∃ s, file = some s ∧ Whole s := by
  constructor
  · intro hrefuses
    -- A path and a file that was read: nothing is refused, so all of it has to be there.
    by_cases hpath : l.persistPath = []
    · exact .inl hpath
    · right
      cases file with
      | none => exact .inl rfl
      | some s =>
        right
        have hloads : (l.load (some s)).2 = none := by rw [load_eq hpath]
        exact (hrefuses.1 hloads).2
  · intro h
    -- Without a path or a file the load fails, and the recovery leaves an empty list.
    by_cases herror : l.persistPath = [] ∨ file = none
    · have hload := load_eq_error herror
      refine ⟨?_, ?_⟩
      · intro hloads
        rw [hload] at hloads
        exact absurd hloads (by simp)
      · intro _
        rw [hload]
        exact ⟨by simp, rfl, recoverFromCorruption_of_error herror⟩
    · obtain ⟨hpath, hfile⟩ := not_or.mp herror
      have hwhole : l.ReadsWhole file := ⟨hpath, (h.resolve_left hpath).resolve_left hfile⟩
      exact ⟨fun _ => hwhole, fun hnot => absurd hwhole hnot⟩

/-- An entry that is cut off after its first number is not noticed, and the list is gone. -/
theorem cut_entry_loaded :
    ¬ ∀ (l : PersistentTrustedList) (s : StdString), l.persistPath ≠ [] →
      l.RefusesDamage (some s) := by
  intro hclaim
  let l : PersistentTrustedList := .init (lit "trusted.txt")
  have hpath : l.persistPath ≠ [] := by decide
  have hreads : l.ReadsWhole (some [55]) := (hclaim l [55] hpath).1 (by rw [load_eq hpath])
  obtain ⟨-, s, hs, -, hlength⟩ := hreads
  cases hs
  have hwords : words [55] = [[55]] :=
    words_word (by decide) (List.forall_mem_singleton.mpr (by decide))
  rw [hwords] at hlength
  exact absurd hlength (by decide)

end PersistentTrustedList

end CrossFlow
