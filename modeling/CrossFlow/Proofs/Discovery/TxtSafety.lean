import CrossFlow.Proofs.Discovery.TxtCodec

/-!
# `CrossFlow.Proofs.Discovery.TxtSafety`: the TXT decoder on any bytes

The bytes come from the network, and the cursor of `parseTxt` is moved by them. A turn of the loop
takes one entry, and the entry ends at `length` at the latest, so the cursor stays at or below
`length`.

* `Turn.after_toNat`: a turn moves the cursor to the end of its entry, and it does not wrap.
* `parseTxtFrom_turn`, `parseTxtFrom_stop`: the loop is its turns.
* `Turn.take_iff`, `parseTxtFrom_take`: the bytes from `length` on play no part.
* `parseTxtFrom_entries_in`: the pairs are cut from entries that follow each other.
* `parseTxt_safe`: all of this for any buffer.
-/

set_option autoImplicit false

namespace CrossFlow

open MdnsListener

/-- The cursor behind an entry: `pos++`, then `pos += entryLen`. -/
def afterEntry (pos : UInt16) (entryLen : UInt8) : UInt16 := pos + 1 + entryLen.toUInt16

/-- A turn of the loop with the cursor at `pos` that does not break: it reads the length byte and
the text of an entry. -/
structure Turn (data : List UInt8) (length pos : UInt16) (entryLen : UInt8) (text : StdString) :
    Prop where
  lt : pos < length
  byte : data[pos.toNat]? = some entryLen
  fits : (pos + 1).toNat + entryLen.toNat ≤ length.toNat
  text : readBytes data (pos + 1).toNat entryLen.toNat = some text

/-- The cursors that the loop comes to. -/
inductive Reached (data : List UInt8) (length : UInt16) : UInt16 → Prop
  | start : Reached data length 0
  | turn {pos : UInt16} {entryLen : UInt8} {text : StdString} (hpos : Reached data length pos)
      (hturn : Turn data length pos entryLen text) : Reached data length (afterEntry pos entryLen)

/-- An entry, and the index of its length byte. -/
structure TxtEntry where
  start : Nat
  text : StdString

namespace TxtEntry

/-- The index behind the entry. -/
def stop (entry : TxtEntry) : Nat := entry.start + 1 + entry.text.length

/-- The entry is in the buffer, with its length byte in front, and does not end after `length`. -/
structure In (data : List UInt8) (length : Nat) (entry : TxtEntry) : Prop where
  stop_le : entry.stop ≤ length
  byte : data[entry.start]? = some entry.text.length.toUInt8
  short : entry.text.length ≤ 255
  text : (data.drop (entry.start + 1)).take entry.text.length = entry.text

end TxtEntry

variable {data : List UInt8} {length pos : UInt16} {entryLen : UInt8} {text : StdString}

/-- `pos++` does not wrap in the body of the loop. -/
theorem succ_toNat (hpos : pos < length) : (pos + 1).toNat = pos.toNat + 1 := by
  have hlt := UInt16.lt_iff_toNat_lt.mp hpos
  have hmax := length.toNat_lt
  rw [UInt16.toNat_add, UInt16.toNat_one]
  omega

/-- Bytes before the end are read with or without what follows it. -/
theorem readBytes_take {data : List UInt8} {start n length : Nat} (h : start + n ≤ length) :
    readBytes (data.take length) start n = readBytes data start n := by
  unfold readBytes
  rw [List.length_take]
  by_cases hin : start + n ≤ data.length
  · rw [if_pos (Nat.le_min.mpr ⟨h, hin⟩), if_pos hin, List.drop_take, List.take_take,
      Nat.min_eq_left (by omega)]
  · rw [if_neg hin, if_neg fun hmin => hin (Nat.le_min.mp hmin).2]

namespace Turn

/-- An entry has the length that it says. -/
theorem length_text (h : Turn data length pos entryLen text) : text.length = entryLen.toNat := by
  have htext := h.text
  unfold readBytes at htext
  split at htext
  · rename_i hbounds
    rw [← Option.some.inj htext, List.length_take, List.length_drop]
    omega
  · exact absurd htext (by simp)

/-- `pos += entryLen` does not wrap either. -/
theorem after_toNat (h : Turn data length pos entryLen text) :
    (afterEntry pos entryLen).toNat = pos.toNat + 1 + entryLen.toNat := by
  have hfits := h.fits
  have hmax := length.toNat_lt
  rw [afterEntry, UInt16.toNat_add, UInt8.toNat_toUInt16, succ_toNat h.lt]
  rw [succ_toNat h.lt] at hfits
  omega

/-- The next entry begins before the end or at it. -/
theorem after_le (h : Turn data length pos entryLen text) :
    (afterEntry pos entryLen).toNat ≤ length.toNat := by
  have hfits := h.fits
  rw [succ_toNat h.lt] at hfits
  rw [h.after_toNat]
  exact hfits

/-- What a turn reads is an entry. -/
theorem entry_in (h : Turn data length pos entryLen text) :
    (TxtEntry.mk pos.toNat text).In data length.toNat := by
  have hlength := h.length_text
  have hbyte := entryLen.toNat_lt
  have hfits := h.fits
  rw [succ_toNat h.lt] at hfits
  constructor
  case stop_le =>
    show pos.toNat + 1 + text.length ≤ length.toNat
    omega
  -- The length of an entry is its length byte, as that is below 256.
  case byte =>
    have hlen : text.length.toUInt8 = entryLen := by
      refine UInt8.toNat_inj.mp ?_
      rw [hlength]
      exact Nat.mod_eq_of_lt hbyte
    show data[pos.toNat]? = some text.length.toUInt8
    rw [hlen, h.byte]
  case short =>
    show text.length ≤ 255
    omega
  case text =>
    have htext := h.text
    rw [succ_toNat h.lt] at htext
    unfold readBytes at htext
    split at htext
    · show (data.drop (pos.toNat + 1)).take text.length = text
      rw [hlength]
      exact Option.some.inj htext
    · exact absurd htext (by simp)

/-- The bytes from `length` on play no part in a turn. -/
theorem take_iff :
    Turn (data.take length.toNat) length pos entryLen text ↔
      Turn data length pos entryLen text := by
  have hbyte (hpos : pos < length) : (data.take length.toNat)[pos.toNat]? = data[pos.toNat]? :=
    List.getElem?_take_of_lt (UInt16.lt_iff_toNat_lt.mp hpos)
  constructor
  · rintro ⟨hpos, hlen, hfits, htext⟩
    rw [hbyte hpos] at hlen
    rw [readBytes_take hfits] at htext
    exact ⟨hpos, hlen, hfits, htext⟩
  · rintro ⟨hpos, hlen, hfits, htext⟩
    rw [← hbyte hpos] at hlen
    rw [← readBytes_take hfits] at htext
    exact ⟨hpos, hlen, hfits, htext⟩

end Turn

/-- The loop goes on behind the entry. -/
theorem parseTxtFrom_turn (h : Turn data length pos entryLen text)
    (result : List (StdString × StdString)) :
    parseTxtFrom data length pos result =
      parseTxtFrom data length (afterEntry pos entryLen) (result ++ (splitEntry text).toList) := by
  rw [parseTxtFrom, dif_pos h.lt]
  simp only [h.byte, Option.bind_eq_bind, Option.bind_some]
  rw [dif_neg (Nat.not_lt.mpr h.fits), h.text, Option.bind_some]
  rfl

/-- Where there is no turn the loop ends, and it has read nothing behind `length`. -/
theorem parseTxtFrom_stop (hlength : length.toNat ≤ data.length)
    (hstop : ∀ entryLen text, ¬ Turn data length pos entryLen text)
    (result : List (StdString × StdString)) :
    parseTxtFrom data length pos result = some result := by
  rw [parseTxtFrom]
  split
  · rename_i hpos
    have hlt := UInt16.lt_iff_toNat_lt.mp hpos
    -- The length byte can be read, so only a text that does not fit is left.
    have hin : pos.toNat < data.length := by omega
    simp only [List.getElem?_eq_getElem hin, Option.bind_eq_bind, Option.bind_some]
    split
    · rfl
    · rename_i hfits
      have hfits := Nat.not_lt.mp hfits
      have htext : ∃ text, readBytes data (pos + 1).toNat data[pos.toNat].toNat = some text :=
        ⟨_, if_pos (by omega)⟩
      obtain ⟨text, htext⟩ := htext
      exact absurd ⟨hpos, List.getElem?_eq_getElem hin, hfits, htext⟩ (hstop _ text)
  · rfl

/-- The rule of the loop: each turn leads nearer to a cursor where there is none. -/
theorem turn_induction (data : List UInt8) (length : UInt16) {P : UInt16 → Prop}
    (hstop : ∀ pos, (∀ entryLen text, ¬ Turn data length pos entryLen text) → P pos)
    (hturn : ∀ pos entryLen text, Turn data length pos entryLen text →
      P (afterEntry pos entryLen) → P pos)
    (pos : UInt16) : P pos := by
  induction hn : length.toNat - pos.toNat using Nat.strong_induction_on generalizing pos with
  | h n ih =>
    by_cases h : ∃ entryLen text, Turn data length pos entryLen text
    · obtain ⟨entryLen, text, hentry⟩ := h
      refine hturn pos entryLen text hentry (ih _ ?_ _ rfl)
      have hlt := UInt16.lt_iff_toNat_lt.mp hentry.lt
      rw [hentry.after_toNat]
      omega
    · refine hstop pos ?_
      intro entryLen text hentry
      exact h ⟨entryLen, text, hentry⟩

/-- The loop does not read behind `length`: it does the same on a buffer that ends there. -/
theorem parseTxtFrom_take (hlength : length.toNat ≤ data.length) (pos : UInt16)
    (result : List (StdString × StdString)) :
    parseTxtFrom (data.take length.toNat) length pos result =
      parseTxtFrom data length pos result := by
  have hcut : length.toNat ≤ (data.take length.toNat).length := by
    rw [List.length_take]
    omega
  induction pos using turn_induction data length generalizing result with
  | hstop pos hstop =>
    have hstop' : ∀ entryLen text, ¬ Turn (data.take length.toNat) length pos entryLen text :=
      fun entryLen text h => hstop entryLen text (Turn.take_iff.mp h)
    rw [parseTxtFrom_stop hcut hstop', parseTxtFrom_stop hlength hstop]
  | hturn pos entryLen text hturn ih =>
    rw [parseTxtFrom_turn (Turn.take_iff.mpr hturn), parseTxtFrom_turn hturn, ih]

/-- The loop adds the pairs of entries that lie from the cursor on, one behind the other. -/
theorem parseTxtFrom_entries_in (hlength : length.toNat ≤ data.length) (pos : UInt16)
    (result : List (StdString × StdString)) :
    ∃ entries : List TxtEntry,
      (∀ entry ∈ entries, pos.toNat ≤ entry.start ∧ entry.In data length.toNat) ∧
        entries.Pairwise (fun entry next => entry.stop ≤ next.start) ∧
        parseTxtFrom data length pos result =
          some (result ++ entries.filterMap fun entry => splitEntry entry.text) := by
  induction pos using turn_induction data length generalizing result with
  | hstop pos hstop =>
    refine ⟨[], fun _ h => absurd h List.not_mem_nil, List.Pairwise.nil, ?_⟩
    rw [parseTxtFrom_stop hlength hstop, List.filterMap_nil, List.append_nil]
  -- A turn reads the entry at the cursor, and the others come after it.
  | hturn pos entryLen text hturn ih =>
    obtain ⟨entries, hin, hdisjoint, hparsed⟩ := ih (result ++ (splitEntry text).toList)
    have hafter := hturn.after_toNat
    have htext := hturn.length_text
    refine ⟨⟨pos.toNat, text⟩ :: entries, ?_, ?_, ?_⟩
    · intro entry hentry
      rcases List.mem_cons.mp hentry with rfl | hentry
      · exact ⟨Nat.le_refl _, hturn.entry_in⟩
      · have hentry := hin entry hentry
        exact ⟨by omega, hentry.2⟩
    · -- The next entry begins where this one ends, or later.
      refine List.pairwise_cons.mpr ⟨?_, hdisjoint⟩
      intro next hnext
      have hstart := (hin next hnext).1
      show pos.toNat + 1 + text.length ≤ next.start
      omega
    · rw [parseTxtFrom_turn hturn, hparsed, List.append_assoc]
      congr 2
      cases hsplit : splitEntry text with
      | none => simp [hsplit]
      | some pair => simp [hsplit]

/-- A pair is cut at the first `=` of its entry. -/
theorem splitEntry_eq_some_iff {pair : StdString × StdString} :
    splitEntry text = some pair ↔ text = pair.1 ++ 61 :: pair.2 ∧ 61 ∉ pair.1 := by
  constructor
  · intro h
    unfold splitEntry at h
    split at h
    · -- The first `=` is where the entry is cut.
      rename_i eq heq
      obtain rfl := Option.some.inj h
      obtain ⟨hlt, hbyte, hbefore⟩ := List.findIdx?_eq_some_iff_getElem.mp heq
      rw [decide_eq_true_eq] at hbyte
      constructor
      · show text = text.take eq ++ 61 :: text.drop (eq + 1)
        rw [← hbyte, List.getElem_cons_drop, List.take_append_drop]
      · -- An earlier `=` would have been found first.
        intro hmem
        obtain ⟨i, hi, hequals⟩ := List.mem_take_iff_getElem.mp hmem
        exact hbefore i (by omega) (by simpa using hequals)
    · exact absurd h (by simp)
  · rintro ⟨htext, hkey⟩
    rw [htext, ← txtEntry_eq, splitEntry_txtEntry pair hkey]

/-- The loop does come to these cursors. -/
theorem parseTxt_of_reached (hpos : Reached data length pos) :
    ∃ result, parseTxt data length = parseTxtFrom data length pos result := by
  induction hpos with
  | start => exact ⟨[], rfl⟩
  | turn hpos hturn ih =>
    obtain ⟨result, hparsed⟩ := ih
    exact ⟨_, hparsed.trans (parseTxtFrom_turn hturn result)⟩

/-- The position does not go past the end. -/
theorem Reached.le (hpos : Reached data length pos) : pos.toNat ≤ length.toNat := by
  cases hpos with
  | start => exact Nat.zero_le _
  | turn hpos hturn => exact hturn.after_le

/-- What is promised of the decoder on the first `length` bytes of a buffer. -/
structure ParsesSafely (data : List UInt8) (length : UInt16) : Prop where
  /-- The cursor of the loop does not pass `length`, and neither of its increments wraps. -/
  cursor : ∀ pos, Reached data length pos →
    (∃ result, parseTxt data length = parseTxtFrom data length pos result) ∧
      pos.toNat ≤ length.toNat ∧
      (pos < length → (pos + 1).toNat = pos.toNat + 1) ∧
      ∀ entryLen text, Turn data length pos entryLen text →
        (afterEntry pos entryLen).toNat = pos.toNat + 1 + entryLen.toNat
  /-- It does the same when the buffer ends at `length`, where a read from there on would fail. -/
  reads : parseTxt (data.take length.toNat) length = parseTxt data length
  /-- The pairs are cut from whole entries, which lie one behind the other, at the first `=`. -/
  pairs : ∃ entries : List TxtEntry, (∀ entry ∈ entries, entry.In data length.toNat) ∧
    entries.Pairwise (fun entry next => entry.stop ≤ next.start) ∧
    parseTxt data length = some (entries.filterMap fun entry => splitEntry entry.text) ∧
    ∀ entry ∈ entries, ∀ pair, splitEntry entry.text = some pair ↔
      entry.text = pair.1 ++ 61 :: pair.2 ∧ 61 ∉ pair.1

/-- Any bytes are parsed safely, with any length that is not greater than theirs. -/
theorem parseTxt_safe (data : List UInt8) (length : UInt16) (hlength : length.toNat ≤ data.length) :
    ParsesSafely data length where
  cursor pos hpos :=
    ⟨parseTxt_of_reached hpos, hpos.le, succ_toNat, fun _ _ hturn => hturn.after_toNat⟩
  reads := parseTxtFrom_take hlength 0 []
  pairs := by
    obtain ⟨entries, hin, hdisjoint, hparsed⟩ := parseTxtFrom_entries_in hlength 0 []
    exact ⟨entries, fun entry hentry => (hin entry hentry).2, hdisjoint, hparsed,
      fun _ _ _ => splitEntry_eq_some_iff⟩

/-- The second entry is cut off by the end of the buffer. -/
theorem parseTxt_safe_truncated : ParsesSafely [3, 97, 61, 98, 7, 99] 6 :=
  parseTxt_safe _ _ (by decide)

end CrossFlow
