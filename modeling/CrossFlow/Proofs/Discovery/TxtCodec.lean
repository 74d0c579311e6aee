import CrossFlow.Core.Discovery.MdnsTxt

/-!
# `CrossFlow.Proofs.Discovery.TxtCodec`: the TXT decoder reads what the encoder wrote

`parseTxtFrom_encodeEntry` is one turn of the decoder's loop at an encoded entry. The induction over
the pairs is in `parseTxtFrom_entries`: the cursor stands where the bytes of the remaining pairs
begin.

* `parseTxt_encodeTxt`: the decoder gives back the pairs whose entry fits in 255 bytes, in order.
-/

set_option autoImplicit false

namespace CrossFlow

open StdString (lit)
open MdnsAnnouncer MdnsListener

/-- An entry is a key, a `=` and a value. -/
theorem txtEntry_eq (pair : StdString × StdString) : txtEntry pair = pair.1 ++ 61 :: pair.2 := by
  simp [txtEntry, lit]

/-- An entry is cut where its key ends, when the key has no `=` itself. -/
theorem splitEntry_txtEntry (pair : StdString × StdString) (hkey : 61 ∉ pair.1) :
    splitEntry (txtEntry pair) = some pair := by
  -- The first `=` is the one after the key.
  have hnone : pair.1.findIdx? (· = 61) = none := by
    rw [List.findIdx?_eq_none_iff]
    intro c hc
    simpa using fun h : c = 61 => hkey (h ▸ hc)
  have hfind : (txtEntry pair).findIdx? (· = 61) = some pair.1.length := by
    rw [txtEntry_eq, List.findIdx?_append, hnone, List.findIdx?_cons]
    simp
  rw [splitEntry, hfind, txtEntry_eq]
  simp

/-- A pair that has room is written behind its length. -/
theorem encodeEntry_of_fits {pair : StdString × StdString} (h : Fits pair) :
    encodeEntry pair = (txtEntry pair).length.toUInt8 :: txtEntry pair :=
  if_neg (Nat.not_lt.mpr h)

/-- A pair that has no room is left out. -/
theorem encodeEntry_of_not_fits {pair : StdString × StdString} (h : ¬ Fits pair) :
    encodeEntry pair = [] :=
  if_pos (Nat.lt_of_not_le h)

/-- Bytes are read where they are. -/
theorem readBytes_of_drop {data : List UInt8} {pos : Nat} {entry rest : List UInt8}
    (hdrop : data.drop pos = entry ++ rest) (hpos : pos ≤ data.length) :
    readBytes data pos entry.length = some entry := by
  have hlen := congrArg List.length hdrop
  rw [List.length_drop, List.length_append] at hlen
  rw [readBytes, if_pos (by omega), hdrop, List.take_left]

/-- One turn of the loop: the entry at the cursor is read whole and cut. -/
theorem parseTxtFrom_encodeEntry {data : List UInt8} {length pos : UInt16}
    (result : List (StdString × StdString)) {pair : StdString × StdString} {rest : List UInt8}
    (hlength : length.toNat = data.length) (hfits : Fits pair) (hkey : 61 ∉ pair.1)
    (hdrop : data.drop pos.toNat = encodeEntry pair ++ rest) :
    ∃ next : UInt16, data.drop next.toNat = rest ∧
      parseTxtFrom data length pos result = parseTxtFrom data length next (result ++ [pair]) := by
  rw [encodeEntry_of_fits hfits, List.cons_append] at hdrop
  set entry := txtEntry pair with hentry
  have hfit : entry.length ≤ 255 := hfits
  -- The length byte, the entry and the rest are what is left of the buffer.
  have hend : pos.toNat + 1 + entry.length + rest.length = data.length := by
    have hlen := congrArg List.length hdrop
    simp only [List.length_drop, List.length_cons, List.length_append] at hlen
    omega
  have hmax := length.toNat_lt
  have hpos : pos < length := UInt16.lt_iff_toNat_lt.mpr (by omega)
  have hlenByte : entry.length.toUInt8.toNat = entry.length := by
    rw [UInt8.toNat_ofNat']
    omega
  -- The cursor stays below `length`, so neither `pos++` nor `pos += entryLen` wraps.
  have hnext : (pos + 1).toNat = pos.toNat + 1 := by
    rw [UInt16.toNat_add, UInt16.toNat_one]
    omega
  have hafter : (pos + 1 + entry.length.toUInt8.toUInt16).toNat = pos.toNat + 1 + entry.length := by
    rw [UInt16.toNat_add, hnext, UInt8.toNat_toUInt16, hlenByte]
    omega
  have hbyte : data[pos.toNat]? = some entry.length.toUInt8 := by
    rw [← List.head?_drop, hdrop, List.head?_cons]
  have htail : data.drop (pos.toNat + 1) = entry ++ rest := by
    rw [← List.tail_drop, hdrop, List.tail_cons]
  refine ⟨pos + 1 + entry.length.toUInt8.toUInt16, ?_, ?_⟩
  · rw [hafter, ← List.drop_drop, htail, List.drop_left]
  · have hread : readBytes data (pos.toNat + 1) entry.length = some entry :=
      readBytes_of_drop htail (by omega)
    rw [parseTxtFrom, dif_pos hpos]
    simp only [hbyte, Option.bind_eq_bind, Option.bind_some, hnext, hlenByte]
    rw [dif_neg (by omega), hread, Option.bind_some, hentry, splitEntry_txtEntry pair hkey,
      Option.toList_some]

/-- At the end the pairs are those that were read. -/
theorem parseTxtFrom_end {data : List UInt8} {length pos : UInt16}
    {result : List (StdString × StdString)} (hpos : ¬ pos < length) :
    parseTxtFrom data length pos result = some result := by
  rw [parseTxtFrom, dif_neg hpos]

/-- The loop at the bytes of the pairs that remain. -/
theorem parseTxtFrom_entries {data : List UInt8} {length : UInt16}
    (hlength : length.toNat = data.length) (txt : List (StdString × StdString))
    (hkeys : ∀ pair ∈ txt, 61 ∉ pair.1) (pos : UInt16) (result : List (StdString × StdString))
    (hdrop : data.drop pos.toNat = txt.flatMap encodeEntry) :
    parseTxtFrom data length pos result =
      some (result ++ txt.filter fun pair => Fits pair) := by
  induction txt generalizing pos result with
  | nil =>
    have hend : data.length ≤ pos.toNat := List.drop_eq_nil_iff.mp hdrop
    have hpos : ¬ pos < length := by
      rw [UInt16.lt_iff_toNat_lt]
      omega
    rw [parseTxtFrom_end hpos]
    simp
  | cons pair txt ih =>
    have hkeys' : ∀ p ∈ txt, 61 ∉ p.1 := by
      intro p hp
      exact hkeys p (List.mem_cons_of_mem _ hp)
    rw [List.flatMap_cons] at hdrop
    by_cases hfits : Fits pair
    -- A pair that fits is decoded by one turn of the loop; one that does not has left no bytes.
    · obtain ⟨next, hrest, hstep⟩ := parseTxtFrom_encodeEntry result hlength hfits
        (hkeys pair List.mem_cons_self) hdrop
      rw [hstep, ih hkeys' next (result ++ [pair]) hrest, List.filter_cons_of_pos (by simpa),
        List.append_assoc, List.singleton_append]
    · rw [encodeEntry_of_not_fits hfits, List.nil_append] at hdrop
      rw [ih hkeys' pos result hdrop, List.filter_cons_of_neg (by simpa)]

/-- What is written is read back, but for the pairs that have no room. -/
theorem parseTxt_encodeTxt (txt : List (StdString × StdString))
    (hkeys : ∀ pair ∈ txt, 61 ∉ pair.1) (hlength : (encodeTxt txt).length < 2 ^ 16) :
    parseTxt (encodeTxt txt) (encodeTxt txt).length.toUInt16 =
      some (txt.filter fun pair => Fits pair) := by
  have hlen : (encodeTxt txt).length.toUInt16.toNat = (encodeTxt txt).length := by
    rw [UInt16.toNat_ofNat']
    omega
  by_cases hempty : txt.flatMap encodeEntry = []
  · -- The single zero byte is an empty entry, which has no `=` and is dropped.
    have hdata : encodeTxt txt = [0] := if_pos hempty
    have hnone : txt.filter (fun pair => Fits pair) = [] := by
      have hdrop : List.drop (0 : UInt16).toNat [] = txt.flatMap encodeEntry := by simp [hempty]
      have h := parseTxtFrom_entries (rfl : (0 : UInt16).toNat = [].length) txt hkeys 0 [] hdrop
      rw [parseTxtFrom_end (by decide)] at h
      simpa using h.symm
    rw [hdata, hnone, parseTxt, parseTxtFrom, dif_pos (by decide)]
    exact parseTxtFrom_end (by decide)
  · -- Otherwise the entries are the whole record, and the loop takes them one by one.
    have hdata : encodeTxt txt = txt.flatMap encodeEntry := if_neg hempty
    exact parseTxtFrom_entries hlen txt hkeys 0 [] (by simp [hdata])

/-- The pairs that are encoded in 16 bits of length come back, but for those whose `key=value` is
longer than 255 bytes. -/
theorem txt_roundTrip (txt : List (StdString × StdString)) (hkeys : ∀ pair ∈ txt, 61 ∉ pair.1)
    (hlength : (encodeTxt txt).length ≤ 65535) :
    parseTxt (encodeTxt txt) (encodeTxt txt).length.toUInt16 =
      some (txt.filter fun pair => (pair.1 ++ lit "=" ++ pair.2).length ≤ 255) :=
  parseTxt_encodeTxt txt hkeys (Nat.lt_succ_of_le hlength)

/-- A value may hold a `=`, and a long pair is left out. -/
theorem txt_roundTrip_three :
    let pairs := [(lit "a", lit "b=c"), (lit "topo", List.replicate 251 120), (lit "d", [])]
    parseTxt (encodeTxt pairs) (encodeTxt pairs).length.toUInt16 =
      some [(lit "a", lit "b=c"), (lit "d", [])] := by
  intro pairs
  have hfilter : pairs.filter (fun pair => (pair.1 ++ lit "=" ++ pair.2).length ≤ 255) =
      [(lit "a", lit "b=c"), (lit "d", [])] := by decide +kernel
  rw [txt_roundTrip pairs (by decide +kernel) (by decide +kernel), hfilter]

end CrossFlow
