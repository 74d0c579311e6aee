import CrossFlow.Core.Common.StdString

/-!
# `CrossFlow.Core.Discovery.MdnsTxt`: TXT records on the wire

`MdnsAnnouncer::encodeTxt` (`mdns_announcer.cpp`) and `MdnsListener::parseTxt`
(`mdns_listener.cpp`). The buffer of `parseTxt` is a list of bytes, and a read past its end is
`none`: in the source it is undefined behaviour.
-/

set_option autoImplicit false

namespace CrossFlow

open StdString (lit)

namespace MdnsAnnouncer

/-- The text of a pair. -/
def txtEntry (pair : StdString × StdString) : StdString := pair.1 ++ lit "=" ++ pair.2

/-- An entry whose length fits in its length byte. -/
def Fits (pair : StdString × StdString) : Prop := (txtEntry pair).length ≤ 255

/-- Whether an entry fits can be looked up. -/
instance (pair : StdString × StdString) : Decidable (Fits pair) :=
  inferInstanceAs (Decidable ((txtEntry pair).length ≤ 255))

/-- What one pair appends to `data`: nothing when its entry is longer than 255 bytes. -/
def encodeEntry (pair : StdString × StdString) : List UInt8 :=
  let entry := txtEntry pair
  if entry.length > 255 then [] else entry.length.toUInt8 :: entry

/-- The record of the pairs. One without pairs is a single byte of 0. -/
def encodeTxt (txt : List (StdString × StdString)) : List UInt8 :=
  let data := txt.flatMap encodeEntry
  if data = [] then [0] else data

end MdnsAnnouncer

namespace MdnsListener

/-- `std::string(data + pos, n)`. -/
def readBytes (data : List UInt8) (pos n : Nat) : Option StdString :=
  if pos + n ≤ data.length then some ((data.drop pos).take n) else none

/-- The pair an entry is cut into at its first `=`. -/
def splitEntry (entry : StdString) : Option (StdString × StdString) :=
  match entry.findIdx? (· = 61) with
  | some eq => some (entry.take eq, entry.drop (eq + 1))
  | none => none

/-- The loop of `parseTxt` from the cursor `pos` on. -/
def parseTxtFrom (data : List UInt8) (length pos : UInt16)
    (result : List (StdString × StdString)) : Option (List (StdString × StdString)) :=
  if hpos : pos < length then do
    let entryLen ← data[pos.toNat]?
    let next := pos + 1
    if hlen : next.toNat + entryLen.toNat > length.toNat then some result
    else do
      let entry ← readBytes data next.toNat entryLen.toNat
      parseTxtFrom data length (next + entryLen.toUInt16) (result ++ (splitEntry entry).toList)
  else some result
termination_by length.toNat - pos.toNat
decreasing_by
  have hlt := UInt16.lt_iff_toNat_lt.mp hpos
  have hmax := length.toNat_lt
  simp only [UInt16.toNat_add, UInt8.toNat_toUInt16, UInt16.reduceToNat, next] at hlen ⊢
  omega

/-- The pairs of a record, or `none` where the code reads past its end. -/
def parseTxt (data : List UInt8) (length : UInt16) : Option (List (StdString × StdString)) :=
  parseTxtFrom data length 0 []

end MdnsListener

end CrossFlow
