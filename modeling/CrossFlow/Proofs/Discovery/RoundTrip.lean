import CrossFlow.Core.Discovery.DiscoveryService
import CrossFlow.Proofs.Discovery.TxtCodec

/-!
# `CrossFlow.Proofs.Discovery.RoundTrip`: a digest from the announcer to the listener

The announcer writes the two halves of a node id in decimal, without a separator, and the listener
cuts the string into twice 16 characters and reads them as hexadecimal. It writes the topology id
under `tid`, and the listener looks for `topo`. So the announced record comes back without its
topology id and with another node id (`listeningCallback_toTxtRecord`), except for the six node
ids of `selfReadingIds` whose decimal digits, misread in this way, give the same node id.

* `discovery_roundTrip_iff`: the exact digests that come back unchanged.
* `discovery_roundTrip_fails`: one that does not.
-/

set_option autoImplicit false

namespace CrossFlow

open Lib (readFrom digitsOf misreads)
open StdString (lit stoull digitChar)
open DiscoveryService MdnsAnnouncer MdnsListener

/-! ### What the listener makes of a digest -/

/-- The announced digest as the callback offers it to the table: `toTxtRecord`, `encodeTxt`,
`parseTxt`, then the callback. -/
def receive (indeterminate : DiscoveryRecord) (now : UInt64) (d : DiscoveryDigest) :
    Option (Except StdException (Option DiscoveryRecord)) :=
  (parseTxt (encodeTxt d.toTxtRecord) (encodeTxt d.toTxtRecord).length.toUInt16).map
    (listeningCallback indeterminate now)

/-- The digest is offered to the table with the values it was announced with. -/
def RoundTrips (indeterminate : DiscoveryRecord) (now : UInt64) (d : DiscoveryDigest) : Prop :=
  ∃ record, receive indeterminate now d = some (.ok (some record)) ∧ record.nodeId = d.nodeId ∧
    record.platform = d.platform ∧ record.sessionEpoch = d.sessionEpoch ∧
    record.protocolVersion = d.protocolVersion ∧ record.topologyId = d.topologyId

/-- The digits of the `nid` value. -/
def nidDigits (id : NodeId) : List Nat := digitsOf 10 id.high.toNat ++ digitsOf 10 id.low.toNat

/-- The node id the callback reads from the `nid` value of `id`. -/
def misreadId (id : NodeId) : NodeId :=
  if (nidDigits id).length ≥ 32 then
    { high := (readFrom 16 0 ((nidDigits id).take 16)).toUInt64
      low := (readFrom 16 0 (((nidDigits id).drop 16).take 16)).toUInt64 }
  else { high := 0, low := 0 }

/-- The digits of an id are decimal. -/
theorem nidDigits_lt (id : NodeId) : ∀ d ∈ nidDigits id, d < 10 := by
  intro d hd
  rcases List.mem_append.mp hd with h | h
  · exact Lib.digitsOf_lt (by decide) _ d h
  · exact Lib.digitsOf_lt (by decide) _ d h

/-- No key has a `=` in it. -/
theorem toTxtRecord_keys (d : DiscoveryDigest) : ∀ pair ∈ d.toTxtRecord, 61 ∉ pair.1 := by
  have hkeys : ∀ key ∈ d.toTxtRecord.map Prod.fst, 61 ∉ key := by
    show ∀ key ∈ [lit "nid", lit "plat", lit "epoch", lit "pver", lit "tid", lit "caps"], 61 ∉ key
    decide
  intro pair hpair
  exact hkeys pair.1 (List.mem_map_of_mem hpair)

/-- An entry takes at most 256 bytes. -/
theorem length_encodeEntry_le (pair : StdString × StdString) :
    (encodeEntry pair).length ≤ 256 := by
  by_cases hfits : Fits pair
  · rw [encodeEntry_of_fits hfits, List.length_cons]
    exact Nat.succ_le_succ hfits
  · rw [encodeEntry_of_not_fits hfits]
    exact Nat.zero_le _

/-- Entries take at most 256 bytes each. -/
theorem length_flatMap_encodeEntry_le (txt : List (StdString × StdString)) :
    (txt.flatMap encodeEntry).length ≤ txt.length * 256 := by
  induction txt with
  | nil => simp
  | cons pair txt ih =>
    have hpair := length_encodeEntry_le pair
    rw [List.flatMap_cons, List.length_append, List.length_cons]
    omega

/-- A record has room in 16 bits of length. -/
theorem length_encodeTxt_toTxtRecord (d : DiscoveryDigest) :
    (encodeTxt d.toTxtRecord).length < 2 ^ 16 := by
  have hle : (d.toTxtRecord.flatMap encodeEntry).length ≤ 6 * 256 :=
    length_flatMap_encodeEntry_le d.toTxtRecord
  unfold encodeTxt
  dsimp only
  split
  · simp
  · omega

/-- When all pairs have room the callback gets all of them. -/
theorem receive_of_fits (indeterminate : DiscoveryRecord) (now : UInt64) (d : DiscoveryDigest)
    (hfits : ∀ pair ∈ d.toTxtRecord, Fits pair) :
    receive indeterminate now d = some (listeningCallback indeterminate now d.toTxtRecord) := by
  have hall : d.toTxtRecord.filter (fun pair => Fits pair) = d.toTxtRecord := by
    rw [List.filter_eq_self]
    simpa using hfits
  rw [receive, parseTxt_encodeTxt _ (toTxtRecord_keys d) (length_encodeTxt_toTxtRecord d), hall,
    Option.map_some]

/-- Sixteen of the characters of a `nid` value, read as hexadecimal. -/
theorem stoull_hex_digits (ds : List Nat) (hds : ∀ d ∈ ds, d < 10) (hlen : ds.length = 16) :
    stoull (ds.map digitChar) 16 = .ok (readFrom 16 0 ds).toUInt64 := by
  have hlt := Lib.readFrom_lt 16 0 ds (fun d hd => lt_trans (hds d hd) (by decide))
  rw [hlen] at hlt
  refine StdString.stoull_map_digitChar 16 (by decide) (by decide) ds hds ?_ (by simpa using hlt)
  intro hnil
  simp [hnil] at hlen

/-- The id that is written is read as another one. -/
theorem applyPair_nid (record : DiscoveryRecord) (id : NodeId) :
    applyPair record
        (lit "nid", StdString.toString id.high.toNat ++ StdString.toString id.low.toNat) =
      .ok { record with nodeId := misreadId id } := by
  have hval : StdString.toString id.high.toNat ++ StdString.toString id.low.toNat =
      (nidDigits id).map digitChar := by
    rw [nidDigits, List.map_append]
    rfl
  have hdigits := nidDigits_lt id
  rw [applyPair, if_pos rfl, hval, List.length_map]
  by_cases hlen : (nidDigits id).length ≥ 32
  -- The digits are hexadecimal digits too, so both `stoull` calls return.
  · have hhigh := stoull_hex_digits ((nidDigits id).take 16)
      (fun d hd => hdigits d (List.mem_of_mem_take hd)) (by rw [List.length_take]; omega)
    have hlow := stoull_hex_digits (((nidDigits id).drop 16).take 16)
      (fun d hd => hdigits d (List.mem_of_mem_drop (List.mem_of_mem_take hd)))
      (by rw [List.length_take, List.length_drop]; omega)
    rw [if_pos hlen, misreadId, if_pos hlen, ← List.map_take, ← List.map_drop, ← List.map_take,
      hhigh, hlow]
    rfl
  · rw [if_neg hlen, misreadId, if_neg hlen]
    rfl

/-- The callback on an announced digest: the node id is misread and the topology id is not read. -/
theorem listeningCallback_toTxtRecord (indeterminate : DiscoveryRecord) (now : UInt64)
    (d : DiscoveryDigest) :
    listeningCallback indeterminate now d.toTxtRecord =
      .ok (if (misreadId d.nodeId).isNull then none
        else some
          { nodeId := misreadId d.nodeId
            platform := d.platform
            capabilitiesFingerprint := []
            sessionEpoch := d.sessionEpoch
            protocolVersion := d.protocolVersion
            topologyId := []
            endpointAddresses := []
            lastSeenAt := now }) := by
  -- One fact for each pair; `tid` and `caps` are keys the callback does not know.
  have hplat : ∀ record, applyPair record
      (lit "plat", if d.platform = .Mac then lit "mac" else lit "win") =
        .ok { record with platform := d.platform } := by
    intro record
    cases d.platform <;> rfl
  have hepoch : ∀ record, applyPair record
      (lit "epoch", StdString.toString d.sessionEpoch.value.toNat) =
        .ok { record with sessionEpoch := d.sessionEpoch } := by
    intro record
    show (do return { record with sessionEpoch := { value := ← stoull _ 10 } }) = _
    rw [StdString.stoull_toString]
    rfl
  have hpver : ∀ record, applyPair record
      (lit "pver", StdString.toString d.protocolVersion.toNat) =
        .ok { record with protocolVersion := d.protocolVersion } := by
    intro record
    show (do return { record with protocolVersion := (← stoull _ 10).toUInt16 }) = _
    rw [← UInt16.toNat_toUInt64, StdString.stoull_toString]
    simp [bind, Except.bind, pure, Except.pure]
  have htid : ∀ record val, applyPair record (lit "tid", val) = .ok record := by
    intro record val
    rfl
  have hcaps : ∀ record val, applyPair record (lit "caps", val) = .ok record := by
    intro record val
    rfl
  unfold listeningCallback DiscoveryDigest.toTxtRecord
  simp only [List.foldlM_cons, List.foldlM_nil, applyPair_nid, hplat, hepoch, hpver, htid, hcaps]
  rfl

/-! ### The node ids that are read as themselves -/

/-- The node ids whose `nid` value is read as the same node id. -/
def selfReadingIds : List NodeId :=
  [ { high := 1473629912658445381, low := 4040859199559275865 },
    { high := 1473630369381619225, low := 2473117421549000009 },
    { high := 1522942510917317399, low := 4148963737026654246 },
    { high := 1523068255831528744, low := 8379008198473516147 },
    { high := 2996698626955498648, low := 7243798346844104772 },
    { high := 2996706165677060192, low := 1810870398422189090 } ]

/-- Six ids are read as themselves. -/
theorem misreadId_of_mem : ∀ id ∈ selfReadingIds, misreadId id = id := by
  decide +kernel

/-- Of the numbers with 19 digits, only the high halves of `selfReadingIds` are the hexadecimal
reading of their first 16 digits. -/
theorem misreads_high_19 : ∀ q ∈ misreads 10 16 (10 ^ 3) 16 0 0, 10 ^ 18 ≤ q.1 →
    q.1 ∈ selfReadingIds.map fun id => id.high.toNat := by
  decide +kernel

/-- No number with 20 digits is. -/
theorem misreads_high_20 : ∀ q ∈ misreads 10 16 (10 ^ 4) 16 0 0, ¬ 10 ^ 19 ≤ q.1 := by
  decide +kernel

/-- For each of these high halves, the low halves that are read from the last three digits of the
high half and their own first 13 digits. -/
theorem misreads_low : ∀ high ∈ selfReadingIds.map (fun id => id.high.toNat), ∀ len ∈ List.range 21,
    ∀ q ∈ misreads 10 16 (10 ^ (len - 13)) 13 (readFrom 16 0 ((digitsOf 10 high).drop 16)) 0,
      13 ≤ len → 10 ^ (len - 1) ≤ q.1 →
        (high, q.1) ∈ selfReadingIds.map fun id => (id.high.toNat, id.low.toNat) := by
  decide +kernel

/-- Sixteen digits have room in 64 bits. -/
theorem toNat_readFrom_hex {ds : List Nat} (hds : ∀ d ∈ ds, d < 10) (hlen : ds.length ≤ 16) :
    (readFrom 16 0 ds).toUInt64.toNat = readFrom 16 0 ds := by
  have hlt := Lib.readFrom_lt 16 0 ds (fun d hd => lt_trans (hds d hd) (by decide))
  have hpow : 16 ^ ds.length ≤ 16 ^ 16 := Nat.pow_le_pow_right (by decide) hlen
  rw [UInt64.toNat_ofNat']
  omega

/-- What a node id that is read as itself says of its digits. -/
theorem readFrom_of_misreadId {id : NodeId} (hid : id.isNull = false) (hread : misreadId id = id) :
    32 ≤ (nidDigits id).length ∧ readFrom 16 0 ((nidDigits id).take 16) = id.high.toNat ∧
      readFrom 16 0 (((nidDigits id).drop 16).take 16) = id.low.toNat := by
  have hdigits := nidDigits_lt id
  unfold misreadId at hread
  split at hread
  next hlen =>
    -- Sixteen decimal digits read in base 16 are below `2 ^ 64`, so nothing wraps.
    have hhigh := congrArg (fun id => id.high.toNat) hread
    have hlow := congrArg (fun id => id.low.toNat) hread
    dsimp only at hhigh hlow
    rw [toNat_readFrom_hex (fun d hd => hdigits d (List.mem_of_mem_take hd))
      (by rw [List.length_take]; omega)] at hhigh
    rw [toNat_readFrom_hex
      (fun d hd => hdigits d (List.mem_of_mem_drop (List.mem_of_mem_take hd)))
      (by rw [List.length_take]; omega)] at hlow
    exact ⟨hlen, hhigh, hlow⟩
  next =>
    -- Below 32 characters the callback reads the null node id.
    rw [← hread] at hid
    exact absurd hid (by decide)

/-- A number of 64 bits has at most 20 digits. -/
theorem length_digitsOf_toNat_le (n : UInt64) : (digitsOf 10 n.toNat).length ≤ 20 :=
  Lib.length_digitsOf_le (by decide) (by decide) (lt_trans n.toNat_lt (by decide))

/-- A number with two digits or more is not 0. -/
theorem ne_zero_of_length_digitsOf {n : Nat} (h : 1 < (digitsOf 10 n).length) : n ≠ 0 := by
  rintro rfl
  exact absurd h (by decide)

/-- The high half has at least 19 digits: its hexadecimal reading starts with a digit that is not
zero, which 18 decimal digits do not reach. -/
theorem length_high_of_misreadId {id : NodeId} (hid : id.isNull = false)
    (hread : misreadId id = id) : 19 ≤ (digitsOf 10 id.high.toNat).length := by
  obtain ⟨hlen, hhigh, -⟩ := readFrom_of_misreadId hid hread
  have hlow20 := length_digitsOf_toNat_le id.low
  have hlen' : 32 ≤ (digitsOf 10 id.high.toNat).length + (digitsOf 10 id.low.toNat).length := by
    rwa [nidDigits, List.length_append] at hlen
  obtain ⟨d, ds, hds, hd⟩ :=
    Lib.digitsOf_eq_cons 10 (ne_zero_of_length_digitsOf (n := id.high.toNat) (by omega))
  have htake : (nidDigits id).take 16 = d :: (ds ++ digitsOf 10 id.low.toNat).take 15 := by
    rw [nidDigits, hds, List.cons_append, List.take_succ_cons]
  -- The first of the 16 characters is a digit that is not zero.
  have hle := Lib.le_readFrom 16 d ((ds ++ digitsOf 10 id.low.toNat).take 15)
  rw [htake, Lib.readFrom_cons, Nat.zero_mul, Nat.zero_add] at hhigh
  have hlen15 : ((ds ++ digitsOf 10 id.low.toNat).take 15).length = 15 := by
    rw [hds, List.length_cons] at hlen'
    rw [List.length_take, List.length_append]
    omega
  rw [hhigh, hlen15] at hle
  have hlarge : 16 ^ 15 ≤ id.high.toNat := le_trans (Nat.le_mul_of_pos_left _ hd) hle
  have hlt := Lib.lt_pow_length_digitsOf (b := 10) (by decide) id.high.toNat
  by_contra hshort
  -- `10 ^ 18 < 16 ^ 15`, so 18 digits are too few.
  have hpow : 10 ^ (digitsOf 10 id.high.toNat).length ≤ 10 ^ 18 :=
    Nat.pow_le_pow_right (by decide) (by omega)
  omega

/-- The upper word of an id that is read as itself has 19 digits, and is one of a few. -/
theorem high_of_misreadId {id : NodeId} (hid : id.isNull = false) (hread : misreadId id = id) :
    (digitsOf 10 id.high.toNat).length = 19 ∧
      id.high.toNat ∈ selfReadingIds.map fun id => id.high.toNat := by
  obtain ⟨-, hhigh, -⟩ := readFrom_of_misreadId hid hread
  have h19 := length_high_of_misreadId hid hread
  have h20 := length_digitsOf_toNat_le id.high
  have hne := ne_zero_of_length_digitsOf (n := id.high.toNat) (by omega)
  have hpow := Lib.pow_length_le_of_digitsOf (b := 10) hne
  -- All 16 characters are digits of the high half.
  rw [nidDigits, List.take_append_of_le_length (by omega)] at hhigh
  have hmem := Lib.mem_misreads_of_take (b := 10) (B := 16) (by decide) (by decide)
    (show 16 ≤ (digitsOf 10 id.high.toNat).length by omega) hhigh
  -- A 64-bit number has 19 or 20 digits then, and the search covers both.
  rcases Nat.lt_or_ge 19 (digitsOf 10 id.high.toNat).length with hlong | hshort
  · have hlen : (digitsOf 10 id.high.toNat).length = 20 := by omega
    rw [hlen] at hmem hpow
    exact absurd hpow (misreads_high_20 _ hmem)
  · have hlen : (digitsOf 10 id.high.toNat).length = 19 := by omega
    rw [hlen] at hmem hpow
    exact ⟨hlen, misreads_high_19 _ hmem hpow⟩

/-- No other id is read as itself. -/
theorem mem_selfReadingIds_of_misreadId {id : NodeId} (hid : id.isNull = false)
    (hread : misreadId id = id) : id ∈ selfReadingIds := by
  obtain ⟨hlen, -, hlow⟩ := readFrom_of_misreadId hid hread
  obtain ⟨hlen19, hhigh⟩ := high_of_misreadId hid hread
  have hlen13 : 13 ≤ (digitsOf 10 id.low.toNat).length := by
    rw [nidDigits, List.length_append] at hlen
    omega
  have h20 := length_digitsOf_toNat_le id.low
  have hne := ne_zero_of_length_digitsOf (n := id.low.toNat) (by omega)
  -- The second block: the last three digits of the high half, then 13 digits of the low half.
  have hblock : ((nidDigits id).drop 16).take 16 =
      (digitsOf 10 id.high.toNat).drop 16 ++ (digitsOf 10 id.low.toNat).take 13 := by
    have hthree : ((digitsOf 10 id.high.toNat).drop 16).length = 3 := by
      rw [List.length_drop, hlen19]
    rw [nidDigits, List.drop_append_of_le_length (by omega), List.take_append, hthree,
      List.take_of_length_le (by omega)]
  rw [hblock, Lib.readFrom_append] at hlow
  have hmem := Lib.mem_misreads_of_take (b := 10) (B := 16) (by decide) (by decide) hlen13 hlow
  -- The search over the low halves that go with this high half.
  have hpair := misreads_low id.high.toNat hhigh (digitsOf 10 id.low.toNat).length
    (List.mem_range.mpr (by omega)) _ hmem hlen13 (Lib.pow_length_le_of_digitsOf hne)
  obtain ⟨id', hid', heq⟩ := List.mem_map.mp hpair
  have hsame : id' = id := by
    cases id
    cases id'
    simp only [Prod.mk.injEq, UInt64.toNat_inj] at heq
    rw [heq.1, heq.2]
  exact hsame ▸ hid'

/-- An id is read as itself just when it is one of the six. -/
theorem misreadId_eq_iff {id : NodeId} (hid : id.isNull = false) :
    misreadId id = id ↔ id ∈ selfReadingIds :=
  ⟨mem_selfReadingIds_of_misreadId hid, misreadId_of_mem id⟩

/-! ### The round trip -/

/-- A record comes back exactly when its node id is read as itself and there is no topology id. -/
theorem roundTrips_iff_misreadId (indeterminate : DiscoveryRecord) (now : UInt64)
    (d : DiscoveryDigest) (hid : d.nodeId.isNull = false)
    (hfits : ∀ pair ∈ d.toTxtRecord, Fits pair) :
    RoundTrips indeterminate now d ↔ misreadId d.nodeId = d.nodeId ∧ d.topologyId = [] := by
  unfold RoundTrips
  rw [receive_of_fits indeterminate now d hfits, listeningCallback_toTxtRecord]
  constructor
  · rintro ⟨record, hrecord, hnode, -, -, -, htopology⟩
    -- A null node id is not offered to the table.
    split at hrecord
    next => simp at hrecord
    next =>
      have hvalue := Option.some.inj (Except.ok.inj (Option.some.inj hrecord))
      rw [← hvalue] at hnode htopology
      exact ⟨hnode, htopology.symm⟩
  · rintro ⟨hread, htopology⟩
    rw [hread, hid, htopology]
    exact ⟨_, rfl, rfl, rfl, rfl, rfl, rfl⟩

/-- The digests that come back as they were announced are those with no topology id and one of the
six node ids. -/
theorem discovery_roundTrip_iff (indeterminate : DiscoveryRecord) (now : UInt64)
    (d : DiscoveryDigest) (hid : d.nodeId.isNull = false)
    (hfits : ∀ pair ∈ d.toTxtRecord, Fits pair) :
    RoundTrips indeterminate now d ↔ d.nodeId ∈ selfReadingIds ∧ d.topologyId = [] := by
  rw [roundTrips_iff_misreadId indeterminate now d hid hfits, misreadId_eq_iff hid]

/-- A record before the callback has set any of its members. -/
def blankRecord : DiscoveryRecord where
  nodeId := { high := 0, low := 0 }
  platform := .Win
  capabilitiesFingerprint := []
  sessionEpoch := { value := 0 }
  protocolVersion := 0
  topologyId := []
  endpointAddresses := []
  lastSeenAt := 0

/-- A digest with a version 4 node id and a topology id. -/
def deskDigest : DiscoveryDigest where
  nodeId := { high := 0x550e8400e29b41d4, low := 0xa716446655440000 }
  platform := .Mac
  capabilitiesFingerprint := [.Mouse, .Keyboard]
  sessionEpoch := { value := 7 }
  protocolVersion := 1
  topologyId := lit "desk"

/-- The node id of `deskDigest` is none of the six, so the digest does not come back. -/
theorem discovery_roundTrip_desk : ¬ RoundTrips blankRecord 0 deskDigest := by
  intro htrip
  have hself := (discovery_roundTrip_iff blankRecord 0 deskDigest (by decide) (by decide)).mp htrip
  exact absurd hself.1 (by decide)

/-- Not every digest is read back. -/
theorem discovery_roundTrip_fails :
    ¬ ∀ (indeterminate : DiscoveryRecord) (now : UInt64) (d : DiscoveryDigest),
      d.nodeId.isNull = false → (∀ pair ∈ d.toTxtRecord, Fits pair) →
        RoundTrips indeterminate now d := by
  intro hclaim
  have hdesk := hclaim blankRecord 0 deskDigest (by decide) (by decide)
  rw [roundTrips_iff_misreadId _ _ _ (by decide) (by decide)] at hdesk
  exact absurd hdesk.2 (by decide)

end CrossFlow
