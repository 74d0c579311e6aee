import CrossFlow.Proofs.Discovery.Announcements
import CrossFlow.Proofs.Discovery.Listening
import CrossFlow.Proofs.Discovery.TxtCodec
import CrossFlow.Proofs.Discovery.WrittenNumbers

/-!
# `CrossFlow.Proofs.Discovery.TxtCallback`: what the callback makes of any TXT record

The callback reads the numbers of a TXT record with `std::stoull`, which throws on what is no
number, takes signs and white space, and stops at the first character that is no digit. The last
pair of a key is the one that counts.

* `foldlM_applyPair`: what the loop over the pairs leaves, by the last value of each key.
* `callback_robust_iff`: the pairs that the callback is right about.
-/

set_option autoImplicit false

namespace CrossFlow

open StdString (lit stoull)

namespace DiscoveryService

/-! ### The loop over the pairs -/

/-- The value of the last pair with the key. -/
def lastValue (key : StdString) : List (StdString × StdString) → Option StdString
  | [] => none
  | pair :: pairs => lastValue key pairs <|> if pair.1 = key then some pair.2 else none

/-- What the callback reads from a `nid` value. -/
def ReadsId (val : StdString) (nid : NodeId) : Prop :=
  if 32 ≤ val.length then
    stoull (val.take 16) 16 = .ok nid.high ∧ stoull ((val.drop 16).take 16) 16 = .ok nid.low
  else nid = { high := 0, low := 0 }

/-- What it reads from a `pver` value. -/
def ReadsVersion (val : StdString) (version : UInt16) : Prop :=
  ∃ n, stoull val 10 = .ok n ∧ version = n.toUInt16

section
variable {record r : DiscoveryRecord} {key val : StdString}
  {pairs : List (StdString × StdString)}

/-- A turn of the loop that returns writes one field, by the key of the pair. -/
theorem applyPair_cases (h : applyPair record (key, val) = .ok r) :
    (key = lit "nid" ∧ ∃ nid, ReadsId val nid ∧ r = { record with nodeId := nid }) ∨
    (key = lit "plat" ∧ ∃ platform, r = { record with platform }) ∨
    (key = lit "epoch" ∧ ∃ n, stoull val 10 = .ok n ∧
      r = { record with sessionEpoch := { value := n } }) ∨
    (key = lit "pver" ∧ ∃ version, ReadsVersion val version ∧
      r = { record with protocolVersion := version }) ∨
    (key = lit "topo" ∧ r = { record with topologyId := val }) ∨
    (key ≠ lit "nid" ∧ key ≠ lit "epoch" ∧ key ≠ lit "pver" ∧ r = record) := by
  by_cases hnid : key = lit "nid"
  · subst hnid
    refine .inl ⟨rfl, ?_⟩
    by_cases hlen : 32 ≤ val.length
    · -- Two numbers are read, and each may throw.
      rw [applyPair_nid_of_long hlen] at h
      cases hhigh : stoull (val.take 16) 16 with
      | error e =>
        rw [hhigh] at h
        exact absurd h (by simp [Except.bind])
      | ok high =>
        rw [hhigh] at h
        obtain ⟨low, hlow, rfl⟩ := map_eq_ok.mp h
        exact ⟨{ high, low }, by rw [ReadsId, if_pos hlen]; exact ⟨hhigh, hlow⟩, rfl⟩
    · -- A short value gives an id too, without a number being read.
      rw [applyPair_nid_of_short hlen] at h
      cases h
      exact ⟨_, by rw [ReadsId, if_neg hlen], rfl⟩
  by_cases hepoch : key = lit "epoch"
  · subst hepoch
    rw [(applyPair_number record val).1] at h
    obtain ⟨n, hn, rfl⟩ := map_eq_ok.mp h
    exact .inr (.inr (.inl ⟨rfl, n, hn, rfl⟩))
  by_cases hpver : key = lit "pver"
  · subst hpver
    rw [(applyPair_number record val).2] at h
    obtain ⟨n, hn, rfl⟩ := map_eq_ok.mp h
    exact .inr (.inr (.inr (.inl ⟨rfl, _, ⟨n, hn, rfl⟩, rfl⟩)))
  rw [applyPair, if_neg hnid] at h
  by_cases hplat : key = lit "plat"
  · rw [if_pos hplat] at h
    cases h
    exact .inr (.inl ⟨hplat, _, rfl⟩)
  rw [if_neg hplat, if_neg hepoch, if_neg hpver] at h
  by_cases htopo : key = lit "topo"
  · rw [if_pos htopo] at h
    cases h
    exact .inr (.inr (.inr (.inr (.inl ⟨htopo, rfl⟩))))
  · -- No key is left that the callback knows.
    rw [if_neg htopo] at h
    cases h
    exact .inr (.inr (.inr (.inr (.inr ⟨hnid, hepoch, hpver, rfl⟩))))

/-- A field that the pairs of one key write, and no other pair, is left as the last of them says, or
as it was. -/
theorem foldlM_applyPair {β : Type} (field : DiscoveryRecord → β) (Says : StdString → β → Prop)
    (key : StdString) (hwrites : ∀ {record r val}, applyPair record (key, val) = .ok r →
      Says val (field r))
    (hkeeps : ∀ {record r key' val}, key' ≠ key → applyPair record (key', val) = .ok r →
      field r = field record)
    (h : pairs.foldlM applyPair record = .ok r) :
    match lastValue key pairs with
    | some val => Says val (field r)
    | none => field r = field record := by
  induction pairs generalizing record with
  | nil =>
    cases h
    rfl
  | cons pair pairs ih =>
    obtain ⟨key', val⟩ := pair
    rw [List.foldlM_cons] at h
    cases hpair : applyPair record (key', val) with
    | error e =>
      rw [hpair] at h
      exact absurd h (by simp [bind, Except.bind])
    | ok next =>
      rw [hpair] at h
      have hrest := ih h
      rw [lastValue]
      cases hlast : lastValue key pairs with
      | some val =>
        rw [hlast] at hrest
        exact hrest
      | none =>
        -- No later pair has the key, so the field is what this turn leaves.
        rw [hlast] at hrest
        by_cases hkey : key' = key
        · subst hkey
          rw [if_pos rfl]
          show Says val (field r)
          rw [show field r = field next from hrest]
          exact hwrites hpair
        · rw [if_neg hkey]
          exact Eq.trans hrest (hkeeps hkey hpair)

/-- The id is the last one that is given. -/
theorem nodeId_foldlM (h : pairs.foldlM applyPair record = .ok r) :
    match lastValue (lit "nid") pairs with
    | some val => ReadsId val r.nodeId
    | none => r.nodeId = record.nodeId := by
  refine foldlM_applyPair (fun r => r.nodeId) ReadsId (lit "nid") (fun hpair => ?_)
    (fun hkey hpair => ?_) h
  · rcases applyPair_cases hpair with ⟨-, nid, hreads, rfl⟩ | ⟨hkey, -⟩ | ⟨hkey, -⟩ | ⟨hkey, -⟩ |
      ⟨hkey, -⟩ | ⟨hkey, -⟩
    · exact hreads
    · exact absurd hkey (by decide)
    · exact absurd hkey (by decide)
    · exact absurd hkey (by decide)
    · exact absurd hkey (by decide)
    · exact absurd rfl hkey
  · exact applyPair_nodeId hkey hpair

/-- The epoch is the last one that is given. -/
theorem sessionEpoch_foldlM (h : pairs.foldlM applyPair record = .ok r) :
    match lastValue (lit "epoch") pairs with
    | some val => stoull val 10 = .ok r.sessionEpoch.value
    | none => r.sessionEpoch.value = record.sessionEpoch.value := by
  refine foldlM_applyPair (fun r => r.sessionEpoch.value) (fun val n => stoull val 10 = .ok n)
    (lit "epoch")
    (fun {record r val} hpair => ?_) (fun hkey hpair => ?_) h
  · rw [(applyPair_number record val).1] at hpair
    obtain ⟨n, hn, rfl⟩ := map_eq_ok.mp hpair
    exact hn
  · -- Another pair sets another field, or none.
    rcases applyPair_cases hpair with ⟨-, _, -, rfl⟩ | ⟨-, _, rfl⟩ | ⟨hkey', -⟩ | ⟨-, _, -, rfl⟩ |
      ⟨-, rfl⟩ | ⟨-, -, -, rfl⟩
    · rfl
    · rfl
    · exact absurd hkey' hkey
    · rfl
    · rfl
    · rfl

/-- The version is the last one that is given. -/
theorem protocolVersion_foldlM (h : pairs.foldlM applyPair record = .ok r) :
    match lastValue (lit "pver") pairs with
    | some val => ReadsVersion val r.protocolVersion
    | none => r.protocolVersion = record.protocolVersion := by
  refine foldlM_applyPair (fun r => r.protocolVersion) ReadsVersion (lit "pver")
    (fun {record r val} hpair => ?_) (fun hkey hpair => ?_) h
  · rw [(applyPair_number record val).2] at hpair
    obtain ⟨n, hn, rfl⟩ := map_eq_ok.mp hpair
    exact ⟨n, hn, rfl⟩
  · rcases applyPair_cases hpair with ⟨-, _, -, rfl⟩ | ⟨-, _, rfl⟩ | ⟨-, _, -, rfl⟩ | ⟨hkey', -⟩ |
      ⟨-, rfl⟩ | ⟨-, -, -, rfl⟩
    · rfl
    · rfl
    · rfl
    · exact absurd hkey' hkey
    · rfl
    · rfl

end

/-! ### What is written, and what is read -/

section
variable {val : StdString}

/-- A text is read as one id. -/
theorem ReadsId.unique {nid nid' : NodeId} (h : ReadsId val nid) (h' : ReadsId val nid') :
    nid = nid' := by
  unfold ReadsId at h h'
  by_cases hlen : 32 ≤ val.length
  · rw [if_pos hlen] at h h'
    obtain ⟨high, low⟩ := nid
    obtain ⟨high', low'⟩ := nid'
    obtain rfl : high = high' := Except.ok.inj (h.1.symm.trans h'.1)
    obtain rfl : low = low' := Except.ok.inj (h.2.symm.trans h'.2)
    rfl
  · rw [if_neg hlen] at h h'
    exact h.trans h'.symm

/-- An id in hexadecimal digits is read. -/
theorem readsId_hexId (h : IsHexId val) : ReadsId val (hexId val) := by
  rw [ReadsId, if_pos (Nat.le_of_eq h.1.symm)]
  exact stoull_of_isHexId h

/-- Only what is all of a number is the number that is read. -/
theorem writesNumber_iff_isNumber {n : UInt64} (h : stoull val 10 = .ok n) :
    WritesNumber val n.toNat ↔ IsNumber (2 ^ 64) val := by
  refine ⟨fun hwrites => hwrites.isNumber n.toNat_lt, fun hnumber => ?_⟩
  have hn : (digitsValue 10 val).toUInt64 = n :=
    Except.ok.inj ((stoull_of_isNumber hnumber).symm.trans h)
  rw [← hn, Nat.toUInt64_eq, UInt64.toNat_ofNat_of_lt' hnumber.2.2]
  exact hnumber.writesNumber

/-- What is read as a version is the number that is written just when that has room. -/
theorem writesNumber_iff_of_readsVersion {version : UInt16} (h : ReadsVersion val version) :
    WritesNumber val version.toNat ↔ IsNumber (2 ^ 16) val := by
  refine ⟨fun hwrites => hwrites.isNumber version.toNat_lt, fun hnumber => ?_⟩
  obtain ⟨n, hn, rfl⟩ := h
  -- A number of 16 bits is not cut.
  have hnumber64 : IsNumber (2 ^ 64) val :=
    hnumber.writesNumber.isNumber (hnumber.2.2.trans (by decide))
  have hvalue : n.toNat = digitsValue 10 val :=
    ((writesNumber_iff_isNumber hn).mpr hnumber64).2.2.symm
  have hversion : n.toUInt16.toNat = digitsValue 10 val := by
    rw [UInt64.toNat_toUInt16, hvalue]
    exact Nat.mod_eq_of_lt hnumber.2.2
  rw [hversion]
  exact hnumber.writesNumber

end

/-! ### What the callback does to the table -/

/-- The next count is another one. -/
theorem count_ne (n : UInt32) : n + 1 ≠ n := by
  intro h
  have hone : (1 : UInt32) = 0 := by
    calc (1 : UInt32) = n + 1 - n := by rw [UInt32.add_comm, UInt32.add_sub_cancel]
      _ = n - n := by rw [h]
      _ = 0 := UInt32.sub_self n
  exact absurd hone (by decide)

/-- An offered record changes the table: it is counted, or stored where another one was. -/
theorem upsert_ne {t : DiscoveryTable} {record : DiscoveryRecord} (now : Int)
    (hnull : record.nodeId.isNull = false) : (t.upsert record now).1 ≠ t := by
  intro h
  have hnotnull : ¬ record.nodeId.isNull = true := Bool.eq_false_iff.mp hnull
  replace h : (t.upsertWithResult record now).1 = t := h
  rw [DiscoveryTable.upsertWithResult, if_neg hnotnull] at h
  dsimp only at h
  cases hlookup : t.entries.lookup (DiscoveryTable.nodeKey record.nodeId) with
  | none =>
    rw [hlookup] at h
    -- The node had no entry, and has one now.
    have hentry := congrArg (fun t => t.entries.lookup (DiscoveryTable.nodeKey record.nodeId)) h
    dsimp only at hentry
    rw [AList.lookup_insert, hlookup] at hentry
    exact Option.some_ne_none _ hentry
  | some it =>
    rw [hlookup] at h
    dsimp only at h
    split at h
    · exact count_ne _ (congrArg DiscoveryTable.staleCount h)
    · split at h
      · exact count_ne _ (congrArg DiscoveryTable.duplicateCount h)
      next hrepeats =>
        split at h
        · exact count_ne _ (congrArg DiscoveryTable.conflictCount h)
        · -- The record that is stored would repeat the one that was there.
          have hentry :=
            congrArg (fun t => t.entries.lookup (DiscoveryTable.nodeKey record.nodeId)) h
          dsimp only at hentry
          rw [AList.lookup_insert, hlookup] at hentry
          have hrecord : record = it.record :=
            congrArg DiscoveryTable.Entry.record (Option.some.inj hentry)
          exact hrepeats (hrecord ▸ ⟨rfl, rfl, rfl⟩)

variable {s : DiscoveryService} {indeterminate : DiscoveryRecord} {seenAt : UInt64} {now : Int}
  {pairs : List (StdString × StdString)}

/-- On pairs that it can read, the callback returns, and offers the record that the loop leaves
unless it is of the null node. -/
theorem discovered_of_foldlM {r : DiscoveryRecord}
    (hfold : pairs.foldlM applyPair (blankRecord indeterminate) = .ok r) :
    s.discovered indeterminate seenAt now pairs =
      .ok (if r.nodeId.isNull then { s with called := s.called ++ [pairs] }
        else
          { s with
            table := (s.table.upsert { r with lastSeenAt := seenAt } now).1
            called := s.called ++ [pairs]
            offered := s.offered ++ [{ r with lastSeenAt := seenAt }] }) := by
  have hcallback := listeningCallback_eq indeterminate seenAt pairs
  rw [hfold] at hcallback
  unfold discovered
  rw [hcallback]
  -- The id that was read is compared with the null id, and nothing else is.
  cases hnull : r.nodeId.isNull with
  | true =>
    simp only [Except.map, hnull]
    rfl
  | false =>
    simp only [Except.map, hnull]
    rfl

/-- The record has the node id, the epoch and the protocol version that are written in the last pair
of their key. -/
def OffersExact (record : DiscoveryRecord) (pairs : List (StdString × StdString)) : Prop :=
  (∃ val ∈ lastValue (lit "nid") pairs, IsHexId val ∧ record.nodeId = hexId val) ∧
    (∃ val ∈ lastValue (lit "epoch") pairs, WritesNumber val record.sessionEpoch.value.toNat) ∧
    ∃ val ∈ lastValue (lit "pver") pairs, WritesNumber val record.protocolVersion.toNat

/-- The callback returns, and either leaves the table as it is or offers one record, of just what is
written. -/
def CallbackRobust (s : DiscoveryService) (indeterminate : DiscoveryRecord) (seenAt : UInt64)
    (now : Int) (pairs : List (StdString × StdString)) : Prop :=
  ∃ s', s.discovered indeterminate seenAt now pairs = .ok s' ∧
    (s'.table = s.table ∨
      ∃ record, s'.offered = s.offered ++ [record] ∧ s'.table = (s.table.upsert record now).1 ∧
        OffersExact record pairs)

/-- All three are written as they should be. -/
def WellWritten (pairs : List (StdString × StdString)) : Prop :=
  (∃ val ∈ lastValue (lit "nid") pairs, IsHexId val) ∧
    (∃ val ∈ lastValue (lit "epoch") pairs, IsNumber (2 ^ 64) val) ∧
    ∃ val ∈ lastValue (lit "pver") pairs, IsNumber (2 ^ 16) val

/-- The node id that is read is null. Without a `nid` pair it is what the record starts with. -/
def NamesNobody (indeterminate : DiscoveryRecord) (pairs : List (StdString × StdString)) : Prop :=
  match lastValue (lit "nid") pairs with
  | some val => ReadsId val { high := 0, low := 0 }
  | none => indeterminate.nodeId.isNull = true

/-- The null id is that of two zeros. -/
theorem isNull_iff (nid : NodeId) : nid.isNull = true ↔ nid = { high := 0, low := 0 } := by
  rw [NodeId.isNull, decide_eq_true_iff, NodeId.mk.injEq]

section
variable {r : DiscoveryRecord}
  (hfold : pairs.foldlM applyPair (blankRecord indeterminate) = .ok r)
include hfold

/-- Pairs that name nobody are read as the null id. -/
theorem namesNobody_iff : NamesNobody indeterminate pairs ↔ r.nodeId.isNull = true := by
  have hnodeId := nodeId_foldlM hfold
  unfold NamesNobody
  -- The last value under `nid` counts; without one the id is the blank record's.
  cases hlast : lastValue (lit "nid") pairs with
  | none =>
    rw [hlast] at hnodeId
    replace hnodeId : r.nodeId = indeterminate.nodeId := hnodeId
    rw [hnodeId]
  | some val =>
    rw [hlast] at hnodeId
    replace hnodeId : ReadsId val r.nodeId := hnodeId
    show ReadsId val { high := 0, low := 0 } ↔ _
    rw [isNull_iff]
    constructor
    · intro hnull
      exact hnodeId.unique hnull
    · intro hnull
      rw [← hnull]
      exact hnodeId

/-- What is offered is what the pairs say just when they are well written. -/
theorem offersExact_iff : OffersExact { r with lastSeenAt := seenAt } pairs ↔ WellWritten pairs := by
  refine and_congr ?_ (and_congr ?_ ?_)
  · have hnodeId := nodeId_foldlM hfold
    refine exists_congr fun val => and_congr_right fun hlast => ?_
    rw [Option.mem_def.mp hlast] at hnodeId
    -- What is read of 32 digits is what they write.
    exact and_iff_left_of_imp fun hid => ReadsId.unique hnodeId (readsId_hexId hid)
  · have hepoch := sessionEpoch_foldlM hfold
    refine exists_congr fun val => and_congr_right fun hlast => ?_
    rw [Option.mem_def.mp hlast] at hepoch
    exact writesNumber_iff_isNumber hepoch
  · have hversion := protocolVersion_foldlM hfold
    refine exists_congr fun val => and_congr_right fun hlast => ?_
    rw [Option.mem_def.mp hlast] at hversion
    exact writesNumber_iff_of_readsVersion hversion

end

/-- The callback is right about the pairs that it can read, when they name no node at all, or write
all three numbers as they should be. -/
theorem callback_robust_iff (s : DiscoveryService) (indeterminate : DiscoveryRecord)
    (seenAt : UInt64) (now : Int) (pairs : List (StdString × StdString)) :
    CallbackRobust s indeterminate seenAt now pairs ↔
      (∀ pair ∈ pairs, Readable pair) ∧
        (NamesNobody indeterminate pairs ∨ WellWritten pairs) := by
  -- The loop returns when it can read every pair; what it leaves is `r`.
  rw [← foldlM_ok_iff (blankRecord indeterminate)]
  constructor
  · rintro ⟨s', hs', hrobust⟩
    have hread : ∃ r, pairs.foldlM applyPair (blankRecord indeterminate) = .ok r := by
      cases hfold : pairs.foldlM applyPair (blankRecord indeterminate) with
      | ok r => exact ⟨r, rfl⟩
      | error e =>
        unfold discovered at hs'
        rw [listeningCallback_eq, hfold] at hs'
        exact absurd hs' (by simp [Except.map, bind, Except.bind])
    obtain ⟨r, hfold⟩ := hread
    refine ⟨⟨r, hfold⟩, ?_⟩
    rw [namesNobody_iff hfold]
    rw [discovered_of_foldlM hfold] at hs'
    cases hnull : r.nodeId.isNull with
    | true => exact .inl rfl
    | false =>
      -- The record was offered, which changes the table.
      rw [hnull, if_neg Bool.false_ne_true] at hs'
      obtain rfl := Except.ok.inj hs'
      rcases hrobust with htable | ⟨record, hoffered, -, hexact⟩
      · exact absurd htable (upsert_ne now hnull)
      · obtain rfl : { r with lastSeenAt := seenAt } = record :=
          List.singleton_inj.mp (List.append_cancel_left hoffered)
        exact .inr ((offersExact_iff hfold).mp hexact)
  · rintro ⟨⟨r, hfold⟩, hcase⟩
    rw [namesNobody_iff hfold, ← offersExact_iff hfold] at hcase
    refine ⟨_, discovered_of_foldlM hfold, ?_⟩
    cases hnull : r.nodeId.isNull with
    | true => exact .inl rfl
    | false =>
      rw [if_neg Bool.false_ne_true]
      rcases hcase with hnobody | hexact
      · exact absurd hnobody (hnull ▸ Bool.false_ne_true)
      · exact .inr ⟨_, rfl, rfl, hexact⟩

end DiscoveryService

open DiscoveryService

/-- A TXT record that says `epoch=x` ends the process. -/
theorem unreadable_announcement_throws :
    let indeterminate : DiscoveryRecord :=
      { nodeId := { high := 0, low := 0 }, platform := .Mac, capabilitiesFingerprint := []
        sessionEpoch := { value := 0 }, protocolVersion := 0, topologyId := []
        endpointAddresses := [], lastSeenAt := 0 }
    let txtRecord := [(lit "epoch", lit "x")]
    MdnsListener.parseTxt (7 :: lit "epoch=x") 8 = some txtRecord ∧
      ¬ CallbackRobust .init indeterminate 0 0 txtRecord := by
  intro indeterminate txtRecord
  refine ⟨parseTxt_encodeTxt txtRecord (by decide) (by decide), ?_⟩
  rintro ⟨s', hs', -⟩
  have hthrows : DiscoveryService.init.discovered indeterminate 0 0 txtRecord =
      .error .invalid_argument := rfl
  rw [hthrows] at hs'
  exact absurd hs' (by simp)

end CrossFlow
