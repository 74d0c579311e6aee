import CrossFlow.Core.Discovery.DiscoveryNetwork
import CrossFlow.Proofs.Discovery.DiscoveryTable
import CrossFlow.Proofs.Discovery.RoundTrip

/-!
# `CrossFlow.Proofs.Discovery.DiscoveryNetwork`: what the endpoints of a network know of each other

What an announcer registers is made from a digest, so no callback throws, whatever its owner gives
it to announce. A record that the callback makes has a misread node id and no topology id.

* `hears_announced`: what a listener makes of a registration.
* `ComesFrom`: where a record of a table comes from; `listed_are_announced` for every run.
* `never_listed`: the node ids that no announcement over mDNS brings into a table.
* `conflict_needs_messages`: such an announcement never conflicts with another topology.
-/

set_option autoImplicit false

namespace CrossFlow

open StdString (lit)
open Lib (readFrom)
open MdnsAnnouncer MdnsListener

/-! ### A registration on the wire -/

/-- The record that the callback makes of a digest. -/
def readBack (d : DiscoveryDigest) (seenAt : UInt64) : DiscoveryRecord where
  nodeId := misreadId d.nodeId
  platform := d.platform
  capabilitiesFingerprint := []
  sessionEpoch := d.sessionEpoch
  protocolVersion := d.protocolVersion
  topologyId := []
  endpointAddresses := []
  lastSeenAt := seenAt

/-- A number of 64 bits has at most 20 digits. -/
theorem length_toString_toNat_le (n : UInt64) : (StdString.toString n.toNat).length ≤ 20 := by
  rw [StdString.toString, List.length_map]
  exact length_digitsOf_toNat_le n

/-- Only a topology id or a list of capabilities can be too long for an entry. -/
theorem fits_or_unread (d : DiscoveryDigest) :
    ∀ pair ∈ d.toTxtRecord, Fits pair ∨ pair.1 = lit "tid" ∨ pair.1 = lit "caps" := by
  have hhigh := length_toString_toNat_le d.nodeId.high
  have hlow := length_toString_toNat_le d.nodeId.low
  have hepoch := length_toString_toNat_le d.sessionEpoch.value
  have hpver := length_toString_toNat_le d.protocolVersion.toUInt64
  rw [UInt16.toNat_toUInt64] at hpver
  intro pair hpair
  simp only [DiscoveryDigest.toTxtRecord, List.mem_cons, List.not_mem_nil, or_false] at hpair
  -- A number has twenty digits at most; the topology and the capabilities are not read back.
  rcases hpair with rfl | rfl | rfl | rfl | rfl | rfl
  · left
    simp only [Fits, txtEntry, List.length_append, lit]
    simp
    omega
  · left
    cases d.platform <;> decide
  · left
    simp only [Fits, txtEntry, List.length_append, lit]
    simp
    omega
  · left
    simp only [Fits, txtEntry, List.length_append, lit]
    simp
    omega
  · exact .inr (.inl rfl)
  · exact .inr (.inr rfl)

/-- Pairs that a loop ignores may be left out. -/
theorem foldlM_filter {ε α β : Type} (f : β → α → Except ε β) (keep : α → Bool) {l : List α}
    (h : ∀ a ∈ l, keep a = false → ∀ b, f b a = .ok b) (b : β) :
    (l.filter keep).foldlM f b = l.foldlM f b := by
  induction l generalizing b with
  | nil => rfl
  | cons a l ih =>
    have hrest := ih fun a ha => h a (List.mem_cons_of_mem _ ha)
    cases hkeep : keep a with
    | true =>
      rw [List.filter_cons_of_pos hkeep, List.foldlM_cons, List.foldlM_cons]
      cases f b a with
      | error e => rfl
      | ok b' => exact hrest b'
    | false =>
      rw [List.filter_cons_of_neg (by rw [hkeep]; exact Bool.false_ne_true), List.foldlM_cons,
        h a List.mem_cons_self hkeep b]
      exact hrest b

/-- One of the 16 hexadecimal digits is no decimal digit. -/
def HasHexLetter (n : UInt64) : Prop := ∃ i < 16, 10 ≤ n.toNat / 16 ^ i % 16

/-- Whether a number has a letter among its hexadecimal digits is decided digit by digit. -/
instance (n : UInt64) : Decidable (HasHexLetter n) :=
  inferInstanceAs (Decidable (∃ i < 16, 10 ≤ n.toNat / 16 ^ i % 16))

/-- The digits of a node id are written in decimal, so no letter is read. -/
theorem misreadId_no_hexLetter (id : NodeId) :
    ¬ HasHexLetter (misreadId id).high ∧ ¬ HasHexLetter (misreadId id).low := by
  have hread : ∀ ds : List Nat, (∀ d ∈ ds, d < 10) → ds.length ≤ 16 →
      ¬ HasHexLetter (readFrom 16 0 ds).toUInt64 := by
    rintro ds hds hlen ⟨i, -, hi⟩
    rw [toNat_readFrom_hex hds hlen] at hi
    exact absurd (Lib.readFrom_digit_lt (by decide) hds (by decide) i) (Nat.not_lt.mpr hi)
  have hdigits := nidDigits_lt id
  unfold misreadId
  split
  · constructor
    · refine hread _ (fun d hd => hdigits d (List.mem_of_mem_take hd)) ?_
      exact List.length_take_le 16 _
    · refine hread _ (fun d hd => hdigits d ?_) (List.length_take_le 16 _)
      exact List.mem_of_mem_drop (List.mem_of_mem_take hd)
  · decide

namespace DiscoveryService

/-- The pairs that have no room do not matter to what is read. -/
theorem listeningCallback_filter (indeterminate : DiscoveryRecord) (seenAt : UInt64)
    (d : DiscoveryDigest) :
    listeningCallback indeterminate seenAt (d.toTxtRecord.filter fun pair => Fits pair) =
      .ok (if (misreadId d.nodeId).isNull then none else some (readBack d seenAt)) := by
  have hunread : ∀ pair ∈ d.toTxtRecord, decide (Fits pair) = false → ∀ record,
      applyPair record pair = .ok record := by
    intro pair hpair hfits record
    obtain ⟨key, val⟩ := pair
    -- Only pairs that the callback does not read can be too long for a TXT string.
    rcases fits_or_unread d _ hpair with h | rfl | rfl
    · exact absurd h (of_decide_eq_false hfits)
    · rfl
    · rfl
  have hwhole := listeningCallback_toTxtRecord indeterminate seenAt d
  unfold listeningCallback at hwhole ⊢
  rw [foldlM_filter applyPair _ hunread]
  exact hwhole

/-- The callback does not throw, and offers the digest to the table when its node id is not misread
as null. -/
theorem hears_announced (s : DiscoveryService) (indeterminate : DiscoveryRecord) (seenAt : UInt64)
    (now : Int) (d : DiscoveryDigest) :
    ∃ s', s.hears indeterminate seenAt now (encodeTxt d.toTxtRecord) = some s' ∧
      s'.mdnsAnnouncer = s.mdnsAnnouncer ∧ s'.manualFallback = s.manualFallback ∧
      (s'.table = s.table ∨
        (misreadId d.nodeId).isNull = false ∧
          s'.table = (s.table.upsert (readBack d seenAt) now).1) := by
  unfold hears
  -- A browse that was begun without the callback hears nothing.
  by_cases hcontext : s.mdnsListener.browseContext = some true
  · rw [if_pos hcontext, parseTxt_encodeTxt _ (toTxtRecord_keys d) (length_encodeTxt_toTxtRecord d)]
    show ∃ s', s.resolved indeterminate seenAt now _ = some s' ∧ _
    rw [resolved, hcontext]
    show ∃ s', (s.discovered indeterminate seenAt now _).toOption = some s' ∧ _
    rw [discovered, listeningCallback_filter]
    cases hnull : (misreadId d.nodeId).isNull with
    | true => exact ⟨_, rfl, rfl, rfl, .inl rfl⟩
    | false => exact ⟨_, rfl, rfl, rfl, .inr ⟨rfl, rfl⟩⟩
  · rw [if_neg hcontext]
    exact ⟨s, rfl, rfl, rfl, .inl rfl⟩

end DiscoveryService

/-! ### Tables -/

namespace DiscoveryTable

/-- The record of an entry is the one announced or the one before. -/
theorem record_merge (existing : Option Entry) (record : DiscoveryRecord) (now : Int) :
    (NodeMap.merge existing record now).1.record = record ∨
      ∃ it, existing = some it ∧ (NodeMap.merge existing record now).1.record = it.record := by
  cases existing with
  | none => exact .inl rfl
  | some it =>
    rw [NodeMap.merge]
    split
    · exact .inr ⟨it, rfl, rfl⟩
    · split
      · exact .inr ⟨it, rfl, rfl⟩
      · split
        · exact .inl rfl
        · exact .inl rfl

/-- A record that is listed after an `upsert` was listed before or is the new one. -/
theorem mem_all_upsert {t : DiscoveryTable} {record r : DiscoveryRecord} {now : Int}
    (h : r ∈ (t.upsert record now).1.all) : r ∈ t.all ∨ r = record := by
  obtain ⟨key, it, hit, rfl⟩ := mem_all_iff.mp h
  replace hit : (t.upsertWithResult record now).1.stored key = some it := hit
  cases hnull : record.nodeId.isNull with
  | true =>
    rw [t.upsertWithResult_null now hnull] at hit
    exact .inl (mem_all_iff.mpr ⟨key, it, hit, rfl⟩)
  | false =>
    rw [(t.stored_upsertWithResult now hnull).1] at hit
    -- `upsert` writes under the key of the record, and nowhere else.
    by_cases hkey : key = nodeKey record.nodeId
    · subst hkey
      rw [Function.update_self] at hit
      cases hit
      rcases record_merge (t.stored (nodeKey record.nodeId)) record now with
        hnew | ⟨before, hbefore, hkept⟩
      · exact .inr hnew
      · exact .inl (mem_all_iff.mpr ⟨_, before, hbefore, hkept.symm⟩)
    · rw [Function.update_of_ne hkey] at hit
      exact .inl (mem_all_iff.mpr ⟨key, it, hit, rfl⟩)

/-- What is left after pruning was there before. -/
theorem mem_all_pruneStale {t : DiscoveryTable} {maxAge now : Int} {r : DiscoveryRecord}
    (h : r ∈ (t.pruneStale maxAge now).all) : r ∈ t.all := by
  obtain ⟨key, it, hit, hr⟩ := mem_all_iff.mp h
  rw [t.stored_pruneStale maxAge now] at hit
  exact mem_all_iff.mpr ⟨key, it, (Option.filter_eq_some_iff.mp hit).1, hr⟩

/-- A conflict is counted between two topology ids, the one of the record and one that is stored
under its key. -/
theorem conflictCount_upsert {t : DiscoveryTable} (h : t.KeyedById) (record : DiscoveryRecord)
    (now : Int) :
    (t.upsert record now).1.conflictCount = t.conflictCount ∨
      record.topologyId ≠ [] ∧ ∃ existing ∈ t.all, nodeKey existing.nodeId = nodeKey record.nodeId ∧
        existing.topologyId ≠ [] ∧ existing.topologyId ≠ record.topologyId := by
  show (t.upsertWithResult record now).1.conflictCount = _ ∨ _
  cases hnull : record.nodeId.isNull with
  | true =>
    rw [t.upsertWithResult_null now hnull]
    exact .inl rfl
  | false =>
    rw [upsertWithResult, if_neg (Bool.eq_false_iff.mp hnull)]
    dsimp only
    cases hlookup : t.entries.lookup (nodeKey record.nodeId) with
    | none => exact .inl rfl
    | some it =>
      have hstored : it.record ∈ t.all := mem_all_iff.mpr ⟨_, it, hlookup, rfl⟩
      dsimp only
      by_cases hstale : it.record.sessionEpoch.value > record.sessionEpoch.value
      · rw [if_pos hstale]
        exact .inl rfl
      rw [if_neg hstale]
      -- A repetition and an update are not counted, and a conflict is one of two topologies.
      split
      · exact .inl rfl
      · split
        next htopo =>
          exact .inr ⟨htopo.1, it.record, hstored, h _ it hlookup, htopo.2.1, htopo.2.2⟩
        next => exact .inl rfl

end DiscoveryTable

/-! ### Where a record comes from -/

section
variable {ι : Type}

/-- The digest was given to an endpoint to announce. -/
def Announced (events : List (LanEvent ι)) (d : DiscoveryDigest) : Prop :=
  ∃ node, (∃ attempts, .call node (.service (.startAnnouncing d attempts)) ∈ events) ∨
    ∃ registers sends, .call node (.updateDigest d registers sends) ∈ events

/-- The endpoint `node` was configured with `ep`. -/
def Configured (events : List (LanEvent ι)) (node : ι) (ep : ManualEndpoint) : Prop :=
  ∃ endpoints, .call node (.service (.setManualConfigEndpoints endpoints)) ∈ events ∧
    ep ∈ endpoints

/-- The endpoint `node` was handed the message. -/
def Handed (events : List (LanEvent ι)) (node : ι) (msg : DiscoveryAnnouncement) : Prop :=
  ∃ seenAt now, .call node (.handleDiscoveryAnnouncement msg seenAt now) ∈ events

/-- What can bring a record into the table of `node`. -/
inductive ComesFrom (events : List (LanEvent ι)) (node : ι) : DiscoveryRecord → Prop
  | announced {d : DiscoveryDigest} (h : Announced events d)
      (hid : (misreadId d.nodeId).isNull = false) (seenAt : UInt64) :
      ComesFrom events node (readBack d seenAt)
  | configured {ep : ManualEndpoint} (h : Configured events node ep)
      (indeterminate : DiscoveryRecord) (seenAt : UInt64) :
      ComesFrom events node (DiscoveryService.endpointRecord indeterminate seenAt ep)
  | handed {msg : DiscoveryAnnouncement} (h : Handed events node msg) (seenAt : UInt64) :
      ComesFrom events node (DiscoveryService.announcementRecord msg seenAt)

/-- `node` was handed messages from two topologies about node ids with one key. -/
def HandedTwoTopologies (events : List (LanEvent ι)) (node : ι) : Prop :=
  ∃ first second, Handed events node first ∧ Handed events node second ∧
    DiscoveryTable.nodeKey first.digest.nodeId = DiscoveryTable.nodeKey second.digest.nodeId ∧
    first.digest.topologyId ≠ [] ∧ second.digest.topologyId ≠ [] ∧
    first.digest.topologyId ≠ second.digest.topologyId

variable {events events' : List (LanEvent ι)} {node : ι}

/-- What was announced stays so. -/
theorem Announced.mono {d : DiscoveryDigest} (h : Announced events d) (hsub : events ⊆ events') :
    Announced events' d := by
  obtain ⟨node, ⟨attempts, h⟩ | ⟨registers, sends, h⟩⟩ := h
  · exact ⟨node, .inl ⟨attempts, hsub h⟩⟩
  · exact ⟨node, .inr ⟨registers, sends, hsub h⟩⟩

/-- What was configured stays so. -/
theorem Configured.mono {ep : ManualEndpoint} (h : Configured events node ep)
    (hsub : events ⊆ events') : Configured events' node ep := by
  obtain ⟨endpoints, h, hep⟩ := h
  exact ⟨endpoints, hsub h, hep⟩

/-- What was handed over stays so. -/
theorem Handed.mono {msg : DiscoveryAnnouncement} (h : Handed events node msg)
    (hsub : events ⊆ events') : Handed events' node msg := by
  obtain ⟨seenAt, now, h⟩ := h
  exact ⟨seenAt, now, hsub h⟩

/-- What a record comes from stays so. -/
theorem ComesFrom.mono {r : DiscoveryRecord} (h : ComesFrom events node r)
    (hsub : events ⊆ events') : ComesFrom events' node r := by
  cases h with
  | announced h hid seenAt => exact .announced (h.mono hsub) hid seenAt
  | configured h indeterminate seenAt => exact .configured (h.mono hsub) indeterminate seenAt
  | handed h seenAt => exact .handed (h.mono hsub) seenAt

/-- What was handed over stays so. -/
theorem HandedTwoTopologies.mono (h : HandedTwoTopologies events node) (hsub : events ⊆ events') :
    HandedTwoTopologies events' node := by
  obtain ⟨first, second, hfirst, hsecond, hne⟩ := h
  exact ⟨first, second, hfirst.mono hsub, hsecond.mono hsub, hne⟩

/-- Only a message carries a topology id. -/
theorem ComesFrom.topologyId {r : DiscoveryRecord} (h : ComesFrom events node r)
    (htopo : r.topologyId ≠ []) :
    ∃ msg, Handed events node msg ∧ msg.digest.nodeId = r.nodeId ∧
      msg.digest.topologyId = r.topologyId := by
  cases h with
  | announced => exact absurd rfl htopo
  | configured => exact absurd rfl htopo
  | handed h seenAt => exact ⟨_, h, rfl, rfl⟩

/-! ### The table of an endpoint -/

/-- Where the records of a table come from, and what it has counted as a conflict. -/
structure TableInv (events : List (LanEvent ι)) (node : ι) (t : DiscoveryTable) : Prop where
  keyed : t.KeyedById
  records : ∀ r ∈ t.all, ComesFrom events node r
  conflicts : t.conflictCount = 0 ∨ HandedTwoTopologies events node

/-- The invariant holds of an empty table. -/
theorem tableInv_init : TableInv events node .init where
  keyed := DiscoveryTable.keyedById_init
  records _ hr := absurd hr List.not_mem_nil
  conflicts := .inl rfl

namespace TableInv

variable {t : DiscoveryTable}

/-- The invariant is kept while more happens. -/
theorem mono (h : TableInv events node t) (hsub : events ⊆ events') : TableInv events' node t where
  keyed := h.keyed
  records r hr := (h.records r hr).mono hsub
  conflicts := h.conflicts.imp_right fun hhanded => hhanded.mono hsub

/-- Two topology ids in one table were handed to the endpoint as messages. -/
theorem upsert (h : TableInv events node t) {record : DiscoveryRecord}
    (hrecord : ComesFrom events node record) (now : Int) :
    TableInv events node (t.upsert record now).1 where
  keyed := DiscoveryTable.keyedById_step h.keyed (.upsert record now)
  records r hr := by
    rcases DiscoveryTable.mem_all_upsert hr with hr | rfl
    · exact h.records r hr
    · exact hrecord
  conflicts := by
    rcases DiscoveryTable.conflictCount_upsert h.keyed record now with
      hsame | ⟨htopo, existing, hmem, hkey, hold, hne⟩
    · rw [hsame]
      exact h.conflicts
    · -- Both records are from messages, of the topologies that the records have.
      obtain ⟨first, hfirst, hfirstId, hfirstTopo⟩ := (h.records existing hmem).topologyId hold
      obtain ⟨second, hsecond, hsecondId, hsecondTopo⟩ := hrecord.topologyId htopo
      refine .inr ⟨first, second, hfirst, hsecond, ?_⟩
      rw [hfirstId, hsecondId, hfirstTopo, hsecondTopo]
      exact ⟨hkey, hold, htopo, hne⟩

/-- Pruning keeps the invariant. -/
theorem pruneStale (h : TableInv events node t) (maxAge now : Int) :
    TableInv events node (t.pruneStale maxAge now) where
  keyed := DiscoveryTable.keyedById_step h.keyed (.pruneStale maxAge now)
  records r hr := h.records r (DiscoveryTable.mem_all_pruneStale hr)
  conflicts := h.conflicts

/-- `startListening` on the configured endpoints. -/
theorem foldl_upsertEndpoint {endpoints : List ManualEndpoint}
    (hendpoints : ∀ ep ∈ endpoints, Configured events node ep) (h : TableInv events node t)
    (indeterminate : DiscoveryRecord) (seenAt : UInt64) (now : Int) :
    TableInv events node
      (endpoints.foldl (DiscoveryService.upsertEndpoint indeterminate seenAt now) t) := by
  induction endpoints generalizing t with
  | nil => exact h
  | cons ep endpoints ih =>
    rw [List.foldl_cons]
    refine ih (fun ep' hep' => hendpoints ep' (List.mem_cons_of_mem _ hep')) ?_
    unfold DiscoveryService.upsertEndpoint
    dsimp only
    split
    · exact h
    · exact h.upsert (.configured (hendpoints ep List.mem_cons_self) indeterminate seenAt) now

end TableInv

end

/-! ### What a service registers -/

namespace DiscoveryService

/-- What a call that may register `digest` leaves of a service. -/
structure Registers (digest : Option DiscoveryDigest) (s s' : DiscoveryService) : Prop where
  table : s'.table = s.table
  endpoints : s'.manualFallback.endpoints = s.manualFallback.endpoints
  published : ∀ a ∈ s'.mdnsAnnouncer.published,
    a ∈ s.mdnsAnnouncer.published ∨ ∃ d ∈ digest, a.txtRecord = d.toTxtRecord

namespace Registers

variable {digest : Option DiscoveryDigest} {s s' s'' : DiscoveryService}

/-- Two calls after one another register what both register. -/
theorem trans (h : Registers digest s s') (h' : Registers digest s' s'') :
    Registers digest s s'' where
  table := h'.table.trans h.table
  endpoints := h'.endpoints.trans h.endpoints
  published a ha := by
    rcases h'.published a ha with ha | ha
    · exact h.published a ha
    · exact .inr ha

/-- Of three parts of a service, two are as they were and the announcer has registered nothing. -/
theorem of_same (htable : s'.table = s.table)
    (hendpoints : s'.manualFallback.endpoints = s.manualFallback.endpoints)
    (hpublished : s'.mdnsAnnouncer.published = s.mdnsAnnouncer.published) :
    Registers digest s s' where
  table := htable
  endpoints := hendpoints
  published _ ha := .inl (hpublished ▸ ha)

end Registers

/-- Only the service that is started is registered. -/
theorem mem_published_start {a : MdnsAnnouncer} {service service' : Announcement}
    {registers : Bool} (h : service' ∈ (a.start service registers).1.published) :
    service' ∈ a.published ∨ service' = service := by
  unfold MdnsAnnouncer.start at h
  split at h
  · exact .inl h
  · split at h
    · exact .inl h
    · rcases List.mem_append.mp h with h | h
      · exact .inl h
      · exact .inr (List.mem_singleton.mp h)

variable (s : DiscoveryService) (digest : DiscoveryDigest)

/-- The attempt over mDNS registers the digest at most. -/
theorem tryMdnsAnnounce_registers (registers : Bool) :
    Registers (some digest) s (s.tryMdnsAnnounce digest registers).1 where
  table := by
    unfold tryMdnsAnnounce
    dsimp only
    -- A callback that throws has left the table as it was, apart from the record.
    split <;> rfl
  endpoints := by
    unfold tryMdnsAnnounce
    dsimp only
    split <;> rfl
  published a ha := by
    have hstart : a ∈ (s.mdnsAnnouncer.start
        { serviceName := lit "CrossFlow-X", port := 5353, txtRecord := digest.toTxtRecord }
        registers).1.published := by
      unfold tryMdnsAnnounce at ha
      dsimp only at ha
      split at ha <;> exact ha
    -- The announcer publishes what it published, and this digest if the registration succeeds.
    rcases mem_published_start hstart with h | rfl
    · exact .inl h
    · exact .inr ⟨digest, rfl, rfl⟩

/-- The attempt by a broadcast registers nothing. -/
theorem tryUdpFallback_registers (binds sends : Bool) :
    Registers (some digest) s (s.tryUdpFallback digest binds sends).1 := by
  unfold tryUdpFallback
  dsimp only
  split
  · exact .of_same rfl rfl rfl
  · split <;> exact .of_same rfl rfl rfl

/-- The manual attempt registers nothing. -/
theorem tryManualFallback_registers : Registers (some digest) s s.tryManualFallback.1 := by
  unfold tryManualFallback
  split
  · exact .of_same rfl rfl rfl
  · have hendpoints : s.manualFallback.start.1.endpoints = s.manualFallback.endpoints := by
      unfold ManualConfigFallback.start
      split <;> rfl
    dsimp only
    split
    · exact .of_same rfl hendpoints rfl
    · exact .of_same rfl hendpoints rfl

/-- Any of the three attempts may be the last. -/
theorem startAnnouncing_registers (attempts : AnnounceAttempts) :
    Registers (some digest) s (s.startAnnouncing digest attempts).1 := by
  have hannounced (s : DiscoveryService) : Registers (some digest) s s.announced :=
    .of_same rfl rfl rfl
  unfold startAnnouncing
  split
  · exact .of_same rfl rfl rfl
  · have hdigest : Registers (some digest) s { s with currentDigest := some digest } :=
      .of_same rfl rfl rfl
    -- mDNS, UDP and the manual configuration are tried in turn, each when the one before fails.
    have hmdns := hdigest.trans (tryMdnsAnnounce_registers _ digest attempts.registers)
    dsimp only
    split
    · exact hmdns.trans (hannounced _)
    · have hudp := hmdns.trans (tryUdpFallback_registers _ digest attempts.binds attempts.sends)
      split
      · exact hudp.trans (hannounced _)
      · have hmanual := hudp.trans (tryManualFallback_registers _ digest)
        split
        · exact hmanual.trans (hannounced _)
        · exact hmanual

/-- An update registers the digest at most. -/
theorem updateDigest_registers (registers sends : Bool) :
    Registers (some digest) s (s.updateDigest digest registers sends).1 := by
  unfold updateDigest
  split
  · exact .of_same rfl rfl rfl
  · dsimp only
    split
    · refine { table := rfl, endpoints := rfl, published := fun a ha => ?_ }
      replace ha : a ∈ (s.mdnsAnnouncer.updateTxt digest.toTxtRecord registers).1.published := ha
      unfold MdnsAnnouncer.updateTxt at ha
      split at ha
      · exact .inl ha
      · -- `updateTxt` stops the announcer and starts it again with the new record.
        rcases mem_published_start ha with h | rfl
        · refine .inl ?_
          unfold MdnsAnnouncer.stop at h
          split at h <;> exact h
        · exact .inr ⟨digest, rfl, rfl⟩
    · -- The other transports publish nothing through the announcer.
      exact .of_same rfl rfl rfl
    · exact .of_same rfl rfl rfl
    · exact .of_same rfl rfl rfl

/-- `stopAnnouncing` registers nothing. -/
theorem stopAnnouncing_registers : Registers none s s.stopAnnouncing := by
  have hstop : s.mdnsAnnouncer.stop.published = s.mdnsAnnouncer.published := by
    unfold MdnsAnnouncer.stop
    split <;> rfl
  unfold stopAnnouncing
  cases s.transport with
  | Mdns => exact .of_same rfl rfl hstop
  | None => exact .of_same rfl rfl rfl
  | UdpBroadcast => exact .of_same rfl rfl rfl
  | ManualConfig => exact .of_same rfl rfl rfl

/-- `stopListening` registers nothing. -/
theorem stopListening_registers : Registers none s s.stopListening := by
  unfold stopListening
  dsimp only
  split <;> exact .of_same rfl rfl rfl

end DiscoveryService

/-! ### Runs of the network -/

section
variable {ι : Type} {events events' : List (LanEvent ι)} {node : ι}

/-- What an endpoint has registered, was configured with and has stored. -/
structure EndpointInv (events : List (LanEvent ι)) (node : ι) (s : DiscoveryService) : Prop where
  published : ∀ a ∈ s.mdnsAnnouncer.published, ∃ d, Announced events d ∧ a.txtRecord = d.toTxtRecord
  endpoints : ∀ ep ∈ s.manualFallback.endpoints, Configured events node ep
  table : TableInv events node s.table

namespace EndpointInv

variable {s s' : DiscoveryService}

/-- The invariant holds of an endpoint that was just made. -/
theorem init : EndpointInv events node .init where
  published _ ha := absurd ha List.not_mem_nil
  endpoints _ hep := absurd hep List.not_mem_nil
  table := tableInv_init

/-- The invariant is kept while more happens. -/
theorem mono (h : EndpointInv events node s) (hsub : events ⊆ events') :
    EndpointInv events' node s where
  published a ha := by
    obtain ⟨d, hd, htxt⟩ := h.published a ha
    exact ⟨d, hd.mono hsub, htxt⟩
  endpoints ep hep := (h.endpoints ep hep).mono hsub
  table := h.table.mono hsub

/-- A call that registers digests that were announced keeps the invariant. -/
theorem registers (h : EndpointInv events node s) {digest : Option DiscoveryDigest}
    (hregisters : DiscoveryService.Registers digest s s')
    (hdigest : ∀ d ∈ digest, Announced events d) : EndpointInv events node s' where
  published a ha := by
    rcases hregisters.published a ha with ha | ⟨d, hd, htxt⟩
    · exact h.published a ha
    · exact ⟨d, hdigest d hd, htxt⟩
  endpoints := by
    rw [hregisters.endpoints]
    exact h.endpoints
  table := by
    rw [hregisters.table]
    exact h.table

/-- `startListening` keeps the invariant. -/
theorem startListening (h : EndpointInv events node s) (begins : Bool)
    (indeterminate : DiscoveryRecord) (seenAt : UInt64) (now : Int) :
    EndpointInv events node (s.startListening begins indeterminate seenAt now) := by
  have hendpoints : s.manualFallback.start.1.endpoints = s.manualFallback.endpoints := by
    unfold ManualConfigFallback.start
    split <;> rfl
  unfold DiscoveryService.startListening
  dsimp only
  split
  · exact { published := h.published, endpoints := h.endpoints, table := h.table }
  · split
    · refine { published := h.published, endpoints := ?_, table := ?_ }
      · show ∀ ep ∈ s.manualFallback.start.1.endpoints, _
        rw [hendpoints]
        exact h.endpoints
      · exact TableInv.foldl_upsertEndpoint h.endpoints h.table indeterminate seenAt now
    · exact { published := h.published, endpoints := h.endpoints, table := h.table }

/-- A call of the service is one of the events. -/
theorem call (h : EndpointInv events node s) (c : EndpointCall) (hc : .call node c ∈ events) :
    EndpointInv events node (s.call c) := by
  cases c with
  | service c =>
    -- Each call adds to the history what it is given, and the records are of that history.
    cases c with
    | startAnnouncing digest attempts =>
      refine h.registers (s.startAnnouncing_registers digest attempts) ?_
      intro d hd
      cases hd
      exact ⟨node, .inl ⟨attempts, hc⟩⟩
    | stopAnnouncing => exact h.registers s.stopAnnouncing_registers fun _ hd => nomatch hd
    | startListening begins indeterminate seenAt now =>
      exact h.startListening begins indeterminate seenAt now
    | stopListening => exact h.registers s.stopListening_registers fun _ hd => nomatch hd
    | setManualConfigEndpoints endpoints =>
      exact
        { published := h.published
          endpoints := fun ep hep => ⟨endpoints, hc, hep⟩
          table := h.table }
  | updateDigest digest registers sends =>
    refine h.registers (s.updateDigest_registers digest registers sends) ?_
    intro d hd
    cases hd
    exact ⟨node, .inr ⟨registers, sends, hc⟩⟩
  | handleDiscoveryAnnouncement msg seenAt now =>
    show EndpointInv events node (s.handleDiscoveryAnnouncement msg seenAt now).1
    unfold DiscoveryService.handleDiscoveryAnnouncement
    split
    · exact h
    · have hrecord : ComesFrom events node (DiscoveryService.announcementRecord msg seenAt) :=
        .handed ⟨seenAt, now, hc⟩ seenAt
      exact
        { published := h.published
          endpoints := h.endpoints
          table := h.table.upsert hrecord now }
  | clearDiscovered =>
    exact { published := h.published, endpoints := h.endpoints, table := tableInv_init }
  | pruneStale maxAge now =>
    exact
      { published := h.published
        endpoints := h.endpoints
        table := h.table.pruneStale maxAge now }

/-- What another endpoint has registered is heard without an exception. -/
theorem hears (h : EndpointInv events node s) {service : Announcement} {d : DiscoveryDigest}
    (hd : Announced events d) (htxt : service.txtRecord = d.toTxtRecord)
    (indeterminate : DiscoveryRecord) (seenAt : UInt64) (now : Int) :
    ∃ s', s.hears indeterminate seenAt now (encodeTxt service.txtRecord) = some s' ∧
      EndpointInv events node s' := by
  obtain ⟨s', hs', hannouncer, hfallback, htable⟩ :=
    s.hears_announced indeterminate seenAt now d
  rw [htxt]
  refine ⟨s', hs', ?_, ?_, ?_⟩
  · rw [hannouncer]
    exact h.published
  · rw [hfallback]
    exact h.endpoints
  · -- The digest is of no node, and is dropped, or it is stored.
    rcases htable with htable | ⟨hnull, htable⟩
    · rw [htable]
      exact h.table
    · rw [htable]
      exact h.table.upsert (.announced hd hnull seenAt) now

end EndpointInv

/-- No process has ended, and every endpoint has its invariant. -/
def LanInv (events : List (LanEvent ι)) (s : Lan ι) : Prop :=
  ∀ node, ∃ service, s node = some service ∧ EndpointInv events node service

/-- The invariant is kept while more happens. -/
theorem LanInv.mono {s : Lan ι} (h : LanInv events s) (hsub : events ⊆ events') :
    LanInv events' s := by
  intro node
  obtain ⟨service, hservice, hinv⟩ := h node
  exact ⟨service, hservice, hinv.mono hsub⟩

variable [DecidableEq ι]

/-- The invariant is kept when it holds of the endpoint that changes. -/
theorem LanInv.update {s : Lan ι} (h : LanInv events s) {service : DiscoveryService}
    (hservice : EndpointInv events node service) :
    LanInv events (Function.update s node (some service)) := by
  intro other
  by_cases hother : other = node
  · subst hother
    exact ⟨service, Function.update_self .., hservice⟩
  · rw [Function.update_of_ne hother]
    exact h other

/-- Each event keeps the invariant. -/
theorem lanInv_step {s : Lan ι} (h : LanInv events s) (e : LanEvent ι) :
    LanInv (events ++ [e]) ((lanMachine ι).step s e) := by
  have hafter : LanInv (events ++ [e]) s := h.mono (List.subset_append_left events [e])
  have hlast : e ∈ events ++ [e] := List.mem_append_right events List.mem_cons_self
  cases e with
  | call node c =>
    obtain ⟨service, hservice, hinv⟩ := hafter node
    show LanInv _ (Function.update s node ((s node).map (·.call c)))
    rw [hservice]
    exact hafter.update (hinv.call c hlast)
  | found node peer k indeterminate seenAt now =>
    unfold lanMachine
    dsimp only
    cases hk : (s.published peer)[k]? with
    | none => exact hafter
    | some a =>
      -- The registration was made by the announcer of `peer`, from a digest.
      obtain ⟨speaker, hspeaker, hspeakerInv⟩ := hafter peer
      have ha : a ∈ speaker.mdnsAnnouncer.published := by
        rw [Lan.published, hspeaker] at hk
        exact List.mem_of_getElem? hk
      obtain ⟨d, hd, htxt⟩ := hspeakerInv.published a ha
      obtain ⟨listener, hlistener, hlistenerInv⟩ := hafter node
      obtain ⟨listener', hhears, hinv⟩ := hlistenerInv.hears hd htxt indeterminate seenAt now
      dsimp only
      rw [hlistener, Option.bind_some, hhears]
      exact hafter.update hinv

/-- The invariant holds in every run. -/
theorem lanInv_run (events : List (LanEvent ι)) : LanInv events ((lanMachine ι).run events) := by
  refine Lib.Machine.run_induction (P := LanInv) ?_ ?_ events
  · exact fun _ => ⟨.init, rfl, .init⟩
  · exact fun _ e h => lanInv_step h e

/-- Whatever the endpoints announce and hear, no process ends, and every record that an endpoint
lists comes from a digest that some endpoint announced, from its own configuration, or from a
message that it was handed. -/
theorem listed_are_announced (events : List (LanEvent ι)) (node : ι) :
    ∃ s, (lanMachine ι).run events node = some s ∧
      ∀ record ∈ s.discoveredNodes, ComesFrom events node record := by
  obtain ⟨s, hs, hinv⟩ := lanInv_run events node
  exact ⟨s, hs, hinv.table.records⟩

/-- No endpoint counts a conflict of topologies that it was not handed as two messages about node
ids with one key, whatever topologies the endpoints announce. -/
theorem conflict_needs_messages (events : List (LanEvent ι)) (node : ι) :
    ∃ s, (lanMachine ι).run events node = some s ∧
      (s.table.conflictCount = 0 ∨ HandedTwoTopologies events node) := by
  obtain ⟨s, hs, hinv⟩ := lanInv_run events node
  exact ⟨s, hs, hinv.table.conflicts⟩

/-- A node id with a letter among its hexadecimal digits, as almost every random one has, is listed
by no endpoint that was not configured with it or handed a message about it. -/
theorem never_listed (events : List (LanEvent ι)) (node : ι) (id : NodeId)
    (hid : HasHexLetter id.high ∨ HasHexLetter id.low)
    (hconfigured : ∀ ep, Configured events node ep → ep.nodeId ≠ id)
    (hhanded : ∀ msg, Handed events node msg → msg.digest.nodeId ≠ id) :
    ∃ s, (lanMachine ι).run events node = some s ∧
      ∀ record ∈ s.discoveredNodes, record.nodeId ≠ id := by
  obtain ⟨s, hs, hinv⟩ := lanInv_run events node
  refine ⟨s, hs, ?_⟩
  rintro record hrecord rfl
  cases hinv.table.records record hrecord with
  | announced =>
    -- Heard over mDNS: the id was misread, so it has no letter among its digits.
    obtain ⟨hhigh, hlow⟩ := misreadId_no_hexLetter _
    exact hid.elim hhigh hlow
  | configured h => exact hconfigured _ h rfl
  | handed h => exact hhanded _ h rfl

end

/-- One endpoint announces `deskDigest`, and the other one finds it in its second browse. -/
def deskFound : List (LanEvent Bool) :=
  [.call false (.service (.startAnnouncing deskDigest
      { registers := true, binds := true, sends := true })),
    .call true (.service (.startListening true blankRecord 0 0)),
    .call true (.service .stopListening),
    .call true (.service (.startListening true blankRecord 0 0)),
    .found true false 0 blankRecord 1 1]

/-- The endpoint that finds the desk does not list it. -/
theorem never_listed_desk :
    ∃ s, (lanMachine Bool).run deskFound true = some s ∧
      ∀ record ∈ s.discoveredNodes, record.nodeId ≠ deskDigest.nodeId := by
  refine never_listed deskFound true deskDigest.nodeId (by decide) ?_ ?_
  · rintro ep ⟨endpoints, hmem, -⟩
    simp [deskFound] at hmem
  · rintro msg ⟨seenAt, now, hmem⟩
    simp [deskFound] at hmem

end CrossFlow
