import CrossFlow.Core.Discovery.DiscoveryService
import CrossFlow.Lib.PastTime

/-!
# `CrossFlow.Proofs.Discovery.Listening`: which announcements reach the table

`startListening` sets the callback after the browse has begun, and the browse keeps the callback
that there was before. So the first browse of a service has none, and every later one has the one
that an earlier `startListening` has set.

* `listeningCallback_of_denotes`: when the callback returns, and with which node id.
* `ListenerInv`: which browses have the callback.
* `running_iff`: when the service listens over mDNS.
* `delivers_iff`: the announcements that are delivered.
-/

set_option autoImplicit false

namespace CrossFlow

open StdString (lit stoull)

namespace DiscoveryService

/-! ### TXT records -/

/-- `stoull` returns. -/
def Parses (s : StdString) (base : Nat) : Prop := ∃ n, stoull s base = .ok n

/-- The callback reads the pair without an exception. -/
def Readable (pair : StdString × StdString) : Prop :=
  (pair.1 = lit "nid" → 32 ≤ pair.2.length →
      Parses (pair.2.take 16) 16 ∧ Parses ((pair.2.drop 16).take 16) 16) ∧
    (pair.1 = lit "epoch" ∨ pair.1 = lit "pver" → Parses pair.2 10)

/-- The last `nid` pair has two hexadecimal numbers of 16 characters, the halves of `nid`. -/
def Denotes (txtRecord : List (StdString × StdString)) (nid : NodeId) : Prop :=
  ∃ before val after, txtRecord = before ++ (lit "nid", val) :: after ∧
    (∀ pair ∈ after, pair.1 ≠ lit "nid") ∧ 32 ≤ val.length ∧
    stoull (val.take 16) 16 = .ok nid.high ∧ stoull ((val.drop 16).take 16) 16 = .ok nid.low

variable {record r : DiscoveryRecord} {pair : StdString × StdString}
  {txtRecord : List (StdString × StdString)} {nid : NodeId}

/-- What a pair does to the record, by its key. -/
theorem applyPair_number (record : DiscoveryRecord) (val : StdString) :
    applyPair record (lit "epoch", val) =
        (stoull val 10).map (fun n => { record with sessionEpoch := { value := n } }) ∧
      applyPair record (lit "pver", val) =
        (stoull val 10).map fun n => { record with protocolVersion := n.toUInt16 } := by
  constructor
  · show (do return { record with sessionEpoch := { value := ← stoull val 10 } }) = _
    cases stoull val 10 <;> rfl
  · show (do return { record with protocolVersion := (← stoull val 10).toUInt16 }) = _
    cases stoull val 10 <;> rfl

/-- An id of 32 characters or more is two hexadecimal numbers of 16. -/
theorem applyPair_nid_of_long {val : StdString} (hlen : 32 ≤ val.length)
    (record : DiscoveryRecord) :
    applyPair record (lit "nid", val) =
      (stoull (val.take 16) 16).bind fun high =>
        (stoull ((val.drop 16).take 16) 16).map fun low =>
          { record with nodeId := { high, low } } := by
  rw [applyPair, if_pos rfl, if_pos hlen]
  cases stoull (val.take 16) 16 with
  | error e => rfl
  | ok high => cases stoull ((val.drop 16).take 16) 16 <;> rfl

/-- A shorter id is the null id. -/
theorem applyPair_nid_of_short {val : StdString} (hlen : ¬ 32 ≤ val.length)
    (record : DiscoveryRecord) :
    applyPair record (lit "nid", val) = .ok { record with nodeId := { high := 0, low := 0 } } := by
  rw [applyPair, if_pos rfl, if_neg hlen]
  rfl

/-- The other keys hold no number. -/
theorem applyPair_text {key : StdString} (hnid : key ≠ lit "nid")
    (hnumber : ¬ (key = lit "epoch" ∨ key = lit "pver")) (record : DiscoveryRecord)
    (val : StdString) :
    ∃ r, applyPair record (key, val) = .ok r ∧ r.nodeId = record.nodeId := by
  obtain ⟨hepoch, hpver⟩ := not_or.mp hnumber
  rw [applyPair, if_neg hnid, if_neg hepoch, if_neg hpver]
  split
  · exact ⟨_, rfl, rfl⟩
  · split
    · exact ⟨_, rfl, rfl⟩
    · exact ⟨_, rfl, rfl⟩

/-- What `map` makes of a result. -/
theorem map_eq_ok {ε α β : Type} {x : Except ε α} {f : α → β} {b : β} :
    x.map f = .ok b ↔ ∃ a, x = .ok a ∧ f a = b := by
  cases x with
  | error e => exact iff_of_false (fun h => nomatch h) (fun ⟨_, h, _⟩ => nomatch h)
  | ok a => exact ⟨fun h => ⟨a, rfl, Except.ok.inj h⟩, fun ⟨_, ha, h⟩ => by cases ha; rw [← h]; rfl⟩

/-- `map` makes a result of each result, and of nothing else. -/
theorem exists_map_eq_ok {ε α β : Type} {x : Except ε α} {f : α → β} :
    (∃ b, x.map f = .ok b) ↔ ∃ a, x = .ok a := by
  constructor
  · rintro ⟨b, hb⟩
    obtain ⟨a, ha, -⟩ := map_eq_ok.mp hb
    exact ⟨a, ha⟩
  · rintro ⟨a, ha⟩
    exact ⟨f a, map_eq_ok.mpr ⟨a, ha, rfl⟩⟩

/-- A pair is applied when it can be read. -/
theorem applyPair_ok_iff (record : DiscoveryRecord) (pair : StdString × StdString) :
    (∃ r, applyPair record pair = .ok r) ↔ Readable pair := by
  obtain ⟨key, val⟩ := pair
  unfold Readable
  dsimp only
  -- An id is two numbers of 16 digits, an epoch and a version are a number, the rest is text.
  by_cases hnid : key = lit "nid"
  · subst hnid
    have hnumber : ¬ (lit "nid" = lit "epoch" ∨ lit "nid" = lit "pver") := by decide
    by_cases hlen : 32 ≤ val.length
    · rw [applyPair_nid_of_long hlen]
      cases hhigh : stoull (val.take 16) 16 with
      | error e => simp [Parses, hhigh, hlen, hnumber, Except.bind]
      | ok high => simp [Parses, hhigh, hlen, hnumber, Except.bind, exists_map_eq_ok]
    · rw [applyPair_nid_of_short hlen]
      simp [hlen, hnumber]
  · by_cases hnumber : key = lit "epoch" ∨ key = lit "pver"
    · refine Iff.trans ?_ ⟨fun h => ⟨fun heq => absurd heq hnid, fun _ => h⟩, fun h => h.2 hnumber⟩
      rcases hnumber with rfl | rfl
      · rw [(applyPair_number record val).1, exists_map_eq_ok, Parses]
      · rw [(applyPair_number record val).2, exists_map_eq_ok, Parses]
    · obtain ⟨r, hr, -⟩ := applyPair_text hnid hnumber record val
      exact iff_of_true ⟨r, hr⟩ ⟨fun heq => absurd heq hnid, fun heq => absurd heq hnumber⟩

/-- Only the `nid` pairs write the node id. -/
theorem applyPair_nodeId (hnid : pair.1 ≠ lit "nid") (h : applyPair record pair = .ok r) :
    r.nodeId = record.nodeId := by
  obtain ⟨key, val⟩ := pair
  by_cases hnumber : key = lit "epoch" ∨ key = lit "pver"
  · rcases hnumber with rfl | rfl
    · rw [(applyPair_number record val).1] at h
      obtain ⟨n, -, rfl⟩ := map_eq_ok.mp h
      rfl
    · rw [(applyPair_number record val).2] at h
      obtain ⟨n, -, rfl⟩ := map_eq_ok.mp h
      rfl
  · obtain ⟨r', hr', hnodeId⟩ := applyPair_text hnid hnumber record val
    rw [hr'] at h
    cases h
    exact hnodeId

/-- Pairs are applied when each of them can be read. -/
theorem foldlM_ok_iff (record : DiscoveryRecord) :
    (∃ r, txtRecord.foldlM applyPair record = .ok r) ↔ ∀ pair ∈ txtRecord, Readable pair := by
  induction txtRecord generalizing record with
  | nil => exact iff_of_true ⟨record, rfl⟩ (fun _ h => absurd h List.not_mem_nil)
  | cons pair txtRecord ih =>
    rw [List.foldlM_cons, List.forall_mem_cons]
    cases hpair : applyPair record pair with
    | error e =>
      refine iff_of_false (fun ⟨_, h⟩ => nomatch h) fun h => ?_
      obtain ⟨r, hr⟩ := (applyPair_ok_iff record pair).mpr h.1
      rw [hpair] at hr
      exact nomatch hr
    | ok next =>
      have hread := (applyPair_ok_iff record pair).mp ⟨next, hpair⟩
      exact (ih next).trans (and_iff_right hread).symm

/-- Pairs that do not give the id leave it. -/
theorem nodeId_of_foldlM (hnid : ∀ pair ∈ txtRecord, pair.1 ≠ lit "nid")
    (h : txtRecord.foldlM applyPair record = .ok r) : r.nodeId = record.nodeId := by
  induction txtRecord generalizing record with
  | nil =>
    cases h
    rfl
  | cons pair txtRecord ih =>
    rw [List.foldlM_cons] at h
    obtain ⟨hpair, hrest⟩ := List.forall_mem_cons.mp hnid
    cases hnext : applyPair record pair with
    | error e =>
      rw [hnext] at h
      exact nomatch h
    | ok next =>
      rw [hnext] at h
      exact (ih hrest h).trans (applyPair_nodeId hpair hnext)

/-- The last `nid` pair decides. -/
theorem nodeId_of_denotes (hdenotes : Denotes txtRecord nid)
    (h : txtRecord.foldlM applyPair record = .ok r) : r.nodeId = nid := by
  obtain ⟨before, val, after, rfl, hafter, hlen, hhigh, hlow⟩ := hdenotes
  rw [List.foldlM_append] at h
  cases hbefore : before.foldlM applyPair record with
  | error e =>
    rw [hbefore] at h
    exact nomatch h
  | ok next =>
    rw [hbefore] at h
    have hval : applyPair next (lit "nid", val) = .ok { next with nodeId := nid } := by
      rw [applyPair_nid_of_long hlen, hhigh, hlow]
      rfl
    replace h : ((lit "nid", val) :: after).foldlM applyPair next = .ok r := h
    rw [List.foldlM_cons, hval] at h
    exact nodeId_of_foldlM hafter h

/-- The record of the callback before the first pair. -/
def blankRecord (indeterminate : DiscoveryRecord) : DiscoveryRecord :=
  { indeterminate with
    capabilitiesFingerprint := []
    sessionEpoch := { value := 0 }
    topologyId := []
    endpointAddresses := [] }

/-- The callback applies the pairs to a blank record, and leaves out the null id. -/
theorem listeningCallback_eq (indeterminate : DiscoveryRecord) (seenAt : UInt64)
    (txtRecord : List (StdString × StdString)) :
    listeningCallback indeterminate seenAt txtRecord =
      (txtRecord.foldlM applyPair (blankRecord indeterminate)).map fun record =>
        if record.nodeId.isNull then none else some { record with lastSeenAt := seenAt } := by
  unfold listeningCallback blankRecord
  cases txtRecord.foldlM applyPair _ <;> rfl

/-- On a record that denotes a node id, the callback returns when all pairs can be read, and then
with that node id. -/
theorem listeningCallback_of_denotes (hdenotes : Denotes txtRecord nid) (hnid : nid.isNull = false)
    (indeterminate : DiscoveryRecord) (seenAt : UInt64) :
    (∀ pair ∈ txtRecord, Readable pair) ∧
        (∃ record, listeningCallback indeterminate seenAt txtRecord = .ok (some record) ∧
          record.nodeId = nid) ∨
      (¬ ∀ pair ∈ txtRecord, Readable pair) ∧
        ∃ e, listeningCallback indeterminate seenAt txtRecord = .error e := by
  rw [listeningCallback_eq]
  cases hfold : txtRecord.foldlM applyPair (blankRecord indeterminate) with
  | error e =>
    -- A pair that cannot be read throws, and the callback with it.
    refine .inr ⟨fun h => ?_, e, rfl⟩
    obtain ⟨r, hr⟩ := (foldlM_ok_iff (blankRecord indeterminate)).mpr h
    rw [hfold] at hr
    exact nomatch hr
  | ok r =>
    -- What was read is of the node that the record denotes.
    have hr : r.nodeId = nid := nodeId_of_denotes hdenotes hfold
    refine .inl ⟨(foldlM_ok_iff _).mp ⟨r, hfold⟩, { r with lastSeenAt := seenAt }, ?_, hr⟩
    show Except.ok (if r.nodeId.isNull then none else _) = _
    rw [hr, hnid]
    rfl

end DiscoveryService

/-! ### The callback of a browse -/

/-- From the second browse on, a browse has the callback. -/
structure ListenerInv (l : MdnsListener) : Prop where
  callback : l.callback = decide (1 ≤ l.browses)
  context : l.browseContext = if l.running then some (decide (2 ≤ l.browses)) else none
  begun : l.running = true → 1 ≤ l.browses

namespace ListenerInv

variable {l : MdnsListener}

/-- `startListening` on the listener: the callback is set when the browse has begun. -/
theorem startListening (h : ListenerInv l) (serviceType : StdString) (begins : Bool) :
    ListenerInv (if (l.start serviceType begins).2.isNone
      then (l.start serviceType begins).1.setDiscoveryCallback
      else (l.start serviceType begins).1) := by
  unfold MdnsListener.start MdnsListener.setDiscoveryCallback
  cases hrun : l.running with
  | true =>
    have hcallback := h.callback
    rw [decide_eq_true (h.begun hrun)] at hcallback
    refine ⟨(decide_eq_true (h.begun hrun)).symm, ?_, fun _ => h.begun hrun⟩
    exact h.context
  | false =>
    cases begins with
    | false => exact ⟨h.callback, rfl, fun hfalse => absurd hfalse Bool.false_ne_true⟩
    | true =>
      refine ⟨(decide_eq_true (Nat.le_add_left 1 l.browses)).symm, ?_, fun _ => Nat.le_add_left 1 _⟩
      -- The browse keeps the callback of the browses before it.
      show some l.callback = some (decide (2 ≤ l.browses + 1))
      rw [h.callback]
      congr 1
      exact decide_eq_decide.mpr (Nat.add_le_add_iff_right (n := 1)).symm

/-- The invariant holds after `stop`. -/
theorem stop (h : ListenerInv l) : ListenerInv l.stop := by
  unfold MdnsListener.stop
  cases hrun : l.running with
  | false => exact h
  | true => exact ⟨h.callback, rfl, fun hfalse => absurd hfalse Bool.false_ne_true⟩

end ListenerInv

namespace DiscoveryService

/-- The attempt over mDNS leaves the listener. -/
theorem tryMdnsAnnounce_mdnsListener (s : DiscoveryService) (digest : DiscoveryDigest)
    (registers : Bool) : (s.tryMdnsAnnounce digest registers).1.mdnsListener = s.mdnsListener := by
  unfold tryMdnsAnnounce
  dsimp only
  split <;> rfl

/-- The attempt by a broadcast leaves the listener. -/
theorem tryUdpFallback_mdnsListener (s : DiscoveryService) (digest : DiscoveryDigest)
    (binds sends : Bool) : (s.tryUdpFallback digest binds sends).1.mdnsListener = s.mdnsListener := by
  unfold tryUdpFallback
  dsimp only
  split
  · rfl
  · split <;> rfl

/-- The manual attempt leaves the listener. -/
theorem tryManualFallback_mdnsListener (s : DiscoveryService) :
    s.tryManualFallback.1.mdnsListener = s.mdnsListener := by
  unfold tryManualFallback
  dsimp only
  split
  · rfl
  · split <;> rfl

/-- `startAnnouncing` leaves the listener. -/
theorem startAnnouncing_mdnsListener (s : DiscoveryService) (digest : DiscoveryDigest)
    (attempts : AnnounceAttempts) :
    (s.startAnnouncing digest attempts).1.mdnsListener = s.mdnsListener := by
  unfold startAnnouncing announced
  dsimp only
  split
  · rfl
  · split
    · exact tryMdnsAnnounce_mdnsListener _ _ _
    · split
      · exact (tryUdpFallback_mdnsListener _ _ _ _).trans (tryMdnsAnnounce_mdnsListener _ _ _)
      · split
        · exact (tryManualFallback_mdnsListener _).trans
            ((tryUdpFallback_mdnsListener _ _ _ _).trans (tryMdnsAnnounce_mdnsListener _ _ _))
        · exact (tryManualFallback_mdnsListener _).trans
            ((tryUdpFallback_mdnsListener _ _ _ _).trans (tryMdnsAnnounce_mdnsListener _ _ _))

/-- `stopAnnouncing` leaves the listener. -/
theorem stopAnnouncing_mdnsListener (s : DiscoveryService) :
    s.stopAnnouncing.mdnsListener = s.mdnsListener := by
  unfold stopAnnouncing
  dsimp only
  split <;> rfl

/-- `startListening` starts the listener and gives it its callback when that succeeds. -/
theorem startListening_mdnsListener (s : DiscoveryService) (begins : Bool)
    (indeterminate : DiscoveryRecord) (seenAt : UInt64) (now : Int) :
    (s.startListening begins indeterminate seenAt now).mdnsListener =
      if (s.mdnsListener.start (lit "_crossflow-x._tcp") begins).2.isNone
      then (s.mdnsListener.start (lit "_crossflow-x._tcp") begins).1.setDiscoveryCallback
      else (s.mdnsListener.start (lit "_crossflow-x._tcp") begins).1 := by
  unfold startListening
  dsimp only
  split
  · rfl
  · split <;> rfl

/-- `stopListening` stops the listener. -/
theorem stopListening_mdnsListener (s : DiscoveryService) :
    s.stopListening.mdnsListener = s.mdnsListener.stop := by
  unfold stopListening
  dsimp only
  split <;> rfl

variable {s : DiscoveryService}

/-- Each call keeps the invariant of the listener. -/
theorem listenerInv_step (h : ListenerInv s.mdnsListener) (c : ServiceCall) :
    ListenerInv (s.step c).mdnsListener := by
  cases c with
  | startAnnouncing digest attempts =>
    rw [step, startAnnouncing_mdnsListener]
    exact h
  | stopAnnouncing =>
    rw [step, stopAnnouncing_mdnsListener]
    exact h
  | startListening begins indeterminate seenAt now =>
    rw [step, startListening_mdnsListener]
    exact h.startListening _ begins
  | stopListening =>
    rw [step, stopListening_mdnsListener]
    exact h.stop
  | setManualConfigEndpoints endpoints => exact h

/-- A service that is found leaves the listener. -/
theorem discovered_mdnsListener {s' : DiscoveryService} {indeterminate : DiscoveryRecord}
    {seenAt : UInt64} {now : Int} {txtRecord : List (StdString × StdString)}
    (h : s.discovered indeterminate seenAt now txtRecord = .ok s') :
    s'.mdnsListener = s.mdnsListener := by
  unfold discovered at h
  cases hcallback : listeningCallback indeterminate seenAt txtRecord with
  | error e =>
    rw [hcallback] at h
    exact nomatch h
  | ok record =>
    rw [hcallback] at h
    cases record with
    | none => exact Except.ok.inj h ▸ rfl
    | some record => exact Except.ok.inj h ▸ rfl

/-- What becomes of an announcement, by the browse it is found in. -/
theorem resolved_of_running (h : ListenerInv s.mdnsListener) (hrun : s.mdnsListener.running = true)
    (indeterminate : DiscoveryRecord) (seenAt : UInt64) (now : Int)
    (txtRecord : List (StdString × StdString)) :
    s.resolved indeterminate seenAt now txtRecord =
      if 2 ≤ s.mdnsListener.browses
      then (s.discovered indeterminate seenAt now txtRecord).toOption else some s := by
  unfold resolved
  rw [h.context, if_pos hrun]
  by_cases hbrowses : 2 ≤ s.mdnsListener.browses
  · rw [if_pos hbrowses, decide_eq_true hbrowses]
  · rw [if_neg hbrowses, decide_eq_false hbrowses]

/-- A service that is resolved leaves the listener. -/
theorem resolved_mdnsListener {s' : DiscoveryService} {indeterminate : DiscoveryRecord}
    {seenAt : UInt64} {now : Int} {txtRecord : List (StdString × StdString)}
    (h : s.resolved indeterminate seenAt now txtRecord = some s') :
    s'.mdnsListener = s.mdnsListener := by
  unfold resolved at h
  split at h
  · cases hdiscovered : s.discovered indeterminate seenAt now txtRecord with
    | error e =>
      rw [hdiscovered] at h
      exact nomatch h
    | ok after =>
      rw [hdiscovered] at h
      obtain rfl : after = s' := Option.some.inj h
      exact discovered_mdnsListener hdiscovered
  · exact Option.some.inj h ▸ rfl
  · exact Option.some.inj h ▸ rfl

/-- A step leaves the invariant, in a process that goes on. -/
theorem listenerInv_event {s : Option DiscoveryService} (event : ListeningEvent)
    (h : ∀ before, s = some before → ListenerInv before.mdnsListener) :
    ∀ after, listeningMachine.step s event = some after → ListenerInv after.mdnsListener := by
  intro after hstep
  cases s with
  | none => cases event <;> exact nomatch hstep
  | some before =>
    have hbefore := h before rfl
    cases event with
    | call c =>
      obtain rfl : before.step c = after := Option.some.inj hstep
      exact listenerInv_step hbefore c
    | resolved txtRecord indeterminate seenAt now =>
      have hstep : before.resolved indeterminate seenAt now txtRecord = some after := hstep
      rw [resolved_mdnsListener hstep]
      exact hbefore

end DiscoveryService

/-! ### Listening over mDNS -/

section
open DiscoveryService Lib

/-- `startListening` succeeds over mDNS. -/
def StartsOverMdns : Option DiscoveryService × ListeningEvent → Prop
  | (some s, .call (.startListening begins _ _ _)) =>
    (s.mdnsListener.start (lit "_crossflow-x._tcp") begins).2 = none
  | _ => False

/-- The event stops the listener. -/
def StopsListening : Option DiscoveryService × ListeningEvent → Prop
  | (_, .call .stopListening) => True
  | _ => False

/-- A listener runs after `start` when it did before or the browse began. -/
theorem start_running (l : MdnsListener) (serviceType : StdString) (begins : Bool) :
    (l.start serviceType begins).1.running = true ↔
      l.running = true ∨ (l.start serviceType begins).2 = none := by
  unfold MdnsListener.start
  cases hrun : l.running with
  | true => exact iff_of_true hrun (.inl rfl)
  | false => cases begins <;> simp

/-- After `stop` a listener does not run. -/
theorem stop_running (l : MdnsListener) : l.stop.running = false := by
  unfold MdnsListener.stop
  cases hrun : l.running with
  | true => rfl
  | false => exact hrun

/-- The service listens when its listener runs. -/
theorem startListening_running (s : DiscoveryService) (begins : Bool)
    (indeterminate : DiscoveryRecord) (seenAt : UInt64) (now : Int) :
    (s.startListening begins indeterminate seenAt now).mdnsListener.running =
      (s.mdnsListener.start (lit "_crossflow-x._tcp") begins).1.running := by
  rw [startListening_mdnsListener]
  split <;> rfl

/-- The listener runs from the moment on that `startListening` has succeeded over mDNS, until
`stopListening`. -/
theorem running_iff (events : List ListeningEvent) :
    ∀ s, listeningMachine.run events = some s →
      (s.mdnsListener.running = true ↔
        Since StopsListening (Just StartsOverMdns fun _ => True)
          (listeningMachine.past events)) := by
  refine Machine.past_of_step (m := listeningMachine)
    (P := fun s past => ∀ before, s = some before → (before.mdnsListener.running = true ↔
      Since StopsListening (Just StartsOverMdns fun _ => True) past)) ?_ ?_ events
  · -- Nobody listens at the start, and no call was made.
    intro before hbefore
    obtain rfl := Option.some.inj hbefore
    exact iff_of_false Bool.false_ne_true id
  intro s past event h after hafter
  cases s with
  | none => cases event <;> exact nomatch hafter
  | some before =>
    have hbefore := h before rfl
    cases event with
    | resolved txtRecord indeterminate seenAt now =>
      rw [since_just_cons_other id id, ← hbefore]
      have hafter : before.resolved indeterminate seenAt now txtRecord = some after := hafter
      rw [resolved_mdnsListener hafter]
    | call c =>
      obtain rfl : before.step c = after := Option.some.inj hafter
      -- Only the first two calls are about the listener.
      cases c with
      | startListening begins indeterminate seenAt now =>
        rw [since_cons, just_cons, and_true, ← hbefore, DiscoveryService.step,
          startListening_running, start_running, or_comm, and_iff_right (by exact id)]
        rfl
      | stopListening =>
        rw [DiscoveryService.step, stopListening_mdnsListener]
        refine iff_of_false (by rw [stop_running]; exact Bool.false_ne_true) ?_
        rintro (⟨hstart, -⟩ | ⟨hstop, -⟩)
        · exact hstart
        · exact hstop trivial
      | startAnnouncing digest attempts =>
        rw [since_just_cons_other id id, ← hbefore, DiscoveryService.step,
          startAnnouncing_mdnsListener]
      | stopAnnouncing =>
        rw [since_just_cons_other id id, ← hbefore, DiscoveryService.step,
          stopAnnouncing_mdnsListener]
      | setManualConfigEndpoints endpoints =>
        rw [since_just_cons_other id id, ← hbefore]
        rfl

end

open DiscoveryService

/-- An announcement that is found while the service listens over mDNS, and that denotes a node,
reaches the callback, which offers a record of that node to the table. -/
def Delivers (s : Option DiscoveryService) : ListeningEvent → Prop
  | .call _ => True
  | .resolved txtRecord indeterminate seenAt now =>
    ∀ before, s = some before → before.mdnsListener.running = true →
      ∀ nid, Denotes txtRecord nid → nid.isNull = false →
        ∃ after record,
          listeningMachine.step s (.resolved txtRecord indeterminate seenAt now) = some after ∧
            after.called = before.called ++ [txtRecord] ∧
            after.offered = before.offered ++ [record] ∧ record.nodeId = nid

/-- Such an announcement is found by a browse that is not the service's first, and all its pairs can
be read. -/
def Heard (s : Option DiscoveryService) : ListeningEvent → Prop
  | .call _ => True
  | .resolved txtRecord _ _ _ =>
    ∀ before, s = some before → before.mdnsListener.running = true →
      ∀ nid, Denotes txtRecord nid → nid.isNull = false →
        2 ≤ before.mdnsListener.browses ∧ ∀ pair ∈ txtRecord, Readable pair

/-- A service that is resolved is delivered when the listener has a callback. -/
theorem resolved_delivers_iff {s : DiscoveryService} (h : ListenerInv s.mdnsListener)
    (hrun : s.mdnsListener.running = true) {txtRecord : List (StdString × StdString)}
    {nid : NodeId} (hdenotes : Denotes txtRecord nid) (hnid : nid.isNull = false)
    (indeterminate : DiscoveryRecord) (seenAt : UInt64) (now : Int) :
    (∃ after record, s.resolved indeterminate seenAt now txtRecord = some after ∧
        after.called = s.called ++ [txtRecord] ∧ after.offered = s.offered ++ [record] ∧
        record.nodeId = nid) ↔
      2 ≤ s.mdnsListener.browses ∧ ∀ pair ∈ txtRecord, Readable pair := by
  rw [resolved_of_running h hrun]
  by_cases hbrowses : 2 ≤ s.mdnsListener.browses
  · rw [if_pos hbrowses, and_iff_right hbrowses]
    rcases listeningCallback_of_denotes hdenotes hnid indeterminate seenAt with
      ⟨hreadable, record, hcallback, hrecord⟩ | ⟨hunreadable, e, hcallback⟩
    · -- The record is stored and offered.
      let after : DiscoveryService :=
        { s with
          table := (s.table.upsert record now).1
          called := s.called ++ [txtRecord]
          offered := s.offered ++ [record] }
      refine iff_of_true ⟨after, record, ?_, rfl, rfl, hrecord⟩ hreadable
      unfold discovered
      rw [hcallback]
      rfl
    · -- The callback throws, and nothing is stored.
      refine iff_of_false ?_ hunreadable
      rintro ⟨after, record, hdiscovered, -⟩
      unfold discovered at hdiscovered
      rw [hcallback] at hdiscovered
      exact nomatch hdiscovered
  · -- The first browse has no callback, and nothing happens.
    rw [if_neg hbrowses]
    refine iff_of_false ?_ fun h => hbrowses h.1
    rintro ⟨after, record, hafter, hcalled, -⟩
    obtain rfl := Option.some.inj hafter
    simp at hcalled

/-- In a run the announcements are delivered exactly when none that denotes a node is found by the
first browse, or holds a pair that cannot be read. -/
theorem delivers_iff (events : List ListeningEvent) :
    listeningMachine.Meets Delivers (some .init) events ↔
      listeningMachine.Meets Heard (some .init) events := by
  refine Lib.Machine.meets_congr_of_invariant (m := listeningMachine)
    (P := fun s => ∀ before, s = some before → ListenerInv before.mdnsListener) ?_
    (fun s event h => listenerInv_event event h) ?_
  · intro before hbefore
    obtain rfl := Option.some.inj hbefore
    exact ⟨rfl, rfl, fun hfalse => absurd hfalse Bool.false_ne_true⟩
  intro s event h
  -- A call delivers nothing, whatever the service does.
  cases event with
  | call c => exact Iff.rfl
  | resolved txtRecord indeterminate seenAt now =>
    refine forall_congr' fun before => forall_congr' fun hbefore => ?_
    subst hbefore
    refine forall_congr' fun hrun => forall_congr' fun nid => forall_congr' fun hdenotes => ?_
    refine forall_congr' fun hnid => ?_
    exact resolved_delivers_iff (h before rfl) hrun hdenotes hnid indeterminate seenAt now

/-- Node 1 2 is announced to a service that has started to listen, and does not get to it. -/
theorem first_browse_unheard :
    let indeterminate : DiscoveryRecord :=
      { nodeId := { high := 0, low := 0 }, platform := .Mac, capabilitiesFingerprint := []
        sessionEpoch := { value := 0 }, protocolVersion := 0, topologyId := []
        endpointAddresses := [], lastSeenAt := 0 }
    let txtRecord := [(lit "nid", lit "00000000000000010000000000000002")]
    ¬ listeningMachine.Meets Delivers (some .init)
      [.call (.startListening true indeterminate 0 0), .resolved txtRecord indeterminate 0 0] := by
  rintro indeterminate txtRecord ⟨-, hdelivers, -⟩
  have hdenotes : Denotes txtRecord { high := 1, low := 2 } :=
    ⟨[], _, [], rfl, fun _ h => absurd h List.not_mem_nil, by decide, by rfl, by rfl⟩
  obtain ⟨after, record, hafter, hcalled, -⟩ := hdelivers _ rfl rfl _ hdenotes rfl
  obtain rfl : _ = after := Option.some.inj hafter
  exact nomatch hcalled

end CrossFlow
