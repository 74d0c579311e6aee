import CrossFlow.Proofs.Pairing.TrustedFile

/-!
# `CrossFlow.Proofs.Pairing.TrustedRuns`: the trusted-node list over its calls, and on disk

* `insertionOrder_run`: the nodes on the list are those that were added and not removed since, in
  the order of their first insertion.
* `recoverFromCorruption_eq`, `recoverFromCorruption_again`: what a recovery makes of a file, and a
  second one of what the first left.
* `trustedList_round_trip`: a list is loaded as it was written, after any calls.
-/

set_option autoImplicit false

namespace CrossFlow

/-! ### The order of the entries -/

/-- The number of calls before the one that put the node on the list, where it still is. The calls
are newest first. -/
def insertedAt (n : NodeId) : List TrustedCall → Option Nat
  | [] => none
  | .add entry :: past =>
    if entry.nodeId = n then some ((insertedAt n past).getD past.length) else insertedAt n past
  | .remove nodeId :: past => if nodeId = n then none else insertedAt n past

/-- The nodes are those that were inserted, each once and ordered by when that was. -/
structure InsertionOrder (ids : List NodeId) (past : List TrustedCall) : Prop where
  nodup : ids.Nodup
  mem_iff : ∀ n, n ∈ ids ↔ ∃ t, insertedAt n past = some t
  sorted : ids.Pairwise fun n m =>
    ∀ t u, insertedAt n past = some t → insertedAt m past = some u → t < u

/-- A node was inserted at one of the calls that were made. -/
theorem insertedAt_lt {n : NodeId} {past : List TrustedCall} {t : Nat}
    (h : insertedAt n past = some t) : t < past.length := by
  induction past generalizing t with
  | nil => exact absurd h (by simp [insertedAt])
  | cons c past ih =>
    rw [List.length_cons]
    cases c with
    | add entry =>
      rw [insertedAt] at h
      split at h
      · -- A node that is added again keeps its place.
        cases hpast : insertedAt n past with
        | none =>
          simp only [hpast, Option.getD_none, Option.some_inj] at h
          omega
        | some u =>
          have hu := ih hpast
          simp only [hpast, Option.getD_some, Option.some_inj] at h
          omega
      · -- An entry of another node.
        have ht := ih h
        omega
    | remove nodeId =>
      rw [insertedAt] at h
      split at h
      · exact absurd h (by simp)
      · have ht := ih h
        omega

section
variable {ids : List NodeId} {past : List TrustedCall}

/-- A call that changes no insertion keeps the order. -/
theorem InsertionOrder.congr {past' : List TrustedCall} (h : InsertionOrder ids past)
    (hsame : ∀ n, insertedAt n past' = insertedAt n past) : InsertionOrder ids past' where
  nodup := h.nodup
  mem_iff n := by rw [hsame]; exact h.mem_iff n
  sorted := by simpa only [hsame] using h.sorted

/-- A node that is listed stays where it is when it is added again. -/
theorem InsertionOrder.add_listed (h : InsertionOrder ids past) {entry : TrustedNodeEntry}
    (hmem : entry.nodeId ∈ ids) : InsertionOrder ids (.add entry :: past) := by
  refine h.congr ?_
  intro n
  rw [insertedAt]
  split
  · next hn =>
    obtain ⟨t, ht⟩ := (h.mem_iff n).mp (hn ▸ hmem)
    rw [ht, Option.getD_some]
  · rfl

/-- A node that is not listed goes to the end: its insertion is the newest. -/
theorem InsertionOrder.add_new (h : InsertionOrder ids past) {entry : TrustedNodeEntry}
    (hmem : entry.nodeId ∉ ids) :
    InsertionOrder (ids ++ [entry.nodeId]) (.add entry :: past) := by
  have hself : insertedAt entry.nodeId (.add entry :: past) = some past.length := by
    have hnone : insertedAt entry.nodeId past = none := by
      rw [Option.eq_none_iff_forall_ne_some]
      intro t ht
      exact hmem ((h.mem_iff _).mpr ⟨t, ht⟩)
    rw [insertedAt, if_pos rfl, hnone, Option.getD_none]
  -- The other ids are where they were.
  have hother : ∀ n, n ≠ entry.nodeId →
      insertedAt n (.add entry :: past) = insertedAt n past := by
    intro n hn
    rw [insertedAt, if_neg hn.symm]
  have hne : ∀ n ∈ ids, n ≠ entry.nodeId := fun n hn heq => hmem (heq ▸ hn)
  refine ⟨?_, ?_, ?_⟩
  · rw [List.nodup_append]
    refine ⟨h.nodup, List.nodup_singleton _, ?_⟩
    intro n hn m hm
    exact List.mem_singleton.mp hm ▸ hne n hn
  · intro n
    rw [List.mem_append, List.mem_singleton]
    by_cases hn : n = entry.nodeId
    · rw [hn, hself]
      exact iff_of_true (.inr rfl) ⟨_, rfl⟩
    · rw [hother n hn, ← h.mem_iff n]
      exact or_iff_left hn
  · rw [List.pairwise_append]
    refine ⟨?_, List.pairwise_singleton _ _, ?_⟩
    · refine h.sorted.imp_of_mem ?_
      intro n m hn hm hlt
      rw [hother n (hne n hn), hother m (hne m hm)]
      exact hlt
    · -- The new id comes after all that there were.
      intro n hn m hm t u ht hu
      rw [hother n (hne n hn)] at ht
      rw [List.mem_singleton.mp hm, hself] at hu
      cases hu
      exact insertedAt_lt ht

/-- Removing a node keeps the order of the insertions. -/
theorem InsertionOrder.remove (h : InsertionOrder ids past) (nodeId : NodeId) :
    InsertionOrder (ids.filter (· ≠ nodeId)) (.remove nodeId :: past) := by
  have hself : insertedAt nodeId (.remove nodeId :: past) = none := by rw [insertedAt, if_pos rfl]
  have hother : ∀ n, n ≠ nodeId →
      insertedAt n (.remove nodeId :: past) = insertedAt n past := by
    intro n hn
    rw [insertedAt, if_neg hn.symm]
  refine ⟨h.nodup.filter _, ?_, ?_⟩
  · intro n
    rw [List.mem_filter, decide_eq_true_eq]
    by_cases hn : n = nodeId
    · rw [hn, hself]
      exact iff_of_false (fun hmem => hmem.2 rfl) (by simp)
    · rw [hother n hn, ← h.mem_iff n]
      exact and_iff_left hn
  · -- The order of those that are left is what it was.
    refine (h.sorted.filter _).imp_of_mem ?_
    intro n m hn hm hlt
    rw [List.mem_filter, decide_eq_true_eq] at hn hm
    rw [hother n hn.2, hother m hm.2]
    exact hlt

end

namespace TrustedNodeList

/-- The nodes on the list, in its order. -/
def ids (l : TrustedNodeList) : List NodeId := l.entries.map TrustedNodeEntry.nodeId

/-- Adding appends a node that is new. -/
theorem ids_add (l : TrustedNodeList) (entry : TrustedNodeEntry) :
    (l.add entry).ids =
      if entry.nodeId ∈ l.ids then l.ids else l.ids ++ [entry.nodeId] := by
  unfold ids add
  cases hfind : l.find entry.nodeId with
  | some e =>
    have hmem : entry.nodeId ∈ l.entries.map TrustedNodeEntry.nodeId := by
      by_contra hnot
      rw [← Lib.KeyedList.find_eq_none_iff TrustedNodeEntry.nodeId] at hnot
      exact absurd (hfind.symm.trans hnot) (Option.some_ne_none e)
    rw [if_pos hmem]
    exact Lib.KeyedList.map_key_modify TrustedNodeEntry.nodeId (fun _ _ => rfl) l.entries
  | none =>
    rw [if_neg ((Lib.KeyedList.find_eq_none_iff TrustedNodeEntry.nodeId).mp hfind), List.map_append]
    rfl

/-- Removing takes the node out of the ids. -/
theorem ids_remove (l : TrustedNodeList) (nodeId : NodeId) :
    (l.remove nodeId).ids = l.ids.filter (· ≠ nodeId) := by
  rw [ids, ids, List.filter_map]
  rfl

end TrustedNodeList

/-- The nodes on the list are in the order of their first insertion, after any calls. -/
theorem insertionOrder_run (persistPath : StdString) (calls : List TrustedCall) :
    InsertionOrder ((trustedMachine persistPath).run calls).ids calls.reverse := by
  induction calls using List.reverseRecOn with
  | nil =>
    refine ⟨List.nodup_nil, ?_, List.Pairwise.nil⟩
    intro n
    exact iff_of_false List.not_mem_nil (by simp [insertedAt])
  | append_singleton calls c ih =>
    rw [Lib.Machine.run_append_singleton, List.reverse_append, List.reverse_singleton,
      List.singleton_append]
    generalize (trustedMachine persistPath).run calls = l at ih
    cases c with
    | add entry =>
      show InsertionOrder (l.toTrustedNodeList.add entry).ids _
      rw [TrustedNodeList.ids_add]
      split
      · -- An id that is listed already keeps its place.
        next hmem => exact ih.add_listed hmem
      · next hmem => exact ih.add_new hmem
    | remove nodeId =>
      show InsertionOrder (l.toTrustedNodeList.remove nodeId).ids _
      rw [TrustedNodeList.ids_remove]
      exact ih.remove nodeId

/-- No call changes the path. -/
theorem persistPath_run (persistPath : StdString) (calls : List TrustedCall) :
    ((trustedMachine persistPath).run calls).persistPath = persistPath := by
  induction calls using List.reverseRecOn with
  | nil => rfl
  | append_singleton calls c ih =>
    rw [Lib.Machine.run_append_singleton]
    cases c with
    | add entry => exact ih
    | remove nodeId => exact ih

/-! ### Recovery of a file that was written -/

namespace PersistentTrustedList

/-- An entry that the recovery keeps. -/
def Sound (e : TrustedNodeEntry) : Prop := e.nodeId ≠ { high := 0, low := 0 } ∧ e.pairedAt ≠ 0

/-- Whether an entry is sound can be looked up. -/
instance (e : TrustedNodeEntry) : Decidable (Sound e) := inferInstanceAs (Decidable (_ ∧ _))

/-- An entry is corrupt if it is not sound. -/
theorem isCorrupt_eq (e : TrustedNodeEntry) : isCorrupt e = !decide (Sound e) := by
  obtain ⟨⟨high, low⟩, pairedAt, epoch⟩ := e
  simp [isCorrupt, Sound, NodeId.isNull]

/-- The entries that the recovery keeps of a file. -/
def soundEntries (entries : List TrustedNodeEntry) : List TrustedNodeEntry :=
  entries.filter fun e => Sound e

/-- The sound entries are left. -/
theorem removeCorrupt_entries (l : PersistentTrustedList) :
    l.removeCorrupt.entries = soundEntries l.entries := by
  show l.entries.filter (fun e => !isCorrupt e) = _
  simp only [isCorrupt_eq, Bool.not_not]
  rfl

/-- A corrupt entry is found exactly if there is one. -/
theorem any_isCorrupt_iff (entries : List TrustedNodeEntry) :
    entries.any isCorrupt = true ↔ ∃ e ∈ entries, ¬ Sound e := by
  simp [List.any_eq_true, isCorrupt_eq]

variable {l : PersistentTrustedList}

/-- What persisting writes, and when it fails. -/
theorem persist_eq (hpath : l.persistPath ≠ []) (opens : Bool) :
    l.persist opens = if opens = true then (none, some (fileText l.entries))
      else (some .PairTrustPersistFail, none) := by
  rw [persist, if_neg hpath]
  cases opens <;> rfl

/-- What a recovery makes of a file that can be opened: the sound entries, and a file of them when
there were others and it can be opened again. -/
theorem recoverFromCorruption_eq (hpath : l.persistPath ≠ []) (s : StdString) (opens : Bool) :
    (l.recoverFromCorruption (some s) opens).1.entries = soundEntries (readEntries s) ∧
      (l.recoverFromCorruption (some s) opens).1.persistPath = l.persistPath ∧
      (l.recoverFromCorruption (some s) opens).2 =
        if (readEntries s).any isCorrupt = true ∧ opens = true then
          some (fileText (soundEntries (readEntries s)))
        else none := by
  have hentries := removeCorrupt_entries { l with entries := readEntries s, lastRecovery := .init }
  simp only [recoverFromCorruption, load, if_neg hpath, Option.isSome_none, Bool.false_eq_true,
    if_false]
  by_cases hcorrupt : (readEntries s).any isCorrupt = true
  · rw [if_pos hcorrupt]
    refine ⟨hentries, rfl, ?_⟩
    simp only [hcorrupt, true_and]
    rw [persist_eq]
    · -- The file is written again if it can be opened.
      cases opens with
      | false => rfl
      | true => exact congrArg (fun entries => some (fileText entries)) hentries
    · exact hpath
  · -- Nothing is corrupt, and the file is left.
    rw [if_neg hcorrupt]
    refine ⟨hentries, rfl, ?_⟩
    rw [if_neg fun h => hcorrupt h.1]

/-- The sound entries among the sound are all of them. -/
theorem soundEntries_soundEntries (entries : List TrustedNodeEntry) :
    soundEntries (soundEntries entries) = soundEntries entries := by
  rw [soundEntries, soundEntries, List.filter_filter]
  simp only [Bool.and_self]

/-- The entries that are left are sound. -/
theorem sound_of_mem {entries : List TrustedNodeEntry} {e : TrustedNodeEntry}
    (h : e ∈ soundEntries entries) : Sound e := of_decide_eq_true (List.mem_filter.mp h).2

/-- A recovery after a recovery finds the same entries. It writes nothing, if the first could write
the file. -/
theorem recoverFromCorruption_again (hpath : l.persistPath ≠ []) (entries : List TrustedNodeEntry)
    (opens again : Bool) :
    let recovered := l.recoverFromCorruption (some (fileText entries)) opens
    let file := recovered.2 <|> some (fileText entries)
    (recovered.1.recoverFromCorruption file again).1.entries = recovered.1.entries ∧
      (opens = true → (recovered.1.recoverFromCorruption file again).2 = none) := by
  intro recovered file
  obtain ⟨hentries, hpath', hwritten⟩ := recoverFromCorruption_eq hpath (fileText entries) opens
  rw [readEntries_fileText] at hentries hwritten
  change recovered.1.entries = _ at hentries
  change recovered.2 = _ at hwritten
  rw [← hpath'] at hpath
  by_cases hwrites : entries.any isCorrupt = true ∧ opens = true
  · -- The file is the sound entries now.
    rw [if_pos hwrites] at hwritten
    have hfile : file = some (fileText (soundEntries entries)) := by
      show (recovered.2 <|> some (fileText entries)) = _
      rw [hwritten]
      rfl
    obtain ⟨hentries', -, hwritten'⟩ :=
      recoverFromCorruption_eq hpath (fileText (soundEntries entries)) again
    rw [readEntries_fileText] at hentries' hwritten'
    rw [hfile, hentries]
    refine ⟨hentries'.trans (soundEntries_soundEntries entries), fun _ => ?_⟩
    rw [hwritten', if_neg]
    rintro ⟨hcorrupt, -⟩
    obtain ⟨e, he, hnot⟩ := (any_isCorrupt_iff _).mp hcorrupt
    exact hnot (sound_of_mem he)
  · -- The file is as it was.
    rw [if_neg hwrites] at hwritten
    have hfile : file = some (fileText entries) := by
      show (recovered.2 <|> some (fileText entries)) = _
      rw [hwritten]
      rfl
    obtain ⟨hentries', -, hwritten'⟩ := recoverFromCorruption_eq hpath (fileText entries) again
    rw [readEntries_fileText] at hentries' hwritten'
    rw [hfile, hentries]
    refine ⟨hentries', fun hopens => ?_⟩
    rw [hwritten', if_neg]
    rintro ⟨hcorrupt, -⟩
    exact hwrites ⟨hcorrupt, hopens⟩

end PersistentTrustedList

open PersistentTrustedList in
/-- After any calls the list is in the order of the first insertions. What `persist` writes of it is
loaded into any list as it was, and a recovery from it keeps the sound entries and leaves nothing to
a second one. -/
theorem trustedList_round_trip (persistPath : StdString) (calls : List TrustedCall) :
    let l := (trustedMachine persistPath).run calls
    InsertionOrder l.ids calls.reverse ∧
      (persistPath ≠ [] → ∃ text, l.persist true = (none, some text) ∧
        ∀ other : PersistentTrustedList, other.persistPath ≠ [] →
          other.load (some text) = ({ other with entries := l.entries }, none) ∧
          ∀ opens, let recovered := other.recoverFromCorruption (some text) opens
            let file := recovered.2 <|> some text
            recovered.1.entries = soundEntries l.entries ∧
              ∀ again, (recovered.1.recoverFromCorruption file again).1.entries =
                  recovered.1.entries ∧
                (opens = true → (recovered.1.recoverFromCorruption file again).2 = none)) := by
  intro l
  refine ⟨insertionOrder_run persistPath calls, ?_⟩
  intro hpath
  have hpath' : l.persistPath ≠ [] := by
    rw [persistPath_run persistPath calls]
    exact hpath
  refine ⟨fileText l.entries, persist_eq hpath' true, ?_⟩
  intro other hother
  refine ⟨?_, ?_⟩
  · -- Another list with a path reads the same entries.
    rw [load_eq hother, readEntries_fileText]
  · intro opens
    refine ⟨?_, fun again => recoverFromCorruption_again hother l.entries opens again⟩
    rw [(recoverFromCorruption_eq hother _ opens).1, readEntries_fileText]

end CrossFlow
