import Mathlib.Data.List.AList
import Mathlib.Logic.Function.Basic

/-!
# `CrossFlow.Lib.HashedMap`: a map kept under a hash of its key

A table that stores an entry under the hash of its key and never compares the keys. `view` is the
map by the whole key the table is meant to be: the entry under the hash of a key, if it is an entry
of that key. A key collides with the table when another key's entry is in its place; `view_update`
says that a change at a key is the same change of the view if there is no collision, and
`eq_of_view_update_of_collides` that otherwise it is none that stores or removes something.
-/

set_option autoImplicit false

namespace CrossFlow.Lib.HashedMap

variable {κ η ε : Type} (hash : κ → η) (key : ε → κ)

/-- Every entry is stored under the hash of its own key. -/
def WellKeyed (table : η → Option ε) : Prop := ∀ h e, table h = some e → hash (key e) = h

/-- The entry of another key is stored where an entry of `k` would be. -/
def Collides (table : η → Option ε) (k : κ) : Prop := ∃ e, table (hash k) = some e ∧ key e ≠ k

/-- The entry of a key, for each key that has one. -/
def view [DecidableEq κ] (table : η → Option ε) (k : κ) : Option ε :=
  (table (hash k)).filter fun e => key e = k

variable {hash : κ → η} {key : ε → κ} {table : η → Option ε} {k : κ}

/-- In the empty table nothing is in the wrong place. -/
theorem wellKeyed_empty : WellKeyed hash key fun _ => none :=
  fun _ _ h => absurd h.symm (Option.some_ne_none _)

/-- An entry may be put where its key belongs. -/
theorem WellKeyed.update [DecidableEq η] {entry : Option ε} (h : WellKeyed hash key table)
    (hentry : ∀ e, entry = some e → hash (key e) = hash k) :
    WellKeyed hash key (Function.update table (hash k) entry) := by
  intro h' e he
  by_cases hk : h' = hash k
  · rw [hk, Function.update_self] at he
    rw [hk]
    exact hentry e he
  · rw [Function.update_of_ne hk] at he
    exact h h' e he

/-- Entries may be taken out. -/
theorem WellKeyed.filter {p : ε → Bool} (h : WellKeyed hash key table) :
    WellKeyed hash key fun h' => (table h').filter p := by
  intro h' e he
  exact h h' e (Option.filter_eq_some_iff.mp he).1

section
variable [DecidableEq κ]

/-- A key has an entry when the entry in its place is its own. -/
theorem view_eq_some_iff {e : ε} :
    view hash key table k = some e ↔ table (hash k) = some e ∧ key e = k := by
  simp [view, Option.filter_eq_some_iff]

/-- A search by the hash is right exactly when it does not hit another key. -/
theorem lookup_eq_view_iff :
    table (hash k) = view hash key table k ↔ ¬ Collides hash key table k := by
  constructor
  · rintro hlookup ⟨e, he, hne⟩
    exact hne (view_eq_some_iff.mp (hlookup.symm.trans he)).2
  · intro hfree
    cases he : table (hash k) with
    | none => simp [view, he]
    | some e =>
      have hkey : key e = k := by
        by_contra hne
        exact hfree ⟨e, he, hne⟩
      exact (view_eq_some_iff.mpr ⟨he, hkey⟩).symm

/-- What depends on the entries alone does the same to the view. -/
theorem view_filter (p : ε → Bool) :
    view hash key (fun h' => (table h').filter p) = fun k => (view hash key table k).filter p := by
  funext k
  simp only [view, Option.filter_filter]
  congr 1
  funext e
  exact Bool.and_comm _ _

variable [DecidableEq η]

/-- A change at a key that does not collide is a change of that key alone. -/
theorem view_update {entry : Option ε} (hfree : ¬ Collides hash key table k)
    (hentry : ∀ e, entry = some e → key e = k) :
    view hash key (Function.update table (hash k) entry) =
      Function.update (view hash key table) k entry := by
  funext k'
  by_cases hk : k' = k
  · subst hk
    rw [Function.update_self]
    cases entry with
    | none => simp [view]
    | some e => simp [view, hentry e rfl]
  · rw [Function.update_of_ne hk]
    by_cases hhash : hash k' = hash k
    · -- What is there before and after is an entry of `k`, so none of `k'`.
      have hbefore : view hash key table k' = none := by
        rw [Option.eq_none_iff_forall_ne_some]
        intro e he
        obtain ⟨hstored, hkey⟩ := view_eq_some_iff.mp he
        rw [hhash] at hstored
        exact hfree ⟨e, hstored, fun h => hk (hkey.symm.trans h)⟩
      have hafter : view hash key (Function.update table (hash k) entry) k' = none := by
        rw [Option.eq_none_iff_forall_ne_some]
        intro e he
        obtain ⟨hstored, hkey⟩ := view_eq_some_iff.mp he
        rw [hhash, Function.update_self] at hstored
        exact hk (hkey.symm.trans (hentry e hstored))
      rw [hbefore, hafter]
    · -- A key of another hash has its entry elsewhere.
      rw [view, Function.update_of_ne hhash, view]

/-- A change at a key that collides is a change of that key alone only when it changes nothing, and
the key is to have no entry. -/
theorem eq_of_view_update_of_collides {entry entry' : Option ε} (h : WellKeyed hash key table)
    (hcollides : Collides hash key table k)
    (hview : view hash key (Function.update table (hash k) entry) =
      Function.update (view hash key table) k entry') :
    entry = table (hash k) ∧ entry' = none := by
  obtain ⟨other, hother, hne⟩ := hcollides
  have hhash : hash (key other) = hash k := h _ _ hother
  -- The other key keeps its entry.
  have hat : view hash key table (key other) = some other :=
    view_eq_some_iff.mpr ⟨hhash ▸ hother, rfl⟩
  have hkept := congrFun hview (key other)
  rw [Function.update_of_ne hne, hat, view_eq_some_iff, hhash, Function.update_self] at hkept
  refine ⟨hkept.1.trans hother.symm, ?_⟩
  -- So it is what a search for `k` hits, and `k` has none.
  have hself := congrFun hview k
  rw [Function.update_self] at hself
  rw [← hself, Option.eq_none_iff_forall_ne_some]
  intro e he
  rw [view_eq_some_iff, Function.update_self, hkept.1] at he
  exact hne (Option.some.inj he.1 ▸ he.2)

end

/-! ### Tables that are association lists -/

section
variable [DecidableEq η]

/-- To insert is to update one place. -/
theorem lookup_insert_eq_update (h : η) (e : ε) (entries : AList fun _ : η => ε) :
    (fun h' => (entries.insert h e).lookup h') =
      Function.update (fun h' => entries.lookup h') h (some e) := by
  funext h'
  by_cases hh : h' = h
  · rw [hh, AList.lookup_insert, Function.update_self]
  · rw [AList.lookup_insert_ne hh, Function.update_of_ne hh]

/-- To erase is to update one place. -/
theorem lookup_erase_eq_update (h : η) (entries : AList fun _ : η => ε) :
    (fun h' => (entries.erase h).lookup h') =
      Function.update (fun h' => entries.lookup h') h none := by
  funext h'
  by_cases hh : h' = h
  · rw [hh, AList.lookup_erase, Function.update_self]
  · rw [AList.lookup_erase_ne hh, Function.update_of_ne hh]

/-- Keeps the entries that meet `p`. -/
def filter (p : ε → Bool) (entries : AList fun _ : η => ε) : AList fun _ : η => ε where
  entries := entries.entries.filter fun entry => p entry.2
  nodupKeys := entries.nodupKeys.sublist List.filter_sublist

/-- To filter is to filter each place. -/
theorem lookup_filter (p : ε → Bool) (entries : AList fun _ : η => ε) :
    (fun h => (filter p entries).lookup h) = fun h => (entries.lookup h).filter p := by
  funext h
  ext e
  show e ∈ (filter p entries).lookup h ↔ e ∈ (entries.lookup h).filter p
  rw [AList.mem_lookup_iff, Option.mem_filter_iff, AList.mem_lookup_iff]
  exact List.mem_filter

end

end CrossFlow.Lib.HashedMap
