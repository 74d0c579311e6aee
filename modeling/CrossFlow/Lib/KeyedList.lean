import Mathlib.Data.List.Nodup

/-!
# `CrossFlow.Lib.KeyedList`: lists searched by a key

A list of entries that is searched from the front for the first entry with a given key. The entry
found can be changed in place (`modify`), entries are appended, and all entries of a key can be
removed (`erase`). The lemmas say what each of these does to `find`, at the key concerned and at
every other key, and that none of them makes a key come twice.
-/

set_option autoImplicit false

namespace CrossFlow.Lib.KeyedList

variable {κ α : Type} [DecidableEq κ] (key : α → κ)

/-- The first entry with the key `k`. -/
def find (k : κ) (entries : List α) : Option α := entries.find? fun x => key x = k

/-- Changes the first entry with the key `k`. -/
def modify (k : κ) (f : α → α) : List α → List α
  | [] => []
  | x :: entries => if key x = k then f x :: entries else x :: modify k f entries

/-- Removes every entry with the key `k`. -/
def erase (k : κ) (entries : List α) : List α := entries.filter fun x => key x ≠ k

variable {k k' : κ} {f : α → α}

/-- Nothing is found in no entries. -/
@[simp] theorem find_nil : find key k [] = none := rfl

/-- The first entry with the key is found. -/
theorem find_cons (x : α) (entries : List α) :
    find key k (x :: entries) = if key x = k then some x else find key k entries := by
  by_cases h : key x = k <;> simp [find, h]

variable {key} in
/-- What is found has the key. -/
theorem key_of_find {entries : List α} {x : α} (h : find key k entries = some x) : key x = k := by
  simpa using List.find?_some h

/-- The entry that is changed is found as changed. -/
theorem find_modify_self (hf : ∀ x, key x = k → key (f x) = k) (entries : List α) :
    find key k (modify key k f entries) = (find key k entries).map f := by
  induction entries with
  | nil => rfl
  | cons x entries ih =>
    by_cases h : key x = k
    · simp [modify, find_cons, h, hf x h]
    · simp [modify, find_cons, h, ih]

/-- The other entries are found as before. -/
theorem find_modify_ne (hf : ∀ x, key x = k → key (f x) = k) (hne : k' ≠ k) (entries : List α) :
    find key k' (modify key k f entries) = find key k' entries := by
  induction entries with
  | nil => rfl
  | cons x entries ih =>
    -- The entry changed has the key `k` before and after, so the search for `k'` passes it.
    by_cases h : key x = k
    · have hx : key x ≠ k' := fun h' => hne (h'.symm.trans h)
      have hfx : key (f x) ≠ k' := fun h' => hne (h'.symm.trans (hf x h))
      simp [modify, find_cons, h, hfx, h ▸ hx]
    · simp [modify, find_cons, h, ih]

/-- A new entry is found under its key. -/
theorem find_append_self {entries : List α} {y : α} (hy : key y = k)
    (h : find key k entries = none) : find key k (entries ++ [y]) = some y := by
  rw [find, List.find?_append, ← find, h, Option.none_or]
  simp [hy]

/-- Nothing is changed when no entry has the key. -/
theorem modify_of_not_mem {entries : List α} (h : ∀ x ∈ entries, key x ≠ k) :
    modify key k f entries = entries := by
  induction entries with
  | nil => rfl
  | cons x entries ih =>
    rw [modify, if_neg (h x List.mem_cons_self), ih fun y hy => h y (List.mem_cons_of_mem x hy)]

/-- No key is changed. -/
theorem map_key_modify (hf : ∀ x, key x = k → key (f x) = k) (entries : List α) :
    (modify key k f entries).map key = entries.map key := by
  induction entries with
  | nil => rfl
  | cons x entries ih =>
    by_cases h : key x = k
    · simp [modify, h, hf x h]
    · simp [modify, h, ih]

/-- Where no key comes twice, the search for the key of an entry finds it. -/
theorem find_of_mem {entries : List α} (hnodup : (entries.map key).Nodup) {x : α}
    (hx : x ∈ entries) : find key (key x) entries = some x := by
  induction entries with
  | nil => exact absurd hx List.not_mem_nil
  | cons y entries ih =>
    rw [List.map_cons, List.nodup_cons] at hnodup
    rw [find_cons]
    rcases List.mem_cons.mp hx with rfl | hx
    · exact if_pos rfl
    · have hne : key y ≠ key x := fun h => hnodup.1 (h ▸ List.mem_map_of_mem hx)
      rw [if_neg hne, ih hnodup.2 hx]

/-! ### The keys -/

/-- Nothing is found just when no entry has the key. -/
theorem find_eq_none_iff {entries : List α} : find key k entries = none ↔ k ∉ entries.map key := by
  simp [find, List.find?_eq_none]

/-- A key that is changed in place is no new one. -/
theorem nodup_modify (hf : ∀ x, key x = k → key (f x) = k) {entries : List α}
    (h : (entries.map key).Nodup) : ((modify key k f entries).map key).Nodup := by
  rw [map_key_modify key hf]
  exact h

/-- An entry is appended under a key that was not there. -/
theorem nodup_append {entries : List α} (h : (entries.map key).Nodup) {y : α}
    (hfind : find key (key y) entries = none) : ((entries ++ [y]).map key).Nodup := by
  rw [List.map_append, List.map_singleton, List.nodup_append]
  refine ⟨h, List.nodup_singleton _, ?_⟩
  intro k hk k' hk' heq
  rw [List.mem_singleton.mp hk'] at heq
  exact (find_eq_none_iff key).mp hfind (heq ▸ hk)

/-- No key is there twice after one is erased. -/
theorem nodup_erase {entries : List α} (h : (entries.map key).Nodup) :
    ((erase key k entries).map key).Nodup := h.sublist (List.filter_sublist.map key)

/-! ### Other keys -/

/-- The other keys are found as before a new entry. -/
theorem find_append_ne {entries : List α} {y : α} (hne : key y ≠ k) :
    find key k (entries ++ [y]) = find key k entries := by
  rw [find, List.find?_append, ← find]
  simp [hne]

/-- What is erased is not found. -/
theorem find_erase_self (entries : List α) : find key k (erase key k entries) = none := by
  rw [find, List.find?_eq_none]
  intro x hx
  simpa using (List.mem_filter.mp hx).2

/-- The other keys are found as before. -/
theorem find_erase_ne (hne : k' ≠ k) (entries : List α) :
    find key k' (erase key k entries) = find key k' entries := by
  induction entries with
  | nil => rfl
  | cons x entries ih =>
    -- An entry that is removed has the key `k`, so the search for `k'` passed it.
    by_cases h : key x = k
    · have hx : key x ≠ k' := fun h' => hne (h'.symm.trans h)
      rw [erase, List.filter_cons_of_neg (by simp [h]), ← erase, ih, find_cons, if_neg hx]
    · rw [erase, List.filter_cons_of_pos (by simp [h]), ← erase, find_cons, ih, find_cons]

end CrossFlow.Lib.KeyedList
