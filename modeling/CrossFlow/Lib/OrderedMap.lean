import CrossFlow.Lib.KeyedList
import Mathlib.Logic.Function.Basic

/-!
# `CrossFlow.Lib.OrderedMap`: a map that keeps the order of its keys

What a list searched by a key stands for: a value for each key that is there, and the keys in the
order in which they came. A key that is set again stays where it is, and one that was removed comes
last when it is set again.

* `ofList_append`, `ofList_replace`, `ofList_modify`, `ofList_erase`: what the operations on a keyed
  list do to its map.
* `values_ofList`: the map has the whole list, when no key is there twice.
-/

set_option autoImplicit false

namespace CrossFlow.Lib

/-- A finite map with an order of its keys. -/
@[ext]
structure OrderedMap (κ α : Type) where
  order : List κ
  entry : κ → Option α

namespace OrderedMap

variable {κ α : Type} [DecidableEq κ]

/-- No keys. -/
def empty : OrderedMap κ α where
  order := []
  entry _ := none

/-- The key keeps its place if it has one, and gets the last one if not. -/
def set (m : OrderedMap κ α) (k : κ) (x : α) : OrderedMap κ α where
  order := if (m.entry k).isSome then m.order else m.order ++ [k]
  entry := Function.update m.entry k (some x)

/-- The entry of a key is changed, if there is one. -/
def modify (m : OrderedMap κ α) (k : κ) (f : α → α) : OrderedMap κ α where
  order := m.order
  entry := Function.update m.entry k ((m.entry k).map f)

/-- The key goes. -/
def remove (m : OrderedMap κ α) (k : κ) : OrderedMap κ α where
  order := m.order.filter fun k' => k' ≠ k
  entry := Function.update m.entry k none

/-- A key that is there keeps its place. -/
theorem set_of_there {m : OrderedMap κ α} {k : κ} {x y : α} (h : m.entry k = some y) :
    m.set k x = { order := m.order, entry := Function.update m.entry k (some x) } := by
  simp [set, h]

/-- The values, in the order of their keys. -/
def values (m : OrderedMap κ α) : List α := m.order.filterMap m.entry

/-- Each key that is there is there once, with a value. -/
structure WellFormed (m : OrderedMap κ α) : Prop where
  nodup : m.order.Nodup
  mem_iff : ∀ k, k ∈ m.order ↔ (m.entry k).isSome = true

/-! ### The map of a keyed list -/

section OfList

variable (key : α → κ)

/-- The map that a list of entries with their keys stands for. -/
def ofList (entries : List α) : OrderedMap κ α where
  order := entries.map key
  entry k := KeyedList.find key k entries

/-- When no key is in the list twice it stands for a map. -/
theorem wellFormed_ofList {entries : List α} (h : (entries.map key).Nodup) :
    (ofList key entries).WellFormed where
  nodup := h
  mem_iff k := by
    rw [← not_iff_not, Bool.not_eq_true, Option.isSome_eq_false_iff, Option.isNone_iff_eq_none]
    exact (KeyedList.find_eq_none_iff key).symm

/-- The values of the map are the list. -/
theorem values_ofList {entries : List α} (h : (entries.map key).Nodup) :
    (ofList key entries).values = entries := by
  have hfind : ∀ x ∈ entries, KeyedList.find key (key x) entries = some x :=
    fun x hx => KeyedList.find_of_mem key h hx
  rw [values, ofList, List.filterMap_map]
  calc entries.filterMap ((fun k => KeyedList.find key k entries) ∘ key)
      = entries.filterMap some := List.filterMap_congr hfind
    _ = entries := List.filterMap_some

variable {key} {k : κ} {x : α}

/-- A new key gets the last place. -/
theorem ofList_append (hx : key x = k) {entries : List α}
    (h : KeyedList.find key k entries = none) :
    ofList key (entries ++ [x]) = (ofList key entries).set k x := by
  refine OrderedMap.ext ?_ (funext fun k' => ?_)
  · show (entries ++ [x]).map key =
      if (KeyedList.find key k entries).isSome then entries.map key else entries.map key ++ [k]
    rw [h, if_neg (by simp), List.map_append, List.map_singleton, hx]
  · show KeyedList.find key k' (entries ++ [x]) =
      Function.update (fun k => KeyedList.find key k entries) k (some x) k'
    by_cases hk : k' = k
    · -- The key was not there, so it is found at the end.
      rw [hk, Function.update_self]
      exact KeyedList.find_append_self key hx h
    · rw [Function.update_of_ne hk]
      exact KeyedList.find_append_ne key fun h => hk (h.symm.trans hx)

/-- To change an entry of the list is to change that of the map. -/
theorem ofList_modify {f : α → α} (hf : ∀ x, key x = k → key (f x) = k) (entries : List α) :
    ofList key (KeyedList.modify key k f entries) = (ofList key entries).modify k f := by
  refine OrderedMap.ext (KeyedList.map_key_modify key hf entries) (funext fun k' => ?_)
  show KeyedList.find key k' (KeyedList.modify key k f entries) =
    Function.update (fun k => KeyedList.find key k entries) k
      ((KeyedList.find key k entries).map f) k'
  by_cases hk : k' = k
  · rw [hk, Function.update_self]
    exact KeyedList.find_modify_self key hf entries
  · rw [Function.update_of_ne hk]
    exact KeyedList.find_modify_ne key hf hk entries

/-- An entry of the key is replaced where it stands. -/
theorem ofList_replace (hx : key x = k) {entries : List α} {y : α}
    (h : KeyedList.find key k entries = some y) :
    ofList key (KeyedList.modify key k (fun _ => x) entries) = (ofList key entries).set k x := by
  have hthere : (ofList key entries).entry k = some y := h
  rw [ofList_modify fun _ _ => hx, set_of_there hthere, modify, hthere]
  rfl

/-- To erase a key of the list is to remove it from the map. -/
theorem ofList_erase (entries : List α) :
    ofList key (KeyedList.erase key k entries) = (ofList key entries).remove k := by
  refine OrderedMap.ext ?_ (funext fun k' => ?_)
  · show (entries.filter fun x => key x ≠ k).map key = (entries.map key).filter fun k' => k' ≠ k
    rw [List.filter_map]
    rfl
  · show KeyedList.find key k' (KeyedList.erase key k entries) =
      Function.update (fun k => KeyedList.find key k entries) k none k'
    by_cases hk : k' = k
    · rw [hk, Function.update_self]
      exact KeyedList.find_erase_self key entries
    · rw [Function.update_of_ne hk]
      exact KeyedList.find_erase_ne key hk entries

end OfList

end OrderedMap

end CrossFlow.Lib
