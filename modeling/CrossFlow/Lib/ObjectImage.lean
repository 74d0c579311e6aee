import Mathlib.Data.List.Basic
import Mathlib.Logic.Encodable.Basic
import Mathlib.Logic.Equiv.List

/-!
# `CrossFlow.Lib.ObjectImage`: objects in memory, with the blocks they own

An object is a fixed number of words. A container member (a string, a vector) takes two of them:
the address of the block that holds its elements, and their number. A `Layout` of a type says how a
value is written and read in this form, and carries the proofs that the two agree. `place` gives
the address of the block of each container, by the path from the whole object to it.

What a `Layout` promises:

* `length_write`: every value takes `size` words.
* `read_write`: a value is read back in a heap that holds its blocks.
* `write_eq_iff`: the words of a value show the addresses of the containers it holds directly, and
  no others.
* `blocks_eq_nil`, `read_foreign`: in a heap without the blocks a value is read back when all its
  containers are empty, and cannot be read when one is not.

`reads_everywhere_iff` and `write_const_iff` are what this means for copying the words of a value
from one process to another.

Layouts of structures, optionals, vectors and variants are built with `prod`, `iso`, `optional`,
`vector` and `variant`.
-/

set_option autoImplicit false

namespace CrossFlow.Lib

/-- The members and indices that lead from an object to a container in it. -/
abbrev Path := List Nat

/-- An object in memory, word by word. -/
abbrev Image := List Nat

/-- The contents of the allocated blocks, by address. -/
abbrev Heap := Nat → Option Image

/-- The heap of a process that has allocated none of the blocks. -/
def Heap.empty : Heap := fun _ => none

/-- The blocks are where they should be. -/
def Heap.Holds (heap : Heap) (blocks : List (Nat × Image)) : Prop :=
  ∀ b ∈ blocks, heap b.1 = some b.2

/-- An allocation: no two blocks have one address, unless it is the null address. -/
structure Placement where
  address : Path → Nat
  separate : ∀ p q, address p = address q → address p = 0 ∨ p = q

/-- An allocation whose blocks start above `n`. -/
def Placement.above (n : Nat) : Placement where
  address p := n + 1 + Encodable.encode p
  separate _ _ h := .inr (Encodable.encode_injective (Nat.add_left_cancel h))

/-- Two lists of blocks are held when each is. -/
theorem Heap.holds_append {heap : Heap} {bs bs' : List (Nat × Image)} :
    heap.Holds (bs ++ bs') ↔ heap.Holds bs ∧ heap.Holds bs' :=
  List.forall_mem_append

/-- No blocks are held everywhere. -/
theorem Heap.holds_nil (heap : Heap) : heap.Holds [] := by simp [Heap.Holds]

/-- How the values of a type lie in memory. -/
structure Layout (α : Type) where
  size : Nat
  write : (Path → Nat) → α → Image
  /-- The blocks the value owns, at any depth. -/
  blocks : (Path → Nat) → α → List (Nat × Image)
  /-- Reads one value off the front of the words. -/
  read : Heap → Image → Option (α × Image)
  /-- The containers held directly, with the numbers of their elements. -/
  containers : α → List (Path × Nat)
  length_write : ∀ place x, (write place x).length = size
  read_write : ∀ heap place x rest, heap.Holds (blocks place x) →
    read heap (write place x ++ rest) = some (x, rest)
  write_eq_iff : ∀ place place' x,
    write place x = write place' x ↔ ∀ c ∈ containers x, place c.1 = place' c.1
  blocks_eq_nil : ∀ place x, (∀ c ∈ containers x, c.2 = 0) → blocks place x = []
  read_foreign : ∀ place x rest, (∃ c ∈ containers x, c.2 ≠ 0) →
    read Heap.empty (write place x ++ rest) = none

namespace Layout

variable {α β ι : Type}

/-- A value whose containers are all empty is read back in any heap. -/
theorem read_of_empty (L : Layout α) (heap : Heap) (place : Path → Nat) (x : α) (rest : Image)
    (hx : ∀ c ∈ L.containers x, c.2 = 0) : L.read heap (L.write place x ++ rest) = some (x, rest) :=
  L.read_write heap place x rest (by rw [L.blocks_eq_nil place x hx]; exact heap.holds_nil)

/-- The words of a value determine it in every process exactly when its containers are empty. -/
theorem reads_everywhere_iff (L : Layout α) (x : α) :
    (∀ (place : Placement) (heap : Heap),
      (L.read heap (L.write place.address x)).map Prod.fst = some x) ↔
        ∀ c ∈ L.containers x, c.2 = 0 := by
  constructor
  · intro hreads
    by_contra hne
    push Not at hne
    -- A process without any of the blocks cannot read a container that has elements.
    have hnone := L.read_foreign (Placement.above 0).address x [] hne
    have hread := hreads (.above 0) Heap.empty
    rw [List.append_nil] at hnone
    rw [hnone] at hread
    exact Option.some_ne_none _ hread.symm
  · intro hx place heap
    have hread := L.read_of_empty heap place.address x [] hx
    rw [List.append_nil] at hread
    rw [hread, Option.map_some]

/-- The words of a value are the same for every allocation exactly when it holds no container. -/
theorem write_const_iff (L : Layout α) (x : α) :
    (∀ place place' : Placement, L.write place.address x = L.write place'.address x) ↔
      L.containers x = [] := by
  constructor
  · intro hconst
    rw [List.eq_nil_iff_forall_not_mem]
    intro c hc
    -- Two allocations that differ in every address.
    have hshift := (L.write_eq_iff _ _ x).mp (hconst (.above 0) (.above 1)) c hc
    simp only [Placement.above] at hshift
    omega
  · intro hnil place place'
    rw [L.write_eq_iff, hnil]
    simp

/-! ### Scalars -/

/-- A value of one word. -/
def scalar (encode : α → Nat) (decode : Nat → Option α)
    (decode_encode : ∀ x, decode (encode x) = some x) : Layout α where
  size := 1
  write _ x := [encode x]
  blocks _ _ := []
  read _
    | [] => none
    | w :: rest => (decode w).map fun x => (x, rest)
  containers _ := []
  length_write _ _ := rfl
  read_write heap place x rest _ := by
    show (decode (encode x)).map (fun x => (x, rest)) = _
    rw [decode_encode, Option.map_some]
  write_eq_iff _ _ _ := by simp
  blocks_eq_nil _ _ _ := rfl
  read_foreign _ _ _ h := by simp at h

/-- An enumeration, as the position in the list of its values. -/
def enum [DecidableEq α] (values : List α) (hvalues : ∀ x, x ∈ values) : Layout α :=
  scalar (fun x => values.idxOf x) (fun n => values[n]?)
    (fun x => List.getElem?_idxOf (hvalues x))

/-! ### Structures -/

/-- One member after the other. -/
def prod (A : Layout α) (B : Layout β) : Layout (α × β) where
  size := A.size + B.size
  write place x := A.write (fun p => place (0 :: p)) x.1 ++ B.write (fun p => place (1 :: p)) x.2
  blocks place x := A.blocks (fun p => place (0 :: p)) x.1 ++ B.blocks (fun p => place (1 :: p)) x.2
  read heap words := do
    let a ← A.read heap words
    let b ← B.read heap a.2
    return ((a.1, b.1), b.2)
  containers x :=
    (A.containers x.1).map (fun c => (0 :: c.1, c.2)) ++
      (B.containers x.2).map (fun c => (1 :: c.1, c.2))
  length_write place x := by rw [List.length_append, A.length_write, B.length_write]
  read_write heap place x rest hholds := by
    obtain ⟨hA, hB⟩ := Heap.holds_append.mp hholds
    simp [List.append_assoc, A.read_write heap _ _ _ hA, B.read_write heap _ _ _ hB]
  write_eq_iff place place' x := by
    have hlen : (A.write (fun p => place (0 :: p)) x.1).length =
        (A.write (fun p => place' (0 :: p)) x.1).length := by
      rw [A.length_write, A.length_write]
    have hA := A.write_eq_iff (fun p => place (0 :: p)) (fun p => place' (0 :: p)) x.1
    have hB := B.write_eq_iff (fun p => place (1 :: p)) (fun p => place' (1 :: p)) x.2
    rw [List.forall_mem_append, List.forall_mem_map, List.forall_mem_map]
    -- Both writes have `A.size` words of the first member in front.
    constructor
    · intro h
      obtain ⟨h₁, h₂⟩ := List.append_inj h hlen
      exact ⟨hA.mp h₁, hB.mp h₂⟩
    · intro h
      exact congrArg₂ (· ++ ·) (hA.mpr h.1) (hB.mpr h.2)
  blocks_eq_nil place x hx := by
    rw [List.forall_mem_append, List.forall_mem_map, List.forall_mem_map] at hx
    rw [A.blocks_eq_nil _ _ hx.1, B.blocks_eq_nil _ _ hx.2]
    rfl
  read_foreign place x rest hx := by
    rw [List.append_assoc]
    by_cases hA : ∃ c ∈ A.containers x.1, c.2 ≠ 0
    · rw [A.read_foreign _ _ _ hA]
      rfl
    · -- The first member is read, so the words left over are those of the second.
      have hB : ∃ c ∈ B.containers x.2, c.2 ≠ 0 := by
        obtain ⟨c, hc, hcount⟩ := hx
        rcases List.mem_append.mp hc with h | h
        · obtain ⟨c', hc', rfl⟩ := List.mem_map.mp h
          exact absurd ⟨c', hc', hcount⟩ hA
        · obtain ⟨c', hc', rfl⟩ := List.mem_map.mp h
          exact ⟨c', hc', hcount⟩
      push Not at hA
      rw [A.read_of_empty _ _ _ _ hA]
      simp [B.read_foreign _ _ _ hB]

/-- The same words, as the members of a structure. -/
def iso (A : Layout α) (e : β ≃ α) : Layout β where
  size := A.size
  write place x := A.write place (e x)
  blocks place x := A.blocks place (e x)
  read heap words := (A.read heap words).map fun a => (e.symm a.1, a.2)
  containers x := A.containers (e x)
  length_write place x := A.length_write place (e x)
  read_write heap place x rest hholds := by
    rw [A.read_write heap place (e x) rest hholds, Option.map_some, e.symm_apply_apply]
  write_eq_iff place place' x := A.write_eq_iff place place' (e x)
  blocks_eq_nil place x := A.blocks_eq_nil place (e x)
  read_foreign place x rest hx := by rw [A.read_foreign place (e x) rest hx, Option.map_none]

/-! ### Optionals -/

/-- A flag, then the storage of the value, which is left blank when there is none. -/
def optional (A : Layout α) : Layout (Option α) where
  size := 1 + A.size
  write place
    | none => 0 :: List.replicate A.size 0
    | some x => 1 :: A.write place x
  blocks place
    | none => []
    | some x => A.blocks place x
  read heap
    | 0 :: words => some (none, words.drop A.size)
    | 1 :: words => (A.read heap words).map fun a => (some a.1, a.2)
    -- Another byte than 0 and 1 is no `bool`.
    | _ => none
  containers
    | none => []
    | some x => A.containers x
  length_write place x := by
    cases x with
    | none => simp [Nat.add_comm]
    | some x => simp [A.length_write, Nat.add_comm]
  read_write heap place x rest hholds := by
    cases x with
    | none => simp
    | some x => simp [A.read_write heap place x rest hholds]
  write_eq_iff place place' x := by
    cases x with
    | none => simp
    | some x => simp [A.write_eq_iff place place' x]
  blocks_eq_nil place x hx := by
    cases x with
    | none => rfl
    | some x => exact A.blocks_eq_nil place x hx
  read_foreign place x rest hx := by
    cases x with
    | none => simp at hx
    | some x => simp [A.read_foreign place x rest hx]

/-! ### Containers -/

/-- The elements from index `i` on, one after the other. -/
def writeFrom (A : Layout α) (place : Path → Nat) : Nat → List α → Image
  | _, [] => []
  | i, x :: xs => A.write (fun p => place (i :: p)) x ++ writeFrom A place (i + 1) xs

/-- The blocks that the elements of a container own. -/
def blocksFrom (A : Layout α) (place : Path → Nat) : Nat → List α → List (Nat × Image)
  | _, [] => []
  | i, x :: xs => A.blocks (fun p => place (i :: p)) x ++ blocksFrom A place (i + 1) xs

/-- As many elements as were announced. -/
def readMany (A : Layout α) (heap : Heap) : Nat → Image → Option (List α)
  | 0, _ => some []
  | n + 1, words => do
    let a ← A.read heap words
    let as ← readMany A heap n a.2
    return a.1 :: as

/-- Elements that were written are read back while their blocks are there. -/
theorem readMany_writeFrom (A : Layout α) (heap : Heap) (place : Path → Nat) (i : Nat)
    (xs : List α) (hholds : heap.Holds (A.blocksFrom place i xs)) :
    A.readMany heap xs.length (A.writeFrom place i xs) = some xs := by
  induction xs generalizing i with
  | nil => rfl
  | cons x xs ih =>
    obtain ⟨hx, hxs⟩ := Heap.holds_append.mp hholds
    simp [readMany, writeFrom, A.read_write heap _ x _ hx, ih (i + 1) hxs]

/-- A container: the address of the block with its elements, and their number. An empty one may
own a block too, or none at all, so its address is never followed. -/
def vector (A : Layout α) : Layout (List α) where
  size := 2
  write place xs := [place [], xs.length]
  blocks place xs :=
    if xs = [] then [] else (place [], A.writeFrom place 0 xs) :: A.blocksFrom place 0 xs
  read heap
    | address :: count :: words =>
      if count = 0 then some ([], words)
      else (heap address).bind fun block => (A.readMany heap count block).map fun xs => (xs, words)
    | _ => none
  containers xs := [([], xs.length)]
  length_write _ _ := rfl
  read_write heap place xs rest hholds := by
    cases xs with
    | nil => rfl
    | cons x xs =>
      rw [if_neg (List.cons_ne_nil x xs)] at hholds
      have hblock := hholds _ List.mem_cons_self
      have hread := A.readMany_writeFrom heap place 0 (x :: xs)
        fun b hb => hholds b (List.mem_cons_of_mem _ hb)
      rw [List.length_cons] at hread
      simp [hblock, hread]
  write_eq_iff place place' xs := by simp
  blocks_eq_nil place xs hxs := by
    -- The only container held directly is the vector itself.
    have hlen := hxs ([], xs.length) (by simp)
    rw [if_pos (List.length_eq_zero_iff.mp hlen)]
  read_foreign place xs rest hxs := by
    -- The address is followed, and there is no block at it.
    have hlen : xs.length ≠ 0 := by simpa using hxs
    simp [Heap.empty, hlen]

/-! ### Variants -/

/-- The words of the largest alternative. -/
def maxSize {α : ι → Type} (alternatives : List ι) (alt : (i : ι) → Layout (α i)) : Nat :=
  alternatives.foldr (fun i n => max (alt i).size n) 0

/-- No alternative is larger than the largest. -/
theorem size_le_maxSize {α : ι → Type} (alternatives : List ι) (alt : (i : ι) → Layout (α i))
    {i : ι} (hi : i ∈ alternatives) : (alt i).size ≤ maxSize alternatives alt := by
  induction alternatives with
  | nil => simp at hi
  | cons j alternatives ih =>
    rcases List.mem_cons.mp hi with rfl | h
    · exact Nat.le_max_left _ _
    · exact Nat.le_trans (ih h) (Nat.le_max_right _ _)

/-- The index of the alternative, then its value, in the storage of the largest alternative. -/
def variant [DecidableEq ι] {α : ι → Type} (alternatives : List ι)
    (hall : ∀ i, i ∈ alternatives) (alt : (i : ι) → Layout (α i)) : Layout ((i : ι) × α i) where
  size := 1 + maxSize alternatives alt
  write place x :=
    alternatives.idxOf x.1 :: ((alt x.1).write place x.2 ++
      List.replicate (maxSize alternatives alt - (alt x.1).size) 0)
  blocks place x := (alt x.1).blocks place x.2
  read heap
    | index :: words => do
      let i ← alternatives[index]?
      let a ← (alt i).read heap words
      return (⟨i, a.1⟩, words.drop (maxSize alternatives alt))
    | [] => none
  containers x := (alt x.1).containers x.2
  length_write place x := by
    have hle := size_le_maxSize alternatives alt (hall x.1)
    rw [List.length_cons, List.length_append, (alt x.1).length_write, List.length_replicate]
    omega
  read_write heap place x rest hholds := by
    obtain ⟨i, x⟩ := x
    have hle := size_le_maxSize alternatives alt (hall i)
    have hindex := List.getElem?_idxOf (hall i)
    -- The alternative and its padding fill the storage.
    have hlen : ((alt i).write place x ++
        List.replicate (maxSize alternatives alt - (alt i).size) 0).length =
          maxSize alternatives alt := by
      rw [List.length_append, (alt i).length_write, List.length_replicate]
      omega
    dsimp only
    rw [List.cons_append]
    dsimp only
    rw [hindex, Option.bind_eq_bind, Option.bind_some, List.drop_left' hlen, List.append_assoc,
      (alt i).read_write heap place x _ hholds]
    rfl
  write_eq_iff place place' x := by
    rw [List.cons_inj_right, List.append_left_inj, (alt x.1).write_eq_iff]
  blocks_eq_nil place x := (alt x.1).blocks_eq_nil place x.2
  read_foreign place x rest hx := by
    obtain ⟨i, x⟩ := x
    have hindex := List.getElem?_idxOf (hall i)
    dsimp only
    rw [List.cons_append]
    dsimp only
    rw [hindex, Option.bind_eq_bind, Option.bind_some, List.append_assoc,
      (alt i).read_foreign place x _ hx]
    rfl

end Layout

end CrossFlow.Lib
