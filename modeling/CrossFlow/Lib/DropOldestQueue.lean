import CrossFlow.Lib.Machine

/-!
# `CrossFlow.Lib.DropOldestQueue`: a bounded queue that drops its oldest item

A full queue makes room for a new item by evicting the oldest one. The reader notices what was
evicted when it takes the next item: until then the items count as `unskipped`.

* `account_run`: the items put in are those taken, those evicted and those left.
-/

set_option autoImplicit false

namespace CrossFlow.Lib

/-- At most `n` items, oldest first. -/
structure DropOldestQueue (α : Type) (n : Nat) where
  items : List α
  bounded : items.length ≤ n
  evicted : Nat
  /-- Evicted since the last `pop`. -/
  unskipped : Nat

/-- The calls of a queue. -/
inductive QueueCall (α : Type) where
  | push (x : α)
  | pop

namespace DropOldestQueue

variable {α : Type} {n : Nat}

/-- Two queues with the same items and counts are one. -/
@[ext] theorem ext {q q' : DropOldestQueue α n} (hitems : q.items = q'.items)
    (hevicted : q.evicted = q'.evicted) (hunskipped : q.unskipped = q'.unskipped) : q = q' := by
  obtain ⟨items, bounded, evicted, unskipped⟩ := q
  cases hitems
  cases hevicted
  cases hunskipped
  rfl

/-- No items. -/
def empty : DropOldestQueue α n where
  items := []
  bounded := Nat.zero_le n
  evicted := 0
  unskipped := 0

/-- How many items a `push` evicts. -/
def excess (q : DropOldestQueue α n) : Nat := q.items.length + 1 - n

/-- The item goes to the end, and the oldest ones go when there are too many. -/
def push (q : DropOldestQueue α n) (x : α) : DropOldestQueue α n where
  items := (q.items ++ [x]).drop q.excess
  bounded := by
    rw [List.length_drop, List.length_append, List.length_singleton, excess]
    omega
  evicted := q.evicted + q.excess
  unskipped := q.unskipped + q.excess

/-- The oldest item goes, if there is one. -/
def pop (q : DropOldestQueue α n) : DropOldestQueue α n where
  items := q.items.tail
  bounded := by
    rw [List.length_tail]
    exact Nat.le_trans (Nat.sub_le _ _) q.bounded
  evicted := q.evicted
  unskipped := 0

/-- One call. -/
def step (q : DropOldestQueue α n) : QueueCall α → DropOldestQueue α n
  | .push x => q.push x
  | .pop => q.pop

/-- What a call returns: a `pop`, the oldest item. -/
def returned (q : DropOldestQueue α n) : QueueCall α → List (Option α)
  | .push _ => []
  | .pop => [q.items.head?]

end DropOldestQueue

/-- A queue, in any order of its calls. -/
def queueMachine (α : Type) (n : Nat) : Machine (DropOldestQueue α n) (QueueCall α) where
  init := .empty
  step := DropOldestQueue.step

/-- How many items the calls put in. -/
def pushes {α : Type} (calls : List (QueueCall α)) : Nat :=
  calls.countP fun
    | .push _ => true
    | .pop => false

/-- How many of the returned values are items. -/
def taken {α : Type} (returned : List (Option α)) : Nat := returned.countP Option.isSome

namespace DropOldestQueue

variable {α : Type} {n : Nat}

/-- Every item that was put in was taken or evicted, or is still there. -/
theorem account_run (q : DropOldestQueue α n) (calls : List (QueueCall α)) :
    pushes calls + q.evicted + q.items.length =
      taken ((queueMachine α n).outputs returned q calls) +
        ((queueMachine α n).runFrom q calls).evicted +
        ((queueMachine α n).runFrom q calls).items.length := by
  induction calls generalizing q with
  | nil => simp [pushes, taken, Machine.outputs]
  | cons call calls ih =>
    have hrest := ih ((queueMachine α n).step q call)
    rw [Machine.runFrom_cons, Machine.outputs, taken, List.countP_append, ← taken, ← taken]
    -- One call balances by itself, and the others by the induction.
    have hfirst : pushes (call :: calls) + q.evicted + q.items.length =
        pushes calls + taken (q.returned call) + ((queueMachine α n).step q call).evicted +
          ((queueMachine α n).step q call).items.length := by
      have hbounded := q.bounded
      cases call with
      | push x =>
        simp [pushes, taken, returned, queueMachine, step, push, excess]
        omega
      | pop =>
        cases hitems : q.items with
        | nil => simp [pushes, taken, returned, queueMachine, step, pop, hitems]
        | cons x items =>
          simp [pushes, taken, returned, queueMachine, step, pop, hitems]
          omega
    omega

end DropOldestQueue

end CrossFlow.Lib
