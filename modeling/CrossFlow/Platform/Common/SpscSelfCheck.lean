import CrossFlow.Platform.Common.SpscCalls

/-!
# `CrossFlow.Platform.Common.SpscSelfCheck`: the ring checks itself

`validateInv1` to `validateAllInvariants` of `platform/common/spsc_ring_buffer.hpp`. Each reads
`head_` and `tail_` several times, one atomic load a step. The checks that read `head_`, `tail_` and
the drop boundary, in this order, differ in what they test then.

The consumer thread calls `validateAllInvariants` when it is not inside `tryPop`.
-/

set_option autoImplicit false

namespace CrossFlow

open SpscRingBuffer (dropBoundary)

/-! ### The tests -/

/-- `tail_` is not ahead. -/
def validateInv1 (t h : Nat) : Bool := t ≤ h

/-- No more than `Capacity` items are left. -/
def validateInv2 (cap : Capacity) (h ldb : Nat) : Bool := subU64 h ldb ≤ cap.val

/-- The boundary is where it is defined to be. -/
def validateInv6 (cap : Capacity) (h t ldb : Nat) : Bool :=
  let expected := dropBoundary cap h t
  ldb == expected

/-- The pending drops are what `head_` is too far ahead. -/
def validateInv7a (cap : Capacity) (h t ldb : Nat) : Bool :=
  let expectedPending := if t < ldb then ldb - t else 0
  let hMinusTMinusCap := if t + cap.val < h then h - t - cap.val else 0
  expectedPending == hMinusTMinusCap

/-- `tail_`, the boundary and `head_` are in order, and no more than `Capacity` items are left. -/
def validateIntervalDecomposition (cap : Capacity) (h t ldb : Nat) : Bool :=
  if ldb < t then false
  else if h < ldb then false
  else if cap.val < subU64 h ldb then false
  else true

/-- A check that reads `head_`, `tail_` and the drop boundary. -/
inductive BoundaryCheck where
  | inv6
  | inv7a
  | intervalDecomposition
  deriving DecidableEq

/-- The check, by its name. -/
def BoundaryCheck.validate (cap : Capacity) (h t ldb : Nat) : BoundaryCheck → Bool
  | .inv6 => validateInv6 cap h t ldb
  | .inv7a => validateInv7a cap h t ldb
  | .intervalDecomposition => validateIntervalDecomposition cap h t ldb

/-! ### The calls -/

/-- Where a call of `validateAllInvariants` stands: the next load it makes, with the locals of the
check it is in. -/
inductive ValidatePc where
  | idle
  /-- `tail()` in `validateInv1` -/
  | inv1Tail
  /-- `head()`, then the test -/
  | inv1Head (t : Nat)
  /-- `h = head()` in `validateInv2` -/
  | inv2Head
  /-- `head_.load()` in `logicalDropBoundaryValue` -/
  | inv2BoundaryHead (h : Nat)
  /-- `tail_.load()` there, then the test -/
  | inv2BoundaryTail (h ldbHead : Nat)
  /-- `h = head()` -/
  | head (check : BoundaryCheck)
  /-- `t = tail()` -/
  | tail (check : BoundaryCheck) (h : Nat)
  /-- `head_.load()` in `logicalDropBoundaryValue` -/
  | boundaryHead (check : BoundaryCheck) (h t : Nat)
  /-- `tail_.load()` there, then the test -/
  | boundaryTail (check : BoundaryCheck) (h t ldbHead : Nat)
  deriving DecidableEq

/-- `&&` in `validateAllInvariants`: the next check, or `return false`. -/
def ValidatePc.proceed (ok : Bool) (next : ValidatePc × Option Bool) : ValidatePc × Option Bool :=
  if ok then next else (.idle, some false)

/-- What comes after a check that succeeds. -/
def BoundaryCheck.next : BoundaryCheck → ValidatePc × Option Bool
  | .inv6 => (.head .inv7a, none)
  | .inv7a => (.head .intervalDecomposition, none)
  | .intervalDecomposition => (.idle, some true)

section
variable {T : Type} [TriviallyCopyable T] {cap : Capacity}

/-- One load of `validateAllInvariants`, with its result once it returns. -/
def ValidatePc.step (r : SpscRingBuffer T cap) : ValidatePc → ValidatePc × Option Bool
  | .idle => (.idle, none)
  | .inv1Tail => (.inv1Head r.tail, none)
  | .inv1Head t => proceed (validateInv1 t r.head) (.inv2Head, none)
  | .inv2Head => (.inv2BoundaryHead r.head, none)
  | .inv2BoundaryHead h => (.inv2BoundaryTail h r.head, none)
  | .inv2BoundaryTail h ldbHead =>
    proceed (validateInv2 cap h (dropBoundary cap ldbHead r.tail)) (.head .inv6, none)
  | .head check => (.tail check r.head, none)
  | .tail check h => (.boundaryHead check h r.tail, none)
  | .boundaryHead check h t => (.boundaryTail check h t r.head, none)
  | .boundaryTail check h t ldbHead =>
    proceed (check.validate cap h t (dropBoundary cap ldbHead r.tail)) check.next

end

/-- A channel that its consumer checks. -/
structure CheckedChannel (T : Type) [TriviallyCopyable T] (cap : Capacity) where
  channel : Channel T cap
  validator : ValidatePc
  /-- History: what the calls of `validateAllInvariants` returned. -/
  verdicts : List Bool

/-- The actions of a producer that calls `tryPushDropOldest` and a consumer that calls `tryPop` and
`validateAllInvariants`. -/
inductive CheckedAction (T : Type) where
  | callPush (item : T)
  | stepPush
  | callPop
  | stepPop
  | callValidate
  | stepValidate

namespace CheckedChannel

variable {T : Type} [TriviallyCopyable T] {cap : Capacity}

/-- A ring that was just made, with a validator that rests. -/
def init : CheckedChannel T cap where
  channel := .init
  validator := .idle
  verdicts := []

/-- The consumer calls `tryPop`, unless it is inside a call. -/
def callPop (c : CheckedChannel T cap) : CheckedChannel T cap :=
  match c.validator with
  | .idle => { c with channel := c.channel.callPop }
  | _ => c

/-- The consumer calls `validateAllInvariants`, unless it is inside a call. -/
def callValidate (c : CheckedChannel T cap) : CheckedChannel T cap :=
  match c.validator, c.channel.consumer with
  | .idle, .idle => { c with validator := .inv1Tail }
  | _, _ => c

/-- The call of `validateAllInvariants` in progress makes its next load. -/
def stepValidate (c : CheckedChannel T cap) : CheckedChannel T cap :=
  let st := c.validator.step c.channel.ring
  { c with validator := st.1, verdicts := c.verdicts ++ st.2.toList }

end CheckedChannel

/-- A producer and a consumer on one ring, in every interleaving. -/
def checkedMachine (T : Type) [TriviallyCopyable T] (cap : Capacity) :
    Lib.Machine (CheckedChannel T cap) (CheckedAction T) where
  init := .init
  step c
    | .callPush item => { c with channel := c.channel.callPush .tryPushDropOldest item }
    | .stepPush => { c with channel := c.channel.stepPush.1 }
    | .callPop => c.callPop
    | .stepPop => { c with channel := c.channel.stepPop.1 }
    | .callValidate => c.callValidate
    | .stepValidate => c.stepValidate

end CrossFlow
