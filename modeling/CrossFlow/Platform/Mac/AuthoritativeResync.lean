import CrossFlow.Core.Common.Domain

/-!
# `CrossFlow.Platform.Mac.AuthoritativeResync`: resynchronization after a saturation

The model of `platform/mac/authoritative_resync.hpp` and `.cpp`: the shared atomics, and the two
calls the capture thread makes, one atomic access a step. The modifier keys that the operating
system reports to `queryGroundTruthModifiers` are an argument of the step.
-/

set_option autoImplicit false

namespace CrossFlow

/-- How far a synchronisation has come. -/
inductive ResyncState where
  | Idle
  | Resynchronizing
  | RecoveryPending
  | Recovered
  deriving DecidableEq

/-- The state of the synchronisation, and what was read as the truth. -/
structure AuthoritativeResync where
  state : ResyncState
  groundTruthModifiers : ModifierState
  bitmapStale : Bool
  resyncCount : Nat

/-- Where a `resynchronize` call stands. -/
inductive ResyncPc where
  /-- `state_.store(Resynchronizing)` -/
  | storeResynchronizing
  /-- `queryGroundTruthModifiers()` -/
  | queryGroundTruth
  /-- `groundTruthModifiers_.store(groundTruth)` -/
  | storeGroundTruth (groundTruth : ModifierState)
  /-- `bitmapStale_.store(true)` -/
  | storeBitmapStale (groundTruth : ModifierState)
  /-- `resyncCount_.fetch_add(1)` -/
  | countResync (groundTruth : ModifierState)
  /-- `state_.store(RecoveryPending)`, then `return groundTruth` -/
  | storeRecoveryPending (groundTruth : ModifierState)

/-- Where a `confirmRecovery` call stands. -/
inductive ConfirmPc where
  /-- `current = state_.load()` -/
  | loadState
  /-- `bitmapStale_.store(false)` -/
  | storeBitmapFresh
  /-- `state_.store(Recovered)`, then `return true` -/
  | storeRecovered

namespace AuthoritativeResync

/-- Nothing was synchronised yet. -/
def init : AuthoritativeResync where
  state := .Idle
  groundTruthModifiers := { shift := false, ctrl := false, alt := false, cmd := false, fn := false }
  bitmapStale := false
  resyncCount := 0

/-- One access of `resynchronize`, with its return value once the call is over. -/
def stepResync (r : AuthoritativeResync) (osModifiers : ModifierState) :
    ResyncPc → AuthoritativeResync × (ResyncPc ⊕ ModifierState)
  | .storeResynchronizing => ({ r with state := .Resynchronizing }, .inl .queryGroundTruth)
  | .queryGroundTruth => (r, .inl (.storeGroundTruth osModifiers))
  | .storeGroundTruth groundTruth =>
    ({ r with groundTruthModifiers := groundTruth }, .inl (.storeBitmapStale groundTruth))
  | .storeBitmapStale groundTruth =>
    ({ r with bitmapStale := true }, .inl (.countResync groundTruth))
  | .countResync groundTruth =>
    ({ r with resyncCount := r.resyncCount + 1 }, .inl (.storeRecoveryPending groundTruth))
  | .storeRecoveryPending groundTruth => ({ r with state := .RecoveryPending }, .inr groundTruth)

/-- One access of `confirmRecovery`, with its return value once the call is over. -/
def stepConfirm (r : AuthoritativeResync) : ConfirmPc → AuthoritativeResync × (ConfirmPc ⊕ Bool)
  | .loadState =>
    if r.state ≠ .RecoveryPending then (r, .inr false) else (r, .inl .storeBitmapFresh)
  | .storeBitmapFresh => ({ r with bitmapStale := false }, .inl .storeRecovered)
  | .storeRecovered => ({ r with state := .Recovered }, .inr true)

end AuthoritativeResync

end CrossFlow
