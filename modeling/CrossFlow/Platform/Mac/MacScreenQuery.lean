import CrossFlow.Lib.Machine
import CrossFlow.Platform.Mac.MultiDisplayMergePolicy
import CrossFlow.Platform.Mac.NativeCoordNormalizer

/-!
# `CrossFlow.Platform.Mac.MacScreenQuery`: the boundary of the screen and its cache

The model of `platform/mac/mac_screen_query.cpp`, `platform/mac/screen_boundary_cache.cpp` and of
the callback in `platform/mac/display_reconfig_listener.cpp`.

`screenQueryMachine` has a call of `primaryBoundary` for each caller, which any number of threads
make. A call takes one step for each access to what is shared: the cache and the displays. The
displays change at any moment. `displays` in its state is the answer of
`queryAllDisplaysNativeGeometry`, which is empty when the system reports an error.
-/

set_option autoImplicit false

namespace CrossFlow

open NativeCoordNormalizer (toScreenBoundary computeBoundingBox toScreenBoundaryMerged)

/-- The boundary that was published, and whether it may be out of date. -/
structure ScreenBoundaryCache where
  snapshot : Option ScreenBoundary
  reconfigPending : Bool
  deriving DecidableEq

namespace ScreenBoundaryCache

/-- Nothing was published. -/
def init : ScreenBoundaryCache where
  snapshot := none
  reconfigPending := false

/-- The boundary that was published last. -/
def getSnapshot (cache : ScreenBoundaryCache) : Option ScreenBoundary := cache.snapshot

/-- The boundary is replaced. The mark stays. -/
def publishSnapshot (cache : ScreenBoundaryCache) (newSnapshot : ScreenBoundary) :
    ScreenBoundaryCache := { cache with snapshot := some newSnapshot }

/-- The boundary may be out of date. Nothing clears the mark. -/
def setReconfigPending (cache : ScreenBoundaryCache) : ScreenBoundaryCache :=
  { cache with reconfigPending := true }

end ScreenBoundaryCache

/-- How `requeryAndNormalize` ends: with a boundary that it only returns, or with one that it
publishes first. -/
inductive Requeried where
  | unpublished (boundary : ScreenBoundary)
  | published (boundary : ScreenBoundary)
  deriving DecidableEq

/-- The boundary that the query has given. -/
def Requeried.boundary : Requeried → ScreenBoundary
  | .unpublished boundary => boundary
  | .published boundary => boundary

namespace MacScreenQuery

/-- `requeryAndNormalize` for the displays that it is given. `none` is for arithmetic that
overflows. -/
def requeryAndNormalize (policyConfig : MultiDisplayMergePolicyConfig) :
    List NativeScreenGeometry → Option Requeried
  | [] => some (.unpublished { width := 0, height := 0, originX := 0, originY := 0 })
  | display :: rest => do
    let displays := display :: rest
    let displayCount := displays.length.toUInt32
    let policy := policyConfig.loadPolicy displayCount
    if displayCount > 1 ∧ (policy = none ∨ policy = some .Unsupported) then
      return .unpublished MultiDisplayMergePolicyConfig.rejectUndeclared
    let boundary ←
      (if displayCount = 1 then some (toScreenBoundary display)
      else computeBoundingBox displays >>= toScreenBoundaryMerged)
    if boundary.isValid then return .published boundary else return .unpublished boundary

/-- The boundary of the displays, or the one that they are rejected with. -/
def boundaryOf (policyConfig : MultiDisplayMergePolicyConfig)
    (displays : List NativeScreenGeometry) : Option ScreenBoundary :=
  (requeryAndNormalize policyConfig displays).map Requeried.boundary

end MacScreenQuery

/-- The next step of a call of `primaryBoundary`. -/
inductive PrimaryBoundaryPc where
  | getSnapshot
  | query
  /-- It has queried these displays, with this outcome. -/
  | requeried (displays : List NativeScreenGeometry) (outcome : Requeried)
  deriving DecidableEq

/-- A call of `primaryBoundary`, with the flag and the displays at its start. -/
structure PrimaryBoundaryCall where
  pc : PrimaryBoundaryPc
  reconfigPending : Bool
  displays : List NativeScreenGeometry
  deriving DecidableEq

/-- A call that is over. -/
structure PrimaryBoundaryReturn where
  call : PrimaryBoundaryCall
  boundary : ScreenBoundary
  deriving DecidableEq

/-- The displays, the cache, the calls and their history: what was returned, and the displays of the
snapshot that was published last. -/
structure ScreenQueryState where
  displays : List NativeScreenGeometry
  cache : ScreenBoundaryCache
  calls : Nat → Option PrimaryBoundaryCall
  returned : List PrimaryBoundaryReturn
  published : Option (List NativeScreenGeometry)

/-- The displays change, or a thread takes a step of `primaryBoundary`. -/
inductive ScreenQueryAction where
  | changeDisplays (displays : List NativeScreenGeometry)
  | reconfigCallback
  /-- The start of a call. -/
  | primaryBoundary (caller : Nat)
  /-- The next step of a call. -/
  | step (caller : Nat)
  deriving DecidableEq

namespace ScreenQueryState

/-- Where a caller is. -/
def setCall (s : ScreenQueryState) (caller : Nat) (call : Option PrimaryBoundaryCall) :
    ScreenQueryState := { s with calls := fun id => if id = caller then call else s.calls id }

/-- The call ends and returns the boundary. -/
def return_ (s : ScreenQueryState) (caller : Nat) (call : PrimaryBoundaryCall)
    (boundary : ScreenBoundary) : ScreenQueryState :=
  { s.setCall caller none with returned := { call, boundary } :: s.returned }

/-- The snapshot of the displays goes to the cache, when there is one to publish. -/
def publish (s : ScreenQueryState) (displays : List NativeScreenGeometry) :
    Requeried → ScreenQueryState
  | .unpublished _ => s
  | .published boundary =>
    { s with cache := s.cache.publishSnapshot boundary, published := some displays }

/-- A step of a call of `primaryBoundary`. A call whose arithmetic overflows has no next step. -/
def stepCall (policyConfig : MultiDisplayMergePolicyConfig) (s : ScreenQueryState) (caller : Nat)
    (call : PrimaryBoundaryCall) : ScreenQueryState :=
  match call.pc with
  | .getSnapshot =>
    match s.cache.getSnapshot with
    | some snapshot =>
      if snapshot.isValid then s.return_ caller call snapshot
      else s.setCall caller (some { call with pc := .query })
    | none => s.setCall caller (some { call with pc := .query })
  | .query =>
    match MacScreenQuery.requeryAndNormalize policyConfig s.displays with
    | some outcome => s.setCall caller (some { call with pc := .requeried s.displays outcome })
    | none => s
  | .requeried displays outcome => (s.publish displays outcome).return_ caller call outcome.boundary

/-- One step. -/
def step (policyConfig : MultiDisplayMergePolicyConfig) (s : ScreenQueryState) :
    ScreenQueryAction → ScreenQueryState
  | .changeDisplays displays => { s with displays }
  | .reconfigCallback => { s with cache := s.cache.setReconfigPending }
  | .primaryBoundary caller =>
    match s.calls caller with
    | none =>
      s.setCall caller
        (some { pc := .getSnapshot, reconfigPending := s.cache.reconfigPending,
                displays := s.displays })
    | some _ => s
  | .step caller =>
    match s.calls caller with
    | none => s
    | some call => s.stepCall policyConfig caller call

end ScreenQueryState

/-- The machine that starts with no call, an empty cache and these displays. -/
def screenQueryMachine (policyConfig : MultiDisplayMergePolicyConfig)
    (displays : List NativeScreenGeometry) : Lib.Machine ScreenQueryState ScreenQueryAction where
  init :=
    { displays
      cache := .init
      calls := fun _ => none
      returned := []
      published := none }
  step := ScreenQueryState.step policyConfig

end CrossFlow
