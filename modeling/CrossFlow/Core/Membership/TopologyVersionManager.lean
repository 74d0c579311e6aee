import CrossFlow.Core.Common.Domain
import CrossFlow.Lib.Machine

/-!
# `CrossFlow.Core.Membership.TopologyVersionManager`: the commit of a topology version

The model of `s09_membership/topology_version_manager.hpp` and `.cpp`. The field `coordinatorId_`
keeps its underscore, because the accessor `coordinatorId` hides it while the coordinator is
offline.
-/

set_option autoImplicit false

namespace CrossFlow

open Lib (Machine)

/-- The current version, and how far the commit of the next one has come. `localNodeId` is the node
that the manager is on. -/
structure TopologyVersionManager where
  current : TopologyVersion
  state : TopologyCommitState
  pendingProposal : Option TopologyChangeProposal
  coordinatorId_ : Option NodeId
  localNodeId : Option NodeId
  authorityNodeId : Option NodeId
  coordinatorOnline : Bool
  deriving DecidableEq

namespace TopologyVersionManager

/-- A manager that was just made, which takes its coordinator to be online. -/
def init : TopologyVersionManager where
  current := { value := 0, topologyId := [], lastCommitAt := 0, commitState := .Active }
  state := .Active
  pendingProposal := none
  coordinatorId_ := none
  localNodeId := none
  authorityNodeId := none
  coordinatorOnline := true

/-- The version that was activated last. -/
def currentVersion (m : TopologyVersionManager) : TopologyVersion := m.current

/-- Where the commit is. -/
def commitState (m : TopologyVersionManager) : TopologyCommitState := m.state

/-- This node is the authority, and the coordinator is online. -/
def isCoordinator (m : TopologyVersionManager) : Bool :=
  if !m.coordinatorOnline then false
  else
    match m.authorityNodeId, m.localNodeId with
    | some authority, some localId => authority = localId
    | _, _ => false

/-- The coordinator, as long as it is online. -/
def coordinatorId (m : TopologyVersionManager) : Option NodeId :=
  if !m.coordinatorOnline then none else m.coordinatorId_

/-- No commit may begin: there is no authority, the coordinator is offline, or it went offline
during a commit. -/
def isCommitLocked (m : TopologyVersionManager) : Bool :=
  if m.authorityNodeId.isNone then true
  else if !m.coordinatorOnline then true
  else m.state = .Locked

/-- The node that the manager is on. It may be replaced. -/
def setLocalNodeId (m : TopologyVersionManager) (nodeId : NodeId) :
    TopologyVersionManager × Option ErrorCode :=
  ({ m with localNodeId := some nodeId }, none)

/-- The first authority that is set stays. -/
def setTopologyAuthority (m : TopologyVersionManager) (authorityNodeId : NodeId) :
    TopologyVersionManager × Option ErrorCode :=
  if authorityNodeId.isNull then (m, some .SessNodeidForge)
  else if m.authorityNodeId.isSome ∧ m.authorityNodeId ≠ some authorityNodeId then
    (m, some .TopoCoordDuplicateClaim)
  else
    ({ m with
        authorityNodeId := some authorityNodeId
        coordinatorId_ := some authorityNodeId }, none)

/-- Only the authority may be the coordinator. -/
def setCoordinator (m : TopologyVersionManager) (authorityNodeId : NodeId) :
    TopologyVersionManager × Option ErrorCode :=
  match m.authorityNodeId with
  | none => (m, some .TopoCoordDuplicateClaim)
  | some authority =>
    if authority ≠ authorityNodeId then (m, some .TopoCoordDuplicateClaim)
    else ({ m with coordinatorId_ := some authorityNodeId }, none)

/-- A commit begins, at the coordinator only. -/
def proposeChange (m : TopologyVersionManager) (proposal : TopologyChangeProposal) :
    TopologyVersionManager × Option ErrorCode :=
  if m.isCommitLocked then (m, some .TopoCommitFail)
  else if !m.isCoordinator then (m, some .TopoCommitFail)
  else if m.state ≠ .Active then (m, some .TopoValidationFail)
  else ({ m with pendingProposal := some proposal, state := .Proposed }, none)

/-- `Proposed` to `Validated`. -/
def validateProposal (m : TopologyVersionManager) : TopologyVersionManager × Option ErrorCode :=
  if m.state ≠ .Proposed ∨ m.pendingProposal.isNone then (m, some .TopoValidationFail)
  else ({ m with state := .Validated }, none)

/-- `Validated` to `Prepared`. -/
def prepareCommit (m : TopologyVersionManager) : TopologyVersionManager × Option ErrorCode :=
  if m.state ≠ .Validated then (m, some .TopoValidationFail)
  else ({ m with state := .Prepared }, none)

/-- `Prepared` to `ActivationAuthorized`, at the coordinator only. -/
def authorizeActivation (m : TopologyVersionManager) : TopologyVersionManager × Option ErrorCode :=
  if m.state ≠ .Prepared then (m, some .TopoCommitFail)
  else if !m.isCoordinator then (m, some .TopoCommitFail)
  else ({ m with state := .ActivationAuthorized }, none)

/-- The version of the proposal becomes the current one. Its `commitState` is set to `Active`. -/
def activateVersion (m : TopologyVersionManager) : TopologyVersionManager × Option ErrorCode :=
  if m.state ≠ .ActivationAuthorized then (m, some .TopoCommitFail)
  else
    match m.pendingProposal with
    | some proposal =>
      ({ m with
          current := { proposal.proposedVersion with commitState := .Active }
          pendingProposal := none
          state := .Active }, none)
    | none => ({ m with state := .Active }, none)

/-- The proposal is dropped, from any state. -/
def abortCommit (m : TopologyVersionManager) : TopologyVersionManager × Option ErrorCode :=
  if m.state = .Active then (m, none)
  else ({ m with pendingProposal := none, state := .Active }, none)

/-- A commit that has begun is dropped, and the manager locked. -/
def markCoordinatorOffline (m : TopologyVersionManager) :
    TopologyVersionManager × Option ErrorCode :=
  let m := { m with coordinatorOnline := false }
  if m.state ≠ .Active then ({ m with pendingProposal := none, state := .Locked }, none)
  else (m, none)

/-- The lock is taken off. -/
def markCoordinatorOnline (m : TopologyVersionManager) :
    TopologyVersionManager × Option ErrorCode :=
  let m := { m with coordinatorOnline := true }
  if m.state = .Locked then ({ m with state := .Active }, none) else (m, none)

end TopologyVersionManager

/-! ### Runs -/

/-- The calls that change a manager. -/
inductive TopologyCall where
  | setLocalNodeId (nodeId : NodeId)
  | setTopologyAuthority (authorityNodeId : NodeId)
  | setCoordinator (authorityNodeId : NodeId)
  | proposeChange (proposal : TopologyChangeProposal)
  | validateProposal
  | prepareCommit
  | authorizeActivation
  | activateVersion
  | abortCommit
  | markCoordinatorOffline
  | markCoordinatorOnline
  deriving DecidableEq

/-- One call, and the error that it returns. -/
def TopologyVersionManager.call (m : TopologyVersionManager) :
    TopologyCall → TopologyVersionManager × Option ErrorCode
  | .setLocalNodeId nodeId => m.setLocalNodeId nodeId
  | .setTopologyAuthority authorityNodeId => m.setTopologyAuthority authorityNodeId
  | .setCoordinator authorityNodeId => m.setCoordinator authorityNodeId
  | .proposeChange proposal => m.proposeChange proposal
  | .validateProposal => m.validateProposal
  | .prepareCommit => m.prepareCommit
  | .authorizeActivation => m.authorizeActivation
  | .activateVersion => m.activateVersion
  | .abortCommit => m.abortCommit
  | .markCoordinatorOffline => m.markCoordinatorOffline
  | .markCoordinatorOnline => m.markCoordinatorOnline

/-- A manager, in any order of its calls. -/
def topologyMachine : Machine TopologyVersionManager TopologyCall where
  init := TopologyVersionManager.init
  step m c := (m.call c).1

end CrossFlow
