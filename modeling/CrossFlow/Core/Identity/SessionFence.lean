import CrossFlow.Core.Common.Domain
import CrossFlow.Lib.Machine

/-!
# `CrossFlow.Core.Identity.SessionFence`: the session a node is in

The model of `s06_identity/session_fence.hpp` and `.cpp`, without the two functions that sort the
control messages.
-/

set_option autoImplicit false

namespace CrossFlow

open Lib (Machine)

/-- The session of this node. -/
structure SessionFenceImpl where
  fence : SessionFence
  deriving DecidableEq

namespace SessionFenceImpl

/-- The constructor with a `localNodeId`. -/
def init (localNodeId : NodeId) : SessionFenceImpl where
  fence := .newSession localNodeId

/-- The verdict on a message: first the node, then the instance, then the epoch. -/
def checkIncoming (f : SessionFenceImpl) (nodeId : NodeId) (epoch : SessionEpoch)
    (instanceId : SessionInstanceId) : SessionFenceVerdict :=
  if nodeId.isNull then .UnknownNode
  else if nodeId ≠ f.fence.nodeId then .UnknownNode
  else if instanceId.nodeId = nodeId ∧ instanceId.createdAt ≠ f.fence.instanceId.createdAt ∧
      instanceId.isActive then .InstanceConflict
  else if !epoch.isMonotonicAfter f.fence.epoch ∧ epoch.value ≠ f.fence.epoch.value then .StaleEpoch
  else .Accept

/-- The next epoch, with an instance that was created one later. -/
def startNewSession (f : SessionFenceImpl) : SessionFenceImpl × Option ErrorCode :=
  ({ fence :=
      { f.fence with
        epoch := f.fence.epoch.increment
        instanceId :=
          { nodeId := f.fence.nodeId
            createdAt := f.fence.instanceId.createdAt + 1
            isActive := true } } }, none)

/-- The epoch is replaced, by a later one only. -/
def updateEpoch (f : SessionFenceImpl) (newEpoch : SessionEpoch) :
    SessionFenceImpl × Option ErrorCode :=
  if !newEpoch.isMonotonicAfter f.fence.epoch then (f, some .SessStaleEpoch)
  else ({ fence := { f.fence with epoch := newEpoch } }, none)

end SessionFenceImpl

/-! ### Runs -/

/-- The calls that change a fence. -/
inductive SessionCall where
  | startNewSession
  | updateEpoch (newEpoch : SessionEpoch)

/-- One call. -/
def SessionFenceImpl.step (f : SessionFenceImpl) : SessionCall → SessionFenceImpl
  | .startNewSession => f.startNewSession.1
  | .updateEpoch newEpoch => (f.updateEpoch newEpoch).1

/-- A fence, in any order of these calls. -/
def sessionFenceMachine (start : SessionFenceImpl) : Machine SessionFenceImpl SessionCall where
  init := start
  step := SessionFenceImpl.step

end CrossFlow
