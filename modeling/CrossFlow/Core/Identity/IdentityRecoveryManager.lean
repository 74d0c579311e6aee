import CrossFlow.Core.Common.Messages
import CrossFlow.Core.Identity.NodeIdentityManager
import CrossFlow.Core.Pairing.TrustedNodeList
import CrossFlow.Lib.Machine

/-!
# `CrossFlow.Core.Identity.IdentityRecoveryManager`: asking a peer who it is

The model of `s06_identity/identity_recovery_manager.hpp` and `.cpp`. The trusted-node list and the
identity manager belong to others, who change them between the calls.
-/

set_option autoImplicit false

namespace CrossFlow

/-- `IdentityRecoveryManager::RecoveryState` -/
structure IdentityRecoveryState where
  peerNodeId : NodeId
  initiatedAt : UInt64
  deriving DecidableEq

/-- The recoveries that were initiated and not answered. -/
structure IdentityRecoveryManager where
  identityMgr : NodeIdentityManager
  trustedList : TrustedNodeList
  activeRecoveries : List IdentityRecoveryState
  deriving DecidableEq

namespace IdentityRecoveryManager

/-- No recovery was initiated. -/
def init (identityMgr : NodeIdentityManager) (trustedList : TrustedNodeList) :
    IdentityRecoveryManager where
  identityMgr
  trustedList
  activeRecoveries := []

/-- The recovery for a peer. -/
def findRecovery (m : IdentityRecoveryManager) (nid : NodeId) : Option IdentityRecoveryState :=
  Lib.KeyedList.find IdentityRecoveryState.peerNodeId nid m.activeRecoveries

/-- There is a recovery for the peer. -/
def isRecoveryInProgress (m : IdentityRecoveryManager) (peerNodeId : NodeId) : Bool :=
  m.activeRecoveries.any fun r => r.peerNodeId = peerNodeId

/-- `now` is the clock. -/
def initiateRecovery (m : IdentityRecoveryManager) (peerNodeId : NodeId) (now : UInt64) :
    IdentityRecoveryManager × Option ErrorCode :=
  if !m.trustedList.isTrusted peerNodeId then (m, some .RecoveryUntrusted)
  else if (m.findRecovery peerNodeId).isSome then (m, none)
  else
    ({ m with activeRecoveries := m.activeRecoveries ++ [{ peerNodeId, initiatedAt := now }] }, none)

/-- The recovery for the peer is given up. -/
def cancelRecovery (m : IdentityRecoveryManager) (peerNodeId : NodeId) : IdentityRecoveryManager :=
  { m with
    activeRecoveries :=
      Lib.KeyedList.erase IdentityRecoveryState.peerNodeId peerNodeId m.activeRecoveries }

/-- The identity of a response to a recovery that was initiated. -/
def handleRecoveryResponse (m : IdentityRecoveryManager) (response : IdentityRecoveryResponse) :
    IdentityRecoveryManager × Option NodeIdentity :=
  if !response.recovered then (m.cancelRecovery response.responderNodeId, none)
  else
    match m.findRecovery response.responderNodeId with
    | none => (m, none)
    | some _ =>
      match response.identity with
      | some identity =>
        ( { m with
            activeRecoveries :=
              Lib.KeyedList.erase IdentityRecoveryState.peerNodeId response.responderNodeId
                m.activeRecoveries },
          some identity )
      | none => (m, none)

/-- With the answer as it is afterwards, and as the caller gave it when there is an error. -/
def handleRecoveryRequest (m : IdentityRecoveryManager) (request : IdentityRecoveryRequest)
    (outResponse : IdentityRecoveryResponse) : Option ErrorCode × IdentityRecoveryResponse :=
  match m.identityMgr.identity with
  | none => (some .SessUuidGenFail, outResponse)
  | some identity =>
    if !m.trustedList.isTrusted request.nodeId then (some .RecoveryUntrusted, outResponse)
    else
      ( none,
        { responderNodeId := identity.nodeId
          recovered := true
          identity := some identity
          fence := request.fence } )

end IdentityRecoveryManager

/-! ### Runs -/

/-- The calls, and the changes that others make to the list and to the identity of this node. -/
inductive RecoveryCall where
  | initiateRecovery (peerNodeId : NodeId) (now : UInt64)
  | handleRecoveryResponse (response : IdentityRecoveryResponse)
  | cancelRecovery (peerNodeId : NodeId)
  | setTrustedList (trustedList : TrustedNodeList)
  | setIdentity (identityMgr : NodeIdentityManager)

/-- One call. -/
def IdentityRecoveryManager.step (m : IdentityRecoveryManager) :
    RecoveryCall → IdentityRecoveryManager
  | .initiateRecovery peerNodeId now => (m.initiateRecovery peerNodeId now).1
  | .handleRecoveryResponse response => (m.handleRecoveryResponse response).1
  | .cancelRecovery peerNodeId => m.cancelRecovery peerNodeId
  | .setTrustedList trustedList => { m with trustedList }
  | .setIdentity identityMgr => { m with identityMgr }

/-- A manager, in any order of its calls. -/
def recoveryMachine (start : IdentityRecoveryManager) :
    Lib.Machine IdentityRecoveryManager RecoveryCall where
  init := start
  step := IdentityRecoveryManager.step

end CrossFlow
