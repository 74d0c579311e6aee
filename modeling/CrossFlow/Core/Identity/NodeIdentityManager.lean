import CrossFlow.Core.Common.Domain
import CrossFlow.Core.Common.ErrorCode

/-!
# `CrossFlow.Core.Identity.NodeIdentityManager`: the identity of this node

The part of `s06_identity/node_identity_manager.hpp` and `.cpp` that holds in memory.
-/

set_option autoImplicit false

namespace CrossFlow

/-- The identity of this node, once there is one. -/
structure NodeIdentityManager where
  identity : Option NodeIdentity
  deriving DecidableEq

/-- The epoch of the identity, or 0. -/
def NodeIdentityManager.currentEpoch (m : NodeIdentityManager) : SessionEpoch :=
  match m.identity with
  | some identity => identity.sessionEpoch
  | none => { value := 0 }

/-- `initialize` -/
def NodeIdentityManager.initializeIdentity (m : NodeIdentityManager) (identity : NodeIdentity) :
    NodeIdentityManager × Option ErrorCode :=
  if !identity.isValid then (m, some .SessNodeidForge)
  else if m.identity.any fun own => own.nodeId ≠ identity.nodeId then (m, some .SessNodeidForge)
  else ({ identity := some identity }, none)

/-- The calls that change one member of the identity. -/
def NodeIdentityManager.updateIdentity (m : NodeIdentityManager)
    (update : NodeIdentity → NodeIdentity) : NodeIdentityManager × Option ErrorCode :=
  match m.identity with
  | none => (m, some .SessUuidGenFail)
  | some identity => ({ identity := some (update identity) }, none)

/-- The key is replaced. -/
def NodeIdentityManager.updatePublicKey (m : NodeIdentityManager) (newKey : PublicKey) :
    NodeIdentityManager × Option ErrorCode :=
  m.updateIdentity fun identity => { identity with publicKey := newKey }

/-- The capabilities are replaced, by valid ones only. -/
def NodeIdentityManager.updateCapabilities (m : NodeIdentityManager) (caps : Capabilities) :
    NodeIdentityManager × Option ErrorCode :=
  match m.identity with
  | none => (m, some .SessUuidGenFail)
  | some identity =>
    if !caps.isValid then (m, some .RegCapIncompat)
    else ({ identity := some { identity with capabilities := caps } }, none)

/-- An address is the same when its value and its port are. -/
def NodeIdentityManager.addEndpointAddress (m : NodeIdentityManager) (addr : EndpointAddress) :
    NodeIdentityManager × Option ErrorCode :=
  m.updateIdentity fun identity =>
    -- An address that is there keeps its type and its priority.
    if identity.endpointAddresses.any fun existing =>
        existing.value = addr.value ∧ existing.port = addr.port then identity
    else { identity with endpointAddresses := identity.endpointAddresses ++ [addr] }

/-- All addresses with this value and port go. -/
def NodeIdentityManager.removeEndpointAddress (m : NodeIdentityManager) (addr : EndpointAddress) :
    NodeIdentityManager × Option ErrorCode :=
  m.updateIdentity fun identity =>
    { identity with
      endpointAddresses :=
        identity.endpointAddresses.filter fun e => ¬ (e.value = addr.value ∧ e.port = addr.port) }

/-- The membership is replaced. -/
def NodeIdentityManager.joinTopology (m : NodeIdentityManager) (membership : TopologyMembership) :
    NodeIdentityManager × Option ErrorCode :=
  m.updateIdentity fun identity => { identity with topologyMembership := some membership }

/-- The membership goes. -/
def NodeIdentityManager.leaveTopology (m : NodeIdentityManager) :
    NodeIdentityManager × Option ErrorCode :=
  m.updateIdentity fun identity => { identity with topologyMembership := none }

/-- The next epoch, modulo 2^64, if there is an identity. -/
def NodeIdentityManager.incrementEpoch (m : NodeIdentityManager) :
    NodeIdentityManager × SessionEpoch :=
  match m.identity with
  | none => (m, { value := 0 })
  | some identity =>
    let identity := { identity with sessionEpoch := identity.sessionEpoch.increment }
    ({ identity := some identity }, identity.sessionEpoch)

end CrossFlow
