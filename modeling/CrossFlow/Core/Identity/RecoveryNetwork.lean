import CrossFlow.Core.Identity.IdentityRecoveryManager
import CrossFlow.Lib.Network

/-!
# `CrossFlow.Core.Identity.RecoveryNetwork`: nodes that ask each other who they are

Any number of nodes, by number, each with its `IdentityRecoveryManager`
(`s06_identity/identity_recovery_manager.hpp` and `.cpp`), and the two messages of a recovery
(`common/messages.hpp`) on their way. What a request says is up to the node that sends it. An answer
goes back to where the request came from. A call that failed sends nothing.
-/

set_option autoImplicit false

namespace CrossFlow

/-- A message of a recovery. A request has the node it came from. -/
inductive RecoveryPacket where
  | request (sender : Nat) (request : IdentityRecoveryRequest)
  | response (response : IdentityRecoveryResponse)

/-- What the owner of a node may ask of it, and what others do to its list and its identity. -/
inductive RecoveryInput where
  /-- `initiateRecovery`, then a request to the node `target`. -/
  | initiateRecovery (peerNodeId : NodeId) (now : UInt64) (target : Nat)
      (request : IdentityRecoveryRequest)
  | cancelRecovery (peerNodeId : NodeId)
  | setTrustedList (trustedList : TrustedNodeList)
  | setIdentity (identityMgr : NodeIdentityManager)

/-- A node of the network, with what it has asked for, held and recovered. -/
structure RecoveringNode where
  manager : IdentityRecoveryManager
  /-- History: the peers that a recovery was initiated for, without an error. -/
  asked : List NodeId
  /-- History: the identities that this node has had. -/
  held : List NodeIdentity
  /-- History: what `handleRecoveryResponse` has returned. -/
  returned : List NodeIdentity

namespace RecoveringNode

/-- A node that has asked for nothing. -/
def init (identityMgr : NodeIdentityManager) (trustedList : TrustedNodeList) :
    RecoveringNode where
  manager := .init identityMgr trustedList
  asked := []
  held := identityMgr.identity.toList
  returned := []

/-- What a node does for its owner. -/
def input (node : Nat) (n : RecoveringNode) :
    RecoveryInput → RecoveringNode × List (Nat × RecoveryPacket)
  | .initiateRecovery peerNodeId now target request =>
    match n.manager.initiateRecovery peerNodeId now with
    | (manager, some _) => ({ n with manager }, [])
    | (manager, none) =>
      ({ n with manager, asked := n.asked ++ [peerNodeId] }, [(target, .request node request)])
  | .cancelRecovery peerNodeId => ({ n with manager := n.manager.cancelRecovery peerNodeId }, [])
  | .setTrustedList trustedList => ({ n with manager := { n.manager with trustedList } }, [])
  | .setIdentity identityMgr =>
    ( { n with
        manager := { n.manager with identityMgr }
        held := n.held ++ identityMgr.identity.toList }, [])

/-- What a node does with a message. `outResponse` is what it gives to `handleRecoveryRequest`. -/
def receive (n : RecoveringNode) (packet : RecoveryPacket)
    (outResponse : IdentityRecoveryResponse) : RecoveringNode × List (Nat × RecoveryPacket) :=
  match packet with
  | .request sender request =>
    match n.manager.handleRecoveryRequest request outResponse with
    | (some _, _) => (n, [])
    | (none, response) => (n, [(sender, .response response)])
  | .response response =>
    let (manager, identity) := n.manager.handleRecoveryResponse response
    ({ n with manager, returned := n.returned ++ identity.toList }, [])

end RecoveringNode

/-- The nodes start with the identities and the lists given. -/
def recoveryProtocol (identityMgr : Nat → NodeIdentityManager)
    (trustedList : Nat → TrustedNodeList) :
    Lib.Protocol Nat RecoveringNode RecoveryInput RecoveryPacket IdentityRecoveryResponse where
  init node := .init (identityMgr node) (trustedList node)
  input := RecoveringNode.input
  receive _ := RecoveringNode.receive

end CrossFlow
