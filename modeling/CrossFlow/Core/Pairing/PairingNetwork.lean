import CrossFlow.Core.Pairing.HandshakeOrchestrator
import CrossFlow.Lib.Network

/-!
# `CrossFlow.Core.Pairing.PairingNetwork`: nodes that pair with each other

Any number of nodes, each with its `HandshakeOrchestrator` (`s08_pairing/handshake_orchestrator.hpp`
and `.cpp`), and the four messages of a handshake (`common/messages.hpp`) on their way. A request
is answered to the node that it names as the requester. A call that failed sends nothing.
-/

set_option autoImplicit false

namespace CrossFlow

/-- A message of a handshake. -/
inductive PairingPacket where
  | pairingRequest (request : PairingRequest)
  | pairingResponse (response : PairingResponse)
  | registrationRequest (request : RegistrationRequest)
  | registrationResponse (response : RegistrationResponse)

/-- What the owner of a node may ask of it. -/
inductive PairingInput where
  /-- `initiateHandshake`, then a pairing request with the same code. -/
  | initiateHandshake (peerNodeId : NodeId) (pairingCode : StdString) (fence : SessionFence)
  /-- A registration request to the peer, with an identity and a fence. -/
  | requestRegistration (peerNodeId : NodeId) (request : RegistrationRequest)
  | completeHandshake (peerNodeId : NodeId)
  | rollbackHandshake (peerNodeId : NodeId)

/-- The answer of a call with an out-parameter, on its way to `node`. -/
def answerTo {α : Type} (node : NodeId) (packet : α → PairingPacket) :
    Except ErrorCode α → List (NodeId × PairingPacket)
  | .ok response => [(node, packet response)]
  | .error _ => []

namespace HandshakeOrchestrator

/-- What a node does for its owner. -/
def input (node : NodeId) (o : HandshakeOrchestrator) :
    PairingInput → HandshakeOrchestrator × List (NodeId × PairingPacket)
  | .initiateHandshake peerNodeId pairingCode fence =>
    match o.initiateHandshake peerNodeId pairingCode with
    | (o, some _) => (o, [])
    | (o, none) =>
      (o, [(peerNodeId, .pairingRequest { requesterNodeId := node, pairingCode, fence })])
  | .requestRegistration peerNodeId request => (o, [(peerNodeId, .registrationRequest request)])
  | .completeHandshake peerNodeId => ((o.completeHandshake peerNodeId).1, [])
  | .rollbackHandshake peerNodeId => ((o.rollbackHandshake peerNodeId).1, [])

/-- What a node does with a message. `now` is the reading of its steady clock. -/
def receive (o : HandshakeOrchestrator) (packet : PairingPacket) (now : UInt64) :
    HandshakeOrchestrator × List (NodeId × PairingPacket) :=
  match packet with
  | .pairingRequest request =>
    let (o, answer) := o.handlePairingRequest request
    (o, answerTo request.requesterNodeId .pairingResponse answer)
  | .pairingResponse response => ((o.handlePairingResponse now response).1, [])
  | .registrationRequest request =>
    let (o, answer) := o.handleRegistrationRequest now request
    (o, answerTo request.identity.nodeId .registrationResponse answer)
  | .registrationResponse response => ((o.handleRegistrationResponse response).1, [])

end HandshakeOrchestrator

/-- The nodes start with the identities given, with nothing paired. -/
def pairingProtocol (identityMgr : NodeId → NodeIdentityManager) :
    Lib.Protocol NodeId HandshakeOrchestrator PairingInput PairingPacket UInt64 where
  init node := .init (identityMgr node)
  input := HandshakeOrchestrator.input
  receive _ := HandshakeOrchestrator.receive

end CrossFlow
