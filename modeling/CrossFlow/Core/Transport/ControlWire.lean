import CrossFlow.Core.Common.Messages
import CrossFlow.Lib.ObjectImage

/-!
# `CrossFlow.Core.Transport.ControlWire`: control messages as bytes

`TransportImpl::serializeMessage` and `deserializeMessage` (`s05_transport/transport_impl.cpp`) copy
the object representation of a `ControlMessage`. The layouts below are those of the structures of
`domain.hpp` and `messages.hpp`, member by member. One word stands for the bytes of one scalar,
address or length; the widths and the padding between members are left out, as `memcpy` copies
everything alike.
-/

set_option autoImplicit false

namespace CrossFlow

open Lib (Layout Heap Image)

namespace Layouts

/-! ### Scalars and strings -/

/-- A byte that is 0 or not. -/
def bool : Layout Bool :=
  .scalar Bool.toNat (fun n => some (n != 0)) fun b => by cases b <;> rfl

/-- One byte. -/
def u8 : Layout UInt8 := .scalar UInt8.toNat (fun n => some n.toUInt8) fun n => by simp

/-- Two bytes. -/
def u16 : Layout UInt16 := .scalar UInt16.toNat (fun n => some n.toUInt16) fun n => by simp

/-- Four bytes. -/
def u32 : Layout UInt32 := .scalar UInt32.toNat (fun n => some n.toUInt32) fun n => by simp

/-- Eight bytes. -/
def u64 : Layout UInt64 := .scalar UInt64.toNat (fun n => some n.toUInt64) fun n => by simp

/-- `std::string`: its bytes are elsewhere. -/
def string : Layout StdString := u8.vector

/-! ### Enumerations -/

/-- The enumeration of the edges. -/
def edgeDirection : Layout EdgeDirection := .enum [.Left, .Right] fun x => by cases x <;> decide

/-- The enumeration of the systems. -/
def platform : Layout Platform := .enum [.Mac, .Win] fun x => by cases x <;> decide

/-- The enumeration of the states of a neighbour. -/
def neighborState : Layout NeighborState := .enum [.Online, .Offline] fun x => by cases x <;> decide

/-- The enumeration of the reasons. -/
def rejectReason : Layout RejectReason :=
  .enum [.TopologyConflict, .BusyHandoff, .NotNeighbor, .Unpaired] fun x => by cases x <;> decide

/-- The enumeration of the kinds of input. -/
def inputType : Layout InputType := .enum [.Mouse, .Keyboard] fun x => by cases x <;> decide

/-- The enumeration of the kinds of addresses. -/
def addressType : Layout AddressType :=
  .enum [.IPv4, .IPv6, .Hostname] fun x => by cases x <;> decide

/-- The enumeration of the states of a commit. -/
def topologyCommitState : Layout TopologyCommitState :=
  .enum
    [.Active, .Proposed, .Validated, .Prepared, .ActivationAuthorized, .Committing, .RolledBack,
      .Locked]
    fun x => by cases x <;> decide

/-- The enumeration of the changes. -/
def membershipChangeType : Layout MembershipChangeType :=
  .enum [.Joined, .Left, .Updated] fun x => by cases x <;> decide

/-! ### Structures -/

/-- Two words. -/
def nodeId : Layout NodeId :=
  (u64.prod u64).iso
    ⟨fun x => (x.high, x.low),
      fun (high, low) => { high, low },
      fun _ => rfl, fun _ => rfl⟩

/-- Two words. -/
def traceId : Layout TraceId :=
  (u64.prod u64).iso
    ⟨fun x => (x.high, x.low),
      fun (high, low) => { high, low },
      fun _ => rfl, fun _ => rfl⟩

/-- Four words of 32 bits. -/
def screenBoundary : Layout ScreenBoundary :=
  (u32.prod (u32.prod (u32.prod u32))).iso
    ⟨fun x => (x.width, x.height, x.originX, x.originY),
      fun (width, height, originX, originY) => { width, height, originX, originY },
      fun _ => rfl, fun _ => rfl⟩

/-- Five flags. -/
def modifierState : Layout ModifierState :=
  (bool.prod (bool.prod (bool.prod (bool.prod bool)))).iso
    ⟨fun x => (x.shift, x.ctrl, x.alt, x.cmd, x.fn),
      fun (shift, ctrl, alt, cmd, fn) => { shift, ctrl, alt, cmd, fn },
      fun _ => rfl, fun _ => rfl⟩

/-- A node, its system and its screen. -/
def endpointIdentity : Layout EndpointIdentity :=
  (nodeId.prod (platform.prod screenBoundary)).iso
    ⟨fun x => (x.nodeId, x.platform, x.screenBoundary),
      fun (nodeId, platform, screenBoundary) => { nodeId, platform, screenBoundary },
      fun _ => rfl, fun _ => rfl⟩

/-- A node, its two neighbours and their states. -/
def neighborRelation : Layout NeighborRelation :=
  (nodeId.prod (nodeId.optional.prod (nodeId.optional.prod (neighborState.prod neighborState)))).iso
    ⟨fun x => (x.nodeId, x.leftNeighbor, x.rightNeighbor, x.leftState, x.rightState),
      fun (nodeId, leftNeighbor, rightNeighbor, leftState, rightState) =>
        { nodeId, leftNeighbor, rightNeighbor, leftState, rightState },
      fun _ => rfl, fun _ => rfl⟩

/-- The endpoints and the relations are elsewhere; the version is in the object. -/
def topologyView : Layout TopologyView :=
  (endpointIdentity.vector.prod (neighborRelation.vector.prod u64)).iso
    ⟨fun x => (x.endpoints, x.neighborRelations, x.version),
      fun (endpoints, neighborRelations, version) => { endpoints, neighborRelations, version },
      fun _ => rfl, fun _ => rfl⟩

/-- Of a version, the text of the id is elsewhere. -/
def topologyVersion : Layout TopologyVersion :=
  (u64.prod (string.prod (u64.prod topologyCommitState))).iso
    ⟨fun x => (x.value, x.topologyId, x.lastCommitAt, x.commitState),
      fun (value, topologyId, lastCommitAt, commitState) =>
        { value, topologyId, lastCommitAt, commitState },
      fun _ => rfl, fun _ => rfl⟩

/-- The bytes of a key are elsewhere. -/
def publicKey : Layout PublicKey :=
  (u8.vector.prod bool).iso
    ⟨fun x => (x.bytes, x.isPresent),
      fun (bytes, isPresent) => { bytes, isPresent },
      fun _ => rfl, fun _ => rfl⟩

/-- The kinds of input are elsewhere. -/
def capabilities : Layout Capabilities :=
  (inputType.vector.prod (screenBoundary.prod (bool.prod u16))).iso
    ⟨fun x => (x.supportedInputTypes, x.screenBoundary, x.supportsCircular, x.protocolVersion),
      fun (supportedInputTypes, screenBoundary, supportsCircular, protocolVersion) =>
        { supportedInputTypes, screenBoundary, supportsCircular, protocolVersion },
      fun _ => rfl, fun _ => rfl⟩

/-- The text of an address is elsewhere. -/
def endpointAddress : Layout EndpointAddress :=
  (addressType.prod (string.prod (u16.prod u8))).iso
    ⟨fun x => (x.addressType, x.value, x.port, x.priority),
      fun (addressType, value, port, priority) => { addressType, value, port, priority },
      fun _ => rfl, fun _ => rfl⟩

/-- The text of the id is elsewhere. -/
def topologyMembership : Layout TopologyMembership :=
  (string.prod (nodeId.optional.prod (nodeId.optional.prod u32))).iso
    ⟨fun x => (x.topologyId, x.leftNeighbor, x.rightNeighbor, x.segmentIndex),
      fun (topologyId, leftNeighbor, rightNeighbor, segmentIndex) =>
        { topologyId, leftNeighbor, rightNeighbor, segmentIndex },
      fun _ => rfl, fun _ => rfl⟩

/-- One word. -/
def sessionEpoch : Layout SessionEpoch :=
  u64.iso ⟨fun x => x.value, fun value => { value }, fun _ => rfl, fun _ => rfl⟩

/-- A node, a time and a flag. -/
def sessionInstanceId : Layout SessionInstanceId :=
  (nodeId.prod (u64.prod bool)).iso
    ⟨fun x => (x.nodeId, x.createdAt, x.isActive),
      fun (nodeId, createdAt, isActive) => { nodeId, createdAt, isActive },
      fun _ => rfl, fun _ => rfl⟩

/-- A node, an epoch and an instance. -/
def sessionFence : Layout SessionFence :=
  (nodeId.prod (sessionEpoch.prod sessionInstanceId)).iso
    ⟨fun x => (x.nodeId, x.epoch, x.instanceId),
      fun (nodeId, epoch, instanceId) => { nodeId, epoch, instanceId },
      fun _ => rfl, fun _ => rfl⟩

/-- The members of an identity, in order. -/
def nodeIdentity : Layout NodeIdentity :=
  (nodeId.prod (publicKey.prod (platform.prod (capabilities.prod (endpointAddress.vector.prod
    (topologyMembership.optional.prod sessionEpoch)))))).iso
    ⟨fun x => (x.nodeId, x.publicKey, x.platform, x.capabilities, x.endpointAddresses,
      x.topologyMembership, x.sessionEpoch),
      fun (nodeId, publicKey, platform, capabilities, endpointAddresses, topologyMembership,
        sessionEpoch) =>
        { nodeId, publicKey, platform, capabilities, endpointAddresses, topologyMembership,
          sessionEpoch },
      fun _ => rfl, fun _ => rfl⟩

/-- The members of a digest, in order. -/
def discoveryDigest : Layout DiscoveryDigest :=
  (nodeId.prod (platform.prod (inputType.vector.prod (sessionEpoch.prod (u16.prod string))))).iso
    ⟨fun x => (x.nodeId, x.platform, x.capabilitiesFingerprint, x.sessionEpoch,
      x.protocolVersion, x.topologyId),
      fun (nodeId, platform, capabilitiesFingerprint, sessionEpoch, protocolVersion, topologyId)
        =>
        { nodeId, platform, capabilitiesFingerprint, sessionEpoch, protocolVersion, topologyId },
      fun _ => rfl, fun _ => rfl⟩

/-- A trace, two nodes, an edge, a distance and the modifiers. -/
def handoffRequest : Layout HandoffRequest :=
  (traceId.prod (nodeId.prod (nodeId.prod (edgeDirection.prod (u32.prod modifierState))))).iso
    ⟨fun x => (x.traceId, x.sourceNodeId, x.targetNodeId, x.edgeDirection, x.overflow,
      x.modifierSnapshot),
      fun (traceId, sourceNodeId, targetNodeId, edgeDirection, overflow, modifierSnapshot) =>
        { traceId, sourceNodeId, targetNodeId, edgeDirection, overflow, modifierSnapshot },
      fun _ => rfl, fun _ => rfl⟩

/-- A trace, a flag and perhaps a reason. -/
def handoffResponse : Layout HandoffResponse :=
  (traceId.prod (bool.prod rejectReason.optional)).iso
    ⟨fun x => (x.traceId, x.accepted, x.reason),
      fun (traceId, accepted, reason) => { traceId, accepted, reason },
      fun _ => rfl, fun _ => rfl⟩

/-- A node, its system, its screen, its neighbours and a version. -/
def topologyDeclaration : Layout TopologyDeclaration :=
  (nodeId.prod (platform.prod (screenBoundary.prod (nodeId.optional.prod (nodeId.optional.prod
    u64))))).iso
    ⟨fun x => (x.declarerNodeId, x.platform, x.screenBoundary, x.leftNeighbor, x.rightNeighbor,
      x.topologyVersion),
      fun (declarerNodeId, platform, screenBoundary, leftNeighbor, rightNeighbor,
        topologyVersion) =>
        { declarerNodeId, platform, screenBoundary, leftNeighbor, rightNeighbor, topologyVersion
          },
      fun _ => rfl, fun _ => rfl⟩

/-! ### Messages -/

/-- The one member of the message. -/
def handoffRequestMessage : Layout HandoffRequestMessage :=
  handoffRequest.iso
    ⟨fun x => x.request,
      fun request => { request },
      fun _ => rfl, fun _ => rfl⟩

/-- The one member of the message. -/
def handoffResponseMessage : Layout HandoffResponseMessage :=
  handoffResponse.iso
    ⟨fun x => x.response,
      fun response => { response },
      fun _ => rfl, fun _ => rfl⟩

/-- The one member of the message. -/
def heartbeatMessage : Layout HeartbeatMessage :=
  u64.iso ⟨fun x => x.timestamp, fun timestamp => { timestamp }, fun _ => rfl, fun _ => rfl⟩

/-- The one member of the message. -/
def topologyDeclarationMessage : Layout TopologyDeclarationMessage :=
  topologyDeclaration.iso
    ⟨fun x => x.declaration,
      fun declaration => { declaration },
      fun _ => rfl, fun _ => rfl⟩

/-- The one member of the message. -/
def topologySyncMessage : Layout TopologySyncMessage :=
  topologyView.iso ⟨fun x => x.view, fun view => { view }, fun _ => rfl, fun _ => rfl⟩

/-- The one member of the message. -/
def pairingMessage : Layout PairingMessage :=
  string.iso
    ⟨fun x => x.pairingCode,
      fun pairingCode => { pairingCode },
      fun _ => rfl, fun _ => rfl⟩

/-- A digest and a fence. -/
def discoveryAnnouncement : Layout DiscoveryAnnouncement :=
  (discoveryDigest.prod sessionFence).iso
    ⟨fun x => (x.digest, x.fence),
      fun (digest, fence) => { digest, fence },
      fun _ => rfl, fun _ => rfl⟩

/-- A node, a code and a fence. -/
def pairingRequest : Layout PairingRequest :=
  (nodeId.prod (string.prod sessionFence)).iso
    ⟨fun x => (x.requesterNodeId, x.pairingCode, x.fence),
      fun (requesterNodeId, pairingCode, fence) => { requesterNodeId, pairingCode, fence },
      fun _ => rfl, fun _ => rfl⟩

/-- A node, a flag, perhaps an identity, and a fence. -/
def pairingResponse : Layout PairingResponse :=
  (nodeId.prod (bool.prod (nodeIdentity.optional.prod sessionFence))).iso
    ⟨fun x => (x.responderNodeId, x.accepted, x.identity, x.fence),
      fun (responderNodeId, accepted, identity, fence) =>
        { responderNodeId, accepted, identity, fence },
      fun _ => rfl, fun _ => rfl⟩

/-- An identity and a fence. -/
def registrationRequest : Layout RegistrationRequest :=
  (nodeIdentity.prod sessionFence).iso
    ⟨fun x => (x.identity, x.fence),
      fun (identity, fence) => { identity, fence },
      fun _ => rfl, fun _ => rfl⟩

/-- A node, a flag, perhaps a membership, and a fence. -/
def registrationResponse : Layout RegistrationResponse :=
  (nodeId.prod (bool.prod (topologyMembership.optional.prod sessionFence))).iso
    ⟨fun x => (x.responderNodeId, x.accepted, x.membership, x.fence),
      fun (responderNodeId, accepted, membership, fence) =>
        { responderNodeId, accepted, membership, fence },
      fun _ => rfl, fun _ => rfl⟩

/-- What has changed, for which member, to what, in which version, and a fence. -/
def membershipChangeNotification : Layout MembershipChangeNotification :=
  (membershipChangeType.prod (nodeId.prod (topologyMembership.prod (topologyVersion.prod
    sessionFence)))).iso
    ⟨fun x => (x.changeType, x.memberId, x.membership, x.topologyVersion, x.fence),
      fun (changeType, memberId, membership, topologyVersion, fence) =>
        { changeType, memberId, membership, topologyVersion, fence },
      fun _ => rfl, fun _ => rfl⟩

/-- A node with its last epoch and instance, and a fence. -/
def identityRecoveryRequest : Layout IdentityRecoveryRequest :=
  (nodeId.prod (sessionEpoch.prod (sessionInstanceId.prod sessionFence))).iso
    ⟨fun x => (x.nodeId, x.lastKnownEpoch, x.lastKnownInstance, x.fence),
      fun (nodeId, lastKnownEpoch, lastKnownInstance, fence) =>
        { nodeId, lastKnownEpoch, lastKnownInstance, fence },
      fun _ => rfl, fun _ => rfl⟩

/-- A node, a flag, perhaps an identity, and a fence. -/
def identityRecoveryResponse : Layout IdentityRecoveryResponse :=
  (nodeId.prod (bool.prod (nodeIdentity.optional.prod sessionFence))).iso
    ⟨fun x => (x.responderNodeId, x.recovered, x.identity, x.fence),
      fun (responderNodeId, recovered, identity, fence) =>
        { responderNodeId, recovered, identity, fence },
      fun _ => rfl, fun _ => rfl⟩

/-- A node and a fence. -/
def goodbyeAnnouncement : Layout GoodbyeAnnouncement :=
  (nodeId.prod sessionFence).iso
    ⟨fun x => (x.nodeId, x.fence),
      fun (nodeId, fence) => { nodeId, fence },
      fun _ => rfl, fun _ => rfl⟩

/-- The alternatives of the variant. -/
def alternative : (kind : ControlMessageKind) → Layout kind.Alternative
  | .HandoffRequestMessage => handoffRequestMessage
  | .HandoffResponseMessage => handoffResponseMessage
  | .HeartbeatMessage => heartbeatMessage
  | .TopologyDeclarationMessage => topologyDeclarationMessage
  | .TopologySyncMessage => topologySyncMessage
  | .PairingMessage => pairingMessage
  | .DiscoveryAnnouncement => discoveryAnnouncement
  | .PairingRequest => pairingRequest
  | .PairingResponse => pairingResponse
  | .RegistrationRequest => registrationRequest
  | .RegistrationResponse => registrationResponse
  | .MembershipChangeNotification => membershipChangeNotification
  | .IdentityRecoveryRequest => identityRecoveryRequest
  | .IdentityRecoveryResponse => identityRecoveryResponse
  | .GoodbyeAnnouncement => goodbyeAnnouncement

/-- The `std::variant` of all kinds. -/
def controlMessage : Layout ControlMessage :=
  .variant ControlMessageKind.all ControlMessageKind.mem_all alternative

end Layouts

namespace TransportImpl

/-- `ControlMessage msg{}`: the first alternative, with every member zero. -/
def defaultMessage : ControlMessage :=
  ⟨.HandoffRequestMessage,
    { request :=
        { traceId := { high := 0, low := 0 }
          sourceNodeId := { high := 0, low := 0 }
          targetNodeId := { high := 0, low := 0 }
          edgeDirection := .Left
          overflow := 0
          modifierSnapshot :=
            { shift := false, ctrl := false, alt := false, cmd := false, fn := false } } }⟩

/-- `memcpy` of the `sizeof(ControlMessage)` bytes at `&msg`. -/
def serializeMessage (msg : Image) : List Nat := msg.take Layouts.controlMessage.size

/-- The object the receiver holds after `memcpy` into a fresh one. -/
def deserializeMessage (data : List Nat) (len : Nat) : Image :=
  if len ≥ Layouts.controlMessage.size then data.take Layouts.controlMessage.size
  else Layouts.controlMessage.write (fun _ => 0) defaultMessage

end TransportImpl

end CrossFlow
