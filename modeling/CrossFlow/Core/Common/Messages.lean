import CrossFlow.Core.Common.Domain

/-!
# `CrossFlow.Core.Common.Messages`: the control messages

The messages of `core/common/messages.hpp`. `ControlMessage` is the `std::variant` of the fifteen
messages: the index of the alternative, and its value.
-/

set_option autoImplicit false

namespace CrossFlow

/-- The cursor is to go over to a neighbour. -/
structure HandoffRequest where
  traceId : TraceId
  sourceNodeId : NodeId
  targetNodeId : NodeId
  edgeDirection : EdgeDirection
  overflow : UInt32
  modifierSnapshot : ModifierState
  deriving DecidableEq

/-- The answer to a `HandoffRequest`. -/
structure HandoffResponse where
  traceId : TraceId
  accepted : Bool
  reason : Option RejectReason
  deriving DecidableEq

/-- What an endpoint says of itself and of its neighbours. -/
structure TopologyDeclaration where
  declarerNodeId : NodeId
  platform : Platform
  screenBoundary : ScreenBoundary
  leftNeighbor : Option NodeId
  rightNeighbor : Option NodeId
  topologyVersion : UInt64
  deriving DecidableEq

/-- The message of a request. -/
structure HandoffRequestMessage where
  request : HandoffRequest
  deriving DecidableEq

/-- The message of a response. -/
structure HandoffResponseMessage where
  response : HandoffResponse
  deriving DecidableEq

/-- The sender is there. -/
structure HeartbeatMessage where
  timestamp : UInt64
  deriving DecidableEq

/-- The message of a declaration. -/
structure TopologyDeclarationMessage where
  declaration : TopologyDeclaration
  deriving DecidableEq

/-- The view of the sender. -/
structure TopologySyncMessage where
  view : TopologyView
  deriving DecidableEq

/-- A pairing code. -/
structure PairingMessage where
  pairingCode : StdString
  deriving DecidableEq

/-- What a node announces, with its fence. -/
structure DiscoveryAnnouncement where
  digest : DiscoveryDigest
  fence : SessionFence
  deriving DecidableEq

/-- A node asks another one to pair with it. -/
structure PairingRequest where
  requesterNodeId : NodeId
  pairingCode : StdString
  fence : SessionFence
  deriving DecidableEq

/-- The answer to a `PairingRequest`. -/
structure PairingResponse where
  responderNodeId : NodeId
  accepted : Bool
  identity : Option NodeIdentity
  fence : SessionFence
  deriving DecidableEq

/-- A node asks to be registered. -/
structure RegistrationRequest where
  identity : NodeIdentity
  fence : SessionFence
  deriving DecidableEq

/-- The answer to a `RegistrationRequest`. -/
structure RegistrationResponse where
  responderNodeId : NodeId
  accepted : Bool
  membership : Option TopologyMembership
  fence : SessionFence
  deriving DecidableEq

/-- What has happened to a member. -/
inductive MembershipChangeType where
  | Joined
  | Left
  | Updated
  deriving DecidableEq

/-- A member has joined, left or changed. -/
structure MembershipChangeNotification where
  changeType : MembershipChangeType
  memberId : NodeId
  membership : TopologyMembership
  topologyVersion : TopologyVersion
  fence : SessionFence
  deriving DecidableEq

/-- A node that has restarted asks what is known of it. -/
structure IdentityRecoveryRequest where
  nodeId : NodeId
  lastKnownEpoch : SessionEpoch
  lastKnownInstance : SessionInstanceId
  fence : SessionFence
  deriving DecidableEq

/-- The answer to an `IdentityRecoveryRequest`. -/
structure IdentityRecoveryResponse where
  responderNodeId : NodeId
  recovered : Bool
  identity : Option NodeIdentity
  fence : SessionFence
  deriving DecidableEq

/-- A node goes away. -/
structure GoodbyeAnnouncement where
  nodeId : NodeId
  fence : SessionFence
  deriving DecidableEq

/-! ### The variant -/

/-- The alternatives of `ControlMessage`. -/
inductive ControlMessageKind where
  | HandoffRequestMessage
  | HandoffResponseMessage
  | HeartbeatMessage
  | TopologyDeclarationMessage
  | TopologySyncMessage
  | PairingMessage
  | DiscoveryAnnouncement
  | PairingRequest
  | PairingResponse
  | RegistrationRequest
  | RegistrationResponse
  | MembershipChangeNotification
  | IdentityRecoveryRequest
  | IdentityRecoveryResponse
  | GoodbyeAnnouncement
  deriving DecidableEq

namespace ControlMessageKind

/-- In the order of the variant. -/
def all : List ControlMessageKind :=
  [.HandoffRequestMessage, .HandoffResponseMessage, .HeartbeatMessage, .TopologyDeclarationMessage,
    .TopologySyncMessage, .PairingMessage, .DiscoveryAnnouncement, .PairingRequest,
    .PairingResponse, .RegistrationRequest, .RegistrationResponse, .MembershipChangeNotification,
    .IdentityRecoveryRequest, .IdentityRecoveryResponse, .GoodbyeAnnouncement]

/-- `all` leaves out no kind. -/
theorem mem_all (kind : ControlMessageKind) : kind ∈ all := by
  cases kind <;> decide

/-- The type of the alternative. -/
def Alternative : ControlMessageKind → Type
  | HandoffRequestMessage => CrossFlow.HandoffRequestMessage
  | HandoffResponseMessage => CrossFlow.HandoffResponseMessage
  | HeartbeatMessage => CrossFlow.HeartbeatMessage
  | TopologyDeclarationMessage => CrossFlow.TopologyDeclarationMessage
  | TopologySyncMessage => CrossFlow.TopologySyncMessage
  | PairingMessage => CrossFlow.PairingMessage
  | DiscoveryAnnouncement => CrossFlow.DiscoveryAnnouncement
  | PairingRequest => CrossFlow.PairingRequest
  | PairingResponse => CrossFlow.PairingResponse
  | RegistrationRequest => CrossFlow.RegistrationRequest
  | RegistrationResponse => CrossFlow.RegistrationResponse
  | MembershipChangeNotification => CrossFlow.MembershipChangeNotification
  | IdentityRecoveryRequest => CrossFlow.IdentityRecoveryRequest
  | IdentityRecoveryResponse => CrossFlow.IdentityRecoveryResponse
  | GoodbyeAnnouncement => CrossFlow.GoodbyeAnnouncement

end ControlMessageKind

/-- The `std::variant` of the control messages. -/
def ControlMessage : Type := (kind : ControlMessageKind) × kind.Alternative

end CrossFlow
