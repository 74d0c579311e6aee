import CrossFlow.Core.Common.ErrorCode
import CrossFlow.Core.Common.StdString

/-!
# `CrossFlow.Core.Common.Domain`: shared value types

The part of `core/common/domain.hpp` and `domain.cpp` that the modelled components use.
-/

set_option autoImplicit false

namespace CrossFlow

/-- What an input event reports. -/
inductive EventType where
  | MouseMove
  | MouseButtonPress
  | MouseButtonRelease
  | Wheel
  | KeyPress
  | KeyRelease
  deriving DecidableEq

/-- The side of a screen, and the neighbour that is asked for. -/
inductive EdgeDirection where
  | Left
  | Right
  deriving DecidableEq

/-- The system that an endpoint runs on. -/
inductive Platform where
  | Mac
  | Win
  deriving DecidableEq

/-- The states of a link between two nodes. -/
inductive LinkState where
  | Disconnected
  | Connecting
  | Connected
  | Pairing
  | Paired
  | Lost
  deriving DecidableEq

/-- Whether a neighbour can be reached. -/
inductive NeighborState where
  | Online
  | Offline
  deriving DecidableEq

/-- The buttons that an event can be about. -/
inductive MouseButton where
  | Left
  | Right
  | Middle
  deriving DecidableEq

/-- The direction in which a wheel turns. -/
inductive WheelAxis where
  | Vertical
  | Horizontal
  deriving DecidableEq

/-- A virtual key code. -/
abbrev KeyCode : Type := UInt16

/-- Why a handoff is refused. -/
inductive RejectReason where
  | TopologyConflict
  | BusyHandoff
  | NotNeighbor
  | Unpaired
  deriving DecidableEq

/-- The kinds of input that a node is capable of. -/
inductive InputType where
  | Mouse
  | Keyboard
  deriving DecidableEq

/-- How the value of an address is to be read. -/
inductive AddressType where
  | IPv4
  | IPv6
  | Hostname
  deriving DecidableEq

/-- The 128 bits of a UUID, as two words. -/
structure NodeId where
  high : UInt64
  low : UInt64
  deriving DecidableEq

/-- The id of no node. -/
def NodeId.isNull (id : NodeId) : Bool := id.high = 0 ∧ id.low = 0

/-- The bits that make two words a UUID of version 4. -/
def setUuidV4Bits (high low : UInt64) : UInt64 × UInt64 :=
  (high &&& 0xFFF0FFFFFFFFFFFF ||| 0x0004000000000000,
    low &&& 0x3FFFFFFFFFFFFFFF ||| 0x8000000000000000)

/-- `NodeId::generate`, from what `randomU64` returns. -/
def NodeId.generate (random : UInt64 × UInt64) : NodeId :=
  let (high, low) := setUuidV4Bits random.1 random.2
  { high, low }

/-- The id under which a handoff is logged, of the form of a `NodeId`. -/
structure TraceId where
  high : UInt64
  low : UInt64
  deriving DecidableEq

/-- The size of a screen and the corner it begins at. -/
structure ScreenBoundary where
  width : UInt32
  height : UInt32
  originX : UInt32
  originY : UInt32
  deriving DecidableEq

/-- A screen has an area. -/
def ScreenBoundary.isValid (b : ScreenBoundary) : Bool := b.width > 0 ∧ b.height > 0

/-- How far the cursor has gone over an edge, and where. -/
structure EdgeOverflowEvent where
  direction : EdgeDirection
  overflow : UInt32
  cursorY : UInt32
  deriving DecidableEq

/-- The modifier keys that are down. -/
structure ModifierState where
  shift : Bool
  ctrl : Bool
  alt : Bool
  cmd : Bool
  fn : Bool
  deriving DecidableEq

/-- A relative movement. -/
structure MouseMovePayload where
  deltaX : Int32
  deltaY : Int32
  deriving DecidableEq

/-- The button that was pressed or released. -/
structure MouseButtonPayload where
  button : MouseButton
  deriving DecidableEq

/-- How far a wheel was turned. -/
structure WheelPayload where
  delta : Int32
  axis : WheelAxis
  deriving DecidableEq

/-- The key that was pressed or released. -/
structure KeyPayload where
  keyCode : KeyCode
  deriving DecidableEq

/-- The `std::variant` of the payloads. Its alternative need not be that of the event's type. -/
inductive EventPayload where
  | mouseMove (payload : MouseMovePayload)
  | mouseButton (payload : MouseButtonPayload)
  | wheel (payload : WheelPayload)
  | key (payload : KeyPayload)
  deriving DecidableEq

/-- An input event in the form that both systems send and receive. -/
structure CanonicalInputEvent where
  eventId : UInt64
  sourceNodeId : NodeId
  timestamp : UInt64
  eventType : EventType
  payload : EventPayload
  modifierState : ModifierState
  deriving DecidableEq

/-! ### Topology -/

/-- What a topology knows of an endpoint. -/
structure EndpointIdentity where
  nodeId : NodeId
  platform : Platform
  screenBoundary : ScreenBoundary
  deriving DecidableEq

/-- The neighbours that an endpoint names on its two sides, and whether they are reachable. -/
structure NeighborRelation where
  nodeId : NodeId
  leftNeighbor : Option NodeId
  rightNeighbor : Option NodeId
  leftState : NeighborState
  rightState : NeighborState
  deriving DecidableEq

/-- All endpoints with their neighbours. -/
structure TopologyView where
  endpoints : List EndpointIdentity
  neighborRelations : List NeighborRelation
  version : UInt64
  deriving DecidableEq

/-- How far the commit of a topology version has come. -/
inductive TopologyCommitState where
  | Active
  | Proposed
  | Validated
  | Prepared
  | ActivationAuthorized
  | Committing
  | RolledBack
  | Locked
  deriving DecidableEq

/-- A version of the topology, with the state of its commit. -/
structure TopologyVersion where
  value : UInt64
  topologyId : StdString
  lastCommitAt : UInt64
  commitState : TopologyCommitState
  deriving DecidableEq

/-! ### Node identity -/

/-- The key of a node, if it has one. -/
structure PublicKey where
  bytes : List UInt8
  isPresent : Bool
  deriving DecidableEq

/-- What a node can do. -/
structure Capabilities where
  supportedInputTypes : List InputType
  screenBoundary : ScreenBoundary
  supportsCircular : Bool
  protocolVersion : UInt16
  deriving DecidableEq

/-- The protocol has a version, and the screen an area. -/
def Capabilities.isValid (c : Capabilities) : Bool :=
  c.protocolVersion > 0 ∧ c.screenBoundary.isValid

/-- One of the addresses of a node. A smaller `priority` is tried first. -/
structure EndpointAddress where
  addressType : AddressType
  value : StdString
  port : UInt16
  priority : UInt8
  deriving DecidableEq

/-- The place of a node in a topology. -/
structure TopologyMembership where
  topologyId : StdString
  leftNeighbor : Option NodeId
  rightNeighbor : Option NodeId
  segmentIndex : UInt32
  deriving DecidableEq

/-- The number of a session: it goes up with each restart of the node. -/
structure SessionEpoch where
  value : UInt64
  deriving DecidableEq

/-- The epoch of the next session, modulo 2^64. -/
def SessionEpoch.increment (e : SessionEpoch) : SessionEpoch := { value := e.value + 1 }

/-- Only the greatest epoch wraps around. -/
theorem SessionEpoch.lt_increment_iff (e : SessionEpoch) :
    e.value < e.increment.value ↔ e.value ≠ 0xFFFFFFFFFFFFFFFF := by
  have hlt := e.value.toNat_lt
  rw [UInt64.lt_iff_toNat_lt, Ne, ← UInt64.toNat_inj, increment, UInt64.toNat_add]
  show e.value.toNat < (e.value.toNat + 1) % 2 ^ 64 ↔ ¬ e.value.toNat = 18446744073709551615
  omega

/-- The next epoch is not smaller, but after the last one. -/
theorem SessionEpoch.le_increment_iff (e : SessionEpoch) :
    e.value ≤ e.increment.value ↔ e.value ≠ 0xFFFFFFFFFFFFFFFF := by
  have hne : e.value ≠ e.increment.value := by
    rw [increment, ne_comm, ne_eq, UInt64.add_eq_left]
    decide
  rw [← lt_increment_iff]
  exact ⟨fun hle => UInt64.lt_of_le_of_ne hle hne, UInt64.le_of_lt⟩

/-- An epoch after another one, with no regard to the wrap. -/
def SessionEpoch.isMonotonicAfter (e prev : SessionEpoch) : Bool := e.value > prev.value

/-- One run of a node. -/
structure SessionInstanceId where
  nodeId : NodeId
  createdAt : UInt64
  isActive : Bool
  deriving DecidableEq

/-- What a message carries of the session it was sent in. -/
structure SessionFence where
  nodeId : NodeId
  epoch : SessionEpoch
  instanceId : SessionInstanceId
  deriving DecidableEq

/-- The fence of a node that starts for the first time. -/
def SessionFence.newSession (nid : NodeId) : SessionFence where
  nodeId := nid
  epoch := { value := 1 }
  instanceId := { nodeId := nid, createdAt := 0, isActive := true }

/-- What becomes of a message by its fence. -/
inductive SessionFenceVerdict where
  | Accept
  | Reject
  | StaleEpoch
  | InstanceConflict
  | UnknownNode
  deriving DecidableEq

/-- All that a node tells of itself. -/
structure NodeIdentity where
  nodeId : NodeId
  publicKey : PublicKey
  platform : Platform
  capabilities : Capabilities
  endpointAddresses : List EndpointAddress
  topologyMembership : Option TopologyMembership
  sessionEpoch : SessionEpoch
  deriving DecidableEq

/-- `NodeIdentity{}` -/
def NodeIdentity.init : NodeIdentity where
  nodeId := { high := 0, low := 0 }
  publicKey := { bytes := [], isPresent := false }
  platform := .Mac
  capabilities :=
    { supportedInputTypes := []
      screenBoundary := { width := 0, height := 0, originX := 0, originY := 0 }
      supportsCircular := false
      protocolVersion := 0 }
  endpointAddresses := []
  topologyMembership := none
  sessionEpoch := { value := 0 }

/-- There is a node, and it is capable of something. -/
def NodeIdentity.isValid (identity : NodeIdentity) : Bool :=
  !identity.nodeId.isNull ∧ identity.capabilities.isValid

/-! ### Pairing -/

/-- The states of the pairing with a peer. -/
inductive PairingState where
  | Discovered
  | Untrusted
  | Pairing
  | Trusted
  | Registering
  | Registered
  | Member
  | Rejected
  | Rollback
  deriving DecidableEq

/-- A peer that is trusted. -/
structure TrustedNodeEntry where
  nodeId : NodeId
  pairedAt : UInt64
  lastSeenEpoch : SessionEpoch
  deriving DecidableEq

/-- How far the registration of a peer has come. -/
structure RegistrationRecord where
  peerNodeId : NodeId
  peerIdentity : NodeIdentity
  currentState : PairingState
  previousState : PairingState
  enteredAt : UInt64
  failureReason : Option ErrorCode
  deriving DecidableEq

/-! ### Topology changes -/

/-- A member of the topology. -/
structure MembershipEntry where
  nodeId : NodeId
  topologyMembership : TopologyMembership
  joinedAt : UInt64
  isOnline : Bool
  deriving DecidableEq

/-- A change of the members that is to become a version of the topology. -/
structure TopologyChangeProposal where
  proposedVersion : TopologyVersion
  membershipChange : List MembershipEntry
  proposedBy : NodeId
  proposedAt : UInt64
  deriving DecidableEq

/-! ### Discovery -/

/-- What was found out about a node of the network. -/
structure DiscoveryRecord where
  nodeId : NodeId
  platform : Platform
  capabilitiesFingerprint : List InputType
  sessionEpoch : SessionEpoch
  protocolVersion : UInt16
  topologyId : StdString
  endpointAddresses : List EndpointAddress
  lastSeenAt : UInt64
  deriving DecidableEq

/-- What a node announces of itself. -/
structure DiscoveryDigest where
  nodeId : NodeId
  platform : Platform
  capabilitiesFingerprint : List InputType
  sessionEpoch : SessionEpoch
  protocolVersion : UInt16
  topologyId : StdString
  deriving DecidableEq

namespace DiscoveryDigest

open StdString (lit)

/-- One turn of the loop that joins the capabilities with commas. -/
def appendCap (caps : StdString) (cap : InputType) : StdString :=
  (if caps ≠ [] then caps ++ lit "," else caps) ++
    (if cap = .Mouse then lit "mouse" else lit "keyboard")

/-- The pairs of an mDNS TXT record. The two words of the id are written in a row. -/
def toTxtRecord (d : DiscoveryDigest) : List (StdString × StdString) :=
  [ (lit "nid", StdString.toString d.nodeId.high.toNat ++ StdString.toString d.nodeId.low.toNat),
    (lit "plat", if d.platform = .Mac then lit "mac" else lit "win"),
    (lit "epoch", StdString.toString d.sessionEpoch.value.toNat),
    (lit "pver", StdString.toString d.protocolVersion.toNat),
    (lit "tid", d.topologyId),
    (lit "caps", d.capabilitiesFingerprint.foldl appendCap []) ]

end DiscoveryDigest

end CrossFlow
