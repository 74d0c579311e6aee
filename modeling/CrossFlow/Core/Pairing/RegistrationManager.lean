import CrossFlow.Core.Common.Messages
import CrossFlow.Lib.KeyedList
import CrossFlow.Lib.Machine

/-!
# `CrossFlow.Core.Pairing.RegistrationManager`: the registrations

The model of `s08_pairing/registration_manager.hpp` and `.cpp`. `now` is the reading of the steady
clock.
-/

set_option autoImplicit false

namespace CrossFlow

/-- The registrations of the peers. -/
structure RegistrationManager where
  records : List RegistrationRecord
  deriving DecidableEq

namespace RegistrationManager

/-- No peer is registered. -/
def init : RegistrationManager where
  records := []

/-- The record of a peer. -/
def find (m : RegistrationManager) (nid : NodeId) : Option RegistrationRecord :=
  Lib.KeyedList.find RegistrationRecord.peerNodeId nid m.records

/-- What `registerPeer` writes to the record of a known peer. -/
def renewRecord (now : UInt64) (peerIdentity : NodeIdentity) (existing : RegistrationRecord) :
    RegistrationRecord :=
  { existing with
    peerIdentity
    previousState := existing.currentState
    currentState := .Registered
    enteredAt := now
    failureReason := none }

/-- The record `registerPeer` appends for a new peer. -/
def newRecord (now : UInt64) (peerIdentity : NodeIdentity) : RegistrationRecord where
  peerNodeId := peerIdentity.nodeId
  peerIdentity := peerIdentity
  currentState := .Registered
  previousState := .Trusted
  enteredAt := now
  failureReason := none

/-- The peer is registered, or registered once more. The identity must be valid. -/
def registerPeer (m : RegistrationManager) (now : UInt64) (peerIdentity : NodeIdentity) :
    RegistrationManager × Option ErrorCode :=
  if !peerIdentity.isValid then (m, some .SessNodeidForge)
  else
    match m.find peerIdentity.nodeId with
    | some _ =>
      ({ records := Lib.KeyedList.modify RegistrationRecord.peerNodeId peerIdentity.nodeId
          (renewRecord now peerIdentity) m.records }, none)
    | none => ({ records := m.records ++ [newRecord now peerIdentity] }, none)

/-- The record of the peer goes. -/
def unregisterPeer (m : RegistrationManager) (peerNodeId : NodeId) : RegistrationManager where
  records := Lib.KeyedList.erase RegistrationRecord.peerNodeId peerNodeId m.records

/-- The record of the peer says so. -/
def isRegistered (m : RegistrationManager) (peerNodeId : NodeId) : Bool :=
  match m.find peerNodeId with
  | some r => r.currentState = .Registered
  | none => false

/-- The peer is registered, and told so. -/
def handleRegistrationRequest (m : RegistrationManager) (now : UInt64)
    (request : RegistrationRequest) : RegistrationManager × Except ErrorCode RegistrationResponse :=
  if !request.identity.isValid then (m, .error .SessNodeidForge)
  else
    match m.registerPeer now request.identity with
    | (m, some err) => (m, .error err)
    | (m, none) =>
      (m,
        .ok
          { responderNodeId := request.identity.nodeId
            accepted := true
            membership := none
            fence := request.fence })

end RegistrationManager

/-! ### Runs -/

/-- The calls that change the registrations. -/
inductive RegistrationCall where
  | registerPeer (now : UInt64) (peerIdentity : NodeIdentity)
  | unregisterPeer (peerNodeId : NodeId)
  | handleRegistrationRequest (now : UInt64) (request : RegistrationRequest)

/-- A manager, in any order of these calls. -/
def registrationMachine : Lib.Machine RegistrationManager RegistrationCall where
  init := .init
  step m
    | .registerPeer now peerIdentity => (m.registerPeer now peerIdentity).1
    | .unregisterPeer peerNodeId => m.unregisterPeer peerNodeId
    | .handleRegistrationRequest now request => (m.handleRegistrationRequest now request).1

end CrossFlow
