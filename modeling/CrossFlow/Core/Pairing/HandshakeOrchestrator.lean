import CrossFlow.Core.Identity.NodeIdentityManager
import CrossFlow.Core.Pairing.PairingFsm
import CrossFlow.Core.Pairing.RegistrationManager
import CrossFlow.Core.Pairing.TrustedNodeList

/-!
# `CrossFlow.Core.Pairing.HandshakeOrchestrator`: pairing and registration of a peer

The model of `s08_pairing/handshake_orchestrator.hpp` and `.cpp`, with the components it refers to
as part of its state. `now` is the reading of the steady clock.
-/

set_option autoImplicit false

namespace CrossFlow

open Lib (Machine)

/-- How far the handshake with a peer has come. -/
structure HandshakeState where
  peerNodeId : NodeId
  pairingDone : Bool
  registrationDone : Bool
  deriving DecidableEq

/-- The handshakes of a node, with the managers that they go through. -/
structure HandshakeOrchestrator where
  pairingMgr : PairingFsm
  regMgr : RegistrationManager
  trustedList : TrustedNodeList
  identityMgr : NodeIdentityManager
  activeHandshakes : List HandshakeState
  deriving DecidableEq

namespace HandshakeOrchestrator

/-- A node that has just started, with nothing paired, registered or trusted. -/
def init (identityMgr : NodeIdentityManager) : HandshakeOrchestrator where
  pairingMgr := PairingFsm.init
  regMgr := RegistrationManager.init
  trustedList := TrustedNodeList.init
  identityMgr := identityMgr
  activeHandshakes := []

/-- The handshake with a peer. -/
def findHandshake (o : HandshakeOrchestrator) (nid : NodeId) : Option HandshakeState :=
  Lib.KeyedList.find HandshakeState.peerNodeId nid o.activeHandshakes

/-- `if (hs) …`: a write to the handshake that `findHandshake(nid)` returned. -/
def modifyHandshake (o : HandshakeOrchestrator) (nid : NodeId)
    (f : HandshakeState → HandshakeState) : HandshakeOrchestrator :=
  { o with
    activeHandshakes := Lib.KeyedList.modify HandshakeState.peerNodeId nid f o.activeHandshakes }

/-- The pairing begins, and with it a handshake when there is none yet. -/
def initiateHandshake (o : HandshakeOrchestrator) (peerNodeId : NodeId)
    (pairingCode : StdString) : HandshakeOrchestrator × Option ErrorCode :=
  match o.pairingMgr.initiatePairing peerNodeId pairingCode with
  | (pairingMgr, some err) => ({ o with pairingMgr }, some err)
  | (pairingMgr, none) =>
    match o.findHandshake peerNodeId with
    | some _ => ({ o with pairingMgr }, none)
    | none =>
      ({ o with
          pairingMgr
          activeHandshakes := o.activeHandshakes ++
            [{ peerNodeId, pairingDone := false, registrationDone := false }] }, none)

/-- The request is passed on. -/
def handlePairingRequest (o : HandshakeOrchestrator) (request : PairingRequest) :
    HandshakeOrchestrator × Except ErrorCode PairingResponse :=
  let (pairingMgr, answer) := o.pairingMgr.handlePairingRequest request
  ({ o with pairingMgr }, answer)

/-- The response is passed on, and the peer trusted when it has accepted. -/
def handlePairingResponse (o : HandshakeOrchestrator) (now : UInt64) (response : PairingResponse) :
    HandshakeOrchestrator × Option ErrorCode :=
  match o.pairingMgr.handlePairingResponse response with
  | (pairingMgr, some err) => ({ o with pairingMgr }, some err)
  | (pairingMgr, none) =>
    let o := { o with pairingMgr }
    let o := o.modifyHandshake response.responderNodeId fun hs => { hs with pairingDone := true }
    if o.pairingMgr.currentState response.responderNodeId = .Trusted then
      ({ o with
          trustedList := o.trustedList.add
            { nodeId := response.responderNodeId
              pairedAt := now
              lastSeenEpoch := o.identityMgr.currentEpoch } }, none)
    else (o, none)

/-- The request is passed on, with no look at the pairing. -/
def handleRegistrationRequest (o : HandshakeOrchestrator) (now : UInt64)
    (request : RegistrationRequest) :
    HandshakeOrchestrator × Except ErrorCode RegistrationResponse :=
  let (regMgr, answer) := o.regMgr.handleRegistrationRequest now request
  ({ o with regMgr }, answer)

/-- Nothing of the handshake is done any more, the pairing goes back as far as there are
transitions, and the peer is not trusted. -/
def rollbackHandshake (o : HandshakeOrchestrator) (peerNodeId : NodeId) :
    HandshakeOrchestrator × Option ErrorCode :=
  let o := o.modifyHandshake peerNodeId fun hs =>
    { hs with pairingDone := false, registrationDone := false }
  let state := o.pairingMgr.currentState peerNodeId
  let o :=
    if state ≠ .Discovered ∧ state ≠ .Rejected then
      let pairingMgr := (o.pairingMgr.forceTransition peerNodeId .Rollback).1
      { o with pairingMgr := (pairingMgr.forceTransition peerNodeId .Discovered).1 }
    else o
  ({ o with trustedList := o.trustedList.remove peerNodeId }, none)

/-- A response that accepts is the end of the registration, another one of the handshake. -/
def handleRegistrationResponse (o : HandshakeOrchestrator) (response : RegistrationResponse) :
    HandshakeOrchestrator × Option ErrorCode :=
  if !response.accepted then o.rollbackHandshake response.responderNodeId
  else
    (o.modifyHandshake response.responderNodeId fun hs => { hs with registrationDone := true },
      none)

/-- `forceTransition` of the peer to each of the states, until one fails. -/
def forceTransitions (o : HandshakeOrchestrator) (peerNodeId : NodeId) :
    List PairingState → HandshakeOrchestrator × Option ErrorCode
  | [] => (o, none)
  | newState :: newStates =>
    match o.pairingMgr.forceTransition peerNodeId newState with
    | (pairingMgr, some err) => ({ o with pairingMgr }, some err)
    | (pairingMgr, none) => forceTransitions { o with pairingMgr } peerNodeId newStates

/-- Pairing and registration must be done; then the peer becomes a member. -/
def completeHandshake (o : HandshakeOrchestrator) (peerNodeId : NodeId) :
    HandshakeOrchestrator × Option ErrorCode :=
  match o.findHandshake peerNodeId with
  | none => (o, some .PairUnpaired)
  | some hs =>
    if !hs.pairingDone then (o, some .PairUnpaired)
    else if !hs.registrationDone then (o, some .RegUndiscovered)
    else o.forceTransitions peerNodeId [.Registering, .Registered, .Member]

/-- Pairing and registration are done. -/
def isHandshakeComplete (o : HandshakeOrchestrator) (peerNodeId : NodeId) : Bool :=
  match o.findHandshake peerNodeId with
  | some h => h.pairingDone && h.registrationDone
  | none => false

end HandshakeOrchestrator

/-! ### Runs -/

/-- The calls of an orchestrator. -/
inductive HandshakeCall where
  | initiateHandshake (peerNodeId : NodeId) (pairingCode : StdString)
  | handlePairingRequest (request : PairingRequest)
  | handlePairingResponse (now : UInt64) (response : PairingResponse)
  | handleRegistrationRequest (now : UInt64) (request : RegistrationRequest)
  | handleRegistrationResponse (response : RegistrationResponse)
  | completeHandshake (peerNodeId : NodeId)
  | rollbackHandshake (peerNodeId : NodeId)

/-- One call. -/
def HandshakeOrchestrator.step (o : HandshakeOrchestrator) : HandshakeCall → HandshakeOrchestrator
  | .initiateHandshake peerNodeId pairingCode => (o.initiateHandshake peerNodeId pairingCode).1
  | .handlePairingRequest request => (o.handlePairingRequest request).1
  | .handlePairingResponse now response => (o.handlePairingResponse now response).1
  | .handleRegistrationRequest now request => (o.handleRegistrationRequest now request).1
  | .handleRegistrationResponse response => (o.handleRegistrationResponse response).1
  | .completeHandshake peerNodeId => (o.completeHandshake peerNodeId).1
  | .rollbackHandshake peerNodeId => (o.rollbackHandshake peerNodeId).1

/-- An orchestrator, in any order of its calls. -/
def handshakeMachine (start : HandshakeOrchestrator) :
    Machine HandshakeOrchestrator HandshakeCall where
  init := start
  step := HandshakeOrchestrator.step

end CrossFlow
