import CrossFlow.Core.Common.Messages
import CrossFlow.Lib.KeyedList
import CrossFlow.Lib.Machine

/-!
# `CrossFlow.Core.Pairing.PairingFsm`: the pairing state of every peer

The model of `s08_pairing/pairing_fsm.hpp` and `.cpp`. A peer that `findPeer` does not find counts
as `Discovered`. An out-parameter is part of the result: it is written only when the call succeeds.
-/

set_option autoImplicit false

namespace CrossFlow

open Lib (Machine)

/-- What is known of the pairing with a peer. -/
structure PeerState where
  nodeId : NodeId
  state : PairingState
  pairingCode : StdString
  deriving DecidableEq

/-- The peers that there is a state of. -/
structure PairingFsm where
  peers : List PeerState
  deriving DecidableEq

namespace PairingFsm

/-- No peer is known. -/
def init : PairingFsm where
  peers := []

/-- The entry of a peer. -/
def findPeer (fsm : PairingFsm) (nid : NodeId) : Option PeerState :=
  Lib.KeyedList.find PeerState.nodeId nid fsm.peers

/-- The state of a peer. One that is not known is `Discovered`. -/
def currentState (fsm : PairingFsm) (peerNodeId : NodeId) : PairingState :=
  match fsm.findPeer peerNodeId with
  | some p => p.state
  | none => .Discovered

/-- The table of the transitions. -/
def isTransitionValid (src dst : PairingState) : Bool :=
  if src = dst then true
  else
    match src with
    | .Discovered => dst = .Untrusted ∨ dst = .Rejected
    | .Untrusted => dst = .Pairing ∨ dst = .Rejected
    | .Pairing => dst = .Trusted ∨ dst = .Rejected ∨ dst = .Rollback
    | .Trusted => dst = .Registering ∨ dst = .Rollback
    | .Registering => dst = .Registered ∨ dst = .Rollback
    | .Registered => dst = .Member ∨ dst = .Rollback
    | .Member => dst = .Rollback
    | .Rejected => dst = .Discovered
    | .Rollback => dst = .Discovered ∨ dst = .Untrusted

/-! ### Writes to `peers_` -/

/-- `if (!peer) peers_.push_back({nid, state, ""})`. -/
def ensurePeer (fsm : PairingFsm) (nid : NodeId) (state : PairingState) : PairingFsm :=
  match fsm.findPeer nid with
  | some _ => fsm
  | none => { peers := fsm.peers ++ [{ nodeId := nid, state, pairingCode := [] }] }

/-- `peer->state = state` at the peer that `findPeer(nid)` returned. -/
def setState (fsm : PairingFsm) (nid : NodeId) (state : PairingState) : PairingFsm where
  peers := Lib.KeyedList.modify PeerState.nodeId nid (fun p => { p with state }) fsm.peers

/-- `peer->pairingCode = pairingCode`. -/
def setPairingCode (fsm : PairingFsm) (nid : NodeId) (pairingCode : StdString) : PairingFsm where
  peers := Lib.KeyedList.modify PeerState.nodeId nid (fun p => { p with pairingCode }) fsm.peers

/-! ### Operations -/

/-- This node asks the peer. An empty code is refused. -/
def initiatePairing (fsm : PairingFsm) (peerNodeId : NodeId) (pairingCode : StdString) :
    PairingFsm × Option ErrorCode :=
  if pairingCode = [] then (fsm, some .PairCodeMismatch)
  else
    let fsm := fsm.ensurePeer peerNodeId .Discovered
    let fsm :=
      if fsm.currentState peerNodeId = .Discovered then fsm.setState peerNodeId .Untrusted else fsm
    if !isTransitionValid (fsm.currentState peerNodeId) .Pairing then
      (fsm, some .PairIllegalTrans)
    else ((fsm.setState peerNodeId .Pairing).setPairingCode peerNodeId pairingCode, none)

/-- The peer asks this node. Every code but the empty one makes it trusted. -/
def handlePairingRequest (fsm : PairingFsm) (request : PairingRequest) :
    PairingFsm × Except ErrorCode PairingResponse :=
  if request.pairingCode = [] then (fsm, .error .PairCodeMismatch)
  else
    ((fsm.ensurePeer request.requesterNodeId .Untrusted).setState request.requesterNodeId .Trusted,
      .ok
        { responderNodeId := request.requesterNodeId
          accepted := true
          identity := none
          fence := request.fence })

/-- The answer of a peer that is known. -/
def handlePairingResponse (fsm : PairingFsm) (response : PairingResponse) :
    PairingFsm × Option ErrorCode :=
  match fsm.findPeer response.responderNodeId with
  | none => (fsm, some .PairUnpaired)
  | some peer =>
    if !response.accepted then (fsm.setState response.responderNodeId .Rejected, none)
    else if !isTransitionValid peer.state .Trusted then (fsm, some .PairIllegalTrans)
    else (fsm.setState response.responderNodeId .Trusted, none)

/-- A transition that is in the table. -/
def forceTransition (fsm : PairingFsm) (peerNodeId : NodeId) (newState : PairingState) :
    PairingFsm × Option ErrorCode :=
  match fsm.findPeer peerNodeId with
  | none => (fsm, some .PairUnpaired)
  | some peer =>
    if !isTransitionValid peer.state newState then (fsm, some .PairIllegalTrans)
    else (fsm.setState peerNodeId newState, none)

end PairingFsm

/-! ### Runs -/

/-- A call of one of the operations that write the state. -/
inductive PairingCall where
  | initiatePairing (peerNodeId : NodeId) (pairingCode : StdString)
  | handlePairingRequest (request : PairingRequest)
  | handlePairingResponse (response : PairingResponse)
  | forceTransition (peerNodeId : NodeId) (newState : PairingState)

/-- The peer the call is about. -/
def PairingCall.peer : PairingCall → NodeId
  | .initiatePairing peerNodeId _ => peerNodeId
  | .handlePairingRequest request => request.requesterNodeId
  | .handlePairingResponse response => response.responderNodeId
  | .forceTransition peerNodeId _ => peerNodeId

/-- The error code of a call with an out-parameter. -/
def errorOf {α : Type} : Except ErrorCode α → Option ErrorCode
  | .ok _ => none
  | .error code => some code

/-- One call, and the error that it returns. -/
def PairingFsm.call (fsm : PairingFsm) : PairingCall → PairingFsm × Option ErrorCode
  | .initiatePairing peerNodeId pairingCode => fsm.initiatePairing peerNodeId pairingCode
  | .handlePairingRequest request =>
    ((fsm.handlePairingRequest request).1, errorOf (fsm.handlePairingRequest request).2)
  | .handlePairingResponse response => fsm.handlePairingResponse response
  | .forceTransition peerNodeId newState => fsm.forceTransition peerNodeId newState

/-- The pairings of a node, in any order of the calls. -/
def pairingMachine : Machine PairingFsm PairingCall where
  init := PairingFsm.init
  step fsm c := (fsm.call c).1

end CrossFlow
