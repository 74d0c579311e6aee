import CrossFlow.Core.Transport.TransportImpl
import CrossFlow.Lib.Machine

/-!
# `CrossFlow.Core.Transport.TransportThreads`: the threads of a transport

`connect` and `disconnect`, called by one thread, and the two receive loops, access by access. One
`recvRaw` is one step with the result of its last call of `::recv`, and so is what happens under a
mutex. A link-state handler is set from the start. The events that are received are left out.

`connections`, `lost` and `trace` are history variables.
-/

set_option autoImplicit false

namespace CrossFlow

open Lib (Machine)
open TransportImpl (ConnectCalls)

/-- The two connections of a transport. -/
inductive Plane where
  | input
  | control
  deriving DecidableEq

namespace TransportImpl

/-- The descriptor of a plane. -/
def socket (t : TransportImpl) : Plane → SocketFd
  | .input => t.inputSocket
  | .control => t.controlSocket

/-- The descriptor that a plane listens on. -/
def listenSocket (t : TransportImpl) : Plane → SocketFd
  | .input => t.listenInputSocket
  | .control => t.listenControlSocket

/-- The descriptor of a plane is replaced. -/
def setSocket (t : TransportImpl) (fd : SocketFd) : Plane → TransportImpl
  | .input => { t with inputSocket := fd }
  | .control => { t with controlSocket := fd }

end TransportImpl

/-- Where a thread is in `inputReceiveLoop` or `controlReceiveLoop`, and in `reacceptInput` or
`reacceptControl` from there. -/
inductive ReceivePc where
  /-- There is no thread, or it was joined. -/
  | stopped
  /-- `while (receiving_)` -/
  | check
  | load
  | header (fd : SocketFd)
  | body (fd : SocketFd) (len : UInt32)
  | deliver
  /-- `if (config_.isServer && receiving_)`, in each of the three exits. -/
  | lost
  | closeOld
  | lowerLink
  | notifyDisconnected
  | loadListen
  | accept (listenFd : SocketFd)
  | recheck (newFd : Nat)
  | install (newFd : Nat)
  | raiseLink
  | notifyConnected
  | returned
  deriving DecidableEq

/-- Where the thread that calls `connect` and `disconnect` is. -/
inductive CallerPc where
  | idle
  | createSockets
  | notifyFailed
  | setConnected
  | setLinkUp
  | setReceiving
  | startInput
  | startControl (connection : Nat)
  | notifyConnected (connection : Nat)
  | clearConnected
  | clearReceiving
  | clearLinkUp
  | closeSockets
  | joinInput
  | joinControl
  | notifyDisconnected
  deriving DecidableEq

/-- What can be seen of the link: the input loop finds a connection lost, `linkUp_` is stored, and
the link-state handler is called about a connection. -/
inductive LinkObservation where
  | lost (connection : Nat)
  | linkUp (value : Bool)
  | notified (state : LinkState) (connection : Nat)
  deriving DecidableEq

/-- A transport with its receive loops and the thread that connects and disconnects. -/
structure TransportThreads where
  transport : TransportImpl
  caller : CallerPc
  input : ReceivePc
  control : ReceivePc
  /-- How many connections the input plane has had. -/
  connections : Nat
  /-- The one that was lost last. -/
  lost : Nat
  /-- Newest first. -/
  trace : List LinkObservation
  deriving DecidableEq

/-- What the system calls return: the length read, or `none`; whether the body was read; and what
`::accept` returned. -/
structure ReceiveCalls where
  netLen : Option UInt32
  body : Bool
  accepted : SocketFd
  deriving DecidableEq

/-- The steps of the threads, with what the system returns. -/
inductive ThreadAction where
  | connect
  | disconnect
  | caller (r : ConnectCalls)
  | receive (plane : Plane) (r : ReceiveCalls)

namespace TransportThreads

/-- A transport that was just made, before its loops are started. -/
def init (config : TransportConfig) : TransportThreads where
  transport := .init config
  caller := .idle
  input := .stopped
  control := .stopped
  connections := 0
  lost := 0
  trace := []

/-- Stores `linkUp_`. -/
def storeLinkUp (s : TransportThreads) (value : Bool) : TransportThreads :=
  { s with
    transport := { s.transport with linkUp := value }
    trace := .linkUp value :: s.trace }

/-- The link-state handler is called. -/
def notifyLinkState (s : TransportThreads) (state : LinkState) (connection : Nat) :
    TransportThreads := { s with trace := .notified state connection :: s.trace }

/-! ### The receive loops -/

/-- Where the loop of a plane is. -/
def loop (s : TransportThreads) : Plane → ReceivePc
  | .input => s.input
  | .control => s.control

/-- The loop of a plane goes on to its next access. -/
def goto (s : TransportThreads) (pc : ReceivePc) : Plane → TransportThreads
  | .input => { s with input := pc }
  | .control => { s with control := pc }

/-- An exit of the loop: the connection of the plane is lost. -/
def loseConnection (s : TransportThreads) : Plane → TransportThreads
  | .input =>
    { s with
      input := .lost
      lost := s.connections
      trace := .lost s.connections :: s.trace }
  | .control => { s with control := .lost }

/-- The new connection becomes the one of the plane. -/
def installConnection (s : TransportThreads) (newFd : Nat) : Plane → TransportThreads
  | .input =>
    { s with
      transport := s.transport.setSocket (some newFd) .input
      connections := s.connections + 1
      input := .raiseLink }
  | .control =>
    { s with transport := s.transport.setSocket (some newFd) .control, control := .check }

/-- The steps of `reacceptInput` on the link state. `reacceptControl` has none. -/
def linkStep (s : TransportThreads) (pc : ReceivePc) : Plane → TransportThreads
  | .control => s
  | .input =>
    match pc with
    | .lowerLink => { s.storeLinkUp false with input := .notifyDisconnected }
    | .notifyDisconnected =>
      { s.notifyLinkState .Disconnected s.lost with input := .loadListen }
    | .raiseLink => { s.storeLinkUp true with input := .notifyConnected }
    | .notifyConnected => { s.notifyLinkState .Connected s.connections with input := .check }
    | _ => s

/-- One step of a receive loop. -/
def receiveStep (s : TransportThreads) (plane : Plane) (r : ReceiveCalls) : TransportThreads :=
  match s.loop plane with
  | .stopped => s
  | .check => s.goto (if s.transport.receiving then .load else .returned) plane
  | .load => s.goto (.header (s.transport.socket plane)) plane
  | .header fd =>
    match (if fd.isNone then none else r.netLen) with
    | none => s.loseConnection plane
    | some len =>
      if len = 0 ∨ len > 65536 then s.loseConnection plane else s.goto (.body fd len) plane
  | .body fd _ =>
    if fd.isNone ∨ !r.body then s.loseConnection plane else s.goto .deliver plane
  | .deliver =>
    let s := s.goto .check plane
    if plane = Plane.input then
      { s with
        transport := { s.transport with totalReceived := s.transport.totalReceived + 1 } }
    else s
  | .lost =>
    s.goto (if s.transport.config.isServer ∧ s.transport.receiving then .closeOld else .returned)
      plane
  | .closeOld =>
    let transport := (s.transport.closeSocket (s.transport.socket plane)).setSocket none plane
    { s with transport }.goto (if plane = Plane.input then .lowerLink else .loadListen) plane
  | .lowerLink => s.linkStep .lowerLink plane
  | .notifyDisconnected => s.linkStep .notifyDisconnected plane
  | .loadListen => s.goto (.accept (s.transport.listenSocket plane)) plane
  | .accept listenFd =>
    match TransportImpl.acceptConnection listenFd r.accepted with
    | none => s.goto .returned plane
    | some newFd => s.goto (.recheck newFd) plane
  | .recheck newFd =>
    if s.transport.receiving then s.goto (.install newFd) plane
    else { s with transport := s.transport.closeSocket (some newFd) }.goto .returned plane
  | .install newFd => s.installConnection newFd plane
  | .raiseLink => s.linkStep .raiseLink plane
  | .notifyConnected => s.linkStep .notifyConnected plane
  | .returned => s

/-! ### `connect` and `disconnect` -/

/-- One step of the call in progress. A `join` waits until the thread has returned. -/
def callerStep (s : TransportThreads) (r : ConnectCalls) : TransportThreads :=
  match s.caller with
  | .idle => s
  | .createSockets =>
    let (transport, ok) := s.transport.createSockets r
    if !ok then { s with transport, caller := .notifyFailed }
    else { s with transport, connections := s.connections + 1, caller := .setConnected }
  | .notifyFailed => { s.notifyLinkState .Disconnected s.connections with caller := .idle }
  | .setConnected =>
    { s with transport := { s.transport with connected := true }, caller := .setLinkUp }
  | .setLinkUp => { s.storeLinkUp true with caller := .setReceiving }
  | .setReceiving =>
    { s with transport := { s.transport with receiving := true }, caller := .startInput }
  | .startInput => { s with input := .check, caller := .startControl s.connections }
  | .startControl connection =>
    { s with control := .check, caller := .notifyConnected connection }
  | .notifyConnected connection =>
    { s.notifyLinkState .Connected connection with caller := .idle }
  | .clearConnected =>
    { s with transport := { s.transport with connected := false }, caller := .clearReceiving }
  | .clearReceiving =>
    { s with transport := { s.transport with receiving := false }, caller := .clearLinkUp }
  | .clearLinkUp => { s.storeLinkUp false with caller := .closeSockets }
  | .closeSockets => { s with transport := s.transport.closeSockets, caller := .joinInput }
  | .joinInput =>
    if s.input = .returned ∨ s.input = .stopped then
      { s with input := .stopped, caller := .joinControl }
    else s
  | .joinControl =>
    if s.control = .returned ∨ s.control = .stopped then
      { s with control := .stopped, caller := .notifyDisconnected }
    else s
  | .notifyDisconnected => { s.notifyLinkState .Disconnected s.connections with caller := .idle }

/-- A call begins when the one before has returned. -/
def step (s : TransportThreads) : ThreadAction → TransportThreads
  | .connect =>
    if s.caller = .idle ∧ !s.transport.connected then { s with caller := .createSockets } else s
  | .disconnect =>
    if s.caller = .idle ∧ s.transport.connected then { s with caller := .clearConnected } else s
  | .caller r => s.callerStep r
  | .receive plane r => s.receiveStep plane r

end TransportThreads

/-- A transport with its threads, in every interleaving. -/
def threadMachine (config : TransportConfig) : Machine TransportThreads ThreadAction where
  init := .init config
  step := TransportThreads.step

end CrossFlow
