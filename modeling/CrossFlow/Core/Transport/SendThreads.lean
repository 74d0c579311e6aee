import CrossFlow.Core.Transport.TransportThreads
import CrossFlow.Lib.Mutex
import Mathlib.Logic.Function.Basic

/-!
# `CrossFlow.Core.Transport.SendThreads`: threads that send

Any number of threads in `send(const CanonicalInputEvent&)` and `send(const ControlMessage&)` of
`s05_transport/transport_impl.cpp`, access by access: one call of `::send` is one step. The other
threads of the transport open connections, store them as its sockets and close them meanwhile.

A descriptor is the number of a connection while it is open. The system may give the number of a
closed descriptor to a new connection. A call of `::send` on a closed descriptor fails.

`framed`, `adds` and `subs` are history variables.
-/

set_option autoImplicit false

namespace CrossFlow

open Lib (Machine Mutex)

/-- A call of one of the two `send` functions, with the object it has serialized. -/
structure SendCall where
  plane : Plane
  data : List UInt8
  data_pos : 1 ≤ data.length
  data_le : data.length ≤ 65536

/-- The bytes that the call writes: the length, then the data. -/
def SendCall.frame (call : SendCall) : List UInt8 :=
  TransportImpl.htonl (UInt32.ofNat call.data.length) ++ call.data

/-- Where a thread is in `send`. -/
inductive SendPc where
  /-- In no call. -/
  | idle
  /-- `if (!connected_)` -/
  | loadConnected (call : SendCall)
  /-- `backlog_.fetch_add(1)` of an event that is not sent for want of a connection -/
  | backlogUnsent
  /-- `std::lock_guard<std::mutex> lock(sendMutex_)` -/
  | lock (call : SendCall)
  /-- `fd = inputSocket_` or `fd = controlSocket_` -/
  | loadSocket (call : SendCall)
  /-- in the first `sendRaw`, with the bytes that are left -/
  | header (call : SendCall) (fd : SocketFd) (left : List UInt8)
  /-- in the second `sendRaw`, with the bytes that are left -/
  | body (call : SendCall) (fd : SocketFd) (left : List UInt8)
  /-- `backlog_.fetch_add(1)` of an event whose frame was not written -/
  | backlogFailed
  /-- `totalSent_.fetch_add(1)` -/
  | countSent (plane : Plane)
  /-- `backlog_.load()` -/
  | loadBacklog
  /-- `backlog_.fetch_sub(1)` -/
  | subBacklog
  /-- the end of the guarded part -/
  | unlock

/-- The thread is between the lock and the unlock of `sendMutex_`. -/
def SendPc.Guarded : SendPc → Prop
  | .idle | .loadConnected _ | .backlogUnsent | .lock _ => False
  | _ => True

/-- Any number of sending threads with the fields of the transport that they share, and what was
written on each connection. -/
structure SendThreads where
  connected : Bool
  inputSocket : SocketFd
  controlSocket : SocketFd
  backlog : UInt32
  totalSent : UInt64
  sendMutex : Mutex Nat
  threads : Nat → SendPc
  /-- The connection that an open descriptor is of. -/
  connection : Nat → Option Nat
  /-- How many connections there have been. -/
  connections : Nat
  /-- What was written on each connection. -/
  streams : Nat → List UInt8
  /-- History: the calls whose frame was written as a whole, for each connection. -/
  framed : Nat → List SendCall
  /-- History: the calls of `backlog_.fetch_add(1)`. -/
  adds : Nat
  /-- History: the calls of `backlog_.fetch_sub(1)`. -/
  subs : Nat

namespace SendThreads

/-- Nothing was sent, and there was no connection. -/
def init : SendThreads where
  connected := false
  inputSocket := none
  controlSocket := none
  backlog := 0
  totalSent := 0
  sendMutex := .free
  threads _ := .idle
  connection _ := none
  connections := 0
  streams _ := []
  framed _ := []
  adds := 0
  subs := 0

/-- The descriptor of a plane. -/
def socket (s : SendThreads) : Plane → SocketFd
  | .input => s.inputSocket
  | .control => s.controlSocket

/-- The descriptor of a plane is replaced. -/
def setSocket (s : SendThreads) (fd : SocketFd) : Plane → SendThreads
  | .input => { s with inputSocket := fd }
  | .control => { s with controlSocket := fd }

/-- A thread goes on to its next access. -/
def goto (s : SendThreads) (t : Nat) (pc : SendPc) : SendThreads :=
  { s with threads := Function.update s.threads t pc }

/-- `backlog_.fetch_add(1)` -/
def addBacklog (s : SendThreads) : SendThreads :=
  { s with backlog := s.backlog + 1, adds := s.adds + 1 }

/-- Where a call goes that could not write its frame. -/
def failedPc : Plane → SendPc
  | .input => .backlogFailed
  | .control => .unlock

/-- The connection that the descriptor is open on. -/
def openOn (s : SendThreads) (fd : SocketFd) : Option Nat := fd.bind s.connection

/-- `::send` with `left` to write, which returns `ret` if the descriptor is open: the bytes that it
writes, and on which connection. `none` is for a call that fails. -/
def sendCall (s : SendThreads) (fd : SocketFd) (left : List UInt8) (ret : Int) :
    Option (Nat × List UInt8) :=
  match s.openOn fd with
  | none => none
  | some c => if ret ≤ 0 then none else some (c, left.take ret.toNat)

/-- Bytes are written on a connection. -/
def append (s : SendThreads) (c : Nat) (bytes : List UInt8) : SendThreads :=
  { s with streams := Function.update s.streams c (s.streams c ++ bytes) }

/-- The frame of the call is on the connection as a whole. -/
def complete (s : SendThreads) (c : Nat) (call : SendCall) : SendThreads :=
  { s with framed := Function.update s.framed c (s.framed c ++ [call]) }

/-- The next access of the thread. `ret` is what `::send` returns. -/
def stepSend (s : SendThreads) (t : Nat) (ret : Int) : SendThreads :=
  match s.threads t with
  | .idle => s
  | .loadConnected call =>
    if s.connected then s.goto t (.lock call)
    else
      match call.plane with
      | .input => s.goto t .backlogUnsent
      | .control => s.goto t .idle
  | .backlogUnsent => s.addBacklog.goto t .idle
  | .lock call =>
    match s.sendMutex.lock t with
    | some sendMutex => { s with sendMutex }.goto t (.loadSocket call)
    | none => s
  | .loadSocket call =>
    s.goto t (.header call (s.socket call.plane)
      (TransportImpl.htonl (UInt32.ofNat call.data.length)))
  | .header call fd left =>
    match s.sendCall fd left ret with
    | none => s.goto t (failedPc call.plane)
    | some (c, written) =>
      let left := left.drop written.length
      (s.append c written).goto t
        (if left = [] then .body call fd call.data else .header call fd left)
  | .body call fd left =>
    match s.sendCall fd left ret with
    | none => s.goto t (failedPc call.plane)
    | some (c, written) =>
      let left := left.drop written.length
      if left = [] then ((s.append c written).complete c call).goto t (.countSent call.plane)
      else (s.append c written).goto t (.body call fd left)
  | .backlogFailed => s.addBacklog.goto t .unlock
  | .countSent plane =>
    { s with totalSent := s.totalSent + 1 }.goto t
      (match plane with
        | .input => .loadBacklog
        | .control => .unlock)
  | .loadBacklog => s.goto t (if s.backlog > 0 then .subBacklog else .unlock)
  | .subBacklog => { s with backlog := s.backlog - 1, subs := s.subs + 1 }.goto t .unlock
  | .unlock => { s with sendMutex := .free }.goto t .idle

/-- A thread calls one of the `send` functions, unless it is inside one. -/
def callSend (s : SendThreads) (t : Nat) (call : SendCall) : SendThreads :=
  match s.threads t with
  | .idle => s.goto t (.loadConnected call)
  | _ => s

/-- `::close`. -/
def closeConnection (s : SendThreads) : SocketFd → SendThreads
  | none => s
  | some fd => { s with connection := Function.update s.connection fd none }

/-- Another thread closes the socket of a plane: `reacceptInput`, `reacceptControl` and
`disconnect`. -/
def closeSocket (s : SendThreads) (plane : Plane) : SendThreads :=
  (s.closeConnection (s.socket plane)).setSocket none plane

/-- Another thread gets a new connection from `::connect` or `::accept`, with a descriptor that is
not open. -/
def openConnection (s : SendThreads) (fd : Nat) : SendThreads :=
  match s.connection fd with
  | some _ => s
  | none =>
    { s with
      connection := Function.update s.connection fd (some s.connections)
      connections := s.connections + 1 }

end SendThreads

/-- The actions of the threads that send, and of the other ones. -/
inductive SendAction where
  | callSend (t : Nat) (call : SendCall)
  | stepSend (t : Nat) (ret : Int)
  | setConnected (connected : Bool)
  | openConnection (fd : Nat)
  | install (plane : Plane) (fd : Nat)
  | closeConnection (fd : Nat)
  | closeSocket (plane : Plane)

/-- Threads that send, in every interleaving. -/
def sendMachine : Machine SendThreads SendAction where
  init := .init
  step s
    | .callSend t call => s.callSend t call
    | .stepSend t ret => s.stepSend t ret
    | .setConnected connected => { s with connected }
    | .openConnection fd => s.openConnection fd
    | .install plane fd => s.setSocket (some fd) plane
    | .closeConnection fd => s.closeConnection (some fd)
    | .closeSocket plane => s.closeSocket plane

end CrossFlow
