import CrossFlow.Core.Common.Messages

/-!
# `CrossFlow.Core.Transport.TransportImpl`: two TCP connections to one peer

The model of `s05_transport/transport_impl.hpp` and `.cpp`, with POSIX sockets. The results of the
system calls are arguments. `reacceptInput`, which waits for the peer in its middle, is modelled as
the two functions before and after the wait. Each function that calls the link-state handler returns
the states it calls it with.

`closed` is a history variable: the descriptors that were passed to `::close`.
-/

set_option autoImplicit false

namespace CrossFlow

/-- Where a transport connects to, or listens. -/
structure TransportConfig where
  remoteHost : StdString
  inputPlanePort : UInt16
  controlPlanePort : UInt16
  isServer : Bool
  deriving DecidableEq

/-- `none` is `kInvalidSocket`. -/
abbrev SocketFd : Type := Option Nat

/-- The object representations that `serializeEvent` and `serializeMessage` copy. -/
structure ObjectBytes where
  event : CanonicalInputEvent → List UInt8
  message : ControlMessage → List UInt8

/-- The fields of a transport. `receiving` is whether its receive loops run, and `closed` is the
list of the descriptors that were closed. -/
structure TransportImpl where
  config : TransportConfig
  connected : Bool
  linkUp : Bool
  backlog : UInt32
  totalSent : UInt64
  totalReceived : UInt64
  inputSocket : SocketFd
  controlSocket : SocketFd
  listenInputSocket : SocketFd
  listenControlSocket : SocketFd
  receiving : Bool
  closed : List Nat
  deriving DecidableEq

namespace TransportImpl

/-- A transport that was just made. -/
def init (config : TransportConfig) : TransportImpl where
  config := config
  connected := false
  linkUp := false
  backlog := 0
  totalSent := 0
  totalReceived := 0
  inputSocket := none
  controlSocket := none
  listenInputSocket := none
  listenControlSocket := none
  receiving := false
  closed := []

/-- What the caller is told, which is `linkUp_` and not `connected_`. -/
def isConnected (t : TransportImpl) : Bool := t.linkUp

/-- `::close`, but for -1. -/
def closeSocket (t : TransportImpl) : SocketFd → TransportImpl
  | none => t
  | some fd => { t with closed := fd :: t.closed }

/-! ### Sending -/

/-- The loop of `sendRaw`. The `k`th call of `::send` returns `ret k`; `data` is what is left, and
`k` calls were made. Returns whether everything was written, what was, and the calls made. -/
def sendLoop (ret : Nat → Int) (k : Nat) (data : List UInt8) : Bool × List UInt8 × Nat :=
  if data = [] then (true, [], k)
  else if ret k ≤ 0 then (false, [], k + 1)
  else
    let n := (ret k).toNat
    let (ok, written, k') := sendLoop ret (k + 1) (data.drop n)
    (ok, data.take n ++ written, k')
termination_by data.length
decreasing_by
  rename_i hdata hn
  have hpos : 0 < data.length := List.length_pos_iff.mpr hdata
  rw [List.length_drop]
  omega

/-- The loop, unless there is no descriptor. -/
def sendRaw (fd : SocketFd) (ret : Nat → Int) (k : Nat) (data : List UInt8) :
    Bool × List UInt8 × Nat :=
  match fd with
  | none => (false, [], k)
  | some _ => sendLoop ret k data

/-- The four bytes of a number in network order. -/
def htonl (len : UInt32) : List UInt8 :=
  [(len >>> 24).toUInt8, (len >>> 16).toUInt8, (len >>> 8).toUInt8, len.toUInt8]

/-- The two `sendRaw` calls of a `send`: the length, then the data. -/
def sendFrame (fd : SocketFd) (ret : Nat → Int) (data : List UInt8) : Bool × List UInt8 :=
  let netLen := htonl (UInt32.ofNat data.length)
  let (headerOk, header, k) := sendRaw fd ret 0 netLen
  if !headerOk then (false, header)
  else
    let (ok, body, _) := sendRaw fd ret k data
    (ok, header ++ body)

/-- `send(const CanonicalInputEvent&)`, with the bytes it writes on the input socket. -/
def send (t : TransportImpl) (bytes : ObjectBytes) (event : CanonicalInputEvent)
    (ret : Nat → Int) : TransportImpl × List UInt8 :=
  if !t.connected then ({ t with backlog := t.backlog + 1 }, [])
  else
    let data := bytes.event event
    let (ok, written) := sendFrame t.inputSocket ret data
    if !ok then ({ t with backlog := t.backlog + 1 }, written)
    else
      let t := { t with totalSent := t.totalSent + 1 }
      (if t.backlog > 0 then { t with backlog := t.backlog - 1 } else t, written)

/-- `send(const ControlMessage&)`, with its `SendResult`. -/
def sendMessage (t : TransportImpl) (bytes : ObjectBytes) (msg : ControlMessage)
    (ret : Nat → Int) : TransportImpl × Bool × UInt32 :=
  if !t.connected then (t, false, 0)
  else
    let data := bytes.message msg
    let (ok, _) := sendFrame t.controlSocket ret data
    if !ok then (t, false, 0)
    else ({ t with totalSent := t.totalSent + 1 }, true, (t.totalSent + 1).toUInt32)

/-! ### Connecting -/

/-- What the system calls of `createClientSockets` return. -/
structure ClientCalls where
  sock1 : SocketFd
  sock2 : SocketFd
  connect1 : Bool
  connect2 : Bool
  deriving DecidableEq

/-- Both sockets are connected, or both closed. -/
def createClientSockets (t : TransportImpl) (r : ClientCalls) : TransportImpl × Bool :=
  if r.sock1.isNone ∨ r.sock2.isNone then
    ((t.closeSocket r.sock1).closeSocket r.sock2, false)
  else if !r.connect1 then ((t.closeSocket r.sock1).closeSocket r.sock2, false)
  else if !r.connect2 then ((t.closeSocket r.sock1).closeSocket r.sock2, false)
  else ({ t with inputSocket := r.sock1, controlSocket := r.sock2 }, true)

/-- What the system calls of `createServerSockets` return. -/
structure ServerCalls where
  listen1 : SocketFd
  listen2 : SocketFd
  bind1 : Bool
  bind2 : Bool
  accepted1 : SocketFd
  accepted2 : SocketFd
  deriving DecidableEq

/-- Both planes listen and accept. When one of them does not accept, both still listen. -/
def createServerSockets (t : TransportImpl) (r : ServerCalls) : TransportImpl × Bool :=
  if r.listen1.isNone ∨ r.listen2.isNone then
    ((t.closeSocket r.listen1).closeSocket r.listen2, false)
  else if !r.bind1 ∨ !r.bind2 then ((t.closeSocket r.listen1).closeSocket r.listen2, false)
  else
    let t := { t with listenInputSocket := r.listen1, listenControlSocket := r.listen2 }
    if r.accepted1.isNone ∨ r.accepted2.isNone then
      ((t.closeSocket r.accepted1).closeSocket r.accepted2, false)
    else ({ t with inputSocket := r.accepted1, controlSocket := r.accepted2 }, true)

/-- What the system calls of `connect` return, as a client and as a server. -/
structure ConnectCalls where
  client : ClientCalls
  server : ServerCalls
  deriving DecidableEq

/-- By the role of the transport. -/
def createSockets (t : TransportImpl) (r : ConnectCalls) : TransportImpl × Bool :=
  if t.config.isServer then t.createServerSockets r.server else t.createClientSockets r.client

/-- The sockets, then the receive loops, then the report. -/
def connect (t : TransportImpl) (r : ConnectCalls) : TransportImpl × Bool × List LinkState :=
  if t.connected then (t, true, [])
  else
    let (t, ok) := t.createSockets r
    if !ok then (t, false, [.Disconnected])
    else ({ t with connected := true, linkUp := true, receiving := true }, true, [.Connected])

/-- What `disconnect` does under `socketMutex_`. -/
def closeSockets (t : TransportImpl) : TransportImpl :=
  let t := (t.closeSocket t.inputSocket).closeSocket t.controlSocket
  let t := (t.closeSocket t.listenInputSocket).closeSocket t.listenControlSocket
  { t with
    inputSocket := none
    controlSocket := none
    listenInputSocket := none
    listenControlSocket := none }

/-- The receive loops end, the sockets are closed, and the loss is reported. -/
def disconnect (t : TransportImpl) : TransportImpl × List LinkState :=
  if !t.connected then (t, [])
  else
    let t := { t with connected := false, receiving := false, linkUp := false }
    (t.closeSockets, [.Disconnected])

/-! ### Accepting a new connection -/

/-- What `reacceptInput` does first under `socketMutex_`. -/
def closeInput (t : TransportImpl) : TransportImpl :=
  { t.closeSocket t.inputSocket with inputSocket := none }

/-- `reacceptInput` up to the wait for a connection. -/
def reacceptInput_close (t : TransportImpl) : TransportImpl × List LinkState :=
  ({ t.closeInput with linkUp := false }, [.Disconnected])

/-- `accepted` is what `::accept` returns. -/
def acceptConnection (listenFd accepted : SocketFd) : SocketFd :=
  if listenFd.isNone then none else accepted

/-- `reacceptInput` after the wait. -/
def reacceptInput_accept (t : TransportImpl) (accepted : SocketFd) :
    TransportImpl × Bool × List LinkState :=
  let newFd := acceptConnection t.listenInputSocket accepted
  if newFd.isNone then (t, false, [])
  else if !t.receiving then (t.closeSocket newFd, false, [])
  else ({ t with inputSocket := newFd, linkUp := true }, true, [.Connected])

end TransportImpl

end CrossFlow
