import CrossFlow.Core.Common.Domain
import CrossFlow.Core.Common.ErrorCode
import CrossFlow.Core.Discovery.MdnsAnnouncer

/-!
# `CrossFlow.Core.Discovery.Transports`: what a discovery service announces and listens on

`UdpBroadcast` (`udp_broadcast.cpp`), `LanBroadcastFallback` (`mdns.cpp`), `ManualConfigFallback`
(`manual_config_fallback.cpp`), and starting and stopping an `MdnsListener` (`mdns_listener.cpp`)
on a platform that has mDNS. Whether the operating system does what is asked of it is an argument.
-/

set_option autoImplicit false

namespace CrossFlow

/-! ### UDP broadcast -/

/-- The socket of the broadcasts. -/
structure UdpBroadcast where
  /-- `socketFd_ >= 0` -/
  isOpen : Bool
  port : UInt16
  /-- History: how many of the sockets that were bound are not closed. -/
  openSockets : Nat

namespace UdpBroadcast

/-- No socket. -/
def init : UdpBroadcast where
  isOpen := false
  port := 0
  openSockets := 0

/-- `socketFd_` is overwritten. `binds` is whether there is a socket that can be bound. -/
def openPort (u : UdpBroadcast) (port : UInt16) (binds : Bool) : UdpBroadcast × Option ErrorCode :=
  if !binds then (u, some .DiscMdnsUnavailable)
  else ({ isOpen := true, port, openSockets := u.openSockets + 1 }, none)

/-- The socket is closed, if there is one. -/
def close (u : UdpBroadcast) : UdpBroadcast :=
  if u.isOpen then { u with isOpen := false, openSockets := u.openSockets - 1 } else u

/-- `sends` is whether `sendto` succeeds. It is not called for no data. -/
def send (u : UdpBroadcast) (data : List UInt8) (sends : Bool) : Option ErrorCode :=
  if !u.isOpen then some .DiscAnnounceLost
  else if data = [] then none
  else if !sends then some .DiscAnnounceLost
  else none

/-- `datagram` is the one that has come when `poll` looks, if there is one. `recvfrom` says what is
read of a datagram into a buffer of a size, or `none` for an error. -/
def receive (u : UdpBroadcast) (recvfrom : Nat → List UInt8 → Option (List UInt8))
    (datagram : Option (List UInt8)) : Option (List UInt8) :=
  if !u.isOpen then none
  else
    match datagram with
    | none => none
    | some datagram =>
      match recvfrom 4096 datagram with
      | none | some [] => none
      | some buffer => some buffer

end UdpBroadcast

/-- The announcement by broadcasts. -/
structure LanBroadcastFallback where
  udp : UdpBroadcast
  running : Bool
  port : UInt16
  /-- `none` is a `DiscoveryDigest{}` that was not assigned to. -/
  currentDigest : Option DiscoveryDigest

namespace LanBroadcastFallback

/-- A fallback that was just made. -/
def init : LanBroadcastFallback where
  udp := .init
  running := false
  port := 0
  currentDigest := none

/-- The socket is opened again, also when it is open. -/
def start (f : LanBroadcastFallback) (digest : DiscoveryDigest) (port : UInt16) (binds : Bool) :
    LanBroadcastFallback × Option ErrorCode :=
  let (udp, err) := f.udp.openPort port binds
  if err.isSome then ({ f with udp }, err)
  else ({ udp, port, currentDigest := some digest, running := true }, none)

/-- The socket is closed. -/
def stop (f : LanBroadcastFallback) : LanBroadcastFallback :=
  { f with udp := f.udp.close, running := false }

/-- The most significant byte first. -/
def appendU64 (v : UInt64) : List UInt8 :=
  ([7, 6, 5, 4, 3, 2, 1, 0] : List UInt64).map fun i => (v >>> (i * 8) &&& 0xFF).toUInt8

/-- The datagram of a digest: its capabilities are left out. -/
def serializeDigest (digest : DiscoveryDigest) : List UInt8 :=
  appendU64 digest.nodeId.high ++ appendU64 digest.nodeId.low ++
    [if digest.platform = .Mac then 0 else 1] ++
    appendU64 digest.sessionEpoch.value ++ appendU64 digest.protocolVersion.toUInt64 ++
    digest.topologyId ++ [0]

/-- The digest is sent, and is the current one when that succeeds. -/
def broadcast (f : LanBroadcastFallback) (digest : DiscoveryDigest) (sends : Bool) :
    LanBroadcastFallback × Option ErrorCode :=
  if !f.running then (f, some .DiscAnnounceLost)
  else
    let err := f.udp.send (serializeDigest digest) sends
    if err.isSome then (f, err) else ({ f with currentDigest := some digest }, none)

/-- A datagram that has come, if the fallback runs. -/
def receive (f : LanBroadcastFallback) (recvfrom : Nat → List UInt8 → Option (List UInt8))
    (datagram : Option (List UInt8)) : Option (List UInt8) :=
  if !f.running then none else f.udp.receive recvfrom datagram

end LanBroadcastFallback

/-- The calls of a fallback. -/
inductive FallbackCall where
  | start (digest : DiscoveryDigest) (port : UInt16) (binds : Bool)
  | stop
  | broadcast (digest : DiscoveryDigest) (sends : Bool)

/-- A fallback, in any order of its calls. -/
def fallbackMachine : Lib.Machine LanBroadcastFallback FallbackCall where
  init := .init
  step f
    | .start digest port binds => (f.start digest port binds).1
    | .stop => f.stop
    | .broadcast digest sends => (f.broadcast digest sends).1

/-! ### Configured endpoints -/

/-- An endpoint of the configuration. -/
structure ManualEndpoint where
  host : StdString
  port : UInt16
  nodeId : NodeId

/-- The endpoints that the configuration names. -/
structure ManualConfigFallback where
  running : Bool
  endpoints : List ManualEndpoint

namespace ManualConfigFallback

/-- A fallback without endpoints. -/
def init : ManualConfigFallback where
  running := false
  endpoints := []

/-- The endpoints are replaced. -/
def loadFromList (f : ManualConfigFallback) (endpoints : List ManualEndpoint) :
    ManualConfigFallback := { f with endpoints }

/-- There must be an endpoint. -/
def start (f : ManualConfigFallback) : ManualConfigFallback × Option ErrorCode :=
  if f.endpoints = [] then (f, some .DiscManualFallback) else ({ f with running := true }, none)

/-- The endpoints stay. -/
def stop (f : ManualConfigFallback) : ManualConfigFallback := { f with running := false }

end ManualConfigFallback

/-! ### mDNS -/

/-- `mdnsAnnouncer_.stop()` in a service, whose announcer is subscribed to nothing and has no
refresh thread. -/
def MdnsAnnouncer.stop (a : MdnsAnnouncer) : MdnsAnnouncer :=
  if !a.running then a else a.deregister

/-- `mdnsAnnouncer_.updateTxt()` in a service. -/
def MdnsAnnouncer.updateTxt (a : MdnsAnnouncer) (txtRecord : List (StdString × StdString))
    (registers : Bool) : MdnsAnnouncer × Option ErrorCode :=
  if !a.running then (a, some .DiscAnnounceLost)
  else a.stop.start { a.current with txtRecord } registers

/-- `callback` is whether `callback_` was set, and `browseContext` the same for the callback in the
context of the browse that goes on. -/
structure MdnsListener where
  running : Bool
  serviceType : StdString
  callback : Bool
  browseContext : Option Bool
  /-- History: how many browses have begun. -/
  browses : Nat

namespace MdnsListener

open StdString (lit)

/-- A listener that was just made. -/
def init : MdnsListener where
  running := false
  serviceType := []
  callback := false
  browseContext := none
  browses := 0

/-- `begins` is whether `DNSServiceBrowse` succeeds. -/
def start (l : MdnsListener) (serviceType : StdString) (begins : Bool) :
    MdnsListener × Option ErrorCode :=
  if l.running then (l, none)
  else
    let serviceType := if serviceType = [] then lit "_crossflow-x._tcp" else serviceType
    if !begins then ({ l with serviceType, browseContext := none }, some .DiscMdnsUnavailable)
    else
      ( { l with
          serviceType
          browseContext := some l.callback
          running := true
          browses := l.browses + 1 },
        none )

/-- The callback is set. -/
def setDiscoveryCallback (l : MdnsListener) : MdnsListener := { l with callback := true }

/-- The browse is ended. -/
def stop (l : MdnsListener) : MdnsListener :=
  if !l.running then l else { l with browseContext := none, running := false }

end MdnsListener

end CrossFlow
