import CrossFlow.Core.Discovery.DiscoveryService
import Mathlib.Logic.Function.Basic

/-!
# `CrossFlow.Core.Discovery.DiscoveryNetwork`: endpoints that discover each other

Any number of endpoints on one local network, each with its `DiscoveryService`
(`s07_discovery/discovery_service.hpp` and `.cpp`). What an announcer has registered is on the
network as `MdnsAnnouncer::encodeTxt` writes it, and the listener of any endpoint may find it at any
later time, as often as it likes, also after the registration is gone. An exception of the callback
ends the process of the endpoint that listens.
-/

set_option autoImplicit false

namespace CrossFlow

open MdnsAnnouncer MdnsListener

/-- All calls of a service. -/
inductive EndpointCall where
  | service (c : ServiceCall)
  | updateDigest (digest : DiscoveryDigest) (registers sends : Bool)
  | handleDiscoveryAnnouncement (msg : DiscoveryAnnouncement) (seenAt : UInt64) (now : Int)
  | clearDiscovered
  | pruneStale (maxAge now : Int)

namespace DiscoveryService

/-- A call of an endpoint's functions. -/
def call (s : DiscoveryService) : EndpointCall → DiscoveryService
  | .service c => s.step c
  | .updateDigest digest registers sends => (s.updateDigest digest registers sends).1
  | .handleDiscoveryAnnouncement msg seenAt now =>
    (s.handleDiscoveryAnnouncement msg seenAt now).1
  | .clearDiscovered => s.clearDiscovered
  | .pruneStale maxAge now => s.pruneStale maxAge now

/-- `resolveCallback`: the listener has found a service with the TXT data. -/
def hears (s : DiscoveryService) (indeterminate : DiscoveryRecord) (seenAt : UInt64) (now : Int)
    (data : List UInt8) : Option DiscoveryService :=
  if s.mdnsListener.browseContext = some true then do
    s.resolved indeterminate seenAt now (← parseTxt data data.length.toUInt16)
  else some s

end DiscoveryService

/-- What happens on the network: an endpoint calls a function, or finds a service of another one. -/
inductive LanEvent (ι : Type) where
  | call (node : ι) (c : EndpointCall)
  /-- `node` finds the `k`th service that the announcer of `peer` has registered. -/
  | found (node peer : ι) (k : Nat) (indeterminate : DiscoveryRecord) (seenAt : UInt64) (now : Int)

/-- The endpoints. `none` is a process that has ended. -/
abbrev Lan (ι : Type) := ι → Option DiscoveryService

/-- What the announcers of an endpoint have registered so far. -/
def Lan.published {ι : Type} (s : Lan ι) (peer : ι) : List Announcement :=
  match s peer with
  | some service => service.mdnsAnnouncer.published
  | none => []

/-- Any number of endpoints. An endpoint whose process has ended stays so. -/
def lanMachine (ι : Type) [DecidableEq ι] : Lib.Machine (Lan ι) (LanEvent ι) where
  init _ := some .init
  step s
    | .call node c => Function.update s node ((s node).map (·.call c))
    | .found node peer k indeterminate seenAt now =>
      match (s.published peer)[k]? with
      | some service =>
        Function.update s node
          ((s node).bind (·.hears indeterminate seenAt now (encodeTxt service.txtRecord)))
      | none => s

end CrossFlow
