import CrossFlow.Lib.Machine
import CrossFlow.Core.Common.ErrorCode
import CrossFlow.Core.Discovery.MdnsTxt

/-!
# `CrossFlow.Core.Discovery.MdnsAnnouncer`: announcing and announcing again

`MdnsAnnouncer` on a platform that has mDNS (`mdns_announcer.cpp`), with the sources of change
events it subscribes to (`network_change_event_source.cpp`, `topology_change_event_source.hpp`).
Whether a registration succeeds is an argument. A result of `none` is `std::terminate`: a
`std::thread` throws in a function that is `noexcept`, or is assigned to while it can be joined.
-/

set_option autoImplicit false

namespace CrossFlow

/-- What a service is registered with. -/
structure Announcement where
  serviceName : StdString
  port : UInt16
  txtRecord : List (StdString × StdString)

/-- The thread that a function runs on. -/
inductive AnnouncerThread where
  | refreshThread
  | other

/-- The announcer with its refresh thread and its two subscriptions. -/
structure MdnsAnnouncer where
  running : Bool
  /-- `serviceName_`, `port_` and `currentTxt_`. -/
  current : Announcement
  /-- `refreshThread_.joinable()`. The thread is asleep between its calls of `refresh`. -/
  refreshThread : Bool
  refreshEnabled : Bool
  subscribedToNetwork : Bool
  subscribedToTopology : Bool
  networkChangeRepublishCount : UInt32
  topologyChangeRepublishCount : UInt32
  networkSource : Bool
  topologySource : Bool
  /-- The registration that is held, `serviceRef_` on macOS. -/
  serviceRef : Bool
  /-- History: the registrations that succeeded. -/
  published : List Announcement

namespace MdnsAnnouncer

/-- An announcer that was just made. -/
def init : MdnsAnnouncer where
  running := false
  current := { serviceName := [], port := 0, txtRecord := [] }
  refreshThread := false
  refreshEnabled := false
  subscribedToNetwork := false
  subscribedToTopology := false
  networkChangeRepublishCount := 0
  topologyChangeRepublishCount := 0
  networkSource := false
  topologySource := false
  serviceRef := false
  published := []

/-- `registers` is whether `DNSServiceRegister` succeeds. -/
def start (a : MdnsAnnouncer) (service : Announcement) (registers : Bool) :
    MdnsAnnouncer × Option ErrorCode :=
  if a.running then (a, none)
  else if !registers then ({ a with current := service }, some .DiscMdnsUnavailable)
  else
    ( { a with
        current := service
        serviceRef := true
        running := true
        published := a.published ++ [service] },
      none )

/-- A second refresh thread would be assigned to a joinable one, which ends the process. -/
def startAutoRefresh (a : MdnsAnnouncer) : Option MdnsAnnouncer :=
  if a.refreshThread then none
  else some { a with refreshEnabled := true, refreshThread := true }

/-- A thread that joins itself gets an exception. -/
def stopAutoRefresh (a : MdnsAnnouncer) (self : AnnouncerThread) : Option MdnsAnnouncer :=
  if !a.refreshThread then some { a with refreshEnabled := false }
  else
    match self with
    | .refreshThread => none
    | .other => some { a with refreshEnabled := false, refreshThread := false }

/-- The end of `stop`. -/
def deregister (a : MdnsAnnouncer) : MdnsAnnouncer :=
  { a with serviceRef := false, running := false }

end MdnsAnnouncer

/-- The source of changes of the network, as far as an announcer sees it. -/
structure NetworkChangeEventSource where
  running : Bool
  callback : Bool

/-- The source of changes of the topology. -/
structure TopologyChangeEventSource where
  callback : Bool

/-- An announcer and the sources it can subscribe to. The callback of a source is the one of the
announcer. -/
structure AnnouncerSystem where
  announcer : MdnsAnnouncer
  networkChanges : NetworkChangeEventSource
  topologyChanges : TopologyChangeEventSource

namespace AnnouncerSystem

/-- A new announcer, and a source of network changes that was started. -/
def init : AnnouncerSystem where
  announcer := .init
  networkChanges := { running := true, callback := false }
  topologyChanges := { callback := false }

/-- The announcer's callback is set, once. -/
def subscribeToNetworkChanges (s : AnnouncerSystem) : AnnouncerSystem :=
  if s.announcer.subscribedToNetwork then s
  else
    { s with
      announcer := { s.announcer with networkSource := true, subscribedToNetwork := true }
      networkChanges := { s.networkChanges with callback := true } }

/-- The callback is cleared, if there was a subscription. -/
def unsubscribeFromNetworkChanges (s : AnnouncerSystem) : AnnouncerSystem :=
  if !s.announcer.subscribedToNetwork then s
  else
    { s with
      announcer := { s.announcer with networkSource := false, subscribedToNetwork := false }
      networkChanges :=
        if s.announcer.networkSource then { s.networkChanges with callback := false }
        else s.networkChanges }

/-- The announcer's callback is set, once. -/
def subscribeToTopologyChanges (s : AnnouncerSystem) : AnnouncerSystem :=
  if s.announcer.subscribedToTopology then s
  else
    { s with
      announcer := { s.announcer with topologySource := true, subscribedToTopology := true }
      topologyChanges := { callback := true } }

/-- The callback is cleared, if there was a subscription. -/
def unsubscribeFromTopologyChanges (s : AnnouncerSystem) : AnnouncerSystem :=
  if !s.announcer.subscribedToTopology then s
  else
    { s with
      announcer := { s.announcer with topologySource := false, subscribedToTopology := false }
      topologyChanges :=
        if s.announcer.topologySource then { callback := false } else s.topologyChanges }

/-- `start` of the announcer. -/
def start (s : AnnouncerSystem) (service : Announcement) (registers : Bool) :
    AnnouncerSystem × Option ErrorCode :=
  let (announcer, err) := s.announcer.start service registers
  ({ s with announcer }, err)

/-- `startAutoRefresh` of the announcer. -/
def startAutoRefresh (s : AnnouncerSystem) : Option AnnouncerSystem := do
  return { s with announcer := ← s.announcer.startAutoRefresh }

/-- The refresh thread and the subscriptions go with the registration. -/
def stop (s : AnnouncerSystem) (self : AnnouncerThread) : Option AnnouncerSystem :=
  if !s.announcer.running then some s
  else do
    let announcer ← s.announcer.stopAutoRefresh self
    let s := { s with announcer }
    let s := s.unsubscribeFromNetworkChanges.unsubscribeFromTopologyChanges
    return { s with announcer := s.announcer.deregister }

/-- `stop`, then `start` with another record. What `stop` has ended is not started again. -/
def updateTxt (s : AnnouncerSystem) (txtRecord : List (StdString × StdString)) (registers : Bool)
    (self : AnnouncerThread) : Option (AnnouncerSystem × Option ErrorCode) :=
  if !s.announcer.running then some (s, some .DiscAnnounceLost)
  else do
    let saved := s.announcer.current
    let s ← s.stop self
    return s.start { saved with txtRecord } registers

/-- `stop`, then `start` with the same record. -/
def refresh (s : AnnouncerSystem) (registers : Bool) (self : AnnouncerThread) :
    Option (AnnouncerSystem × Option ErrorCode) :=
  if !s.announcer.running then some (s, none)
  else do
    let saved := s.announcer.current
    let s ← s.stop self
    return s.start saved registers

/-- The two callbacks call `refresh` by this name. -/
def republish (s : AnnouncerSystem) (registers : Bool) (self : AnnouncerThread) :
    Option (AnnouncerSystem × Option ErrorCode) := s.refresh registers self

/-- The callback that `subscribeToNetworkChanges` sets. -/
def networkCallback (s : AnnouncerSystem) (registers : Bool) : Option AnnouncerSystem :=
  if s.announcer.running && s.announcer.subscribedToNetwork then do
    let count := s.announcer.networkChangeRepublishCount + 1
    let s := { s with announcer := { s.announcer with networkChangeRepublishCount := count } }
    return (← s.republish registers .other).1
  else some s

/-- The callback that `subscribeToTopologyChanges` sets. -/
def topologyCallback (s : AnnouncerSystem) (registers : Bool) : Option AnnouncerSystem :=
  if s.announcer.running && s.announcer.subscribedToTopology then do
    let count := s.announcer.topologyChangeRepublishCount + 1
    let s := { s with announcer := { s.announcer with topologyChangeRepublishCount := count } }
    return (← s.republish registers .other).1
  else some s

/-- The network has changed. A source that runs calls its callback. -/
def simulateNetworkChange (s : AnnouncerSystem) (registers : Bool) : Option AnnouncerSystem :=
  if s.networkChanges.running && s.networkChanges.callback then s.networkCallback registers
  else some s

/-- The topology has changed. The source calls its callback. -/
def notifyTopologyChanged (s : AnnouncerSystem) (registers : Bool) : Option AnnouncerSystem :=
  if s.topologyChanges.callback then s.topologyCallback registers else some s

/-- The refresh thread has slept for an interval. -/
def autoRefresh (s : AnnouncerSystem) (registers : Bool) : Option AnnouncerSystem :=
  if s.announcer.refreshThread && s.announcer.refreshEnabled then do
    return (← s.refresh registers .refreshThread).1
  else some s

end AnnouncerSystem

/-- What the announcer reacts to. `registers` is what becomes of a registration made for it. -/
inductive AnnouncerEvent where
  | networkChange (registers : Bool)
  | topologyChange (registers : Bool)
  | refresh (registers : Bool)
  | autoRefresh (registers : Bool)

/-- Whether `DNSServiceRegister` succeeds, should it be called at the event. -/
def AnnouncerEvent.registers : AnnouncerEvent → Bool
  | .networkChange registers | .topologyChange registers | .refresh registers
  | .autoRefresh registers => registers

/-- One event. -/
def AnnouncerSystem.step (s : AnnouncerSystem) : AnnouncerEvent → Option AnnouncerSystem
  | .networkChange registers => s.simulateNetworkChange registers
  | .topologyChange registers => s.notifyTopologyChanged registers
  | .refresh registers => (s.refresh registers .other).map Prod.fst
  | .autoRefresh registers => s.autoRefresh registers

/-- Events one after the other. No event follows when the process has ended. -/
def announcerMachine : Lib.Machine (Option AnnouncerSystem) AnnouncerEvent where
  init := some .init
  step s event := s.bind (·.step event)

end CrossFlow
