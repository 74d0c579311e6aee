import CrossFlow.Core.Common.Domain
import CrossFlow.Core.Common.Messages
import CrossFlow.Core.Discovery.DiscoveryTable
import CrossFlow.Core.Discovery.Transports

/-!
# `CrossFlow.Core.Discovery.DiscoveryService`: announcing and listening

`DiscoveryService` (`discovery_service.cpp`). The callback that `startListening` sets on the
listener builds a record from the pairs of a TXT record and offers it to the table. The callback and
`startListening` read the clock as `seenAt`, in milliseconds, and the table reads it as `now`. An
exception of the callback passes through the frames of the operating system and ends the process.
-/

set_option autoImplicit false

namespace CrossFlow

open StdString (lit stoull)

namespace DiscoveryService

/-- One turn of the loop over the pairs. -/
def applyPair (record : DiscoveryRecord) :
    StdString × StdString → Except StdException DiscoveryRecord
  | (key, val) =>
    if key = lit "nid" then
      if val.length ≥ 32 then do
        let high ← stoull (val.take 16) 16
        let low ← stoull ((val.drop 16).take 16) 16
        return { record with nodeId := { high, low } }
      else return { record with nodeId := { high := 0, low := 0 } }
    else if key = lit "plat" then
      return { record with platform := if val = lit "mac" then .Mac else .Win }
    else if key = lit "epoch" then do
      return { record with sessionEpoch := { value := ← stoull val 10 } }
    else if key = lit "pver" then do
      return { record with protocolVersion := (← stoull val 10).toUInt16 }
    else if key = lit "topo" then
      return { record with topologyId := val }
    else return record

/-- The callback, with the record it passes to `table_.upsert`. A member of `DiscoveryRecord`
without an initializer starts with an indeterminate value; `now` is the steady clock. -/
def listeningCallback (indeterminate : DiscoveryRecord) (now : UInt64)
    (txtRecord : List (StdString × StdString)) : Except StdException (Option DiscoveryRecord) := do
  let record ← txtRecord.foldlM applyPair
    { indeterminate with
      capabilitiesFingerprint := []
      sessionEpoch := { value := 0 }
      topologyId := []
      endpointAddresses := [] }
  let record := { record with lastSeenAt := now }
  return if record.nodeId.isNull then none else some record

end DiscoveryService

/-- By what means a service announces. -/
inductive DiscoveryTransport where
  | None
  | Mdns
  | UdpBroadcast
  | ManualConfig
  deriving DecidableEq

/-- What becomes of the attempts of `startAnnouncing`. -/
structure AnnounceAttempts where
  registers : Bool
  binds : Bool
  sends : Bool

/-- The service with its table, its announcer and listener, and its two fallbacks. -/
structure DiscoveryService where
  table : DiscoveryTable
  currentDigest : Option DiscoveryDigest
  announcing : Bool
  listening : Bool
  mdnsAnnouncer : MdnsAnnouncer
  mdnsListener : MdnsListener
  udpFallback : LanBroadcastFallback
  manualFallback : ManualConfigFallback
  transport : DiscoveryTransport
  /-- History: the transport that the last successful `startAnnouncing` chose. -/
  announcesOn : DiscoveryTransport
  /-- History: the TXT records that the callback was called with. -/
  called : List (List (StdString × StdString))
  /-- History: the records that the callback offered to the table. -/
  offered : List DiscoveryRecord

namespace DiscoveryService

/-- A service that was just made. -/
def init : DiscoveryService where
  table := .init
  currentDigest := none
  announcing := false
  listening := false
  mdnsAnnouncer := .init
  mdnsListener := .init
  udpFallback := .init
  manualFallback := .init
  transport := .None
  announcesOn := .None
  called := []
  offered := []

/-- The first attempt: mDNS. -/
def tryMdnsAnnounce (s : DiscoveryService) (digest : DiscoveryDigest) (registers : Bool) :
    DiscoveryService × Option ErrorCode :=
  let service := { serviceName := lit "CrossFlow-X", port := 5353, txtRecord := digest.toTxtRecord }
  let (mdnsAnnouncer, err) := s.mdnsAnnouncer.start service registers
  let s := { s with mdnsAnnouncer }
  if err.isSome then (s, err) else ({ s with transport := .Mdns }, none)

/-- The second attempt: a broadcast. -/
def tryUdpFallback (s : DiscoveryService) (digest : DiscoveryDigest) (binds sends : Bool) :
    DiscoveryService × Option ErrorCode :=
  let (udpFallback, err) := s.udpFallback.start digest 5353 binds
  let s := { s with udpFallback }
  if err.isSome then (s, err)
  else
    let (udpFallback, err) := s.udpFallback.broadcast digest sends
    let s := { s with udpFallback }
    if err.isSome then (s, err) else ({ s with transport := .UdpBroadcast }, none)

/-- The last attempt: the endpoints of the configuration, if there are any. -/
def tryManualFallback (s : DiscoveryService) : DiscoveryService × Option ErrorCode :=
  if s.manualFallback.endpoints = [] then (s, some .DiscMdnsUnavailable)
  else
    let (manualFallback, err) := s.manualFallback.start
    let s := { s with manualFallback }
    if err.isSome then (s, err) else ({ s with transport := .ManualConfig }, none)

/-- The endpoints that the last attempt is made with. -/
def setManualConfigEndpoints (s : DiscoveryService) (endpoints : List ManualEndpoint) :
    DiscoveryService := { s with manualFallback := s.manualFallback.loadFromList endpoints }

/-- `announcing_ = true` -/
def announced (s : DiscoveryService) : DiscoveryService :=
  { s with announcing := true, announcesOn := s.transport }

/-- The three attempts in turn. The digest is kept also when all of them fail. -/
def startAnnouncing (s : DiscoveryService) (digest : DiscoveryDigest)
    (attempts : AnnounceAttempts) : DiscoveryService × Option ErrorCode :=
  if digest.nodeId.isNull then (s, some .SessNodeidForge)
  else
    let s := { s with currentDigest := some digest }
    let (s, mdnsErr) := s.tryMdnsAnnounce digest attempts.registers
    if mdnsErr.isNone then (s.announced, none)
    else
      let (s, udpErr) := s.tryUdpFallback digest attempts.binds attempts.sends
      if udpErr.isNone then (s.announced, none)
      else
        let (s, manualErr) := s.tryManualFallback
        if manualErr.isNone then (s.announced, none) else (s, some .DiscMdnsUnavailable)

/-- Only the transport in use is stopped. -/
def stopAnnouncing (s : DiscoveryService) : DiscoveryService :=
  let s :=
    match s.transport with
    | .Mdns => { s with mdnsAnnouncer := s.mdnsAnnouncer.stop }
    | .UdpBroadcast => { s with udpFallback := s.udpFallback.stop }
    | .ManualConfig => { s with manualFallback := s.manualFallback.stop }
    | .None => s
  { s with announcing := false, currentDigest := none, transport := .None }

/-- `registers` and `sends` are what becomes of the attempt to announce the new digest. -/
def updateDigest (s : DiscoveryService) (digest : DiscoveryDigest) (registers sends : Bool) :
    DiscoveryService × Option ErrorCode :=
  if !s.announcing then (s, some .DiscAnnounceLost)
  else
    -- `currentDigest_` is written before the transport is asked.
    let s := { s with currentDigest := some digest }
    match s.transport with
    | .Mdns =>
      let (mdnsAnnouncer, err) := s.mdnsAnnouncer.updateTxt digest.toTxtRecord registers
      ({ s with mdnsAnnouncer }, err)
    | .UdpBroadcast =>
      let (udpFallback, err) := s.udpFallback.broadcast digest sends
      ({ s with udpFallback }, err)
    | .ManualConfig | .None => (s, none)

/-- The record of a configured endpoint. -/
def endpointRecord (indeterminate : DiscoveryRecord) (seenAt : UInt64) (ep : ManualEndpoint) :
    DiscoveryRecord :=
  { indeterminate with
    nodeId := ep.nodeId
    capabilitiesFingerprint := []
    sessionEpoch := { value := 0 }
    topologyId := []
    endpointAddresses := []
    lastSeenAt := seenAt }

/-- One turn of the loop over the configured endpoints. -/
def upsertEndpoint (indeterminate : DiscoveryRecord) (seenAt : UInt64) (now : Int)
    (table : DiscoveryTable) (ep : ManualEndpoint) : DiscoveryTable :=
  let record := endpointRecord indeterminate seenAt ep
  if record.nodeId.isNull then table else (table.upsert record now).1

/-- One reading of the clock stands for those of the loop. -/
def startListening (s : DiscoveryService) (begins : Bool) (indeterminate : DiscoveryRecord)
    (seenAt : UInt64) (now : Int) : DiscoveryService :=
  let (mdnsListener, err) := s.mdnsListener.start (lit "_crossflow-x._tcp") begins
  let s := { s with mdnsListener }
  if err.isNone then
    { s with mdnsListener := s.mdnsListener.setDiscoveryCallback, listening := true }
  else if s.manualFallback.endpoints ≠ [] then
    { s with
      manualFallback := s.manualFallback.start.1
      table := s.manualFallback.endpoints.foldl (upsertEndpoint indeterminate seenAt now) s.table
      transport := .ManualConfig
      listening := true }
  else { s with listening := true }

/-- The listener is stopped, and the manual fallback if it is the transport in use. -/
def stopListening (s : DiscoveryService) : DiscoveryService :=
  let s := { s with mdnsListener := s.mdnsListener.stop }
  let s :=
    if s.transport = .ManualConfig then { s with manualFallback := s.manualFallback.stop } else s
  { s with listening := false }

/-- The callback that `startListening` sets. -/
def discovered (s : DiscoveryService) (indeterminate : DiscoveryRecord) (seenAt : UInt64)
    (now : Int) (txtRecord : List (StdString × StdString)) :
    Except StdException DiscoveryService := do
  let s := { s with called := s.called ++ [txtRecord] }
  match ← listeningCallback indeterminate seenAt txtRecord with
  | none => return s
  | some record =>
    return { s with table := (s.table.upsert record now).1, offered := s.offered ++ [record] }

/-- `browseCompleteCallback`, or `browseCallback` and `resolveCallback`: the listener has found a
service with the pairs `txtRecord`. -/
def resolved (s : DiscoveryService) (indeterminate : DiscoveryRecord) (seenAt : UInt64) (now : Int)
    (txtRecord : List (StdString × StdString)) : Option DiscoveryService :=
  match s.mdnsListener.browseContext with
  | some true => (s.discovered indeterminate seenAt now txtRecord).toOption
  | some false | none => some s

/-- The record of an announcement that came as a message. -/
def announcementRecord (msg : DiscoveryAnnouncement) (seenAt : UInt64) : DiscoveryRecord where
  nodeId := msg.digest.nodeId
  platform := msg.digest.platform
  capabilitiesFingerprint := msg.digest.capabilitiesFingerprint
  sessionEpoch := msg.digest.sessionEpoch
  protocolVersion := msg.digest.protocolVersion
  topologyId := msg.digest.topologyId
  endpointAddresses := []
  lastSeenAt := seenAt

/-- The fence of the message is not read. -/
def handleDiscoveryAnnouncement (s : DiscoveryService) (msg : DiscoveryAnnouncement)
    (seenAt : UInt64) (now : Int) : DiscoveryService × Option ErrorCode :=
  if !s.listening then (s, some .DiscAnnounceLost)
  else
    let (table, err) := s.table.upsert (announcementRecord msg seenAt) now
    ({ s with table }, err)

/-- The records of the table. -/
def discoveredNodes (s : DiscoveryService) : List DiscoveryRecord := s.table.all

/-- All records are forgotten. -/
def clearDiscovered (s : DiscoveryService) : DiscoveryService := { s with table := s.table.clear }

/-- The records that are too old are forgotten. -/
def pruneStale (s : DiscoveryService) (maxAge now : Int) : DiscoveryService :=
  { s with table := s.table.pruneStale maxAge now }

end DiscoveryService

/-! ### Runs -/

/-- The calls that start and stop a service, with what the system answers. -/
inductive ServiceCall where
  | startAnnouncing (digest : DiscoveryDigest) (attempts : AnnounceAttempts)
  | stopAnnouncing
  | startListening (begins : Bool) (indeterminate : DiscoveryRecord) (seenAt : UInt64) (now : Int)
  | stopListening
  | setManualConfigEndpoints (endpoints : List ManualEndpoint)

/-- One call. -/
def DiscoveryService.step (s : DiscoveryService) : ServiceCall → DiscoveryService
  | .startAnnouncing digest attempts => (s.startAnnouncing digest attempts).1
  | .stopAnnouncing => s.stopAnnouncing
  | .startListening begins indeterminate seenAt now =>
    s.startListening begins indeterminate seenAt now
  | .stopListening => s.stopListening
  | .setManualConfigEndpoints endpoints => s.setManualConfigEndpoints endpoints

/-- A service, in any order of these calls. -/
def serviceMachine : Lib.Machine DiscoveryService ServiceCall where
  init := .init
  step := .step

/-- The calls, and what the listener finds between them. -/
inductive ListeningEvent where
  | call (c : ServiceCall)
  | resolved (txtRecord : List (StdString × StdString)) (indeterminate : DiscoveryRecord)
      (seenAt : UInt64) (now : Int)

/-- `none` is a process that has ended. -/
def listeningMachine : Lib.Machine (Option DiscoveryService) ListeningEvent where
  init := some .init
  step s
    | .call c => s.map (·.step c)
    | .resolved txtRecord indeterminate seenAt now =>
      s.bind (·.resolved indeterminate seenAt now txtRecord)

end CrossFlow
