import CrossFlow.Core.Discovery.DiscoveryService

/-!
# `CrossFlow.Proofs.Discovery.Shutdown`: which transports outlive their owner

`stopAnnouncing` stops the transport that `transport_` names. A UDP socket that was opened before a
broadcast failed, one that is replaced by a second, and a transport that was started before
`startListening` or another `startAnnouncing` wrote `transport_` are not stopped.

* `inv_step`: what always holds.
* `quiet_stopAnnouncing_iff` and `announces_stopListening_iff`: which calls stop what they should.
* `shut_down_iff`: the runs in which they all do, and `stopsOwned_of_tidy`: calls that see to it.
-/

set_option autoImplicit false

namespace CrossFlow

open StdString (lit)

/-! ### The transports -/

/-- The socket that is used is open while the fallback is running. -/
structure LanBroadcastFallback.Inv (f : LanBroadcastFallback) : Prop where
  running : f.running = f.udp.isOpen
  sockets : f.udp.isOpen = true → 1 ≤ f.udp.openSockets

namespace LanBroadcastFallback

variable {f : LanBroadcastFallback}

/-- The socket is bound, or nothing changes. -/
theorem start_cases (f : LanBroadcastFallback) (digest : DiscoveryDigest) (port : UInt16)
    (binds : Bool) :
    binds = false ∧ f.start digest port binds = (f, some .DiscMdnsUnavailable) ∨
      binds = true ∧ ∃ f', f.start digest port binds = (f', none) ∧ f'.running = true ∧
        f'.udp.isOpen = true ∧ f'.udp.openSockets = f.udp.openSockets + 1 := by
  cases binds with
  | false => exact .inl ⟨rfl, rfl⟩
  | true => exact .inr ⟨rfl, _, rfl, rfl, rfl, rfl⟩

/-- The datagram is sent, or nothing changes. -/
theorem broadcast_cases (hrun : f.running = true) (hopen : f.udp.isOpen = true)
    (digest : DiscoveryDigest) (sends : Bool) :
    sends = false ∧ f.broadcast digest sends = (f, some .DiscAnnounceLost) ∨
      sends = true ∧
        f.broadcast digest sends = ({ f with currentDigest := some digest }, none) := by
  have hdata : serializeDigest digest ≠ [] := by simp [serializeDigest]
  unfold broadcast UdpBroadcast.send
  rw [hrun, hopen]
  cases sends with
  | false => exact .inl ⟨rfl, by simp [hdata]⟩
  | true => exact .inr ⟨rfl, by simp [hdata]⟩

/-- A fallback with no open socket does not run. -/
theorem Inv.running_of_closed (h : f.Inv) (hclosed : f.udp.openSockets = 0) :
    f.running = false := by
  rw [h.running]
  cases hopen : f.udp.isOpen with
  | false => rfl
  | true => exact absurd (h.sockets hopen) (by rw [hclosed]; exact Nat.not_succ_le_zero 0)

/-- The invariant holds after `stop`. -/
theorem inv_stop (f : LanBroadcastFallback) : f.stop.Inv := by
  unfold LanBroadcastFallback.stop UdpBroadcast.close
  cases hopen : f.udp.isOpen with
  | false => exact ⟨hopen.symm, fun htrue => absurd (hopen.symm.trans htrue) Bool.false_ne_true⟩
  | true => exact ⟨rfl, fun hfalse => absurd hfalse Bool.false_ne_true⟩

end LanBroadcastFallback

namespace MdnsAnnouncer

/-- The announcer runs afterwards, or the registration has failed. -/
theorem start_cases (a : MdnsAnnouncer) (service : Announcement) (registers : Bool) :
    (a.running = true ∨ registers = true) ∧
        (∃ a', a.start service registers = (a', none) ∧ a'.running = true) ∨
      (a.running = false ∧ registers = false) ∧
        ∃ a', a.start service registers = (a', some .DiscMdnsUnavailable) ∧ a'.running = false := by
  unfold start
  cases hrun : a.running with
  | true => exact .inl ⟨.inl rfl, a, rfl, hrun⟩
  | false =>
    cases registers with
    | true => exact .inl ⟨.inr rfl, _, rfl, rfl⟩
    | false => exact .inr ⟨⟨rfl, rfl⟩, _, rfl, rfl⟩

/-- After `stop` the announcer does not run. -/
@[simp] theorem stop_running (a : MdnsAnnouncer) : a.stop.running = false := by
  unfold stop
  cases hrun : a.running with
  | false => exact hrun
  | true => rfl

/-- Subscribed to nothing, and without a refresh thread. -/
structure Alone (a : MdnsAnnouncer) : Prop where
  network : a.subscribedToNetwork = false
  topology : a.subscribedToTopology = false
  refreshThread : a.refreshThread = false
  refreshEnabled : a.refreshEnabled = false

/-- An announcer without threads and subscriptions starts none. -/
theorem Alone.start {a : MdnsAnnouncer} (h : a.Alone) (service : Announcement) (registers : Bool) :
    (a.start service registers).1.Alone := by
  unfold MdnsAnnouncer.start
  split
  · exact h
  · split <;> exact ⟨h.network, h.topology, h.refreshThread, h.refreshEnabled⟩

/-- An announcer without threads and subscriptions stays so. -/
theorem Alone.stop {a : MdnsAnnouncer} (h : a.Alone) : a.stop.Alone := by
  unfold MdnsAnnouncer.stop
  split
  · exact h
  · exact ⟨h.network, h.topology, h.refreshThread, h.refreshEnabled⟩

end MdnsAnnouncer

/-- The `stop` of an announcer that is alone, on any thread. -/
theorem AnnouncerSystem.stop_of_alone {s : AnnouncerSystem} (h : s.announcer.Alone)
    (self : AnnouncerThread) : s.stop self = some { s with announcer := s.announcer.stop } := by
  have hstopAuto : s.announcer.stopAutoRefresh self = some s.announcer := by
    unfold MdnsAnnouncer.stopAutoRefresh
    rw [if_pos (by rw [h.refreshThread]; rfl), ← h.refreshEnabled]
  unfold stop MdnsAnnouncer.stop
  cases hrun : s.announcer.running with
  | false => rfl
  | true =>
    rw [hstopAuto]
    unfold unsubscribeFromNetworkChanges unsubscribeFromTopologyChanges
    simp [h.network, h.topology]

/-! ### What always holds -/

namespace DiscoveryService

/-- What holds of the transports of a service at any time. -/
structure TransportInv (s : DiscoveryService) : Prop where
  alone : s.mdnsAnnouncer.Alone
  udp : s.udpFallback.Inv
  broadcasts : s.transport = .UdpBroadcast → s.udpFallback.udp.isOpen = true
  chosen : s.announcing = true →
    s.transport = s.announcesOn ∨ s.transport = .ManualConfig

/-- The transport is running. -/
def Runs (s : DiscoveryService) : DiscoveryTransport → Prop
  | .None => False
  | .Mdns => s.mdnsAnnouncer.running = true
  | .UdpBroadcast => s.udpFallback.running = true
  | .ManualConfig => s.manualFallback.running = true

/-- A service that announces does so on a transport that is running. -/
def Announces (s : DiscoveryService) : Prop := s.announcing = true → s.Runs s.announcesOn

variable {s : DiscoveryService}

/-- An attempt to announce leads to `Q` with what `startAnnouncing` does when it succeeds, and to `P`
when it fails. -/
def Attempt (P Q : DiscoveryService → Prop) (r : DiscoveryService × Option ErrorCode) : Prop :=
  if r.2.isNone then Q r.1.announced else P r.1

/-- The rule for `startAnnouncing`: the attempts are made one after the other while they fail. -/
theorem startAnnouncing_rule {P Q : DiscoveryService → Prop} {digest : DiscoveryDigest}
    {attempts : AnnounceAttempts} (hs : P s) (hdigest : P { s with currentDigest := some digest })
    (hmdns : ∀ s, P s → Attempt P Q (s.tryMdnsAnnounce digest attempts.registers))
    (hudp : ∀ s, P s → Attempt P Q (s.tryUdpFallback digest attempts.binds attempts.sends))
    (hmanual : ∀ s, P s → Attempt P Q s.tryManualFallback) :
    P (s.startAnnouncing digest attempts).1 ∨ Q (s.startAnnouncing digest attempts).1 := by
  unfold startAnnouncing
  split
  · exact .inl hs
  · have hmdns := hmdns _ hdigest
    unfold Attempt at hmdns
    dsimp only
    -- An attempt that succeeds ends the search for a transport, one that fails goes on.
    split at hmdns
    · next hnone =>
      rw [if_pos hnone]
      exact .inr hmdns
    · next hsome =>
      rw [if_neg hsome]
      have hudp := hudp _ hmdns
      unfold Attempt at hudp
      split at hudp
      · next hnone =>
        rw [if_pos hnone]
        exact .inr hudp
      · next hsome =>
        rw [if_neg hsome]
        have hmanual := hmanual _ hudp
        unfold Attempt at hmanual
        split at hmanual
        · next hnone =>
          rw [if_pos hnone]
          exact .inr hmanual
        · next hsome =>
          rw [if_neg hsome]
          exact .inl hmanual

/-- The invariant, and what depends on the calls of `stopListening`. -/
def Holds (s : DiscoveryService) : Prop := s.TransportInv ∧ s.Announces

/-- The attempt over mDNS keeps what holds. -/
theorem tryMdnsAnnounce_holds (hs : s.Holds) (digest : DiscoveryDigest) (registers : Bool) :
    Attempt Holds Holds (s.tryMdnsAnnounce digest registers) := by
  obtain ⟨h, ha⟩ := hs
  unfold tryMdnsAnnounce
  dsimp only
  have halone := h.alone.start
    { serviceName := lit "CrossFlow-X", port := 5353, txtRecord := digest.toTxtRecord } registers
  rcases s.mdnsAnnouncer.start_cases
      { serviceName := lit "CrossFlow-X", port := 5353, txtRecord := digest.toTxtRecord }
      registers with ⟨-, a, hstart, hrun⟩ | ⟨⟨hidle, -⟩, a, hstart, -⟩
  · rw [hstart] at halone ⊢
    exact ⟨⟨halone, h.udp, DiscoveryTransport.noConfusion, fun _ => .inl rfl⟩, fun _ => hrun⟩
  · rw [hstart] at halone ⊢
    refine ⟨⟨halone, h.udp, h.broadcasts, h.chosen⟩, fun hannouncing => ?_⟩
    -- The service did not announce over mDNS, as the announcer was not running.
    have hruns := ha hannouncing
    show Runs _ s.announcesOn
    cases hon : s.announcesOn with
    | Mdns =>
      rw [hon] at hruns
      exact absurd (hidle.symm.trans hruns) Bool.false_ne_true
    | None | UdpBroadcast | ManualConfig =>
      rw [hon] at hruns
      exact hruns

/-- The attempt by a broadcast keeps what holds. -/
theorem tryUdpFallback_holds (hs : s.Holds) (digest : DiscoveryDigest) (binds sends : Bool) :
    Attempt Holds Holds (s.tryUdpFallback digest binds sends) := by
  obtain ⟨h, ha⟩ := hs
  unfold tryUdpFallback
  dsimp only
  rcases s.udpFallback.start_cases digest 5353 binds with
    ⟨-, hstart⟩ | ⟨-, f, hstart, hrun, hopen, hsockets⟩
  · -- The socket is not opened, and nothing has changed.
    rw [hstart]
    exact ⟨⟨h.alone, h.udp, h.broadcasts, h.chosen⟩, ha⟩
  · have hinv : f.Inv := ⟨hrun.trans hopen.symm, fun _ => hsockets ▸ Nat.le_add_left 1 _⟩
    rw [hstart]
    dsimp only [Option.isSome_none, Bool.false_eq_true, if_false]
    rcases LanBroadcastFallback.broadcast_cases hrun hopen digest sends with
      ⟨-, hsend⟩ | ⟨-, hsend⟩
    · -- The first broadcast fails with the fallback running, and the next attempt follows.
      rw [if_neg Bool.false_ne_true, hsend]
      refine ⟨⟨h.alone, hinv, fun _ => hopen, h.chosen⟩, fun hannouncing => ?_⟩
      have hruns := ha hannouncing
      show Runs _ s.announcesOn
      cases hon : s.announcesOn with
      | UdpBroadcast => exact hrun
      | None | Mdns | ManualConfig =>
        rw [hon] at hruns
        exact hruns
    · -- The broadcast is sent, and the service announces over the fallback.
      rw [if_neg Bool.false_ne_true, hsend]
      exact ⟨⟨h.alone, ⟨hinv.running, hinv.sockets⟩, fun _ => hopen, fun _ => .inl rfl⟩,
        fun _ => hrun⟩

/-- The manual attempt keeps what holds. -/
theorem tryManualFallback_holds (hs : s.Holds) : Attempt Holds Holds s.tryManualFallback := by
  obtain ⟨h, ha⟩ := hs
  unfold tryManualFallback ManualConfigFallback.start
  by_cases hnone : s.manualFallback.endpoints = []
  · rw [if_pos hnone]
    exact ⟨h, ha⟩
  · rw [if_neg hnone, if_neg hnone]
    exact ⟨⟨h.alone, h.udp, DiscoveryTransport.noConfusion, fun _ => .inl rfl⟩, fun _ => rfl⟩

/-- `startAnnouncing` keeps what holds. -/
theorem startAnnouncing_holds (hs : s.Holds) (digest : DiscoveryDigest)
    (attempts : AnnounceAttempts) : (s.startAnnouncing digest attempts).1.Holds :=
  (startAnnouncing_rule hs ⟨⟨hs.1.alone, hs.1.udp, hs.1.broadcasts, hs.1.chosen⟩, hs.2⟩
    (fun _ h => tryMdnsAnnounce_holds h digest attempts.registers)
    (fun _ h => tryUdpFallback_holds h digest attempts.binds attempts.sends)
    fun _ h => tryManualFallback_holds h).elim id id

/-- `stopAnnouncing` leads to what holds. -/
theorem stopAnnouncing_holds (h : s.TransportInv) : s.stopAnnouncing.Holds := by
  unfold stopAnnouncing
  refine ⟨?_, fun hfalse => absurd hfalse Bool.false_ne_true⟩
  cases htransport : s.transport with
  | None | ManualConfig =>
    exact ⟨h.alone, h.udp, DiscoveryTransport.noConfusion,
      fun hfalse => absurd hfalse Bool.false_ne_true⟩
  | Mdns =>
    exact ⟨h.alone.stop, h.udp, DiscoveryTransport.noConfusion,
      fun hfalse => absurd hfalse Bool.false_ne_true⟩
  | UdpBroadcast =>
    exact ⟨h.alone, s.udpFallback.inv_stop, DiscoveryTransport.noConfusion,
      fun hfalse => absurd hfalse Bool.false_ne_true⟩

/-- `startListening` keeps what holds. -/
theorem startListening_holds (hs : s.Holds) (begins : Bool) (indeterminate : DiscoveryRecord)
    (seenAt : UInt64) (now : Int) : (s.startListening begins indeterminate seenAt now).Holds := by
  obtain ⟨h, ha⟩ := hs
  unfold startListening
  dsimp only
  split
  · exact ⟨⟨h.alone, h.udp, h.broadcasts, h.chosen⟩, ha⟩
  · split
    · next hsome =>
      refine ⟨⟨h.alone, h.udp, DiscoveryTransport.noConfusion, fun _ => .inr rfl⟩, fun hon => ?_⟩
      -- The fallback is started, and nothing else changes.
      have hruns := ha hon
      show Runs _ s.announcesOn
      cases hchoice : s.announcesOn with
      | ManualConfig =>
        show s.manualFallback.start.1.running = true
        rw [ManualConfigFallback.start, if_neg hsome]
      | None | Mdns | UdpBroadcast =>
        rw [hchoice] at hruns
        exact hruns
    · exact ⟨⟨h.alone, h.udp, h.broadcasts, h.chosen⟩, ha⟩

/-- `stopListening` keeps the invariant of the transports. -/
theorem inv_stopListening (h : s.TransportInv) : s.stopListening.TransportInv := by
  unfold stopListening
  dsimp only
  split
  · exact ⟨h.alone, h.udp, h.broadcasts, h.chosen⟩
  · exact ⟨h.alone, h.udp, h.broadcasts, h.chosen⟩

/-- `stopListening` ends an announcement on the configured endpoints, and no other. -/
theorem announces_stopListening_iff (hs : s.Holds) :
    s.stopListening.Announces ↔ (s.announcing = true → s.announcesOn ≠ .ManualConfig) := by
  obtain ⟨h, ha⟩ := hs
  have hannouncing : s.stopListening.announcing = s.announcing := by
    unfold stopListening
    dsimp only
    split <;> rfl
  have hon : s.stopListening.announcesOn = s.announcesOn := by
    unfold stopListening
    dsimp only
    split <;> rfl
  unfold Announces
  rw [hannouncing, hon]
  refine forall_congr' fun hannounces => ?_
  have hruns := ha hannounces
  cases hchoice : s.announcesOn with
  | None =>
    rw [hchoice] at hruns
    exact hruns.elim
  | Mdns | UdpBroadcast =>
    refine iff_of_true ?_ DiscoveryTransport.noConfusion
    rw [hchoice] at hruns
    unfold stopListening
    dsimp only
    split <;> exact hruns
  | ManualConfig =>
    refine iff_of_false ?_ (not_not_intro rfl)
    -- Then `transport_` names the configured endpoints, chosen by the one call or the other.
    have htransport : s.transport = .ManualConfig := by
      rcases h.chosen hannounces with hsame | hmanual
      · exact hsame.trans hchoice
      · exact hmanual
    unfold stopListening
    dsimp only
    rw [if_pos htransport]
    exact Bool.false_ne_true

/-! ### `stopAnnouncing` -/

/-- No registration is held and no UDP socket is open. -/
structure Quiet (s : DiscoveryService) : Prop where
  mdns : s.mdnsAnnouncer.running = false
  udp : s.udpFallback.running = false
  sockets : s.udpFallback.udp.openSockets = 0

/-- `transport_` names what is running, and there is no second socket. -/
structure Owns (s : DiscoveryService) : Prop where
  mdns : s.mdnsAnnouncer.running = true → s.transport = .Mdns
  udp : s.udpFallback.udp.openSockets ≠ 0 →
    s.transport = .UdpBroadcast ∧ s.udpFallback.udp.openSockets = 1

/-- A service that announces nothing has nothing that is not its own. -/
theorem Quiet.owns (h : s.Quiet) : s.Owns :=
  ⟨fun hrun => absurd (h.mdns.symm.trans hrun) Bool.false_ne_true,
    fun hopen => absurd h.sockets hopen⟩

/-- The announcer runs only as the transport in use. -/
theorem Owns.mdns_idle (h : s.Owns) (htransport : s.transport ≠ .Mdns) :
    s.mdnsAnnouncer.running = false :=
  Bool.eq_false_iff.mpr fun hrun => htransport (h.mdns hrun)

/-- A socket is open only as that of the transport in use. -/
theorem Owns.udp_closed (h : s.Owns) (htransport : s.transport ≠ .UdpBroadcast) :
    s.udpFallback.udp.openSockets = 0 := by
  by_contra hopen
  exact htransport (h.udp hopen).1

/-- `stopAnnouncing` stops one transport, so nothing else may be running. -/
theorem quiet_stopAnnouncing_iff (h : s.TransportInv) : s.stopAnnouncing.Quiet ↔ s.Owns := by
  unfold stopAnnouncing
  cases htransport : s.transport with
  | None | ManualConfig =>
    constructor
    · -- Nothing was stopped, so it was quiet before.
      intro hquiet
      have hquiet : s.Quiet := ⟨hquiet.mdns, hquiet.udp, hquiet.sockets⟩
      exact hquiet.owns
    · intro howns
      have hidle := howns.mdns_idle (by rw [htransport]; decide)
      have hclosed := howns.udp_closed (by rw [htransport]; decide)
      exact ⟨hidle, h.udp.running_of_closed hclosed, hclosed⟩
  | Mdns =>
    constructor
    · exact fun hquiet => ⟨fun _ => htransport, fun hopen => absurd hquiet.sockets hopen⟩
    · intro howns
      have hclosed := howns.udp_closed (by rw [htransport]; decide)
      exact ⟨MdnsAnnouncer.stop_running _, h.udp.running_of_closed hclosed, hclosed⟩
  | UdpBroadcast =>
    have hopen := h.broadcasts htransport
    have hsockets : s.udpFallback.stop.udp.openSockets = s.udpFallback.udp.openSockets - 1 := by
      unfold LanBroadcastFallback.stop UdpBroadcast.close
      rw [if_pos hopen]
    -- One socket is closed, and at least one was open.
    have hpos := h.udp.sockets hopen
    constructor
    · intro hquiet
      have hzero : s.udpFallback.stop.udp.openSockets = 0 := hquiet.sockets
      have hidle : s.mdnsAnnouncer.running = false := hquiet.mdns
      refine ⟨fun hrun => absurd (hidle.symm.trans hrun) Bool.false_ne_true, fun _ => ?_⟩
      exact ⟨htransport, by omega⟩
    · intro howns
      have hidle := howns.mdns_idle (by rw [htransport]; decide)
      have hone := (howns.udp (by omega)).2
      have hzero : s.udpFallback.stop.udp.openSockets = 0 := by omega
      exact ⟨hidle, rfl, hzero⟩

end DiscoveryService

open DiscoveryService

/-- After `stopAnnouncing` nothing that `startAnnouncing` has started is running. -/
def ShutsDown (s : DiscoveryService) (c : ServiceCall) : Prop :=
  c = .stopAnnouncing → (s.step c).Quiet

/-- `stopAnnouncing` is called while `transport_` names what is running, and `stopListening` not
while the service announces on its configured endpoints. -/
def StopsOwned (s : DiscoveryService) : ServiceCall → Prop
  | .stopAnnouncing => s.Owns
  | .stopListening => s.announcing = true → s.announcesOn ≠ .ManualConfig
  | _ => True

/-- Each call keeps the invariant of the transports. -/
theorem inv_step {s : DiscoveryService} (h : s.Holds) (c : ServiceCall) :
    (s.step c).TransportInv := by
  cases c with
  | startAnnouncing digest attempts => exact (startAnnouncing_holds h digest attempts).1
  | stopAnnouncing => exact (stopAnnouncing_holds h.1).1
  | startListening begins indeterminate seenAt now => exact (startListening_holds h _ _ _ _).1
  | stopListening => exact inv_stopListening h.1
  | setManualConfigEndpoints endpoints =>
    exact ⟨h.1.alone, h.1.udp, h.1.broadcasts, h.1.chosen⟩

/-- A call leaves a service that announces, and shuts down what it stops, under the condition on the
state before it. -/
theorem announces_and_shutsDown_iff {s : DiscoveryService} (h : s.Holds) (c : ServiceCall) :
    (s.step c).Announces ∧ ShutsDown s c ↔ StopsOwned s c := by
  cases c with
  | startAnnouncing digest attempts =>
    exact iff_of_true ⟨(startAnnouncing_holds h digest attempts).2, ServiceCall.noConfusion⟩ trivial
  | stopAnnouncing =>
    rw [and_iff_right (show (s.step .stopAnnouncing).Announces from (stopAnnouncing_holds h.1).2)]
    exact ⟨fun hquiet => (quiet_stopAnnouncing_iff h.1).mp (hquiet rfl),
      fun howns _ => (quiet_stopAnnouncing_iff h.1).mpr howns⟩
  | startListening begins indeterminate seenAt now =>
    exact iff_of_true ⟨(startListening_holds h _ _ _ _).2, ServiceCall.noConfusion⟩ trivial
  | stopListening =>
    rw [and_iff_left (show ShutsDown s .stopListening from ServiceCall.noConfusion)]
    exact announces_stopListening_iff h
  | setManualConfigEndpoints endpoints =>
    refine iff_of_true ⟨fun hon => ?_, ServiceCall.noConfusion⟩ trivial
    exact h.2 hon

/-- The invariant holds of a service that was just made. -/
theorem inv_init : DiscoveryService.init.TransportInv where
  alone := ⟨rfl, rfl, rfl, rfl⟩
  udp := ⟨rfl, fun hfalse => absurd hfalse Bool.false_ne_true⟩
  broadcasts := DiscoveryTransport.noConfusion
  chosen hfalse := absurd hfalse Bool.false_ne_true

/-- In a run, each `stopAnnouncing` stops what `startAnnouncing` has started, and a service that
announces does so on a transport that is running, exactly when each `stopAnnouncing` finds the one
thing that is running named by `transport_`, and no `stopListening` finds the service announcing on
its configured endpoints. -/
theorem shut_down_iff (calls : List ServiceCall) :
    serviceMachine.Meets StopsOwned .init calls ↔
      (∀ pre, pre <+: calls → (serviceMachine.run pre).Announces) ∧
        serviceMachine.Meets ShutsDown .init calls := by
  have hinit : DiscoveryService.init.Holds :=
    ⟨inv_init, fun hfalse => absurd hfalse Bool.false_ne_true⟩
  have hstep (s : DiscoveryService) (c : ServiceCall) (h : s.Holds) :
      (s.step c).Holds ∧ ShutsDown s c ↔ StopsOwned s c := by
    rw [Holds, and_assoc, ← announces_and_shutsDown_iff h]
    exact and_iff_right (inv_step h c)
  have hiff : serviceMachine.Meets StopsOwned .init calls ↔
      (∀ pre, pre <+: calls → (serviceMachine.run pre).Holds) ∧
        serviceMachine.Meets ShutsDown .init calls :=
    Lib.Machine.meets_iff_forall_run_and_meets hinit hstep
  refine hiff.trans (and_congr_left fun _ => ?_)
  refine ⟨fun h pre hpre => (h pre hpre).2, fun h pre hpre => ⟨?_, h pre hpre⟩⟩
  -- The invariant needs what holds in the states before.
  induction pre using List.reverseRecOn with
  | nil => exact inv_init
  | append_singleton pre c ih =>
    have hpre' : pre <+: calls := (List.prefix_append pre [c]).trans hpre
    rw [Lib.Machine.run_append_singleton]
    exact inv_step ⟨ih hpre', h pre hpre'⟩ c

/-- The broadcast fails on a socket that was opened for it, and the socket stays open. -/
theorem socket_left_open :
    let digest : DiscoveryDigest :=
      { nodeId := { high := 1, low := 2 }, platform := .Mac, capabilitiesFingerprint := []
        sessionEpoch := { value := 0 }, protocolVersion := 1, topologyId := [] }
    let attempts : AnnounceAttempts := { registers := false, binds := true, sends := false }
    ¬ serviceMachine.Meets ShutsDown .init [.startAnnouncing digest attempts, .stopAnnouncing] := by
  rintro digest attempts ⟨-, hshut, -⟩
  exact absurd (hshut rfl).sockets (by decide)

/-! ### Calls that see to it -/

/-- `startAnnouncing` is called while nothing is announced, and no broadcast fails on the socket
opened for it. While something is announced, `startListening` does not fall back on the configured
endpoints, and `stopListening` is not called when it is announced there. -/
def Tidy (s : DiscoveryService) : ServiceCall → Prop
  | .startAnnouncing _ attempts =>
    s.announcing = false ∧ (attempts.binds = true → attempts.sends = true)
  | .startListening begins _ _ _ =>
    s.announcing = true →
      begins = true ∨ s.mdnsListener.running = true ∨ s.manualFallback.endpoints = []
  | .stopListening => s.announcing = true → s.announcesOn ≠ .ManualConfig
  | .stopAnnouncing | .setManualConfigEndpoints _ => True

/-- Nothing is running while nothing is announced. -/
def Idle (s : DiscoveryService) : Prop := s.announcing = false ∧ s.Quiet

/-- Whatever runs is the transport in use, and nothing runs when nothing is announced. -/
def Tended (s : DiscoveryService) : Prop := s.Owns ∧ (s.announcing = false → s.Quiet)

namespace DiscoveryService

variable {s : DiscoveryService}

/-- The attempt over mDNS leaves nothing behind when it fails. -/
theorem tryMdnsAnnounce_tended (h : Idle s) (digest : DiscoveryDigest) (registers : Bool) :
    Attempt Idle Tended (s.tryMdnsAnnounce digest registers) := by
  obtain ⟨hidle, hquiet⟩ := h
  unfold tryMdnsAnnounce
  dsimp only
  rcases s.mdnsAnnouncer.start_cases
      { serviceName := lit "CrossFlow-X", port := 5353, txtRecord := digest.toTxtRecord }
      registers with ⟨-, a, hstart, -⟩ | ⟨-, a, hstart, hfail⟩
  · rw [hstart]
    exact ⟨⟨fun _ => rfl, fun hopen => absurd hquiet.sockets hopen⟩,
      fun hfalse => absurd hfalse.symm Bool.false_ne_true⟩
  · rw [hstart]
    exact ⟨hidle, hfail, hquiet.udp, hquiet.sockets⟩

/-- The attempt by a broadcast leaves nothing behind, when what is bound is sent. -/
theorem tryUdpFallback_tended (h : Idle s) (digest : DiscoveryDigest) {binds sends : Bool}
    (hsends : binds = true → sends = true) :
    Attempt Idle Tended (s.tryUdpFallback digest binds sends) := by
  obtain ⟨hidle, hquiet⟩ := h
  unfold tryUdpFallback
  dsimp only
  rcases s.udpFallback.start_cases digest 5353 binds with
    ⟨-, hstart⟩ | ⟨hbinds, f, hstart, hrun, hopen, hsockets⟩
  · -- The fallback is not started, and stays quiet.
    rw [hstart]
    exact ⟨hidle, hquiet.mdns, hquiet.udp, hquiet.sockets⟩
  · rcases LanBroadcastFallback.broadcast_cases hrun hopen digest sends with
      ⟨hfail, -⟩ | ⟨-, hsend⟩
    · -- A fallback that is started also sends, by hypothesis.
      exact absurd (hfail.symm.trans (hsends hbinds)) Bool.false_ne_true
    · rw [hstart]
      dsimp only [Option.isSome_none, Bool.false_eq_true, if_false]
      rw [if_neg Bool.false_ne_true, hsend]
      have hone : f.udp.openSockets = 1 := by rw [hsockets, hquiet.sockets]
      exact ⟨⟨fun hrun => absurd (hquiet.mdns.symm.trans hrun) Bool.false_ne_true,
        fun _ => ⟨rfl, hone⟩⟩, fun hfalse => absurd hfalse.symm Bool.false_ne_true⟩

/-- The manual attempt leaves nothing behind. -/
theorem tryManualFallback_tended (h : Idle s) : Attempt Idle Tended s.tryManualFallback := by
  obtain ⟨hidle, hquiet⟩ := h
  have hquiet' (m : ManualConfigFallback) (transport : DiscoveryTransport) :
      Quiet { s with manualFallback := m, transport } := ⟨hquiet.mdns, hquiet.udp, hquiet.sockets⟩
  unfold tryManualFallback ManualConfigFallback.start
  by_cases hnone : s.manualFallback.endpoints = []
  · rw [if_pos hnone]
    exact ⟨hidle, hquiet⟩
  · rw [if_neg hnone, if_neg hnone]
    have howns := (hquiet' { s.manualFallback with running := true } .ManualConfig).owns
    exact ⟨⟨howns.mdns, howns.udp⟩, fun hfalse => absurd hfalse.symm Bool.false_ne_true⟩

/-- `startListening` writes `transport_` when it falls back on the configured endpoints. -/
theorem startListening_transport (s : DiscoveryService) (begins : Bool)
    (indeterminate : DiscoveryRecord) (seenAt : UInt64) (now : Int) :
    (s.startListening begins indeterminate seenAt now).transport = s.transport ∨
      begins = false ∧ s.mdnsListener.running = false ∧ s.manualFallback.endpoints ≠ [] := by
  unfold startListening MdnsListener.start
  dsimp only
  cases hrun : s.mdnsListener.running with
  | true => exact .inl rfl
  | false =>
    cases begins with
    | true => exact .inl rfl
    | false =>
      by_cases hnone : s.manualFallback.endpoints = []
      · exact .inl (by simp [hnone])
      · exact .inr ⟨rfl, rfl, hnone⟩

/-- `startListening` leaves the transports, but for the manual one. -/
theorem startListening_frame (s : DiscoveryService) (begins : Bool)
    (indeterminate : DiscoveryRecord) (seenAt : UInt64) (now : Int) :
    (s.startListening begins indeterminate seenAt now).mdnsAnnouncer = s.mdnsAnnouncer ∧
      (s.startListening begins indeterminate seenAt now).udpFallback = s.udpFallback ∧
      (s.startListening begins indeterminate seenAt now).announcing = s.announcing := by
  unfold startListening
  dsimp only
  split
  · exact ⟨rfl, rfl, rfl⟩
  · split <;> exact ⟨rfl, rfl, rfl⟩

/-- A tidy `startListening` leaves the service tended. -/
theorem tended_startListening (h : Tended s) {begins : Bool} {indeterminate : DiscoveryRecord}
    {seenAt : UInt64} {now : Int} (hc : Tidy s (.startListening begins indeterminate seenAt now)) :
    Tended (s.startListening begins indeterminate seenAt now) := by
  obtain ⟨hmdns, hudp, hannouncing⟩ := s.startListening_frame begins indeterminate seenAt now
  have hquiet (hidle : s.announcing = false) :
      (s.startListening begins indeterminate seenAt now).Quiet := by
    obtain ⟨hrun, hudpRun, hsockets⟩ := h.2 hidle
    exact ⟨by rw [hmdns, hrun], by rw [hudp, hudpRun], by rw [hudp, hsockets]⟩
  refine ⟨?_, fun hidle => hquiet (hannouncing ▸ hidle)⟩
  -- While the service announces, listening leaves its transport, by the condition on the call.
  cases hannounces : s.announcing with
  | false => exact (hquiet hannounces).owns
  | true =>
    have htransport : (s.startListening begins indeterminate seenAt now).transport =
        s.transport := by
      rcases s.startListening_transport begins indeterminate seenAt now with
        hsame | ⟨hfail, hidle, hsome⟩
      · exact hsame
      · rcases hc hannounces with hbegins | hrun | hnone
        · exact absurd (hfail.symm.trans hbegins) Bool.false_ne_true
        · exact absurd (hidle.symm.trans hrun) Bool.false_ne_true
        · exact absurd hnone hsome
    constructor
    · rw [hmdns, htransport]
      exact h.1.mdns
    · rw [hudp, htransport]
      exact h.1.udp

/-- A tidy call leaves the service tended. -/
theorem tended_step (hs : s.Holds) (h : Tended s) {c : ServiceCall} (hc : Tidy s c) :
    Tended (s.step c) := by
  cases c with
  | startAnnouncing digest attempts =>
    obtain ⟨hidle, hsends⟩ := hc
    have hquiet := h.2 hidle
    -- A start that fails ends as idle as it began, and one that succeeds is tended.
    have hrule : Idle (s.startAnnouncing digest attempts).1 ∨
        Tended (s.startAnnouncing digest attempts).1 :=
      startAnnouncing_rule ⟨hidle, hquiet⟩ ⟨hidle, hquiet.mdns, hquiet.udp, hquiet.sockets⟩
        (fun _ h => tryMdnsAnnounce_tended h digest attempts.registers)
        (fun _ h => tryUdpFallback_tended h digest hsends) fun _ h => tryManualFallback_tended h
    exact hrule.elim (fun h => ⟨h.2.owns, fun _ => h.2⟩) id
  | stopAnnouncing =>
    -- What is stopped is what the service owns, so that nothing runs after it.
    have hquiet := (quiet_stopAnnouncing_iff hs.1).mpr h.1
    exact ⟨hquiet.owns, fun _ => hquiet⟩
  | startListening begins indeterminate seenAt now => exact tended_startListening h hc
  | stopListening =>
    show Tended s.stopListening
    unfold stopListening
    dsimp only
    split <;> exact ⟨⟨h.1.mdns, h.1.udp⟩,
      fun hidle => ⟨(h.2 hidle).mdns, (h.2 hidle).udp, (h.2 hidle).sockets⟩⟩
  -- The other calls change neither the announcer nor the fallback.
  | setManualConfigEndpoints endpoints =>
    exact ⟨⟨h.1.mdns, h.1.udp⟩,
      fun hidle => ⟨(h.2 hidle).mdns, (h.2 hidle).udp, (h.2 hidle).sockets⟩⟩

end DiscoveryService

/-- Tidy calls leave no transport behind. -/
theorem stopsOwned_of_tidy {calls : List ServiceCall}
    (h : serviceMachine.Meets Tidy .init calls) : serviceMachine.Meets StopsOwned .init calls := by
  have hquiet : DiscoveryService.init.Quiet := ⟨rfl, rfl, rfl⟩
  -- A tidy call is one that stops what is owned, so it keeps what that keeps.
  have howned (s : DiscoveryService) (c : ServiceCall) (hs : s.Holds ∧ Tended s) (hc : Tidy s c) :
      StopsOwned s c := by
    cases c with
    | stopAnnouncing => exact hs.2.1
    | stopListening => exact hc
    | startAnnouncing | startListening | setManualConfigEndpoints => trivial
  refine Lib.Machine.meets_of_invariant (m := serviceMachine) (P := fun s => s.Holds ∧ Tended s)
    ?_ ?_ howned h
  · exact ⟨⟨inv_init, fun hfalse => absurd hfalse Bool.false_ne_true⟩, hquiet.owns, fun _ => hquiet⟩
  · intro s c hs hc
    have hannounces := ((announces_and_shutsDown_iff hs.1 c).mpr (howned s c hs hc)).1
    exact ⟨⟨inv_step hs.1 c, hannounces⟩, tended_step hs.1 hs.2 hc⟩

end CrossFlow
