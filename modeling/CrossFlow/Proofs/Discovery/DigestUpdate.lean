import CrossFlow.Proofs.Discovery.Shutdown

/-!
# `CrossFlow.Proofs.Discovery.DigestUpdate`: what a digest update that fails leaves behind

Over mDNS an update takes the registration down and makes a new one. When that fails there is none.
Over UDP a broadcast that fails leaves the fallback as it was, but `currentDigest_` of the service
has the new digest already.

* `keepsAnnouncement_iff`: the updates of a service that leave its announcement when they fail.
* `keepsTxt_iff`: the same for an announcer by itself.
-/

set_option autoImplicit false

namespace CrossFlow

open StdString (lit)

/-! ### On the air -/

/-- The service that is registered. -/
def MdnsAnnouncer.onAir (a : MdnsAnnouncer) : Option Announcement :=
  if a.running && a.serviceRef then some a.current else none

/-- What is announced, by the transport. -/
inductive OnAir where
  | registered (service : Announcement)
  | broadcast (currentDigest : Option DiscoveryDigest)
  | configured (endpoints : List ManualEndpoint)

namespace DiscoveryService

/-- What the transport in use tells the others. -/
def onAir (s : DiscoveryService) : Option OnAir :=
  match s.transport with
  | .Mdns => s.mdnsAnnouncer.onAir.map .registered
  | .UdpBroadcast =>
    if s.udpFallback.running && s.udpFallback.udp.isOpen then
      some (.broadcast s.udpFallback.currentDigest)
    else none
  | .ManualConfig =>
    if s.manualFallback.running then some (.configured s.manualFallback.endpoints) else none
  | .None => none

/-- When the update fails, what was announced is announced still, and the service says so. -/
def KeepsAnnouncement (s : DiscoveryService) (digest : DiscoveryDigest) (registers sends : Bool) :
    Prop :=
  (s.updateDigest digest registers sends).2 ≠ none →
    s.onAir.isSome = true ∧ (s.updateDigest digest registers sends).1.onAir = s.onAir ∧
      (s.updateDigest digest registers sends).1.currentDigest = s.currentDigest ∧
      (s.updateDigest digest registers sends).1.announcing = s.announcing

/-- The transport is up and accepts the digest. A broadcast may also fail for the digest that the
service has already. -/
def CanUpdate (s : DiscoveryService) (digest : DiscoveryDigest) (registers sends : Bool) : Prop :=
  match s.transport with
  | .Mdns => s.mdnsAnnouncer.running = true ∧ registers = true
  | .UdpBroadcast =>
    s.udpFallback.running = true ∧ s.udpFallback.udp.isOpen = true ∧
      (sends = true ∨ s.currentDigest = some digest)
  | .ManualConfig | .None => True

end DiscoveryService

/-- When the update of a running announcer fails, it is registered with what it was. -/
def AnnouncerSystem.KeepsTxt (s : AnnouncerSystem) (txtRecord : List (StdString × StdString))
    (registers : Bool) (self : AnnouncerThread) : Prop :=
  ∀ s' err, s.updateTxt txtRecord registers self = some (s', some err) →
    s'.announcer.onAir = some s.announcer.current

/-! ### The announcer -/

namespace MdnsAnnouncer

/-- Starting an announcer that is down, which stays down when the registration is refused. -/
theorem start_of_stopped {a : MdnsAnnouncer} (hrun : a.running = false) (service : Announcement)
    (registers : Bool) :
    registers = true ∧ (a.start service registers).2 = none ∨
      registers = false ∧ (a.start service registers).2 = some .DiscMdnsUnavailable ∧
        (a.start service registers).1.onAir = none := by
  unfold start
  rw [if_neg (Bool.eq_false_iff.mp hrun)]
  cases registers with
  | true => exact .inl ⟨rfl, rfl⟩
  | false =>
    refine .inr ⟨rfl, rfl, ?_⟩
    unfold onAir
    exact if_neg (by simp [hrun])

/-- In an update that fails the registration is lost, if there was one. -/
theorem updateTxt_cases (a : MdnsAnnouncer) (txtRecord : List (StdString × StdString))
    (registers : Bool) :
    (a.running = true ∧ registers = true) ∧ (a.updateTxt txtRecord registers).2 = none ∨
      ¬ (a.running = true ∧ registers = true) ∧ (a.updateTxt txtRecord registers).2 ≠ none ∧
        (a.updateTxt txtRecord registers).1.onAir = none := by
  unfold updateTxt
  cases hrun : a.running with
  | false =>
    -- An announcer that does not run has nothing on the air, and refuses.
    refine .inr ⟨fun h => Bool.false_ne_true h.1, Option.some_ne_none _, ?_⟩
    show a.onAir = none
    unfold onAir
    rw [hrun]
    rfl
  | true =>
    let service := { a.current with txtRecord }
    -- `stop` comes first, so it depends on the new registration alone.
    rcases start_of_stopped a.stop_running service registers with ⟨rfl, hnone⟩ | ⟨rfl, herr, hoff⟩
    · exact .inl ⟨⟨rfl, rfl⟩, hnone⟩
    · refine .inr ⟨fun h => Bool.false_ne_true h.2, ?_, hoff⟩
      exact fun hnone => Option.some_ne_none _ (herr.symm.trans hnone)

end MdnsAnnouncer

namespace AnnouncerSystem

variable {s : AnnouncerSystem}

/-- A running announcer is stopped, unless its refresh thread would have to join itself. -/
theorem stop_cases (hrun : s.announcer.running = true) (self : AnnouncerThread) :
    (self = .refreshThread ∧ s.announcer.refreshThread = true) ∧ s.stop self = none ∨
      ¬ (self = .refreshThread ∧ s.announcer.refreshThread = true) ∧
        ∃ stopped, s.stop self = some stopped ∧ stopped.announcer.running = false := by
  unfold stop MdnsAnnouncer.stopAutoRefresh
  rw [hrun]
  cases hthread : s.announcer.refreshThread with
  | false => exact .inr ⟨fun h => Bool.false_ne_true h.2, _, rfl, rfl⟩
  | true =>
    cases self with
    | refreshThread => exact .inl ⟨⟨rfl, rfl⟩, rfl⟩
    | other =>
      refine .inr ⟨fun h => ?_, _, rfl, rfl⟩
      cases h.1

/-- The `updateTxt` of an announcer that is alone is that of a service. -/
theorem updateTxt_of_alone (h : s.announcer.Alone) (txtRecord : List (StdString × StdString))
    (registers : Bool) (self : AnnouncerThread) :
    s.updateTxt txtRecord registers self =
      some ({ s with announcer := (s.announcer.updateTxt txtRecord registers).1 },
        (s.announcer.updateTxt txtRecord registers).2) := by
  unfold updateTxt MdnsAnnouncer.updateTxt
  cases hrun : s.announcer.running with
  | false => rfl
  | true =>
    rw [stop_of_alone h self]
    rfl

end AnnouncerSystem

/-! ### Updates -/

namespace DiscoveryService

variable {s : DiscoveryService}

section
variable (hannouncing : s.announcing = true) (digest : DiscoveryDigest) (registers sends : Bool)
include hannouncing

/-- The branches of `updateDigest`. The digest is the current one before the transport has it. -/
theorem updateDigest_eq :
    s.updateDigest digest registers sends =
      match s.transport with
      | .Mdns =>
        let updated := s.mdnsAnnouncer.updateTxt digest.toTxtRecord registers
        ({ s with currentDigest := some digest, mdnsAnnouncer := updated.1 }, updated.2)
      | .UdpBroadcast =>
        let updated := s.udpFallback.broadcast digest sends
        ({ s with currentDigest := some digest, udpFallback := updated.1 }, updated.2)
      | .ManualConfig | .None => ({ s with currentDigest := some digest }, none) := by
  have hnot : ¬ (!s.announcing) = true := by
    rw [hannouncing]
    exact Bool.false_ne_true
  refine (if_neg hnot).trans ?_
  cases s.transport <;> rfl

/-- An update over mDNS keeps the announcement when the new registration succeeds. -/
theorem keepsAnnouncement_mdns (htransport : s.transport = .Mdns) :
    s.KeepsAnnouncement digest registers sends ↔
      s.mdnsAnnouncer.running = true ∧ registers = true := by
  unfold KeepsAnnouncement onAir
  rw [updateDigest_eq hannouncing]
  simp only [htransport]
  rcases s.mdnsAnnouncer.updateTxt_cases digest.toTxtRecord registers with
    ⟨hup, hnone⟩ | ⟨hdown, herr, hoff⟩
  · exact iff_of_true (fun herr => absurd hnone herr) hup
  · -- The registration is gone.
    refine iff_of_false (fun hkeeps => ?_) hdown
    obtain ⟨hair, hsame, -⟩ := hkeeps herr
    rw [← hsame, hoff] at hair
    exact Bool.false_ne_true hair

/-- An update by a broadcast keeps the announcement when it is sent, or says what was said before.
-/
theorem keepsAnnouncement_udp (htransport : s.transport = .UdpBroadcast) :
    s.KeepsAnnouncement digest registers sends ↔
      s.udpFallback.running = true ∧ s.udpFallback.udp.isOpen = true ∧
        (sends = true ∨ s.currentDigest = some digest) := by
  unfold KeepsAnnouncement onAir
  rw [updateDigest_eq hannouncing]
  simp only [htransport]
  cases hrun : s.udpFallback.running with
  | false =>
    refine iff_of_false (fun hkeeps => ?_) fun h => Bool.false_ne_true h.1
    unfold LanBroadcastFallback.broadcast at hkeeps
    simp [hrun] at hkeeps
  | true =>
    cases hopen : s.udpFallback.udp.isOpen with
    | false =>
      -- Nothing is on the air that could be kept.
      refine iff_of_false (fun hkeeps => ?_) fun h => Bool.false_ne_true h.2.1
      unfold LanBroadcastFallback.broadcast UdpBroadcast.send at hkeeps
      simp [hrun, hopen] at hkeeps
    | true =>
      rw [and_iff_right rfl, and_iff_right rfl]
      rcases LanBroadcastFallback.broadcast_cases hrun hopen digest sends with
        ⟨rfl, hbroadcast⟩ | ⟨rfl, hbroadcast⟩
      · -- The fallback is as it was, and the service has the new digest.
        rw [hbroadcast, or_iff_right Bool.false_ne_true]
        simp only [hrun, hopen]
        refine ⟨fun hkeeps => (hkeeps (Option.some_ne_none _)).2.2.1.symm, fun hsame _ => ?_⟩
        exact ⟨rfl, trivial, hsame.symm, trivial⟩
      · rw [hbroadcast]
        exact iff_of_true (fun herr => absurd rfl herr) (.inl rfl)

/-- An update leaves the announcement when it fails exactly when it cannot fail for its transport,
or is a broadcast of the current digest. -/
theorem keepsAnnouncement_iff :
    s.KeepsAnnouncement digest registers sends ↔ s.CanUpdate digest registers sends := by
  unfold CanUpdate
  cases htransport : s.transport with
  | Mdns => exact keepsAnnouncement_mdns hannouncing digest registers sends htransport
  | UdpBroadcast => exact keepsAnnouncement_udp hannouncing digest registers sends htransport
  | ManualConfig =>
    refine iff_of_true (fun herr => absurd ?_ herr) trivial
    rw [updateDigest_eq hannouncing, htransport]
  | None =>
    refine iff_of_true (fun herr => absurd ?_ herr) trivial
    rw [updateDigest_eq hannouncing, htransport]

end

end DiscoveryService

/-- An update of the record keeps a registration when the new one succeeds, or the thread cannot
join itself. -/
theorem AnnouncerSystem.keepsTxt_iff {s : AnnouncerSystem} (hrun : s.announcer.running = true)
    (txtRecord : List (StdString × StdString)) (registers : Bool) (self : AnnouncerThread) :
    s.KeepsTxt txtRecord registers self ↔
      registers = true ∨ (self = .refreshThread ∧ s.announcer.refreshThread = true) := by
  unfold KeepsTxt updateTxt
  rw [hrun]
  rcases stop_cases hrun self with ⟨hjoins, hstop⟩ | ⟨hjoins, stopped, hstop, hstopped⟩
  · -- The refresh thread would join itself, and the call does not return.
    rw [hstop]
    refine iff_of_true (fun s' err h => ?_) (.inr hjoins)
    exact absurd h.symm (Option.some_ne_none _)
  · rw [hstop, or_iff_left hjoins]
    let service := { s.announcer.current with txtRecord }
    rcases MdnsAnnouncer.start_of_stopped hstopped service registers with
      ⟨rfl, hnone⟩ | ⟨rfl, herr, hoff⟩
    · -- The new registration succeeds, and the update with it.
      refine iff_of_true (fun s' err h => ?_) rfl
      have hsome : (stopped.announcer.start service true).2 = some err :=
        congrArg Prod.snd (Option.some.inj h)
      exact absurd (hsome.symm.trans hnone) (Option.some_ne_none err)
    · -- The announcer was stopped, and is not started again.
      refine iff_of_false (fun hkeeps => ?_) Bool.false_ne_true
      have hair := hkeeps (stopped.start service false).1 .DiscMdnsUnavailable
        (congrArg some (Prod.ext rfl herr))
      exact absurd (hair.symm.trans hoff) (Option.some_ne_none _)

/-- Of an announcing service and of a running announcer: which updates leave what was announced when
they fail. -/
theorem failed_update_keeps_iff {s : DiscoveryService} (hannouncing : s.announcing = true)
    (digest : DiscoveryDigest) {a : AnnouncerSystem} (hrun : a.announcer.running = true)
    (txtRecord : List (StdString × StdString)) (self : AnnouncerThread) (registers sends : Bool) :
    (s.KeepsAnnouncement digest registers sends ↔ s.CanUpdate digest registers sends) ∧
      (a.KeepsTxt txtRecord registers self ↔
        registers = true ∨ (self = .refreshThread ∧ a.announcer.refreshThread = true)) :=
  ⟨s.keepsAnnouncement_iff hannouncing digest registers sends,
    AnnouncerSystem.keepsTxt_iff hrun txtRecord registers self⟩

/-- A digest of node 1. -/
def digestOf (sessionEpoch : UInt64) : DiscoveryDigest where
  nodeId := { high := 0, low := 1 }
  platform := .Mac
  capabilitiesFingerprint := []
  sessionEpoch := { value := sessionEpoch }
  protocolVersion := 1
  topologyId := []

/-- A service that broadcasts epoch 1 is asked to broadcast it again, and the broadcast is not sent;
and an announcer of epoch 1 is updated to epoch 2. -/
theorem failed_update_keeps_announced :
    let attempts : AnnounceAttempts := { registers := false, binds := true, sends := true }
    let broadcasting := (DiscoveryService.init.startAnnouncing (digestOf 1) attempts).1
    let service : Announcement :=
      { serviceName := lit "CrossFlow-X", port := 5353, txtRecord := (digestOf 1).toTxtRecord }
    broadcasting.transport = .UdpBroadcast ∧
      (broadcasting.updateDigest (digestOf 1) true false).2 ≠ none ∧
      broadcasting.KeepsAnnouncement (digestOf 1) true false ∧
      (AnnouncerSystem.init.start service true).1.KeepsTxt (digestOf 2).toTxtRecord true .other := by
  intro attempts broadcasting service
  have hannouncing : broadcasting.announcing = true := rfl
  have hrun : (AnnouncerSystem.init.start service true).1.announcer.running = true := rfl
  obtain ⟨hservice, hannouncer⟩ := failed_update_keeps_iff hannouncing (digestOf 1) hrun
    (digestOf 2).toTxtRecord .other true false
  exact ⟨rfl, by decide, hservice.mpr ⟨rfl, rfl, .inr rfl⟩, hannouncer.mpr (.inl rfl)⟩

/-- The new registration is refused, and the old one is gone. -/
theorem refused_update_goes_off_air :
    let attempts : AnnounceAttempts := { registers := true, binds := true, sends := true }
    ¬ (DiscoveryService.init.startAnnouncing (digestOf 1) attempts).1.KeepsAnnouncement (digestOf 2)
        false true := by
  intro attempts hkeeps
  obtain ⟨-, hair, -⟩ := hkeeps (by decide)
  exact Option.some_ne_none _ hair.symm

end CrossFlow
