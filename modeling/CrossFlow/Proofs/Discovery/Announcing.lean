import CrossFlow.Core.Discovery.MdnsAnnouncer

/-!
# `CrossFlow.Proofs.Discovery.Announcing`: what a refresh takes away

`refresh` is `stop` and `start`, and `stop` also ends the refresh thread and both subscriptions,
which `start` does not set up again. On the refresh thread itself `stop` does not return.

* `stop_other` and `restart_other`: what `stop` takes away and `start` does not give back.
* `refresh_other` and `refresh_refreshThread`: a call from another thread and one from the refresh
  thread.
* `run_of_announcing`: what is announced after the first event.
* `keeps_announcing_iff`: no event leaves the announcer as it was.
-/

set_option autoImplicit false

namespace CrossFlow

namespace AnnouncerSystem

/-- Running, subscribed to both sources and refreshing. -/
structure Announcing (s : AnnouncerSystem) : Prop where
  running : s.announcer.running = true
  network : s.announcer.subscribedToNetwork = true ∧ s.announcer.networkSource = true ∧
    s.networkChanges.running = true ∧ s.networkChanges.callback = true
  topology : s.announcer.subscribedToTopology = true ∧ s.announcer.topologySource = true ∧
    s.topologyChanges.callback = true
  refreshing : s.announcer.refreshThread = true ∧ s.announcer.refreshEnabled = true

/-- Running with `service`, but subscribed to nothing and without a refresh thread. -/
structure Detached (s : AnnouncerSystem) (service : Announcement) : Prop where
  running : s.announcer.running = true
  current : s.announcer.current = service
  network : s.announcer.subscribedToNetwork = false
  topology : s.announcer.subscribedToTopology = false
  refreshThread : s.announcer.refreshThread = false

variable {s : AnnouncerSystem} {service : Announcement}

/-- The calls that set up an announcer. -/
def setUp (service : Announcement) : Option AnnouncerSystem :=
  let (s, _) := init.start service true
  let s := s.subscribeToNetworkChanges
  let s := s.subscribeToTopologyChanges
  s.startAutoRefresh

/-- The set-up leads to an announcer that announces. -/
theorem announcing_setUp (service : Announcement) :
    ∃ s, setUp service = some s ∧ s.Announcing ∧ s.announcer.current = service :=
  ⟨_, rfl, ⟨rfl, ⟨rfl, rfl, rfl, rfl⟩, ⟨rfl, rfl, rfl⟩, rfl, rfl⟩, rfl⟩

/-- An announcer that has its subscriptions is not detached. -/
theorem Announcing.not_detached (h : s.Announcing) : ¬ s.Detached service := by
  intro hdetached
  exact Bool.false_ne_true (hdetached.refreshThread.symm.trans h.refreshing.1)

/-! ### `stop` and `refresh` -/

/-- Only the subscription to the network goes. -/
theorem unsubscribeFromNetworkChanges_announcer (s : AnnouncerSystem) :
    ∃ source, s.unsubscribeFromNetworkChanges.announcer =
      { s.announcer with networkSource := source, subscribedToNetwork := false } := by
  unfold unsubscribeFromNetworkChanges
  cases hsub : s.announcer.subscribedToNetwork with
  | false =>
    refine ⟨s.announcer.networkSource, ?_⟩
    show s.announcer = _
    rw [← hsub]
  | true => exact ⟨false, rfl⟩

/-- Only the subscription to the topology goes. -/
theorem unsubscribeFromTopologyChanges_announcer (s : AnnouncerSystem) :
    ∃ source, s.unsubscribeFromTopologyChanges.announcer =
      { s.announcer with topologySource := source, subscribedToTopology := false } := by
  unfold unsubscribeFromTopologyChanges
  cases hsub : s.announcer.subscribedToTopology with
  | false =>
    refine ⟨s.announcer.topologySource, ?_⟩
    show s.announcer = _
    rw [← hsub]
  | true => exact ⟨false, rfl⟩

/-- On another thread the refresh thread can be joined, when there is one. -/
theorem stopAutoRefresh_other (a : MdnsAnnouncer) :
    a.stopAutoRefresh .other =
      some { a with refreshEnabled := false, refreshThread := false } := by
  unfold MdnsAnnouncer.stopAutoRefresh
  cases hthread : a.refreshThread with
  | false => rfl
  | true => rfl

/-- `stop` ends the registration, the refresh thread and both subscriptions. -/
theorem stop_other (hrun : s.announcer.running = true) :
    ∃ s' networkSource topologySource, s.stop .other = some s' ∧
      s'.announcer =
        { s.announcer with
          running := false
          serviceRef := false
          refreshEnabled := false
          refreshThread := false
          networkSource
          subscribedToNetwork := false
          topologySource
          subscribedToTopology := false } := by
  -- The two sources are told apart from the announcer, which both leave alone.
  unfold stop
  rw [hrun, stopAutoRefresh_other]
  obtain ⟨networkSource, hnetwork⟩ := unsubscribeFromNetworkChanges_announcer
    { s with announcer := { s.announcer with refreshEnabled := false, refreshThread := false } }
  obtain ⟨topologySource, htopology⟩ := unsubscribeFromTopologyChanges_announcer
    { s with
      announcer := { s.announcer with refreshEnabled := false, refreshThread := false }
    }.unsubscribeFromNetworkChanges
  refine ⟨_, networkSource, topologySource, rfl, ?_⟩
  dsimp only
  rw [htopology, hnetwork]
  rfl

/-- `start` after `stop` registers a service, and sets up nothing else. -/
theorem restart_other (hrun : s.announcer.running = true) (service : Announcement) :
    ∃ stopped s', s.stop .other = some stopped ∧ stopped.start service true = (s', none) ∧
      s'.Detached service ∧ s'.announcer.published = s.announcer.published ++ [service] := by
  obtain ⟨stopped, networkSource, topologySource, hstop, hannouncer⟩ := stop_other hrun
  -- The announcer was stopped, so that the service is registered again.
  have hstart : stopped.announcer.start service true =
      ( { stopped.announcer with
          current := service
          serviceRef := true
          running := true
          published := s.announcer.published ++ [service] },
        none ) := by
    rw [hannouncer]
    rfl
  refine ⟨stopped, (stopped.start service true).1, hstop, ?_, ?_, ?_⟩
  · unfold start
    rw [hstart]
  · unfold start
    rw [hstart, hannouncer]
    exact ⟨rfl, rfl, rfl, rfl, rfl⟩
  · unfold start
    rw [hstart]

/-- A refresh from another thread registers the service again, and detaches the announcer. -/
theorem refresh_other (hrun : s.announcer.running = true) :
    ∃ s', s.refresh true .other = some (s', none) ∧ s'.Detached s.announcer.current ∧
      s'.announcer.published = s.announcer.published ++ [s.announcer.current] := by
  obtain ⟨stopped, s', hstop, hstart, hs'⟩ := restart_other hrun s.announcer.current
  refine ⟨s', ?_, hs'⟩
  unfold refresh
  rw [hrun, hstop]
  exact congrArg some hstart

/-- The refresh thread cannot join itself. -/
theorem refresh_refreshThread (hrun : s.announcer.running = true)
    (hthread : s.announcer.refreshThread = true) (registers : Bool) :
    s.refresh registers .refreshThread = none := by
  unfold refresh stop MdnsAnnouncer.stopAutoRefresh
  rw [hrun, hthread]
  rfl

/-! ### Events -/

/-- A change reaches the callback of an announcer that is subscribed. -/
theorem simulateNetworkChange_of_announcing (h : s.Announcing) :
    ∃ s', s.simulateNetworkChange true = some s' ∧ s'.Detached s.announcer.current ∧
      s'.announcer.published = s.announcer.published ++ [s.announcer.current] := by
  obtain ⟨hsub, -, hrun, hcallback⟩ := h.network
  let count := s.announcer.networkChangeRepublishCount + 1
  obtain ⟨s', hrefresh, hdetached, hpublished⟩ := refresh_other
    (s := { s with announcer := { s.announcer with networkChangeRepublishCount := count } })
    h.running
  refine ⟨s', ?_, hdetached, hpublished⟩
  unfold simulateNetworkChange networkCallback republish
  rw [hrun, hcallback, h.running, hsub]
  dsimp only [Bool.and_self, if_true]
  rw [hrefresh]
  rfl

/-- A change of the topology is a refresh. -/
theorem notifyTopologyChanged_of_announcing (h : s.Announcing) :
    ∃ s', s.notifyTopologyChanged true = some s' ∧ s'.Detached s.announcer.current ∧
      s'.announcer.published = s.announcer.published ++ [s.announcer.current] := by
  obtain ⟨hsub, -, hcallback⟩ := h.topology
  let count := s.announcer.topologyChangeRepublishCount + 1
  obtain ⟨s', hrefresh, hdetached, hpublished⟩ := refresh_other
    (s := { s with announcer := { s.announcer with topologyChangeRepublishCount := count } })
    h.running
  refine ⟨s', ?_, hdetached, hpublished⟩
  unfold notifyTopologyChanged topologyCallback republish
  rw [hcallback, h.running, hsub]
  dsimp only [Bool.and_self, if_true]
  rw [hrefresh]
  rfl

/-- An event ends the process, on the refresh thread, or leaves a detached announcer. -/
theorem step_of_announcing (h : s.Announcing) {event : AnnouncerEvent}
    (hreg : event.registers = true) :
    event = .autoRefresh true ∧ s.step event = none ∨
      event ≠ .autoRefresh true ∧ ∃ s', s.step event = some s' ∧
        s'.Detached s.announcer.current ∧
        s'.announcer.published = s.announcer.published ++ [s.announcer.current] := by
  -- The first three events come from other threads, which can join the refresh thread.
  cases event with
  | networkChange registers =>
    obtain rfl : registers = true := hreg
    exact .inr ⟨AnnouncerEvent.noConfusion, simulateNetworkChange_of_announcing h⟩
  | topologyChange registers =>
    obtain rfl : registers = true := hreg
    exact .inr ⟨AnnouncerEvent.noConfusion, notifyTopologyChanged_of_announcing h⟩
  | refresh registers =>
    obtain rfl : registers = true := hreg
    obtain ⟨s', hrefresh, hs'⟩ := refresh_other h.running
    exact .inr ⟨AnnouncerEvent.noConfusion, s', congrArg (Option.map Prod.fst) hrefresh, hs'⟩
  | autoRefresh registers =>
    obtain rfl : registers = true := hreg
    -- The refresh thread would have to join itself.
    refine .inl ⟨rfl, ?_⟩
    show s.autoRefresh true = none
    unfold autoRefresh
    rw [refresh_refreshThread h.running h.refreshing.1, h.refreshing.1, h.refreshing.2]
    rfl

/-- What the event publishes when nobody is subscribed and no thread refreshes. -/
def byHand (service : Announcement) : AnnouncerEvent → List Announcement
  | .refresh _ => [service]
  | _ => []

/-- A detached announcer passes over everything except a call of `refresh`. -/
theorem step_of_detached (h : s.Detached service) {event : AnnouncerEvent}
    (hreg : event.registers = true) :
    ∃ s', s.step event = some s' ∧ s'.Detached service ∧
      s'.announcer.published = s.announcer.published ++ byHand service event := by
  cases event with
  | networkChange registers =>
    -- Without a callback a change of the network or of the topology does nothing.
    refine ⟨s, ?_, h, (List.append_nil _).symm⟩
    show s.simulateNetworkChange registers = some s
    unfold simulateNetworkChange networkCallback
    rw [h.network, Bool.and_false]
    exact ite_self _
  | topologyChange registers =>
    refine ⟨s, ?_, h, (List.append_nil _).symm⟩
    show s.notifyTopologyChanged registers = some s
    unfold notifyTopologyChanged topologyCallback
    rw [h.topology, Bool.and_false]
    exact ite_self _
  | refresh registers =>
    obtain rfl : registers = true := hreg
    obtain ⟨s', hrefresh, hdetached, hpublished⟩ := refresh_other h.running
    rw [h.current] at hdetached hpublished
    exact ⟨s', congrArg (Option.map Prod.fst) hrefresh, hdetached, hpublished⟩
  | autoRefresh registers =>
    -- The loop of the refresh thread has ended.
    refine ⟨s, ?_, h, (List.append_nil _).symm⟩
    show s.autoRefresh registers = some s
    unfold autoRefresh
    rw [h.refreshThread]
    rfl

/-- A detached announcer registers again only for the calls made by hand. -/
theorem run_of_detached (h : s.Detached service) {events : List AnnouncerEvent}
    (hreg : ∀ event ∈ events, event.registers = true) :
    ∃ s', announcerMachine.runFrom (some s) events = some s' ∧ s'.Detached service ∧
      s'.announcer.published = s.announcer.published ++ events.flatMap (byHand service) := by
  induction events generalizing s with
  | nil => exact ⟨s, rfl, h, (List.append_nil _).symm⟩
  | cons event events ih =>
    obtain ⟨next, hstep, hdetached, hpublished⟩ :=
      step_of_detached h (hreg event List.mem_cons_self)
    obtain ⟨s', hrun, hdetached', hpublished'⟩ :=
      ih hdetached fun e he => hreg e (List.mem_cons_of_mem event he)
    refine ⟨s', ?_, hdetached', ?_⟩
    · rw [Lib.Machine.runFrom_cons, ← hrun]
      exact congrArg (announcerMachine.runFrom · events) hstep
    · rw [hpublished', hpublished, List.append_assoc, List.flatMap_cons]

/-- After the first event only calls of `refresh` publish. The service stays the same and stays
registered, unless the first event is the refresh thread's own. -/
theorem run_of_announcing (h : s.Announcing) {event : AnnouncerEvent}
    {events : List AnnouncerEvent} (hfirst : event ≠ .autoRefresh true)
    (hreg : ∀ e ∈ event :: events, e.registers = true) :
    ∃ s', announcerMachine.runFrom (some s) (event :: events) = some s' ∧
      s'.Detached s.announcer.current ∧
      s'.announcer.published = s.announcer.published ++
        s.announcer.current :: events.flatMap (byHand s.announcer.current) := by
  rcases step_of_announcing h (hreg event List.mem_cons_self) with
    ⟨hauto, -⟩ | ⟨-, next, hstep, hdetached, hpublished⟩
  · exact absurd hauto hfirst
  · obtain ⟨s', hrun, hdetached', hpublished'⟩ :=
      run_of_detached hdetached fun e he => hreg e (List.mem_cons_of_mem event he)
    refine ⟨s', ?_, hdetached', ?_⟩
    · rw [Lib.Machine.runFrom_cons, ← hrun]
      exact congrArg (announcerMachine.runFrom · events) hstep
    · rw [hpublished', hpublished, List.append_assoc]
      rfl

end AnnouncerSystem

open AnnouncerSystem

/-- The event publishes the service once more, and the announcer announces it as before. -/
def KeepsAnnouncing (s : Option AnnouncerSystem) (event : AnnouncerEvent) : Prop :=
  ∃ before after, s = some before ∧ announcerMachine.step s event = some after ∧
    after.announcer.published = before.announcer.published ++ [before.announcer.current] ∧
    after.announcer.current = before.announcer.current ∧ after.Announcing

/-- An announcer goes on announcing only while nothing happens. -/
theorem keeps_announcing_iff {s : AnnouncerSystem} (h : s.Announcing)
    {events : List AnnouncerEvent} (hreg : ∀ event ∈ events, event.registers = true) :
    announcerMachine.Meets KeepsAnnouncing (some s) events ↔ events = [] := by
  constructor
  · intro hkeeps
    cases events with
    | nil => rfl
    | cons event events =>
      -- The first event already leaves nothing that announces by itself.
      obtain ⟨⟨before, after, hbefore, hafter, -, -, hannouncing⟩, -⟩ := hkeeps
      obtain rfl := Option.some.inj hbefore
      have hafter : s.step event = some after := hafter
      rcases step_of_announcing h (hreg event List.mem_cons_self) with
        ⟨-, hnone⟩ | ⟨-, next, hnext, hdetached, -⟩
      · rw [hnone] at hafter
        exact absurd hafter.symm (Option.some_ne_none after)
      · rw [hnext] at hafter
        obtain rfl := Option.some.inj hafter
        exact absurd hdetached hannouncing.not_detached
  · rintro rfl
    trivial

/-- One change of the network is enough for the announcer to be detached. -/
theorem keeps_announcing_change :
    ∃ s : AnnouncerSystem, s.Announcing ∧
      (announcerMachine.Meets KeepsAnnouncing (some s) [.networkChange true] ↔
        [AnnouncerEvent.networkChange true] = []) := by
  obtain ⟨s, -, h, -⟩ := announcing_setUp { serviceName := [], port := 5353, txtRecord := [] }
  exact ⟨s, h, keeps_announcing_iff h (by simp [AnnouncerEvent.registers])⟩

/-- The second of two network changes publishes nothing. -/
theorem second_change_unanswered :
    let service := { serviceName := [], port := 5353, txtRecord := [] }
    ¬ announcerMachine.Meets KeepsAnnouncing (setUp service)
      [.networkChange true, .networkChange true] := by
  rintro service ⟨-, ⟨before, after, hbefore, hafter, hpublished, -⟩, -⟩
  obtain rfl : _ = before := Option.some.inj hbefore
  obtain rfl : _ = after := Option.some.inj hafter
  exact absurd (congrArg List.length hpublished) (by decide)

end CrossFlow
