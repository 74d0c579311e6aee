import CrossFlow.Integration.CoordinatedTransport
import CrossFlow.Proofs.Integration.InputGate
import CrossFlow.Proofs.Transport.LinkLoss

/-!
# `CrossFlow.Proofs.Integration.Recovery`: a recovery that is not confirmed

The coordinator asks for the recovery when it is told that the link is up, and the transport tells
it once for each connection.

* `threadView`, `coordinatorView`: the two components of the system.
* `coordinatedInv_run`: what holds of the two together.
* `Stuck.step`: when no such call is under way, no step that keeps the link makes one.
* `recovery_left_iff`: when the state `Recovery` can be left.
-/

set_option autoImplicit false

namespace CrossFlow

open Lib (Machine Refinement)
open TransportImpl (ConnectCalls)
open TransportThreads
open DisconnectResyncCoordinator (Ready handling ready_init ready_step onConnected_of_ready)

/-! ### The components -/

namespace CoordinatedTransport

/-- The events of the link that the coordinator is handed at a step. -/
def events (s : CoordinatedTransport) (a : CoordinatedAction) : List LinkStateEvent :=
  (seen s.threads a.action).reverse.filterMap fun
    | .notified state _ => some { state, pressed := a.pressed, confirmed := a.confirmed }
    | _ => none

/-- The threads run as they do without a coordinator. -/
def threadView (config : TransportConfig) :
    Refinement (coordinatedMachine config) (threadMachine config) where
  view := threads
  acts _ a := [a.action]
  view_init := rfl
  view_step _ _ := rfl

/-- The coordinator is handed one event after another. -/
def coordinatorView (config : TransportConfig) :
    Refinement (coordinatedMachine config) coordinatorMachine where
  view := coordinator
  acts := events
  view_init := rfl
  view_step s a := by
    show (seen s.threads a.action).foldr _ s.coordinator = _
    rw [events, List.foldr_eq_foldl_reverse]
    generalize (seen s.threads a.action).reverse = observed
    generalize s.coordinator = c
    induction observed generalizing c with
    | nil => rfl
    | cons o observed ih =>
      cases o with
      | notified state connection => exact ih _
      | lost connection => exact ih c
      | linkUp value => exact ih c

variable {s : CoordinatedTransport} {a : CoordinatedAction}

/-- A coordinator that is told nothing stays as it is. -/
theorem coordinator_of_same (h : (s.threads.step a.action).trace = s.threads.trace) :
    (s.step a).coordinator = s.coordinator := by
  simp [step, seen, h]

/-- Nothing that is seen is told to the coordinator. -/
theorem coordinator_of_silent {o : LinkObservation}
    (h : (s.threads.step a.action).trace = o :: s.threads.trace)
    (ho : ∀ state connection, o ≠ .notified state connection) :
    (s.step a).coordinator = s.coordinator := by
  cases o with
  | notified state connection => exact absurd rfl (ho state connection)
  | lost connection => simp [step, seen, h, DisconnectResyncCoordinator.observe]
  | linkUp value => simp [step, seen, h, DisconnectResyncCoordinator.observe]

/-- A coordinator that is told something handles it. -/
theorem coordinator_of_told {state : LinkState} {connection : Nat}
    (h : (s.threads.step a.action).trace = .notified state connection :: s.threads.trace) :
    (s.step a).coordinator = coordinatorMachine.step s.coordinator
      { state, pressed := a.pressed, confirmed := a.confirmed } := by
  simp [step, seen, h, DisconnectResyncCoordinator.observe, coordinatorMachine]

end CoordinatedTransport

namespace DisconnectResyncCoordinator

variable {c : DisconnectResyncCoordinator}

/-- After a loss the coordinator is reconnecting. -/
theorem state_of_loss (hc : c.Ready) {e : LinkStateEvent} (hloss : e.IsLoss) :
    (coordinatorMachine.step c e).state = .Reconnecting := by
  have hhandling := handling hc e
  generalize coordinatorMachine.step c e = c' at hhandling
  generalize eventCallbacks c e = callbacks at hhandling
  cases hhandling with
  | ignored hnot | reconnecting hnot _ => exact absurd hloss hnot
  | lost _ => rfl
  | recovered hup _ | unconfirmed hup _ =>
    rw [LinkStateEvent.IsLoss, hup] at hloss
    exact absurd hloss (by simp)

/-- After a connection the coordinator is connected, or waits for a confirmation. -/
theorem state_of_connected (hc : c.Ready) (pressed : PressedStateSnapshot) (confirmed : Bool) :
    (coordinatorMachine.step c { state := .Connected, pressed, confirmed }).state =
      if c.state = .Connected ∨ confirmed = true then .Connected else .Recovery := by
  show (c.handleLinkState .Connected pressed confirmed).1.state = _
  unfold handleLinkState
  rw [if_neg (by simp [hc.started])]
  dsimp only
  by_cases hstate : c.state = .Connected
  · rw [onConnected, if_pos hstate, if_pos (.inl hstate)]
    exact hstate
  · rw [onConnected_of_ready hc hstate]
    cases confirmed with
    | true => simp
    | false => simp [hstate]

end DisconnectResyncCoordinator

/-! ### The reachable states -/

/-- The input loop has not been started since the last `connect` began, or no `connect` has begun
since the last `disconnect`. -/
def TransportThreads.BeforeLoops (t : TransportThreads) : Prop :=
  match t.caller with
  | .idle => t.transport.connected = false
  | .createSockets | .notifyFailed | .setConnected | .setLinkUp | .setReceiving | .startInput =>
    True
  | _ => False

namespace TransportThreads

variable {t : TransportThreads}

/-- Before the loops are started none runs. -/
theorem BeforeLoops.stopped (hreport : t.ReportInv) (h : t.BeforeLoops) : t.input = .stopped := by
  have hcaller := hreport.caller
  unfold CallerInv at hcaller
  unfold BeforeLoops at h
  -- Up to the start of the input loop each step of the connect has it stopped.
  cases hpc : t.caller with
  | idle =>
    rw [hpc] at h hcaller
    exact hcaller h
  | createSockets | notifyFailed =>
    rw [hpc] at hcaller
    exact hcaller.2
  | setConnected =>
    rw [hpc] at hcaller
    exact hcaller.1
  | setLinkUp | setReceiving | startInput =>
    rw [hpc] at hcaller
    exact hcaller.2.1
  | _ =>
    rw [hpc] at h
    exact h.elim

/-- The link is down while the input loop has lowered it. -/
def LoweredInv (t : TransportThreads) : Prop :=
  t.input.lowered = true → t.transport.linkUp = false

/-- A step of a receive loop keeps the invariant. -/
theorem LoweredInv.receive (h : t.LoweredInv) (plane : Plane) (r : ReceiveCalls) :
    (t.receiveStep plane r).LoweredInv := by
  have hmove := t.socketMove plane r
  have hstep := hmove.loopStep
  intro hlowered
  cases plane with
  | control =>
    have hinput : (t.receiveStep .control r).input = t.input := hstep.otherLoop .input (by simp)
    rw [hinput] at hlowered
    cases hmove with
    | keeps _ _ _ hsame | closesOld _ _ _ _ _ hsame | accepts _ _ _ _ _ _ hsame
    | passes _ _ _ _ _ hsame | rejects _ _ _ _ _ hsame | installs _ _ _ _ _ _ hsame =>
      exact hsame.trans (h hlowered)
    | lowers _ _ _ hdown => exact hdown
    | raises hplane => cases hplane
  | input =>
    have hloop : t.loop .input = t.input := rfl
    have hends : (t.receiveStep .input r).loop .input = (t.receiveStep .input r).input := rfl
    cases hmove with
    | keeps pc hto _ hsame _ _ hkept =>
      rw [← hends, hto.loop] at hlowered
      exact hsame.trans (h (hkept hlowered))
    | closesOld pc _ hto _ _ _ hpc =>
      -- The loop has closed its connection, and lowers the link next.
      rw [← hends, hto.loop, hpc.2.2 rfl] at hlowered
      exact absurd hlowered Bool.false_ne_true
    | lowers _ _ _ hdown => exact hdown
    | accepts _ _ hfrom _ _ _ hsame | passes _ hfrom _ _ _ hsame | installs _ _ hfrom _ _ _ hsame =>
      rw [hloop] at hfrom
      exact hsame.trans (h (by rw [hfrom]; rfl))
    | rejects _ _ hto | raises _ _ hto =>
      rw [← hends, hto.loop] at hlowered
      exact absurd hlowered Bool.false_ne_true

/-- A step of the caller keeps the invariant. -/
theorem LoweredInv.caller (h : t.LoweredInv) (hreport : t.ReportInv) (r : ConnectCalls) :
    (t.callerStep r).LoweredInv := by
  have hcaller := hreport.caller
  unfold CallerInv at hcaller
  unfold callerStep
  cases hpc : t.caller with
  | createSockets =>
    have hflags := (t.transport.createSockets_spec r).1
    dsimp only
    split
    · exact fun hlowered => hflags.linkUp.trans (h hlowered)
    · exact fun hlowered => hflags.linkUp.trans (h hlowered)
  | setLinkUp =>
    rw [hpc] at hcaller
    intro hlowered
    -- `connect` raises the link before the loop is started.
    have hstopped : t.input.lowered = true := hlowered
    rw [hcaller.2.1] at hstopped
    exact absurd hstopped Bool.false_ne_true
  | startInput => exact fun hlowered => absurd hlowered Bool.false_ne_true
  | clearLinkUp => exact fun _ => rfl
  | closeSockets =>
    have hflags := TransportImpl.sameFlags_closeSockets t.transport
    exact fun hlowered => hflags.linkUp.trans (h hlowered)
  | joinInput =>
    dsimp only
    split
    · exact fun hlowered => absurd hlowered Bool.false_ne_true
    · exact h
  | joinControl =>
    dsimp only
    split
    · exact h
    · exact h
  | idle | notifyFailed | setConnected | setReceiving | startControl _ | notifyConnected _
  | clearConnected | clearReceiving | notifyDisconnected => exact h

/-- Each step keeps the invariant. -/
theorem LoweredInv.step (h : t.LoweredInv) (hreport : t.ReportInv) (a : ThreadAction) :
    (t.step a).LoweredInv := by
  cases a with
  | connect =>
    show (if t.caller = .idle ∧ !t.transport.connected then { t with caller := .createSockets }
      else t).LoweredInv
    split
    · exact h
    · exact h
  | disconnect =>
    show (if t.caller = .idle ∧ t.transport.connected then { t with caller := .clearConnected }
      else t).LoweredInv
    split
    · exact h
    · exact h
  | caller r => exact h.caller hreport r
  | receive plane r => exact h.receive plane r

end TransportThreads

/-- What holds of the threads and of the coordinator in every reachable state. -/
structure CoordinatedInv (s : CoordinatedTransport) : Prop where
  report : s.threads.ReportInv
  ready : s.coordinator.Ready
  lowered : s.threads.LoweredInv
  before : s.threads.BeforeLoops → s.coordinator.state ≠ .Recovery

namespace CoordinatedTransport

variable {s : CoordinatedTransport} {pressed : PressedStateSnapshot} {confirmed : Bool}

/-- The control plane tells the coordinator nothing. -/
theorem coordinator_control (s : CoordinatedTransport) (r : ReceiveCalls)
    (pressed : PressedStateSnapshot) (confirmed : Bool) :
    (s.step ⟨.receive .control r, pressed, confirmed⟩).coordinator = s.coordinator :=
  coordinator_of_same (s.threads.receiveStep_control_frame r).1.trace

/-- The coordinator is told that the link is down. -/
theorem state_of_disconnected (hready : s.coordinator.Ready) {a : CoordinatedAction}
    {connection : Nat}
    (h : (s.threads.step a.action).trace = .notified .Disconnected connection :: s.threads.trace) :
    (s.step a).coordinator.state = .Reconnecting := by
  rw [coordinator_of_told h]
  exact DisconnectResyncCoordinator.state_of_loss hready (.inl rfl)

/-- A call that leads to before the loops leaves no recovery. -/
theorem before_caller (h : CoordinatedInv s) (r : ConnectCalls)
    (hbefore : (s.threads.callerStep r).BeforeLoops) :
    (s.step ⟨.caller r, pressed, confirmed⟩).coordinator.state ≠ .Recovery := by
  -- The coordinator is told nothing, or that the link is down.
  have hkeeps : s.threads.BeforeLoops →
      (s.step ⟨.caller r, pressed, confirmed⟩).coordinator = s.coordinator →
      (s.step ⟨.caller r, pressed, confirmed⟩).coordinator.state ≠ .Recovery := by
    intro hnow hsame
    rw [hsame]
    exact h.before hnow
  have hdown : ∀ connection, (s.threads.callerStep r).trace =
        .notified .Disconnected connection :: s.threads.trace →
      (s.step ⟨.caller r, pressed, confirmed⟩).coordinator.state ≠ .Recovery := by
    intro connection htrace
    have hstate := state_of_disconnected (a := ⟨.caller r, pressed, confirmed⟩) h.ready htrace
    rw [hstate]
    decide
  cases hpc : s.threads.caller with
  | idle =>
    have hstep : s.threads.callerStep r = s.threads := by rw [callerStep, hpc]
    rw [hstep] at hbefore
    exact hkeeps hbefore (coordinator_of_same (congrArg trace hstep))
  | createSockets =>
    have hnow : s.threads.BeforeLoops := by
      rw [BeforeLoops, hpc]
      trivial
    refine hkeeps hnow (coordinator_of_same ?_)
    show (s.threads.callerStep r).trace = s.threads.trace
    rw [callerStep, hpc]
    dsimp only
    split
    · rfl
    · rfl
  | notifyFailed =>
    refine hdown s.threads.connections ?_
    rw [callerStep, hpc]
    rfl
  | setConnected | setReceiving | startInput =>
    have hnow : s.threads.BeforeLoops := by
      rw [BeforeLoops, hpc]
      trivial
    refine hkeeps hnow (coordinator_of_same ?_)
    show (s.threads.callerStep r).trace = s.threads.trace
    rw [callerStep, hpc]
  | setLinkUp =>
    have hnow : s.threads.BeforeLoops := by
      rw [BeforeLoops, hpc]
      trivial
    refine hkeeps hnow (coordinator_of_silent (o := .linkUp true) ?_ (by simp))
    show (s.threads.callerStep r).trace = .linkUp true :: s.threads.trace
    rw [callerStep, hpc]
    rfl
  | notifyConnected connection =>
    have hcaller := h.report.caller
    rw [CallerInv, hpc] at hcaller
    rw [callerStep, hpc] at hbefore
    have hconnected : s.threads.transport.connected = false := hbefore
    exact absurd (hconnected.symm.trans hcaller.1) Bool.false_ne_true
  | startControl _ | clearConnected | clearReceiving | clearLinkUp | closeSockets =>
    rw [callerStep, hpc] at hbefore
    exact absurd hbefore id
  | joinInput | joinControl =>
    rw [callerStep, hpc] at hbefore
    dsimp only at hbefore
    split at hbefore
    · exact absurd hbefore id
    · rw [BeforeLoops, hpc] at hbefore
      exact absurd hbefore id
  | notifyDisconnected =>
    refine hdown s.threads.connections ?_
    rw [callerStep, hpc]
    rfl

/-- A step that leads to before the loops leaves no recovery. -/
theorem before_step (h : CoordinatedInv s) (a : CoordinatedAction)
    (hbefore : (s.step a).threads.BeforeLoops) : (s.step a).coordinator.state ≠ .Recovery := by
  obtain ⟨action, pressed, confirmed⟩ := a
  have hsame : ∀ {t : TransportThreads}, s.threads.step action = t → t.trace = s.threads.trace →
      (s.step ⟨action, pressed, confirmed⟩).coordinator = s.coordinator := by
    intro t hstep htrace
    exact coordinator_of_same ((congrArg trace hstep).trans htrace)
  cases action with
  | connect =>
    by_cases hbegins : s.threads.caller = .idle ∧ (!s.threads.transport.connected) = true
    · rw [hsame (if_pos hbegins) rfl]
      refine h.before ?_
      rw [BeforeLoops, hbegins.1]
      simpa using hbegins.2
    · have hstep : s.threads.step .connect = s.threads := if_neg hbegins
      rw [hsame hstep rfl]
      exact h.before (hstep ▸ hbefore)
  | disconnect =>
    by_cases hbegins : s.threads.caller = .idle ∧ s.threads.transport.connected = true
    · have hstep : s.threads.step .disconnect = { s.threads with caller := .clearConnected } :=
        if_pos hbegins
      have hclears : (s.threads.step .disconnect).BeforeLoops := hbefore
      rw [hstep] at hclears
      exact absurd hclears id
    · have hstep : s.threads.step .disconnect = s.threads := if_neg hbegins
      rw [hsame hstep rfl]
      exact h.before (hstep ▸ hbefore)
  | caller r => exact before_caller h r hbefore
  | receive plane r =>
    have hloop := (s.threads.socketMove plane r).loopStep
    have hnow : s.threads.BeforeLoops := by
      have hthen : (s.threads.receiveStep plane r).BeforeLoops := hbefore
      rw [BeforeLoops, hloop.caller, hloop.connected] at hthen
      exact hthen
    cases plane with
    | control =>
      rw [coordinator_control]
      exact h.before hnow
    | input =>
      -- The loop is not started yet.
      have hstopped : s.threads.loop .input = .stopped := hnow.stopped h.report
      rw [hsame (receiveStep_of_stopped hstopped r) rfl]
      exact h.before hnow

end CoordinatedTransport

/-- Each step keeps the invariant. -/
theorem CoordinatedInv.step {s : CoordinatedTransport} (h : CoordinatedInv s)
    (a : CoordinatedAction) :
    CoordinatedInv (s.step a) where
  report := reportInv_step h.report a.action
  ready :=
    (CoordinatedTransport.coordinatorView s.threads.transport.config).view_preserves (P := Ready)
      (fun _ e hc => ready_step hc e) a h.ready
  lowered := h.lowered.step h.report a.action
  before := CoordinatedTransport.before_step h a

/-- The invariant holds in every run. -/
theorem coordinatedInv_run (config : TransportConfig) (acts : List CoordinatedAction) :
    CoordinatedInv ((coordinatedMachine config).run acts) := by
  have hinit : CoordinatedInv (coordinatedMachine config).init := by
    refine ⟨reportInv_init config, ready_init, fun h => absurd h Bool.false_ne_true, fun _ => ?_⟩
    show DisconnectResyncState.Connected ≠ .Recovery
    decide
  exact Machine.Invariant.of_step (P := CoordinatedInv) hinit (fun _ a h => h.step a) acts

/-! ### Leaving the recovery -/

/-- `connect` has started the input loop and not called the handler yet. -/
def CallerPc.notifies : CallerPc → Bool
  | .startControl _ | .notifyConnected _ => true
  | _ => false

namespace CoordinatedTransport

/-- A call of the handler with `Connected` is under way: `connect` has started the input loop, or
`reacceptInput` has raised the link. -/
def ConnectedDue (s : CoordinatedTransport) : Prop :=
  s.threads.caller.notifies = true ∨ s.threads.input = .notifyConnected

/-- After the step the link is still up, and the coordinator was not told that it is down. -/
def KeepsLink (s : CoordinatedTransport) (a : CoordinatedAction) : Prop :=
  (s.step a).threads.transport.linkUp = true ∧
    ∀ connection, .notified .Disconnected connection ∉ seen s.threads a.action

/-- Input can be allowed again while the link is kept, with the recovery confirmed from now on. -/
def Recoverable (config : TransportConfig) (s : CoordinatedTransport) : Prop :=
  ∃ acts : List CoordinatedAction, (∀ a ∈ acts, a.confirmed = true) ∧
    (coordinatedMachine config).Meets KeepsLink s acts ∧
    ((coordinatedMachine config).runFrom s acts).coordinator.isInputAllowed = true

/-- The link is up, the coordinator waits in the state `Recovery`, and nothing is under way. -/
structure Stuck (s : CoordinatedTransport) : Prop where
  inv : CoordinatedInv s
  linkUp : s.threads.transport.linkUp = true
  state : s.coordinator.state = .Recovery
  due : ¬ s.ConnectedDue

variable {s : CoordinatedTransport}

/-- Nothing was lowered where the recovery is stuck. -/
theorem Stuck.not_lowered (h : Stuck s) : s.threads.input.lowered = false := by
  by_contra hlowered
  rw [Bool.not_eq_false] at hlowered
  exact Bool.false_ne_true ((h.inv.lowered hlowered).symm.trans h.linkUp)

/-- The loops run where the recovery is stuck. -/
theorem Stuck.not_before (h : Stuck s) : ¬ s.threads.BeforeLoops := fun hbefore =>
  h.inv.before hbefore h.state

/-- The caller reports nothing where the recovery is stuck. -/
theorem Stuck.not_notifies (h : Stuck s) : s.threads.caller.notifies = false := by
  by_contra hnotifies
  exact h.due (.inl (Bool.not_eq_false _ ▸ hnotifies))

/-- The coordinator stays where it is, and the threads are still not about to call it. -/
theorem Stuck.of_same (h : Stuck s) {a : CoordinatedAction} (hkeeps : KeepsLink s a)
    (hcoordinator : (s.step a).coordinator = s.coordinator)
    (hcaller : (s.threads.step a.action).caller.notifies = false)
    (hinput : (s.threads.step a.action).input ≠ .notifyConnected) : Stuck (s.step a) := by
  refine ⟨h.inv.step a, hkeeps.1, hcoordinator ▸ h.state, ?_⟩
  rintro (hnotifies | hnotifies)
  · exact Bool.false_ne_true (hcaller.symm.trans hnotifies)
  · exact hinput hnotifies

/-- A step of the caller that keeps the link leaves it stuck. -/
theorem Stuck.caller (h : Stuck s) {r : ConnectCalls} {pressed : PressedStateSnapshot}
    {confirmed : Bool} (hkeeps : KeepsLink s ⟨.caller r, pressed, confirmed⟩) :
    Stuck (s.step ⟨.caller r, pressed, confirmed⟩) := by
  have hcaller := h.not_notifies
  have hinput : s.threads.input ≠ .notifyConnected := fun hinput => h.due (.inr hinput)
  have hbefore := h.not_before
  unfold BeforeLoops at hbefore
  have hquiet : (s.threads.callerStep r).trace = s.threads.trace →
      (s.threads.callerStep r).caller.notifies = false →
      (s.threads.callerStep r).input ≠ .notifyConnected →
      Stuck (s.step ⟨.caller r, pressed, confirmed⟩) := fun htrace hnotifies hstays =>
    h.of_same hkeeps (coordinator_of_same htrace) hnotifies hstays
  cases hpc : s.threads.caller with
  | idle =>
    have hsame : s.threads.callerStep r = s.threads := by rw [callerStep, hpc]
    rw [hsame] at hquiet
    exact hquiet rfl hcaller hinput
  | createSockets | notifyFailed | setConnected | setLinkUp | setReceiving | startInput =>
    rw [hpc] at hbefore
    exact absurd trivial hbefore
  | startControl _ | notifyConnected _ =>
    rw [hpc] at hcaller
    exact absurd hcaller.symm Bool.false_ne_true
  | clearConnected | clearReceiving | closeSockets =>
    rw [callerStep, hpc] at hquiet
    exact hquiet rfl rfl hinput
  | clearLinkUp =>
    -- This would lower the link, which is kept.
    have hlinkUp : (s.threads.callerStep r).transport.linkUp = true := hkeeps.1
    rw [callerStep, hpc] at hlinkUp
    exact absurd hlinkUp Bool.false_ne_true
  | joinInput =>
    rw [callerStep, hpc] at hquiet
    dsimp only at hquiet
    split at hquiet
    · exact hquiet rfl rfl (by simp)
    · exact hquiet rfl hcaller hinput
  | joinControl =>
    rw [callerStep, hpc] at hquiet
    dsimp only at hquiet
    split at hquiet
    · exact hquiet rfl rfl hinput
    · exact hquiet rfl hcaller hinput
  | notifyDisconnected =>
    have htrace : (s.threads.step (.caller r)).trace =
        .notified .Disconnected s.threads.connections :: s.threads.trace := by
      show (s.threads.callerStep r).trace = _
      rw [callerStep, hpc]
      rfl
    -- The coordinator would be told of a loss.
    refine absurd ?_ (hkeeps.2 s.threads.connections)
    simp [seen, htrace]

/-- A step of the input loop that keeps the link up reports no connection. -/
theorem input_reads {t : TransportThreads} (r : ReceiveCalls) (hinput : t.input ≠ .notifyConnected)
    (hlowered : t.input.lowered = false)
    (hlinkUp : (t.receiveStep .input r).transport.linkUp = true) :
    ((t.receiveStep .input r).trace = t.trace ∨
        ∃ connection, (t.receiveStep .input r).trace = .lost connection :: t.trace) ∧
      (t.receiveStep .input r).input ≠ .notifyConnected := by
  have hnot : ∀ {pc : ReceivePc}, pc.lowered = true → t.input ≠ pc := by
    rintro pc hpc rfl
    exact Bool.false_ne_true (hlowered.symm.trans hpc)
  have hmove := t.inputMove r
  generalize t.receiveStep .input r = t' at hmove hlinkUp
  cases hmove with
  | quiet hsame hphase =>
    refine ⟨.inl hsame.trace, fun hnotifies => ?_⟩
    -- Only a loop that has a new connection comes to `notifyConnected`.
    rw [hnotifies] at hphase
    cases hpc : t.input <;> simp_all [ReceivePc.phase, ReceivePc.lowered]
  | returns hsame hreturned _ => exact ⟨.inl hsame.trace, by simp [hreturned]⟩
  | loses _ => exact ⟨.inr ⟨t.connections, rfl⟩, by simp [loseConnection]⟩
  | lowers _ => exact absurd hlinkUp Bool.false_ne_true
  | notifies hpc | renews _ hpc | raises hpc => exact absurd hpc (hnot rfl)
  | goesOn hpc => exact absurd hpc hinput

/-- Without a loss, the input loop reads on, and raises no link. -/
theorem Stuck.input (h : Stuck s) {r : ReceiveCalls} {pressed : PressedStateSnapshot}
    {confirmed : Bool} (hkeeps : KeepsLink s ⟨.receive .input r, pressed, confirmed⟩) :
    Stuck (s.step ⟨.receive .input r, pressed, confirmed⟩) := by
  have hcaller := h.not_notifies
  have hloop := (s.threads.socketMove .input r).loopStep
  obtain ⟨htrace, hstays⟩ :=
    input_reads r (fun hinput => h.due (.inr hinput)) h.not_lowered hkeeps.1
  refine h.of_same hkeeps ?_ ((congrArg CallerPc.notifies hloop.caller).trans hcaller) hstays
  rcases htrace with hsame | ⟨connection, hlost⟩
  · exact coordinator_of_same hsame
  · exact coordinator_of_silent hlost (by simp)

/-- A step that keeps the link leaves it stuck. -/
theorem Stuck.step (h : Stuck s) {a : CoordinatedAction} (hkeeps : KeepsLink s a) :
    Stuck (s.step a) := by
  have hcaller := h.not_notifies
  have hinput : s.threads.input ≠ .notifyConnected := fun hinput => h.due (.inr hinput)
  obtain ⟨action, pressed, confirmed⟩ := a
  -- A call that begins waits to notify nobody, and the control loop never does.
  cases action with
  | connect =>
    have hstep : s.threads.step .connect = s.threads := by
      refine if_neg fun hbegins => h.not_before ?_
      rw [BeforeLoops, hbegins.1]
      simpa using hbegins.2
    refine h.of_same hkeeps (coordinator_of_same (congrArg trace hstep)) ?_ ?_
    · rw [hstep]
      exact hcaller
    · rw [hstep]
      exact hinput
  | disconnect =>
    have hquiet : (s.threads.step .disconnect).trace = s.threads.trace ∧
        (s.threads.step .disconnect).caller.notifies = false ∧
        (s.threads.step .disconnect).input ≠ .notifyConnected := by
      unfold TransportThreads.step
      dsimp only
      split
      · exact ⟨rfl, rfl, hinput⟩
      · exact ⟨rfl, hcaller, hinput⟩
    exact h.of_same hkeeps (coordinator_of_same hquiet.1) hquiet.2.1 hquiet.2.2
  | caller r => exact h.caller hkeeps
  | receive plane r =>
    cases plane with
    | input => exact h.input hkeeps
    | control =>
      obtain ⟨hsame, hsameInput⟩ := s.threads.receiveStep_control_frame r
      refine h.of_same hkeeps (coordinator_control s r pressed confirmed) ?_ ?_
      · exact (congrArg CallerPc.notifies hsame.caller).trans hcaller
      · exact fun hnotifies => hinput (hsameInput.symm.trans hnotifies)

/-- When nothing is under way, the coordinator waits for as long as the link is kept. -/
theorem Stuck.not_recoverable (h : Stuck s) (config : TransportConfig) :
    ¬ Recoverable config s := by
  rintro ⟨acts, -, hkeeps, hallowed⟩
  have hstuck := Machine.runFrom_of_meets (P := Stuck) (fun _ _ hs ha => hs.step ha) h hkeeps
  rw [DisconnectResyncCoordinator.isInputAllowed, hstuck.state] at hallowed
  exact absurd hallowed (by decide)

/-- The handler is called, and the recovery is confirmed. -/
theorem recoverable_of_told (config : TransportConfig) (hready : s.coordinator.Ready)
    (hlinkUp : s.threads.transport.linkUp = true) {action : ThreadAction} {connection : Nat}
    (htransport : (s.threads.step action).transport = s.threads.transport)
    (htrace :
      (s.threads.step action).trace = .notified .Connected connection :: s.threads.trace) :
    Recoverable config s := by
  refine ⟨[⟨action, .init, true⟩], by simp, ⟨⟨?_, ?_⟩, trivial⟩, ?_⟩
  · show (s.threads.step action).transport.linkUp = true
    rw [htransport]
    exact hlinkUp
  · simp [seen, htrace]
  · show (s.step ⟨action, .init, true⟩).coordinator.isInputAllowed = true
    rw [coordinator_of_told htrace, DisconnectResyncCoordinator.isInputAllowed,
      DisconnectResyncCoordinator.state_of_connected hready, if_pos (.inr rfl)]
    decide

/-- A connection that is still to be reported leads to a recovery. -/
theorem recoverable_of_due (config : TransportConfig) (hready : s.coordinator.Ready)
    (hlinkUp : s.threads.transport.linkUp = true) (hdue : s.ConnectedDue) :
    Recoverable config s := by
  -- The results of the system calls are of no concern.
  let calls : ConnectCalls :=
    { client := { sock1 := none, sock2 := none, connect1 := false, connect2 := false }
      server :=
        { listen1 := none
          listen2 := none
          bind1 := false
          bind2 := false
          accepted1 := none
          accepted2 := none } }
  have hnotify : ∀ {t : CoordinatedTransport} {connection : Nat}, t.coordinator.Ready →
      t.threads.transport.linkUp = true → t.threads.caller = .notifyConnected connection →
      Recoverable config t := by
    intro t connection hready hlinkUp hpc
    have hstep : t.threads.step (.caller calls) =
        { t.threads.notifyLinkState .Connected connection with caller := .idle } := by
      show t.threads.callerStep calls = _
      rw [callerStep, hpc]
    exact recoverable_of_told config hready hlinkUp (by rw [hstep]; rfl) (by rw [hstep]; rfl)
  rcases hdue with hcaller | hinput
  · cases hpc : s.threads.caller with
    | notifyConnected connection => exact hnotify hready hlinkUp hpc
    | startControl connection =>
      -- One more step, which tells the coordinator nothing.
      have hstep : s.threads.step (.caller calls) =
          { s.threads with control := .check, caller := .notifyConnected connection } := by
        show s.threads.callerStep calls = _
        rw [callerStep, hpc]
      have hsame : (s.step ⟨.caller calls, .init, true⟩).coordinator = s.coordinator :=
        coordinator_of_same (by rw [hstep])
      have hthen : Recoverable config (s.step ⟨.caller calls, .init, true⟩) := by
        have hpc : (s.threads.step (.caller calls)).caller = .notifyConnected connection := by
          rw [hstep]
        refine hnotify (hsame ▸ hready) ?_ hpc
        show (s.threads.step (.caller calls)).transport.linkUp = true
        rw [hstep]
        exact hlinkUp
      obtain ⟨acts, hconfirmed, hkeeps, hallowed⟩ := hthen
      refine ⟨⟨.caller calls, .init, true⟩ :: acts, ?_, ⟨⟨?_, ?_⟩, hkeeps⟩, hallowed⟩
      · simpa using hconfirmed
      · show (s.threads.step (.caller calls)).transport.linkUp = true
        rw [hstep]
        exact hlinkUp
      · simp [seen, hstep]
    | _ =>
      rw [hpc] at hcaller
      exact absurd hcaller Bool.false_ne_true
  · have hstep : ∀ r, s.threads.step (.receive .input r) =
        { s.threads.notifyLinkState .Connected s.threads.connections with input := .check } := by
      intro r
      show s.threads.receiveStep .input r = _
      have hloop : s.threads.loop .input = .notifyConnected := hinput
      rw [receiveStep, hloop]
      rfl
    let r : ReceiveCalls := { netLen := none, body := false, accepted := none }
    have htransport : (s.threads.step (.receive .input r)).transport = s.threads.transport := by
      rw [hstep]
      rfl
    have htrace : (s.threads.step (.receive .input r)).trace =
        .notified .Connected s.threads.connections :: s.threads.trace := by
      rw [hstep]
      rfl
    exact recoverable_of_told config hready hlinkUp htransport htrace

/-! ### Runs that leave it -/

/-- The coordinator is not told that the link is up, or the recovery is confirmed, or one more such
call is under way. -/
def Confirms (s : CoordinatedTransport) (a : CoordinatedAction) : Prop :=
  (∀ connection, .notified .Connected connection ∉ seen s.threads a.action) ∨
    a.confirmed = true ∨ (s.step a).ConnectedDue

/-- In the state `Recovery` a call is under way. -/
structure RecoveryInv (s : CoordinatedTransport) : Prop where
  inv : CoordinatedInv s
  due : s.coordinator.state = .Recovery → s.ConnectedDue

/-- What the coordinator is told at a step. -/
inductive Told (s : CoordinatedTransport) (a : CoordinatedAction) : Prop where
  | nothing (hsame : (s.step a).coordinator = s.coordinator)
      (hdue : s.ConnectedDue → (s.step a).ConnectedDue)
  | down (connection : Nat) (htrace :
      (s.threads.step a.action).trace = .notified .Disconnected connection :: s.threads.trace)
  | up (connection : Nat) (htrace :
      (s.threads.step a.action).trace = .notified .Connected connection :: s.threads.trace)

/-- What the coordinator is told in a step of the caller. -/
theorem told_caller (s : CoordinatedTransport) (r : ConnectCalls) (pressed : PressedStateSnapshot)
    (confirmed : Bool) : Told s ⟨.caller r, pressed, confirmed⟩ := by
  have hstep : s.threads.step (.caller r) = s.threads.callerStep r := rfl
  -- A call that is not about to notify leaves the input loop where it is.
  have hnothing : (s.step ⟨.caller r, pressed, confirmed⟩).coordinator = s.coordinator →
      s.threads.caller.notifies = false →
      (s.threads.input = .notifyConnected → (s.threads.callerStep r).input = .notifyConnected) →
      Told s ⟨.caller r, pressed, confirmed⟩ := by
    intro hsame hcaller hinput
    refine .nothing hsame ?_
    rintro (hnotifies | hnotifies)
    · exact absurd (hcaller.symm.trans hnotifies) Bool.false_ne_true
    · exact .inr (hinput hnotifies)
  have hquiet : (s.threads.callerStep r).trace = s.threads.trace →
      s.threads.caller.notifies = false →
      (s.threads.input = .notifyConnected → (s.threads.callerStep r).input = .notifyConnected) →
      Told s ⟨.caller r, pressed, confirmed⟩ := fun htrace =>
    hnothing (coordinator_of_same htrace)
  have hsilent : ∀ value, (s.threads.callerStep r).trace = .linkUp value :: s.threads.trace →
      s.threads.caller.notifies = false →
      (s.threads.input = .notifyConnected → (s.threads.callerStep r).input = .notifyConnected) →
      Told s ⟨.caller r, pressed, confirmed⟩ := fun value htrace =>
    hnothing (coordinator_of_silent htrace (by simp))
  cases hpc : s.threads.caller with
  | idle | setConnected | setReceiving | clearConnected | clearReceiving | closeSockets =>
    rw [callerStep, hpc] at hquiet
    exact hquiet rfl rfl id
  | createSockets =>
    rw [callerStep, hpc] at hquiet
    dsimp only at hquiet
    split at hquiet
    · exact hquiet rfl rfl id
    · exact hquiet rfl rfl id
  | setLinkUp | clearLinkUp =>
    rw [callerStep, hpc] at hsilent
    exact hsilent _ rfl rfl id
  | startInput | startControl _ =>
    refine .nothing (coordinator_of_same ?_) (fun _ => .inl ?_)
    · rw [hstep, callerStep, hpc]
    · show (s.threads.callerStep r).caller.notifies = true
      rw [callerStep, hpc]
      rfl
  | joinInput =>
    rw [callerStep, hpc] at hquiet
    dsimp only at hquiet
    split at hquiet
    · next hdone =>
      refine hquiet rfl rfl fun hnotifies => ?_
      rw [hnotifies] at hdone
      exact absurd hdone (by simp)
    · exact hquiet rfl rfl id
  | joinControl =>
    rw [callerStep, hpc] at hquiet
    dsimp only at hquiet
    split at hquiet
    · exact hquiet rfl rfl id
    · exact hquiet rfl rfl id
  | notifyFailed | notifyDisconnected =>
    refine .down s.threads.connections ?_
    rw [hstep, callerStep, hpc]
    rfl
  | notifyConnected connection =>
    refine .up connection ?_
    rw [hstep, callerStep, hpc]
    rfl

/-- What the coordinator is told in a step of the input loop. -/
theorem told_input (s : CoordinatedTransport) (r : ReceiveCalls) (pressed : PressedStateSnapshot)
    (confirmed : Bool) : Told s ⟨.receive .input r, pressed, confirmed⟩ := by
  have hloop := (s.threads.socketMove .input r).loopStep
  -- The loop is about to report that it is connected, and does.
  by_cases hinput : s.threads.input = .notifyConnected
  · refine .up s.threads.connections ?_
    show (s.threads.receiveStep .input r).trace = _
    have hpc : s.threads.loop .input = .notifyConnected := hinput
    rw [receiveStep, hpc]
    rfl
  · -- The call that is under way is that of the other thread.
    have hdue : s.ConnectedDue → (s.step ⟨.receive .input r, pressed, confirmed⟩).ConnectedDue := by
      rintro (hnotifies | hnotifies)
      · exact .inl ((congrArg CallerPc.notifies hloop.caller).trans hnotifies)
      · exact absurd hnotifies hinput
    have hquiet : (s.threads.receiveStep .input r).trace = s.threads.trace →
        Told s ⟨.receive .input r, pressed, confirmed⟩ := fun htrace =>
      .nothing (coordinator_of_same htrace) hdue
    have hsilent : ∀ o, (∀ state connection, o ≠ .notified state connection) →
        (s.threads.receiveStep .input r).trace = o :: s.threads.trace →
        Told s ⟨.receive .input r, pressed, confirmed⟩ := fun o ho htrace =>
      .nothing (coordinator_of_silent htrace ho) hdue
    have hdown : ∀ connection, (s.threads.receiveStep .input r).trace =
          .notified .Disconnected connection :: s.threads.trace →
        Told s ⟨.receive .input r, pressed, confirmed⟩ := fun connection htrace =>
      .down connection htrace
    have hmove := s.threads.inputMove r
    generalize s.threads.receiveStep .input r = t at hmove hquiet hsilent hdown
    -- Every other step reports a loss or nothing.
    cases hmove with
    | quiet hsame _ | returns hsame _ _ => exact hquiet hsame.trace
    | renews _ _ => exact hquiet rfl
    | loses _ => exact hsilent _ (by simp) rfl
    | lowers _ => exact hsilent _ (by simp) rfl
    | raises _ => exact hsilent _ (by simp) rfl
    | notifies _ => exact hdown _ rfl
    | goesOn hpc => exact absurd hpc hinput

/-- A call begins, when no other one is in progress. -/
theorem told_call {a : CoordinatedAction}
    (hquiet : (s.threads.step a.action).trace = s.threads.trace ∧
      ((s.threads.step a.action).caller = s.threads.caller ∨ s.threads.caller = .idle) ∧
      (s.threads.step a.action).input = s.threads.input) : Told s a := by
  refine .nothing (coordinator_of_same hquiet.1) ?_
  rintro (hnotifies | hnotifies)
  · rcases hquiet.2.1 with hsame | hidle
    · exact .inl ((congrArg CallerPc.notifies hsame).trans hnotifies)
    · rw [hidle] at hnotifies
      exact absurd hnotifies Bool.false_ne_true
  · exact .inr (hquiet.2.2.trans hnotifies)

/-- What the coordinator is told in a step. -/
theorem told (s : CoordinatedTransport) (a : CoordinatedAction) : Told s a := by
  obtain ⟨action, pressed, confirmed⟩ := a
  -- Reports are made by the caller and by the input loop.
  cases action with
  | caller r => exact told_caller s r pressed confirmed
  | receive plane r =>
    cases plane with
    | input => exact told_input s r pressed confirmed
    | control =>
      obtain ⟨hsame, hinput⟩ := s.threads.receiveStep_control_frame r
      refine .nothing (coordinator_control s r pressed confirmed) ?_
      rintro (hnotifies | hnotifies)
      · exact .inl ((congrArg CallerPc.notifies hsame.caller).trans hnotifies)
      · exact .inr (hinput.trans hnotifies)
  | connect =>
    refine told_call ?_
    unfold TransportThreads.step
    dsimp only
    split
    · next hbegins => exact ⟨rfl, .inr hbegins.1, rfl⟩
    · exact ⟨rfl, .inl rfl, rfl⟩
  | disconnect =>
    refine told_call ?_
    unfold TransportThreads.step
    dsimp only
    split
    · next hbegins => exact ⟨rfl, .inr hbegins.1, rfl⟩
    · exact ⟨rfl, .inl rfl, rfl⟩

/-- A step that confirms keeps the invariant. -/
theorem RecoveryInv.step (h : RecoveryInv s) {a : CoordinatedAction} (ha : Confirms s a) :
    RecoveryInv (s.step a) := by
  refine ⟨h.inv.step a, fun hstate => ?_⟩
  cases told s a with
  | nothing hsame hdue => exact hdue (h.due (hsame ▸ hstate))
  | down connection htrace =>
    rw [state_of_disconnected h.inv.ready htrace] at hstate
    exact absurd hstate (by decide)
  | up connection htrace =>
    rcases ha with hnot | hconfirmed | hdue
    · exact absurd (by simp [seen, htrace]) (hnot connection)
    · rw [coordinator_of_told htrace,
        DisconnectResyncCoordinator.state_of_connected h.inv.ready, if_pos (.inr hconfirmed)]
        at hstate
      exact absurd hstate (by decide)
    · exact hdue

end CoordinatedTransport

open CoordinatedTransport

/-! ### The main result -/

/-- A coordinator that waits in the state `Recovery` on a link that is up can leave it, with the
link kept, exactly when a call of the handler with `Connected` is under way. So it can in every run
in which each such call has the recovery confirmed or is followed by one more. -/
theorem recovery_left_iff (config : TransportConfig) :
    (∀ acts, let s := (coordinatedMachine config).run acts
      s.threads.transport.linkUp = true → s.coordinator.state = .Recovery →
        (Recoverable config s ↔ s.ConnectedDue)) ∧
    ∀ acts, (coordinatedMachine config).Meets Confirms (coordinatedMachine config).init acts →
      ∀ pre, pre <+: acts →
        let s := (coordinatedMachine config).run pre
        s.threads.transport.linkUp = true → s.coordinator.state = .Recovery →
          Recoverable config s := by
  constructor
  · intro acts s hlinkUp hstate
    have hinv : CoordinatedInv s := coordinatedInv_run config acts
    constructor
    · -- Without a report that is due the coordinator is stuck in its recovery.
      intro hrecoverable
      by_contra hdue
      exact (Stuck.mk hinv hlinkUp hstate hdue).not_recoverable config hrecoverable
    · exact recoverable_of_due config hinv.ready hlinkUp
  · -- A run whose steps keep the condition has a report due whenever it recovers.
    rintro acts hacts pre ⟨rest, rfl⟩ s hlinkUp hstate
    have hinit : RecoveryInv (coordinatedMachine config).init := by
      refine ⟨coordinatedInv_run config [], fun hinit => ?_⟩
      have hconnected : DisconnectResyncState.Connected = .Recovery := hinit
      exact absurd hconnected (by decide)
    have hinv : RecoveryInv s := Machine.invariant_of_meets (P := RecoveryInv) hinit
      (fun _ _ h ha => h.step ha) (Machine.meets_append.mp hacts).1
    exact recoverable_of_due config hinv.inv.ready hlinkUp (hinv.due hstate)

/-- The steps `actions`, with the recovery not confirmed in them. -/
def unconfirmed (actions : List ThreadAction) : List CoordinatedAction :=
  actions.map fun action => ⟨action, .init, false⟩

/-- The input loop loses the first connection and has a new one before `connect` has called the
handler. -/
theorem recovery_left_connect :
    let acts := unconfirmed (.connect :: callerSteps 6 ++ loopSteps .input 13)
    Recoverable serverConfig ((coordinatedMachine serverConfig).run acts) := by
  intro acts
  have hlinkUp : ((coordinatedMachine serverConfig).run acts).threads.transport.linkUp = true := by
    decide +kernel
  have hstate : ((coordinatedMachine serverConfig).run acts).coordinator.state = .Recovery := by
    decide +kernel
  have hdue : ((coordinatedMachine serverConfig).run acts).threads.caller.notifies = true := by
    decide +kernel
  exact ((recovery_left_iff serverConfig).1 acts hlinkUp hstate).mpr (.inl hdue)

/-- A server loses its peer, has a new one, and the recovery is not confirmed. -/
theorem recovery_not_left :
    ¬ ∀ config acts,
      ((coordinatedMachine config).run acts).threads.transport.linkUp = true →
        ((coordinatedMachine config).run acts).coordinator.state = .Recovery →
          Recoverable config ((coordinatedMachine config).run acts) := by
  intro hclaim
  -- The peer is lost and comes back, and its recovery is not confirmed.
  let acts := unconfirmed (.connect :: callerSteps 7 ++ loopSteps .input 13)
  have hlinkUp : ((coordinatedMachine serverConfig).run acts).threads.transport.linkUp = true := by
    decide +kernel
  have hstate : ((coordinatedMachine serverConfig).run acts).coordinator.state = .Recovery := by
    decide +kernel
  have hcaller : ((coordinatedMachine serverConfig).run acts).threads.caller = .idle := by
    decide +kernel
  have hinput : ((coordinatedMachine serverConfig).run acts).threads.input = .check := by
    decide +kernel
  -- No thread is about to report a connection.
  have hdue : ¬ ((coordinatedMachine serverConfig).run acts).ConnectedDue := by
    rintro (hnotifies | hnotifies)
    · rw [hcaller] at hnotifies
      exact absurd hnotifies Bool.false_ne_true
    · exact absurd (hinput.symm.trans hnotifies) (by decide)
  have hstuck := Stuck.mk (coordinatedInv_run serverConfig acts) hlinkUp hstate hdue
  exact hstuck.not_recoverable serverConfig (hclaim serverConfig acts hlinkUp hstate)

end CrossFlow
