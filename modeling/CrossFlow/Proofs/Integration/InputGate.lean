import CrossFlow.Integration.DisconnectResyncCoordinator
import Mathlib.Data.List.Basic
import Mathlib.Data.List.Chain

/-!
# `CrossFlow.Proofs.Integration.InputGate`: the input gate over a run

`handling` lists what the coordinator does at an event: it ignores it, takes the link for lost, or
takes it for up again, with the recovery confirmed or not. `gate_open`, `eventCallbacks_release` and
`stateWalk_run` follow from it by induction over the events, and `input_gate` puts them together.
-/

set_option autoImplicit false

namespace CrossFlow

open Lib (Machine)

namespace LinkStateEvent

/-- The coordinator is told that the link is down. -/
def IsLoss (e : LinkStateEvent) : Prop := e.state = .Disconnected ∨ e.state = .Lost

/-- Whether an event reports a loss can be looked up. -/
instance (e : LinkStateEvent) : Decidable e.IsLoss :=
  inferInstanceAs (Decidable (e.state = .Disconnected ∨ e.state = .Lost))

end LinkStateEvent

/-- The pressed states that are released. -/
def releases (callbacks : List CoordinatorCallback) : List PressedStateSnapshot :=
  callbacks.filterMap fun
    | .releaseAllPressed snapshot => some snapshot
    | _ => none

/-- The states that the handler of state changes is called with. -/
def stateChanges (callbacks : List CoordinatorCallback) : List DisconnectResyncState :=
  callbacks.filterMap fun
    | .onStateChange newState => some newState
    | _ => none

/-- Releases are made one after the other. -/
theorem releases_append (xs ys : List CoordinatorCallback) :
    releases (xs ++ ys) = releases xs ++ releases ys := List.filterMap_append

/-- Changes are reported one after the other. -/
theorem stateChanges_append (xs ys : List CoordinatorCallback) :
    stateChanges (xs ++ ys) = stateChanges xs ++ stateChanges ys := List.filterMap_append

namespace DisconnectResyncCoordinator

/-- Started, and with every callback set. -/
structure Ready (c : DisconnectResyncCoordinator) : Prop where
  started : c.started = true
  releaseAllPressedFn : c.releaseAllPressedFn = true
  getPressedStateFn : c.getPressedStateFn = true
  triggerResyncFn : c.triggerResyncFn = true
  confirmRecoveryFn : c.confirmRecoveryFn = true
  onStateChange : c.onStateChange = true

/-- A change from `state` to `newState` is reported, when it is one. -/
def reportChange (state newState : DisconnectResyncState) : List CoordinatorCallback :=
  if state ≠ newState then [.onStateChange newState] else []

/-- What the coordinator does at an event, and the callbacks it makes. -/
inductive Handling (c : DisconnectResyncCoordinator) (e : LinkStateEvent) :
    DisconnectResyncCoordinator → List CoordinatorCallback → Prop where
  | ignored (hloss : ¬ e.IsLoss) : Handling c e c []
  | lost (hloss : e.IsLoss) :
      Handling c e { c with state := .Reconnecting, disconnectCount := c.disconnectCount + 1 }
        (reportChange c.state .Disconnected ++
          [.releaseAllPressed e.pressed, .triggerResync, .onStateChange .Reconnecting])
  | reconnecting (hloss : ¬ e.IsLoss) (hstate : c.state = .Disconnected) :
      Handling c e { c with state := .Reconnecting } [.onStateChange .Reconnecting]
  | recovered (hup : e.state = .Connected) (hconfirmed : e.confirmed = true) :
      Handling c e { c with state := .Connected, resyncCount := c.resyncCount + 1 }
        (reportChange c.state .Resync ++
          [.triggerResync, .confirmRecovery, .onStateChange .Connected])
  | unconfirmed (hup : e.state = .Connected) (hconfirmed : e.confirmed = false) :
      Handling c e
        { c with
          state := .Recovery
          resyncCount := c.resyncCount + 1
          recoveryCount := c.recoveryCount + 1 }
        (reportChange c.state .Resync ++
          [.triggerResync, .confirmRecovery, .onStateChange .Recovery])

/-- A coordinator with its callbacks reports a change. -/
theorem transitionTo_of_ready {c : DisconnectResyncCoordinator} (hc : c.Ready)
    (newState : DisconnectResyncState) :
    c.transitionTo newState = ({ c with state := newState }, reportChange c.state newState) := by
  simp [transitionTo, reportChange, hc.onStateChange]

/-- At a disconnect a coordinator with its callbacks releases, synchronises and waits. -/
theorem onDisconnected_of_ready {c : DisconnectResyncCoordinator} (hc : c.Ready)
    (pressed : PressedStateSnapshot) :
    c.onDisconnected pressed =
      ({ c with state := .Reconnecting, disconnectCount := c.disconnectCount + 1 },
        reportChange c.state .Disconnected ++
          [.releaseAllPressed pressed, .triggerResync, .onStateChange .Reconnecting]) := by
  simp [onDisconnected, transitionTo, reportChange, hc.onStateChange, hc.getPressedStateFn,
    hc.releaseAllPressedFn, hc.triggerResyncFn]

/-- At a connection a coordinator with its callbacks synchronises, and recovers when that is
confirmed. -/
theorem onConnected_of_ready {c : DisconnectResyncCoordinator} (hc : c.Ready)
    (hstate : c.state ≠ .Connected) (confirmed : Bool) :
    c.onConnected confirmed =
      if confirmed then
        ({ c with state := .Connected, resyncCount := c.resyncCount + 1 },
          reportChange c.state .Resync ++
            [.triggerResync, .confirmRecovery, .onStateChange .Connected])
      else
        ({ c with
            state := .Recovery
            resyncCount := c.resyncCount + 1
            recoveryCount := c.recoveryCount + 1 },
          reportChange c.state .Resync ++
            [.triggerResync, .confirmRecovery, .onStateChange .Recovery]) := by
  -- A recovery that is confirmed reports the connection, and one that is not the recovery.
  cases confirmed with
  | false =>
    simp [onConnected, hstate, transitionTo, reportChange, hc.onStateChange, hc.triggerResyncFn,
      hc.confirmRecoveryFn]
  | true =>
    simp [onConnected, hstate, transitionTo, reportChange, hc.onStateChange, hc.triggerResyncFn,
      hc.confirmRecoveryFn]

/-- A coordinator with its callbacks handles an event in one of these ways. -/
theorem handling {c : DisconnectResyncCoordinator} (hc : c.Ready) (e : LinkStateEvent) :
    Handling c e (coordinatorMachine.step c e) (eventCallbacks c e) := by
  show Handling c e (c.handleLinkState e.state e.pressed e.confirmed).1
    (c.handleLinkState e.state e.pressed e.confirmed).2
  unfold handleLinkState
  rw [if_neg (by simp [hc.started])]
  cases hevent : e.state with
  -- A connection counts only for a coordinator that is not connected yet.
  | Connected =>
    have hloss : ¬ e.IsLoss := by simp [LinkStateEvent.IsLoss, hevent]
    dsimp only
    by_cases hstate : c.state = .Connected
    · rw [onConnected, if_pos hstate]
      exact .ignored hloss
    · rw [onConnected_of_ready hc hstate]
      cases hconfirmed : e.confirmed with
      | true => exact .recovered hevent hconfirmed
      | false => exact .unconfirmed hevent hconfirmed
  | Disconnected =>
    dsimp only
    rw [onDisconnected_of_ready hc]
    exact .lost (.inl hevent)
  | Lost =>
    dsimp only
    rw [onDisconnected_of_ready hc]
    exact .lost (.inr hevent)
  -- An attempt to connect is reported only after a loss.
  | Connecting =>
    have hloss : ¬ e.IsLoss := by simp [LinkStateEvent.IsLoss, hevent]
    dsimp only
    rw [onReconnecting]
    split
    · next hstate =>
      rw [transitionTo_of_ready hc, reportChange, if_pos (by rw [hstate]; decide)]
      exact .reconnecting hloss hstate
    · exact .ignored hloss
  | Pairing | Paired => exact .ignored (by simp [LinkStateEvent.IsLoss, hevent])

/-- A coordinator that was set up has its callbacks. -/
theorem ready_init : init.Ready := ⟨rfl, rfl, rfl, rfl, rfl, rfl⟩

/-- The callbacks stay. -/
theorem ready_step {c : DisconnectResyncCoordinator} (hc : c.Ready) (e : LinkStateEvent) :
    (coordinatorMachine.step c e).Ready := by
  have hhandling := handling hc e
  generalize coordinatorMachine.step c e = c' at hhandling
  generalize eventCallbacks c e = callbacks at hhandling
  obtain ⟨hstarted, hrelease, hpressed, htrigger, hconfirm, hchange⟩ := hc
  cases hhandling <;> exact ⟨hstarted, hrelease, hpressed, htrigger, hconfirm, hchange⟩

/-- The callbacks are there after any events. -/
theorem ready_run (events : List LinkStateEvent) : (coordinatorMachine.run events).Ready :=
  Machine.Invariant.of_step (P := Ready) ready_init (fun _ e hc => ready_step hc e) events

/-! ### When the gate is open -/

/-- The event is that the link is up, and the coordinator asked and had the recovery confirmed. -/
def Recovers (c : DisconnectResyncCoordinator) (e : LinkStateEvent) : Prop :=
  e.state = .Connected ∧ e.confirmed = true ∧ .confirmRecovery ∈ eventCallbacks c e

/-- No link was lost, or the recovery was confirmed at an event after the last loss. -/
def RecoveredSinceLoss (events : List LinkStateEvent) : Prop :=
  (∀ e ∈ events, ¬ e.IsLoss) ∨
    ∃ before e after, events = before ++ e :: after ∧ Recovers (coordinatorMachine.run before) e ∧
      ∀ e' ∈ after, ¬ e'.IsLoss

/-- An event that reports no loss leaves a recovery as it is. -/
theorem RecoveredSinceLoss.append {events : List LinkStateEvent} (h : RecoveredSinceLoss events)
    {e : LinkStateEvent} (hloss : ¬ e.IsLoss) : RecoveredSinceLoss (events ++ [e]) := by
  -- One more event that is no loss.
  have hsnoc : ∀ {xs : List LinkStateEvent}, (∀ x ∈ xs, ¬ x.IsLoss) →
      ∀ x ∈ xs ++ [e], ¬ x.IsLoss := by
    intro xs hxs x hx
    rcases List.mem_append.mp hx with hx | hx
    · exact hxs x hx
    · rw [List.mem_singleton.mp hx]
      exact hloss
  rcases h with hnone | ⟨before, e', after, rfl, hrecovers, hafter⟩
  · exact .inl (hsnoc hnone)
  · exact .inr ⟨before, e', after ++ [e], by simp, hrecovers, hsnoc hafter⟩

/-- What one event does to the gate. -/
theorem gate_step {c : DisconnectResyncCoordinator} (hc : c.Ready) (e : LinkStateEvent)
    (hopen : (coordinatorMachine.step c e).isInputAllowed = true) :
    Recovers c e ∨ c.isInputAllowed = true ∧ ¬ e.IsLoss := by
  have hhandling := handling hc e
  generalize hc' : coordinatorMachine.step c e = c' at hhandling hopen
  generalize hcallbacks : eventCallbacks c e = callbacks at hhandling
  cases hhandling with
  | ignored hloss => exact .inr ⟨hopen, hloss⟩
  | lost hloss => simp [isInputAllowed] at hopen
  | reconnecting hloss hstate => simp [isInputAllowed] at hopen
  | recovered hup hconfirmed => exact .inl ⟨hup, hconfirmed, by simp [hcallbacks]⟩
  | unconfirmed hup hconfirmed => simp [isInputAllowed] at hopen

/-- Input goes through only after a recovery since the last loss. -/
theorem gate_open (events : List LinkStateEvent) :
    (coordinatorMachine.run events).isInputAllowed = true → RecoveredSinceLoss events := by
  induction events using List.reverseRecOn with
  | nil =>
    intro _
    exact .inl fun e he => absurd he List.not_mem_nil
  | append_singleton events e ih =>
    intro hopen
    rw [Machine.run_append_singleton] at hopen
    rcases gate_step (ready_run events) e hopen with hrecovers | ⟨hbefore, hloss⟩
    · exact .inr ⟨events, e, [], rfl, hrecovers, fun e' he' => absurd he' List.not_mem_nil⟩
    · exact (ih hbefore).append hloss

/-! ### What is released -/

/-- A report releases nothing. -/
@[simp] theorem releases_reportChange (state newState : DisconnectResyncState) :
    releases (reportChange state newState) = [] := by
  unfold reportChange
  split
  · rfl
  · rfl

/-- A loss releases the state that is pressed at it, once, and leaves the gate closed. No other
event releases anything. -/
theorem eventCallbacks_release {c : DisconnectResyncCoordinator} (hc : c.Ready)
    (e : LinkStateEvent) :
    releases (eventCallbacks c e) = (if e.IsLoss then [e.pressed] else []) ∧
      (e.IsLoss → .onStateChange .Connected ∉ eventCallbacks c e ∧
        (coordinatorMachine.step c e).isInputAllowed = false) := by
  have hup : ∀ {e : LinkStateEvent}, e.state = .Connected → ¬ e.IsLoss := by
    intro e hup
    simp [LinkStateEvent.IsLoss, hup]
  have hhandling := handling hc e
  generalize coordinatorMachine.step c e = c' at hhandling
  generalize eventCallbacks c e = callbacks at hhandling
  -- The input is released exactly on a loss, and then it is closed as well.
  cases hhandling with
  | ignored hloss =>
    rw [if_neg hloss]
    exact ⟨rfl, fun h => absurd h hloss⟩
  | lost hloss =>
    rw [if_pos hloss, releases_append, releases_reportChange]
    refine ⟨rfl, fun _ => ⟨?_, rfl⟩⟩
    unfold reportChange
    split
    · simp
    · simp
  | reconnecting hloss _ =>
    rw [if_neg hloss]
    exact ⟨rfl, fun h => absurd h hloss⟩
  | recovered hconnected _ =>
    rw [if_neg (hup hconnected), releases_append, releases_reportChange]
    exact ⟨rfl, fun h => absurd h (hup hconnected)⟩
  | unconfirmed hconnected _ =>
    rw [if_neg (hup hconnected), releases_append, releases_reportChange]
    exact ⟨rfl, fun h => absurd h (hup hconnected)⟩

/-! ### What is reported -/

/-- The states `changes` are reported one after another, each another one than the state before,
and lead from `state` to `newState`. -/
structure StateWalk (state newState : DisconnectResyncState)
    (changes : List DisconnectResyncState) : Prop where
  walk : (state :: changes).IsChain (· ≠ ·)
  ends : (state :: changes).getLast (List.cons_ne_nil _ _) = newState

/-- Two walks one after the other are a walk. -/
theorem StateWalk.append {s t u : DisconnectResyncState} {xs ys : List DisconnectResyncState}
    (h : StateWalk s t xs) (h' : StateWalk t u ys) : StateWalk s u (xs ++ ys) := by
  induction xs generalizing s with
  | nil =>
    obtain rfl : s = t := h.ends
    exact h'
  | cons x xs ih =>
    obtain ⟨hne, hrest⟩ := List.isChain_cons_cons.mp h.walk
    have htail := ih ⟨hrest, h.ends⟩
    exact ⟨List.isChain_cons_cons.mpr ⟨hne, htail.walk⟩, htail.ends⟩

/-- A report is a walk of one step, or of none. -/
theorem stateWalk_reportChange (state newState : DisconnectResyncState) :
    StateWalk state newState (stateChanges (reportChange state newState)) := by
  unfold reportChange
  split
  · next hne => exact ⟨List.isChain_pair.mpr hne, rfl⟩
  · next heq =>
    rw [not_not] at heq
    exact ⟨List.isChain_singleton state, heq⟩

/-- The changes that are reported at one event. -/
theorem stateWalk_step {c : DisconnectResyncCoordinator} (hc : c.Ready) (e : LinkStateEvent) :
    StateWalk c.state (coordinatorMachine.step c e).state (stateChanges (eventCallbacks c e)) := by
  have hpair : ∀ {s t : DisconnectResyncState}, s ≠ t → StateWalk s t [t] := fun hne =>
    ⟨List.isChain_pair.mpr hne, rfl⟩
  have hhandling := handling hc e
  generalize coordinatorMachine.step c e = c' at hhandling
  generalize eventCallbacks c e = callbacks at hhandling
  cases hhandling with
  | ignored _ => exact ⟨List.isChain_singleton _, rfl⟩
  | lost _ =>
    rw [stateChanges_append]
    exact (stateWalk_reportChange _ _).append (hpair (by simp))
  | reconnecting _ hstate => exact hpair (by simp [hstate])
  | recovered _ _ | unconfirmed _ _ =>
    rw [stateChanges_append]
    exact (stateWalk_reportChange _ _).append (hpair (by simp))

/-- All the callbacks of a run. -/
def runCallbacks (events : List LinkStateEvent) : List CoordinatorCallback :=
  coordinatorMachine.outputs eventCallbacks coordinatorMachine.init events

/-- What was reported is a walk to the state there is. -/
theorem stateWalk_run (events : List LinkStateEvent) :
    StateWalk .Connected (coordinatorMachine.run events).state
      (stateChanges (runCallbacks events)) := by
  induction events using List.reverseRecOn with
  | nil => exact ⟨List.isChain_singleton _, rfl⟩
  | append_singleton events e ih =>
    rw [Machine.run_append_singleton, runCallbacks, Machine.outputs_append_singleton,
      stateChanges_append]
    exact ih.append (stateWalk_step (ready_run events) e)

/-! ### The main result -/

/-- In every run of a coordinator that is started with its callbacks set: the gate is open only
when no link was lost or the recovery was confirmed after the last loss, each loss releases what is
pressed at it exactly once and before the gate opens again, and the state changes that are reported
lead from the first state to the current one. -/
theorem input_gate (events : List LinkStateEvent) :
    ((coordinatorMachine.run events).isInputAllowed = true → RecoveredSinceLoss events) ∧
    (∀ before e, before ++ [e] <+: events →
      releases (eventCallbacks (coordinatorMachine.run before) e) =
          (if e.IsLoss then [e.pressed] else []) ∧
        (e.IsLoss → .onStateChange .Connected ∉ eventCallbacks (coordinatorMachine.run before) e ∧
          (coordinatorMachine.run (before ++ [e])).isInputAllowed = false)) ∧
    StateWalk coordinatorMachine.init.state (coordinatorMachine.run events).state
      (stateChanges (runCallbacks events)) := by
  refine ⟨gate_open events, ?_, stateWalk_run events⟩
  intro before e _
  rw [Machine.run_append_singleton]
  exact eventCallbacks_release (ready_run before) e

end DisconnectResyncCoordinator

end CrossFlow
