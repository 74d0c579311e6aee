import CrossFlow.Core.Transport.TransportThreads
import CrossFlow.Integration.DisconnectResyncCoordinator
import CrossFlow.Lib.PastTime
import CrossFlow.Proofs.Transport.TransportThreads

/-!
# `CrossFlow.Proofs.Transport.LinkLoss`: a lost connection is reported

The input loop of a server clears `linkUp` and calls the link-state handler before it waits for a
new connection. The loop of a client returns and does neither.

* `callerStep_frame`: what `connect` and `disconnect` leave of a loss that is dealt with.
* `lossInv_run`: what is in the trace while the input loop deals with a lost connection.
* `reportInv_run`: what is not in the trace before the loop has called the handler.
* `link_loss_reported`: under which conditions a loss is reported when it is dealt with.
-/

set_option autoImplicit false

namespace CrossFlow

open Lib (Just Since)
open TransportImpl (ConnectCalls)
open TransportThreads

/-! ### What is to be reported -/

/-- A connection was found lost. -/
def LinkObservation.IsLost : LinkObservation → Prop
  | .lost _ => True
  | _ => False

/-- `linkUp` has been cleared since the connection was lost. -/
def LinkLowered : List LinkObservation → Prop :=
  Since LinkObservation.IsLost (Just (· = .linkUp false) fun _ => True)

/-- The handler was called with `Disconnected` for the connection, and not with `Connected` for it
since then. -/
def DisconnectReported (connection : Nat) : List LinkObservation → Prop :=
  Since (· = .notified .Connected connection)
    (Just (· = .notified .Disconnected connection) fun _ => True)

/-- The loss of the connection has been reported. -/
def LossReported (s : TransportThreads) (connection : Nat) : Prop :=
  (s.transport.linkUp = false ∨ LinkLowered s.trace) ∧ DisconnectReported connection s.trace

/-- The loop has found the connection lost, and is not back at its start yet. -/
def ReceivePc.handlesLoss (pc : ReceivePc) : Bool :=
  match pc.phase with
  | .found | .lowered | .reported | .renewed => true
  | .stopped | .reading | .returned => false

/-- The handler was called with `Disconnected`, and the loop is not back at its start yet. -/
def ReceivePc.reaccepts (pc : ReceivePc) : Bool :=
  match pc.phase with
  | .reported | .renewed => true
  | .stopped | .reading | .found | .lowered | .returned => false

/-- With the step `a`, the input loop has dealt with a lost connection: it returns or goes on with
the next one. -/
def EndsLoss (s : TransportThreads) : ThreadAction → Prop
  | .receive .input r =>
    s.input.handlesLoss = true ∧ (s.receiveStep .input r).input.handlesLoss = false
  | _ => False

/-- A connection is found lost by a server that is still to receive, and the handler is not called
with `Connected` for it by `connect` between the loop's call with `Disconnected` and the end of the
loss. -/
def Reports (s : TransportThreads) : ThreadAction → Prop
  | .receive .input _ =>
    s.input = .lost → s.transport.config.isServer = true ∧ s.transport.receiving = true
  | .caller _ =>
    s.caller = .notifyConnected s.lost → s.input.reaccepts = false
  | _ => True

/-! ### The other threads -/

namespace TransportThreads

/-- What a step leaves of a loss that the input loop is dealing with. -/
structure KeepsLoss (s s' : TransportThreads) : Prop where
  lost : s'.lost = s.lost
  connections : s.connections ≤ s'.connections
  trace : s'.trace = s.trace ∨ ∃ o, s'.trace = o :: s.trace ∧ ¬ o.IsLost ∧
    (s.input.reaccepts = true → o ≠ .notified .Connected s.lost)

/-- A step that leaves the losses and the reports keeps them. -/
theorem keepsLoss_of_same {s s' : TransportThreads} (hlost : s'.lost = s.lost)
    (hconnections : s'.connections = s.connections) (htrace : s'.trace = s.trace) :
    KeepsLoss s s' := ⟨hlost, Nat.le_of_eq hconnections.symm, .inl htrace⟩

/-- A step that leaves the link keeps its losses. -/
theorem SameLink.keepsLoss {s s' : TransportThreads} (h : SameLink s s') : KeepsLoss s s' :=
  keepsLoss_of_same h.lost h.connections h.trace

/-- The calls of the other thread leave the input loop where it is, or start it or join it. -/
theorem callerStep_frame {s : TransportThreads} (r : ConnectCalls)
    (hreports : s.caller = .notifyConnected s.lost → s.input.reaccepts = false) :
    KeepsLoss s (s.callerStep r) ∧
      ((s.callerStep r).input = s.input ∨ (s.callerStep r).input.handlesLoss = false) := by
  -- A step that is seen, but is not about the loss.
  have hseen : ∀ {s' : TransportThreads} {o : LinkObservation}, s'.lost = s.lost →
      s'.connections = s.connections → s'.trace = o :: s.trace → ¬ o.IsLost →
      (s.input.reaccepts = true → o ≠ .notified .Connected s.lost) → KeepsLoss s s' :=
    fun hlost hconnections htrace ho hother =>
      ⟨hlost, Nat.le_of_eq hconnections.symm, .inr ⟨_, htrace, ho, hother⟩⟩
  unfold callerStep
  cases hpc : s.caller with
  | idle | setConnected | setReceiving | startControl _ | clearConnected | clearReceiving
  | closeSockets => exact ⟨keepsLoss_of_same rfl rfl rfl, .inl rfl⟩
  | createSockets =>
    dsimp only
    split
    · exact ⟨keepsLoss_of_same rfl rfl rfl, .inl rfl⟩
    · exact ⟨⟨rfl, Nat.le_succ s.connections, .inl rfl⟩, .inl rfl⟩
  | notifyFailed | setLinkUp | clearLinkUp | notifyDisconnected =>
    exact ⟨hseen rfl rfl rfl id fun _ => by simp, .inl rfl⟩
  | startInput => exact ⟨keepsLoss_of_same rfl rfl rfl, .inr rfl⟩
  | notifyConnected connection =>
    refine ⟨hseen rfl rfl rfl id ?_, .inl rfl⟩
    intro hreaccepts hsame
    cases hsame
    exact Bool.false_ne_true ((hreports hpc).symm.trans hreaccepts)
  | joinInput =>
    dsimp only
    split
    · exact ⟨keepsLoss_of_same rfl rfl rfl, .inr rfl⟩
    · exact ⟨keepsLoss_of_same rfl rfl rfl, .inl rfl⟩
  | joinControl =>
    dsimp only
    split
    · exact ⟨keepsLoss_of_same rfl rfl rfl, .inl rfl⟩
    · exact ⟨keepsLoss_of_same rfl rfl rfl, .inl rfl⟩

/-! ### What has been reported of the loss -/

/-- What the trace says of the loss that the input loop is dealing with. -/
def LossInv (s : TransportThreads) : Prop :=
  match s.input.phase with
  | .found => s.lost ≤ s.connections
  | .lowered => s.lost ≤ s.connections ∧ LinkLowered s.trace
  | .reported => s.lost ≤ s.connections ∧ LinkLowered s.trace ∧ DisconnectReported s.lost s.trace
  | .renewed => s.lost < s.connections ∧ LinkLowered s.trace ∧ DisconnectReported s.lost s.trace
  | .stopped | .reading | .returned => True

/-- A loop that handles no loss asks for nothing. -/
theorem lossInv_of_done {s : TransportThreads} (h : s.input.handlesLoss = false) : s.LossInv := by
  unfold LossInv
  unfold ReceivePc.handlesLoss at h
  cases hphase : s.input.phase <;> simp_all

/-- A link that was lowered stays so. -/
theorem KeepsLoss.linkLowered {s s' : TransportThreads} (h : KeepsLoss s s')
    (hlowered : LinkLowered s.trace) : LinkLowered s'.trace := by
  rcases h.trace with hsame | ⟨o, htrace, ho, -⟩
  · rw [hsame]
    exact hlowered
  · rw [htrace]
    exact hlowered.keep ho

/-- A loss that was reported stays so while it is handled. -/
theorem KeepsLoss.disconnectReported {s s' : TransportThreads} (h : KeepsLoss s s')
    (hreaccepts : s.input.reaccepts = true) (hreported : DisconnectReported s.lost s.trace) :
    DisconnectReported s'.lost s'.trace := by
  rw [h.lost]
  rcases h.trace with hsame | ⟨o, htrace, -, hother⟩
  · rw [hsame]
    exact hreported
  · rw [htrace]
    exact hreported.keep (hother hreaccepts)

/-- A step that keeps the phase and the losses keeps the invariant. -/
theorem LossInv.of_keeps {s s' : TransportThreads} (h : s.LossInv)
    (hphase : s'.input.phase = s.input.phase) (hkeeps : KeepsLoss s s') : s'.LossInv := by
  have hle : s.lost ≤ s.connections → s'.lost ≤ s'.connections := fun hle =>
    hkeeps.lost ▸ Nat.le_trans hle hkeeps.connections
  have hlt : s.lost < s.connections → s'.lost < s'.connections := fun hlt =>
    hkeeps.lost ▸ Nat.lt_of_lt_of_le hlt hkeeps.connections
  unfold LossInv at h ⊢
  rw [hphase]
  -- The invariant is about a loss that is being handled, and says more with each phase.
  cases hold : s.input.phase with
  | found =>
    rw [hold] at h
    exact hle h
  | lowered =>
    rw [hold] at h
    exact ⟨hle h.1, hkeeps.linkLowered h.2⟩
  | reported =>
    rw [hold] at h
    have hreaccepts : s.input.reaccepts = true := by rw [ReceivePc.reaccepts, hold]
    exact ⟨hle h.1, hkeeps.linkLowered h.2.1, hkeeps.disconnectReported hreaccepts h.2.2⟩
  | renewed =>
    rw [hold] at h
    have hreaccepts : s.input.reaccepts = true := by rw [ReceivePc.reaccepts, hold]
    exact ⟨hlt h.1, hkeeps.linkLowered h.2.1, hkeeps.disconnectReported hreaccepts h.2.2⟩
  | stopped | reading | returned => trivial

/-- The loop itself. -/
theorem LossInv.of_move {s s' : TransportThreads} (h : s.LossInv) (hmove : InputMove s s') :
    s'.LossInv := by
  -- Each move enters its phase with what it has just done, and keeps what was said before.
  cases hmove with
  | quiet hsame hphase => exact h.of_keeps hphase hsame.keepsLoss
  | returns hsame hinput hfrom =>
    refine lossInv_of_done ?_
    rw [hinput]
    rfl
  | loses hphase => exact Nat.le_refl s.connections
  | lowers hinput =>
    rw [LossInv, hinput] at h
    exact ⟨h, Since.now ⟨rfl, trivial⟩⟩
  | notifies hinput =>
    rw [LossInv, hinput] at h
    exact ⟨h.1, h.2.keep id, Since.now ⟨rfl, trivial⟩⟩
  | renews newFd hinput =>
    rw [LossInv, hinput] at h
    exact ⟨Nat.lt_succ_of_le h.1, h.2⟩
  | raises hinput =>
    rw [LossInv, hinput] at h
    exact ⟨h.1, h.2.1.keep id, h.2.2.keep (by simp)⟩
  | goesOn hinput => exact lossInv_of_done rfl

/-- When the loop has dealt with the loss, it has been reported. -/
theorem LossInv.lossReported {s s' : TransportThreads} (h : s.LossInv) (hmove : InputMove s s')
    (hreports :
      s.input = .lost → s.transport.config.isServer = true ∧ s.transport.receiving = true)
    (hhandles : s.input.handlesLoss = true) (hdone : s'.input.handlesLoss = false) :
    LossReported s' s.lost := by
  cases hmove with
  | quiet hsame hphase =>
    rw [ReceivePc.handlesLoss, hphase] at hdone
    exact absurd (hdone.symm.trans hhandles) Bool.false_ne_true
  | returns hsame hinput hfrom =>
    rcases hfrom with hreading | hreported | ⟨hlost, hclient⟩
    · rw [ReceivePc.handlesLoss, hreading] at hhandles
      exact absurd hhandles Bool.false_ne_true
    · rw [LossInv, hreported] at h
      rw [LossReported, hsame.trace]
      exact ⟨.inr h.2.1, h.2.2⟩
    · exact absurd (hreports hlost) hclient
  | goesOn hinput =>
    rw [LossInv, hinput] at h
    -- The handler was called about the new connection.
    have hnew :
        LinkObservation.notified .Connected s.connections ≠ .notified .Connected s.lost := by
      intro hsame
      exact Nat.ne_of_lt h.1 (LinkObservation.notified.inj hsame).2.symm
    exact ⟨.inr (h.2.1.keep id), h.2.2.keep hnew⟩
  | loses _ | lowers _ | notifies _ | renews _ _ | raises _ =>
    exact absurd hdone.symm Bool.false_ne_true

end TransportThreads

section
variable (config : TransportConfig)

/-- The invariant holds after a run whose losses are reported. -/
theorem lossInv_run {acts : List ThreadAction}
    (hacts : (threadMachine config).Meets Reports (threadMachine config).init acts) :
    ((threadMachine config).run acts).LossInv := by
  have hinit : (TransportThreads.init config).LossInv := trivial
  refine Lib.Machine.invariant_of_meets (P := LossInv) hinit ?_ hacts
  intro s a h ha
  cases a with
  | connect =>
    show (if s.caller = .idle ∧ !s.transport.connected then { s with caller := .createSockets }
      else s).LossInv
    split <;> exact h
  | disconnect =>
    show (if s.caller = .idle ∧ s.transport.connected then { s with caller := .clearConnected }
      else s).LossInv
    split <;> exact h
  -- A caller that joins the loop ends the handling of the loss, and any other step keeps it.
  | caller r =>
    obtain ⟨hkeeps, hinput⟩ := callerStep_frame r ha
    rcases hinput with hsame | hdone
    · exact h.of_keeps (congrArg ReceivePc.phase hsame) hkeeps
    · exact lossInv_of_done hdone
  | receive plane r =>
    cases plane with
    | input => exact h.of_move (s.inputMove r)
    | control =>
      obtain ⟨hsame, hinput⟩ := s.receiveStep_control_frame r
      exact h.of_keeps (congrArg ReceivePc.phase hinput) hsame.keepsLoss

end

/-! ### The loop of a client -/

namespace TransportThreads

/-- The handler has not been called about the loss of the current connection. -/
def Unreported (s : TransportThreads) : Prop :=
  .notified .Disconnected s.connections ∉ s.trace

/-- What holds at each point of the calls of `connect` and `disconnect`. -/
def CallerInv (s : TransportThreads) : Prop :=
  match s.caller with
  | .idle => s.transport.connected = false → s.input = .stopped
  | .createSockets | .notifyFailed => s.transport.connected = false ∧ s.input = .stopped
  | .setConnected => s.input = .stopped ∧ s.Unreported
  | .setLinkUp | .setReceiving | .startInput =>
    s.transport.connected = true ∧ s.input = .stopped ∧ s.Unreported
  | .startControl connection | .notifyConnected connection =>
    s.transport.connected = true ∧ connection ≤ s.connections
  | .joinControl | .notifyDisconnected => s.input = .stopped
  | _ => True

/-- What holds in each phase of the input loop. -/
def InputInv (s : TransportThreads) : Prop :=
  match s.input.phase with
  | .reading | .renewed => s.Unreported
  | .found | .lowered => s.Unreported ∧ s.lost = s.connections
  | .stopped | .reported | .returned => True

/-- The handler is called about connections that there have been, and about the loss of one after
the input loop has found it lost or has returned. -/
structure ReportInv (s : TransportThreads) : Prop where
  old : ∀ state connection, .notified state connection ∈ s.trace → connection ≤ s.connections
  caller : s.CallerInv
  input : s.InputInv

/-- The loss of the next connection has not been reported. -/
theorem ReportInv.unreported_succ {s : TransportThreads} (h : s.ReportInv) :
    .notified .Disconnected (s.connections + 1) ∉ s.trace :=
  fun hmem => Nat.not_succ_le_self _ (h.old _ _ hmem)

/-- A loop that has stopped asks for nothing. -/
theorem inputInv_of_stopped {s : TransportThreads} (h : s.input = .stopped) : s.InputInv := by
  unfold InputInv
  rw [h]
  trivial

/-- A step that leaves the phase, and says nothing of the loss of the current connection. -/
theorem InputInv.of_keeps {s s' : TransportThreads} (h : s.InputInv)
    (hphase : s'.input.phase = s.input.phase) (hconnections : s'.connections = s.connections)
    (hlost : s'.lost = s.lost) (htrace : s.Unreported → s'.Unreported) : s'.InputInv := by
  unfold InputInv at h ⊢
  rw [hphase, hconnections, hlost]
  cases hold : s.input.phase with
  | reading | renewed =>
    rw [hold] at h
    exact htrace h
  | found | lowered =>
    rw [hold] at h
    exact ⟨htrace h.1, h.2⟩
  | stopped | reported | returned => trivial

/-- A step that leaves the link reports nothing. -/
theorem SameLink.unreported {s s' : TransportThreads} (h : SameLink s s')
    (hunreported : s.Unreported) : s'.Unreported := by
  unfold Unreported
  rw [h.connections, h.trace]
  exact hunreported

/-- What is seen is old, and not the report of the loss. -/
theorem Unreported.cons {s s' : TransportThreads} {o : LinkObservation} (h : s.Unreported)
    (hconnections : s'.connections = s.connections) (htrace : s'.trace = o :: s.trace)
    (ho : o ≠ .notified .Disconnected s.connections) : s'.Unreported := by
  unfold Unreported
  rw [hconnections, htrace, List.mem_cons, not_or]
  exact ⟨fun hsame => ho hsame.symm, h⟩

/-- One more observation, of a connection there is. -/
theorem old_cons {trace : List LinkObservation} {connections : Nat} {o : LinkObservation}
    (h : ∀ state connection, .notified state connection ∈ trace → connection ≤ connections)
    (ho : ∀ state connection, o = .notified state connection → connection ≤ connections)
    (state : LinkState) (connection : Nat) (hmem : .notified state connection ∈ o :: trace) :
    connection ≤ connections := by
  rcases List.mem_cons.mp hmem with hsame | hmem
  · exact ho state connection hsame.symm
  · exact h state connection hmem

/-- A step of the caller keeps the invariant. -/
theorem reportInv_callerStep {s : TransportThreads} (h : s.ReportInv) (r : ConnectCalls) :
    (s.callerStep r).ReportInv := by
  have hcaller := h.caller
  unfold CallerInv at hcaller
  unfold callerStep
  cases hpc : s.caller with
  | idle => exact h
  | createSockets =>
    rw [hpc] at hcaller
    dsimp only
    split
    · refine ⟨h.old, ⟨?_, hcaller.2⟩, inputInv_of_stopped hcaller.2⟩
      exact (s.transport.createSockets_spec r).1.connected.trans hcaller.1
    · -- The new connection has a number that no report has.
      refine ⟨?_, ⟨hcaller.2, h.unreported_succ⟩, inputInv_of_stopped hcaller.2⟩
      exact fun state connection hmem => Nat.le_succ_of_le (h.old state connection hmem)
  | notifyFailed =>
    rw [hpc] at hcaller
    refine ⟨old_cons h.old ?_, fun _ => hcaller.2, inputInv_of_stopped hcaller.2⟩
    -- The report is of the connection there is.
    intro state connection hsame
    cases hsame
    exact Nat.le_refl _
  | setConnected =>
    rw [hpc] at hcaller
    exact ⟨h.old, ⟨rfl, hcaller⟩, h.input.of_keeps rfl rfl rfl id⟩
  | setLinkUp =>
    rw [hpc] at hcaller
    have hkept : s.Unreported → (s.storeLinkUp true).Unreported :=
      fun hunreported => hunreported.cons rfl rfl (by simp)
    refine ⟨old_cons h.old (by simp), ⟨hcaller.1, hcaller.2.1, hkept hcaller.2.2⟩, ?_⟩
    exact h.input.of_keeps rfl rfl rfl hkept
  | setReceiving =>
    rw [hpc] at hcaller
    exact ⟨h.old, hcaller, h.input.of_keeps rfl rfl rfl id⟩
  | startInput =>
    rw [hpc] at hcaller
    exact ⟨h.old, ⟨hcaller.1, Nat.le_refl _⟩, hcaller.2.2⟩
  | startControl connection =>
    rw [hpc] at hcaller
    exact ⟨h.old, hcaller, h.input.of_keeps rfl rfl rfl id⟩
  | notifyConnected connection =>
    rw [hpc] at hcaller
    refine ⟨old_cons h.old ?_, ?_, ?_⟩
    · -- The report is of the connection there was when the loop was started.
      intro state connection' hsame
      cases hsame
      exact hcaller.2
    · exact fun hdown => absurd (hdown.symm.trans hcaller.1) Bool.false_ne_true
    · exact h.input.of_keeps rfl rfl rfl fun hunreported => hunreported.cons rfl rfl (by simp)
  | clearConnected => exact ⟨h.old, trivial, h.input.of_keeps rfl rfl rfl id⟩
  | clearReceiving => exact ⟨h.old, trivial, h.input.of_keeps rfl rfl rfl id⟩
  | clearLinkUp =>
    refine ⟨old_cons h.old (by simp), trivial, ?_⟩
    exact h.input.of_keeps rfl rfl rfl fun hunreported => hunreported.cons rfl rfl (by simp)
  | closeSockets => exact ⟨h.old, trivial, h.input.of_keeps rfl rfl rfl id⟩
  | joinInput =>
    dsimp only
    split
    · exact ⟨h.old, rfl, trivial⟩
    · exact h
  | joinControl =>
    rw [hpc] at hcaller
    dsimp only
    split
    · exact ⟨h.old, hcaller, inputInv_of_stopped hcaller⟩
    · exact h
  | notifyDisconnected =>
    rw [hpc] at hcaller
    refine ⟨old_cons h.old ?_, fun _ => hcaller, inputInv_of_stopped hcaller⟩
    intro state connection hsame
    cases hsame
    exact Nat.le_refl _

/-- While the loop runs, its steps do not matter to the other thread. -/
theorem CallerInv.of_running {s s' : TransportThreads} (h : s.CallerInv)
    (hrunning : s.input ≠ .stopped) (hcaller : s'.caller = s.caller)
    (hconnected : s'.transport.connected = s.transport.connected)
    (hconnections : s.connections ≤ s'.connections) : s'.CallerInv := by
  unfold CallerInv at h ⊢
  rw [hcaller, hconnected]
  -- A loop that runs was started, which the steps before its start exclude.
  cases hpc : s.caller with
  | idle =>
    rw [hpc] at h
    exact fun hdown => absurd (h hdown) hrunning
  | createSockets | notifyFailed =>
    rw [hpc] at h
    exact absurd h.2 hrunning
  | setConnected =>
    rw [hpc] at h
    exact absurd h.1 hrunning
  | setLinkUp | setReceiving | startInput =>
    rw [hpc] at h
    exact absurd h.2.1 hrunning
  | startControl _ | notifyConnected _ =>
    rw [hpc] at h
    exact ⟨h.1, Nat.le_trans h.2 hconnections⟩
  | joinControl | notifyDisconnected =>
    rw [hpc] at h
    exact absurd h hrunning
  | _ => trivial

/-- A step that leaves the link leaves the caller's invariant. -/
theorem CallerInv.of_same {s s' : TransportThreads} (h : s.CallerInv) (hsame : SameLink s s')
    (hinput : s'.input = s.input) : s'.CallerInv := by
  unfold CallerInv Unreported at h ⊢
  rw [hsame.caller, hsame.connected, hinput, hsame.connections, hsame.trace]
  exact h

/-- A step that is not seen, of the control loop or between two points of one phase. -/
theorem ReportInv.of_same {s s' : TransportThreads} (h : s.ReportInv) (hsame : SameLink s s')
    (hphase : s'.input.phase = s.input.phase) (hcaller : s'.CallerInv) : s'.ReportInv where
  old := by
    rw [hsame.trace, hsame.connections]
    exact h.old
  caller := hcaller
  input := h.input.of_keeps hphase hsame.connections hsame.lost hsame.unreported

/-- A step of the input loop keeps the invariant. -/
theorem ReportInv.of_move {s s' : TransportThreads} (h : s.ReportInv)
    (hrunning : s.input ≠ .stopped) (hmove : InputMove s s') : s'.ReportInv := by
  have hinput := h.input
  unfold InputInv at hinput
  cases hmove with
  | quiet hsame hphase =>
    refine h.of_same hsame hphase ?_
    exact h.caller.of_running hrunning hsame.caller hsame.connected hsame.connections.ge
  | returns hsame hreturned hfrom =>
    constructor
    · rw [hsame.trace, hsame.connections]
      exact h.old
    · exact h.caller.of_running hrunning hsame.caller hsame.connected hsame.connections.ge
    · rw [InputInv, hreturned]
      trivial
  | loses hphase =>
    rw [hphase] at hinput
    refine ⟨old_cons h.old (by simp), h.caller.of_running hrunning rfl rfl (Nat.le_refl _), ?_, rfl⟩
    exact hinput.cons rfl rfl (by simp)
  | lowers hpc =>
    rw [hpc] at hinput
    refine ⟨old_cons h.old (by simp), h.caller.of_running hrunning rfl rfl (Nat.le_refl _), ?_,
      hinput.2⟩
    exact hinput.1.cons rfl rfl (by simp)
  | notifies hpc =>
    rw [hpc] at hinput
    refine ⟨old_cons h.old ?_, h.caller.of_running hrunning rfl rfl (Nat.le_refl _), trivial⟩
    intro state connection hsame
    cases hsame
    exact Nat.le_of_eq hinput.2
  -- The connection that is renewed has a number that no report has.
  | renews newFd hpc =>
    refine ⟨?_, h.caller.of_running hrunning rfl rfl (Nat.le_succ _), h.unreported_succ⟩
    exact fun state connection hmem => Nat.le_succ_of_le (h.old state connection hmem)
  | raises hpc =>
    rw [hpc] at hinput
    refine ⟨old_cons h.old (by simp), h.caller.of_running hrunning rfl rfl (Nat.le_refl _), ?_⟩
    exact Unreported.cons (s := s) hinput rfl rfl (by simp)
  | goesOn hpc =>
    rw [hpc] at hinput
    refine ⟨old_cons h.old ?_, h.caller.of_running hrunning rfl rfl (Nat.le_refl _), ?_⟩
    · intro state connection hsame
      cases hsame
      exact Nat.le_refl _
    · exact Unreported.cons (s := s) hinput rfl rfl (by simp)

/-- The invariant holds at the start. -/
theorem reportInv_init (config : TransportConfig) : (TransportThreads.init config).ReportInv :=
  ⟨fun _ _ hmem => absurd hmem List.not_mem_nil, fun _ => rfl, trivial⟩

/-- A loop that has stopped takes no step. -/
theorem receiveStep_of_stopped {s : TransportThreads} {plane : Plane}
    (hstopped : s.loop plane = .stopped) (r : ReceiveCalls) : s.receiveStep plane r = s := by
  rw [receiveStep, hstopped]

/-- Every step keeps the invariant. -/
theorem reportInv_step {s : TransportThreads} (h : s.ReportInv) (a : ThreadAction) :
    (s.step a).ReportInv := by
  cases a with
  | connect =>
    show (if s.caller = .idle ∧ !s.transport.connected then { s with caller := .createSockets }
      else s).ReportInv
    split
    · -- The caller is idle and not connected, so its loop does not run.
      next hidle =>
      have hdown : s.transport.connected = false := by simpa using hidle.2
      have hcaller := h.caller
      rw [CallerInv, hidle.1] at hcaller
      exact ⟨h.old, ⟨hdown, hcaller hdown⟩, h.input.of_keeps rfl rfl rfl id⟩
    · exact h
  | disconnect =>
    show (if s.caller = .idle ∧ s.transport.connected then { s with caller := .clearConnected }
      else s).ReportInv
    split
    · exact ⟨h.old, trivial, h.input.of_keeps rfl rfl rfl id⟩
    · exact h
  | caller r => exact reportInv_callerStep h r
  | receive plane r =>
    cases plane with
    | input =>
      by_cases hstopped : s.input = .stopped
      · show (s.receiveStep .input r).ReportInv
        rw [receiveStep_of_stopped (show s.loop .input = .stopped from hstopped)]
        exact h
      · exact h.of_move hstopped (s.inputMove r)
    | control =>
      obtain ⟨hsame, hinput⟩ := s.receiveStep_control_frame r
      exact h.of_same hsame (congrArg ReceivePc.phase hinput) (h.caller.of_same hsame hinput)

end TransportThreads

section
variable (config : TransportConfig)

/-- The invariant holds after every run. -/
theorem reportInv_run (acts : List ThreadAction) :
    ((threadMachine config).run acts).ReportInv :=
  Lib.Machine.Invariant.of_step (P := ReportInv) (reportInv_init config)
    (fun _ a h => reportInv_step h a) acts

/-- The loop that has found the connection lost and is not to wait for a new one returns, and has
not called the handler. -/
theorem unreported_of_lost {acts : List ThreadAction} (r : ReceiveCalls)
    (hlost : ((threadMachine config).run acts).input = .lost)
    (hclient : ¬ (((threadMachine config).run acts).transport.config.isServer = true ∧
      ((threadMachine config).run acts).transport.receiving = true)) :
    EndsLoss ((threadMachine config).run acts) (.receive .input r) ∧
      ¬ LossReported (((threadMachine config).run acts).receiveStep .input r)
        ((threadMachine config).run acts).lost := by
  have hinput := (reportInv_run config acts).input
  generalize (threadMachine config).run acts = s at hlost hclient hinput ⊢
  have hloop : s.loop .input = s.input := rfl
  -- A client, or a server that shuts down, returns at once.
  have hstep : s.receiveStep .input r = { s with input := .returned } := by
    unfold receiveStep
    rw [hloop, hlost]
    dsimp only
    rw [if_neg hclient]
    rfl
  rw [InputInv, hlost] at hinput
  rw [EndsLoss, hstep, hlost]
  -- The disconnect of this connection has not been reported.
  refine ⟨⟨rfl, rfl⟩, ?_⟩
  rintro ⟨-, hreported⟩
  obtain ⟨o, hmem, rfl⟩ := hreported.exists_mem
  rw [hinput.2] at hmem
  exact hinput.1 hmem

end

/-! ### The input gate -/

namespace DisconnectResyncCoordinator

/-- The coordinator that is told of the loss closes the gate and has the pressed keys released. -/
theorem handleLinkState_disconnected {c : DisconnectResyncCoordinator} (hstarted : c.started = true)
    (hpressed : c.getPressedStateFn = true) (hrelease : c.releaseAllPressedFn = true)
    (pressed : PressedStateSnapshot) (confirmed : Bool) :
    (c.handleLinkState .Disconnected pressed confirmed).1.isInputAllowed = false ∧
      .releaseAllPressed pressed ∈ (c.handleLinkState .Disconnected pressed confirmed).2 := by
  unfold handleLinkState
  rw [if_neg (by simp [hstarted])]
  constructor
  · rfl
  · simp [onDisconnected, transitionTo, hpressed, hrelease]

end DisconnectResyncCoordinator

/-! ### The main result -/

/-- In a run whose steps all meet the condition, a lost connection has been reported whenever the
input loop has dealt with it. The loop that has found it lost and is not that of a server that is to
receive never reports it before it returns. The call with `Disconnected` closes the input gate and
releases the pressed keys. -/
theorem link_loss_reported (config : TransportConfig) (acts : List ThreadAction) :
    ((threadMachine config).Meets Reports (threadMachine config).init acts →
      ∀ pre a, pre ++ [a] <+: acts → EndsLoss ((threadMachine config).run pre) a →
        LossReported ((threadMachine config).run (pre ++ [a]))
          ((threadMachine config).run pre).lost) ∧
    (((threadMachine config).run acts).input = .lost →
      ¬ (((threadMachine config).run acts).transport.config.isServer = true ∧
        ((threadMachine config).run acts).transport.receiving = true) →
      ∀ r, EndsLoss ((threadMachine config).run acts) (.receive .input r) ∧
        ¬ LossReported ((threadMachine config).run (acts ++ [.receive .input r]))
          ((threadMachine config).run acts).lost) ∧
    ∀ (c : DisconnectResyncCoordinator) (pressed : PressedStateSnapshot) (confirmed : Bool),
      c.started = true → c.getPressedStateFn = true → c.releaseAllPressedFn = true →
        (c.handleLinkState .Disconnected pressed confirmed).1.isInputAllowed = false ∧
          .releaseAllPressed pressed ∈ (c.handleLinkState .Disconnected pressed confirmed).2 := by
  refine ⟨?_, ?_, ?_⟩
  · rintro hacts pre a ⟨rest, rfl⟩ hends
    obtain ⟨hpre, ha⟩ := Lib.Machine.meets_append.mp (Lib.Machine.meets_append.mp hacts).1
    have hinv := lossInv_run config hpre
    rw [Lib.Machine.run_append_singleton]
    -- Only the input loop ends a loss.
    cases a with
    | receive plane r =>
      cases plane with
      | input => exact hinv.lossReported (inputMove _ r) ha.1 hends.1 hends.2
      | control => exact hends.elim
    | _ => exact hends.elim
  · intro hlost hclient r
    rw [Lib.Machine.run_append_singleton]
    exact unreported_of_lost config r hlost hclient
  · intro c pressed confirmed hstarted hpressed hrelease
    exact DisconnectResyncCoordinator.handleLinkState_disconnected hstarted hpressed hrelease
      pressed confirmed

/-! ### A server and a client -/

/-- Whether a step reports can be looked up. -/
instance decidableReports (s : TransportThreads) : ∀ a, Decidable (Reports s a)
  | .connect => .isTrue trivial
  | .disconnect => .isTrue trivial
  | .receive .control _ => .isTrue trivial
  | .receive .input _ =>
    inferInstanceAs (Decidable (s.input = .lost →
      s.transport.config.isServer = true ∧ s.transport.receiving = true))
  | .caller _ =>
    inferInstanceAs (Decidable (s.caller = .notifyConnected s.lost → s.input.reaccepts = false))

/-- The peer of a server closes the connection, and another one connects. -/
theorem link_loss_reported_reaccept :
    let config : TransportConfig :=
      { remoteHost := [], inputPlanePort := 11241, controlPlanePort := 11242, isServer := true }
    let calls : ConnectCalls :=
      { client := { sock1 := none, sock2 := none, connect1 := false, connect2 := false }
        server :=
          { listen1 := some 3
            listen2 := some 4
            bind1 := true
            bind2 := true
            accepted1 := some 5
            accepted2 := some 6 } }
    let closed : ThreadAction :=
      .receive .input { netLen := none, body := false, accepted := some 7 }
    let pre := .connect :: List.replicate 8 (.caller calls) ++ List.replicate 12 closed
    EndsLoss ((threadMachine config).run pre) closed ∧
      LossReported ((threadMachine config).run (pre ++ [closed]))
        ((threadMachine config).run pre).lost := by
  intro config calls closed pre
  -- The server accepts another connection, so the loss is handled to its end.
  have hmeets :
      (threadMachine config).Meets Reports (threadMachine config).init (pre ++ [closed]) := by
    decide +kernel
  have hends : EndsLoss ((threadMachine config).run pre) closed := by
    constructor <;> decide +kernel
  refine ⟨hends, ?_⟩
  exact (link_loss_reported config (pre ++ [closed])).1 hmeets pre closed (List.prefix_refl _) hends

/-- The peer of a client closes the connection. -/
theorem link_loss_unreported :
    ¬ ∀ config (acts : List ThreadAction) a, EndsLoss ((threadMachine config).run acts) a →
      LossReported ((threadMachine config).run (acts ++ [a]))
        ((threadMachine config).run acts).lost := by
  intro hclaim
  let config : TransportConfig :=
    { remoteHost := [], inputPlanePort := 11241, controlPlanePort := 11242, isServer := false }
  let calls : ConnectCalls :=
    { client := { sock1 := some 3, sock2 := some 4, connect1 := true, connect2 := true }
      server :=
        { listen1 := none
          listen2 := none
          bind1 := false
          bind2 := false
          accepted1 := none
          accepted2 := none } }
  let r : ReceiveCalls := { netLen := none, body := false, accepted := none }
  -- The client is connected, and its loop finds the peer gone.
  let acts : List ThreadAction :=
    .connect :: List.replicate 8 (.caller calls) ++ List.replicate 3 (.receive .input r)
  have hlost : ((threadMachine config).run acts).input = .lost := by decide +kernel
  have hclient : ¬ (((threadMachine config).run acts).transport.config.isServer = true ∧
      ((threadMachine config).run acts).transport.receiving = true) := by decide +kernel
  obtain ⟨hends, hunreported⟩ := unreported_of_lost config r hlost hclient
  have hreported := hclaim config acts (.receive .input r) hends
  rw [Lib.Machine.run_append_singleton] at hreported
  exact hunreported hreported

end CrossFlow
