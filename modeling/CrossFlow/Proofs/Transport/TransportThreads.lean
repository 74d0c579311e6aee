import CrossFlow.Core.Transport.TransportThreads
import CrossFlow.Proofs.Transport.TransportImpl

/-!
# `CrossFlow.Proofs.Transport.TransportThreads`: the steps of the threads

* `connect_alone` to `reacceptInput_accept_alone`: the steps of `connect`, `disconnect` and
  `reacceptInput`, with no step of another thread between them, do to the transport what the
  functions of `TransportImpl` do at once, and call the link-state handler with the same states.
* `receiveStep_control_frame`, `inputMove`: what one step of each receive loop does.
* `socketMove`: what it does with the sockets and the link.
-/

set_option autoImplicit false

namespace CrossFlow

open TransportImpl (ConnectCalls)

/-! ### A thread that runs alone -/

/-- The states that the link-state handler was called with, newest first. -/
def notifiedStates (trace : List LinkObservation) : List LinkState :=
  trace.filterMap fun
    | .notified state _ => some state
    | _ => none

/-- A report is one of the states notified. -/
@[simp] theorem notifiedStates_notified (state : LinkState) (connection : Nat)
    (trace : List LinkObservation) :
    notifiedStates (.notified state connection :: trace) = state :: notifiedStates trace := rfl

/-- A change of the link is no report. -/
@[simp] theorem notifiedStates_linkUp (value : Bool) (trace : List LinkObservation) :
    notifiedStates (.linkUp value :: trace) = notifiedStates trace := rfl

namespace TransportThreads

section
variable {config : TransportConfig} {s : TransportThreads}

/-- The steps of a connect alone are the whole call. -/
theorem connect_alone (hidle : s.caller = .idle) (r : ConnectCalls) :
    let s' := (threadMachine config).runFrom s (.connect :: List.replicate 7 (.caller r))
    s'.caller = .idle ∧ s'.transport = (s.transport.connect r).1 ∧
      notifiedStates s'.trace = (s.transport.connect r).2.2 ++ notifiedStates s.trace := by
  by_cases hconnected : s.transport.connected = true
  · simp [threadMachine, step, callerStep, TransportImpl.connect, hidle, hconnected]
  · cases hok : (s.transport.createSockets r).2 with
    | false =>
      simp [threadMachine, step, callerStep, TransportImpl.connect, hidle, hconnected, hok,
        notifyLinkState]
    | true =>
      simp [threadMachine, step, callerStep, TransportImpl.connect, hidle, hconnected, hok,
        notifyLinkState, storeLinkUp]

/-- The receive loops have returned when `disconnect` joins them. -/
theorem disconnect_alone (hidle : s.caller = .idle)
    (hinput : s.input = .returned ∨ s.input = .stopped)
    (hcontrol : s.control = .returned ∨ s.control = .stopped) (r : ConnectCalls) :
    let s' := (threadMachine config).runFrom s (.disconnect :: List.replicate 7 (.caller r))
    s'.caller = .idle ∧ s'.transport = s.transport.disconnect.1 ∧
      notifiedStates s'.trace = s.transport.disconnect.2 ++ notifiedStates s.trace := by
  by_cases hconnected : s.transport.connected = true
  · simp [threadMachine, step, callerStep, TransportImpl.disconnect, hidle, hconnected, hinput,
      hcontrol, notifyLinkState, storeLinkUp]
  · simp [threadMachine, step, callerStep, TransportImpl.disconnect, hidle, hconnected]

/-- The steps that close the old socket alone are that part of the call. -/
theorem reacceptInput_close_alone (hinput : s.input = .closeOld) (r : ReceiveCalls) :
    let s' := (threadMachine config).runFrom s (List.replicate 3 (.receive .input r))
    s'.input = .loadListen ∧ s'.transport = s.transport.reacceptInput_close.1 ∧
      notifiedStates s'.trace = s.transport.reacceptInput_close.2 ++ notifiedStates s.trace := by
  simp [threadMachine, step, receiveStep, loop, goto, hinput, linkStep, notifyLinkState,
    storeLinkUp, TransportImpl.reacceptInput_close, TransportImpl.closeInput,
    TransportImpl.setSocket, TransportImpl.socket]

/-- The steps that accept a new socket alone are that part of the call. -/
theorem reacceptInput_accept_alone (hinput : s.input = .loadListen) (r : ReceiveCalls) :
    let s' := (threadMachine config).runFrom s (List.replicate 6 (.receive .input r))
    let result := s.transport.reacceptInput_accept r.accepted
    s'.input = (if result.2.1 then .check else .returned) ∧ s'.transport = result.1 ∧
      notifiedStates s'.trace = result.2.2 ++ notifiedStates s.trace := by
  have hfd : s.transport.listenSocket .input = s.transport.listenInputSocket := rfl
  cases haccepted : TransportImpl.acceptConnection s.transport.listenInputSocket r.accepted with
  | none =>
    simp [threadMachine, step, receiveStep, loop, goto, hinput, hfd, haccepted,
      TransportImpl.reacceptInput_accept]
  | some newFd =>
    by_cases hreceiving : s.transport.receiving = true
    · simp [threadMachine, step, receiveStep, loop, goto, hinput, hfd, haccepted, hreceiving,
        installConnection, linkStep, notifyLinkState, storeLinkUp, TransportImpl.setSocket,
        TransportImpl.reacceptInput_accept]
    · simp [threadMachine, step, receiveStep, loop, goto, hinput, hfd, haccepted, hreceiving,
        TransportImpl.reacceptInput_accept]

end

end TransportThreads

/-! ### The receive loops -/

/-- What a loop is doing: it reads from its connection, has found it lost, has cleared `linkUp` as
well, has called the handler as well, or has a new connection. -/
inductive LossPhase where
  | stopped
  | reading
  | found
  | lowered
  | reported
  | renewed
  | returned
  deriving DecidableEq

/-- How far a loop is with a loss. -/
def ReceivePc.phase : ReceivePc → LossPhase
  | .stopped => .stopped
  | .check | .load | .header _ | .body _ _ | .deliver => .reading
  | .lost | .closeOld | .lowerLink => .found
  | .notifyDisconnected => .lowered
  | .loadListen | .accept _ | .recheck _ | .install _ => .reported
  | .raiseLink | .notifyConnected => .renewed
  | .returned => .returned

namespace TransportThreads

/-- A step that is not seen, and of no concern to the thread that calls. -/
structure SameLink (s s' : TransportThreads) : Prop where
  caller : s'.caller = s.caller
  connected : s'.transport.connected = s.transport.connected
  connections : s'.connections = s.connections
  lost : s'.lost = s.lost
  trace : s'.trace = s.trace

/-- Nothing is changed. -/
theorem SameLink.refl (s : TransportThreads) : SameLink s s := ⟨rfl, rfl, rfl, rfl, rfl⟩

/-- Closing a socket leaves the flag. -/
theorem connected_closeSocket (t : TransportImpl) (fd : SocketFd) :
    (t.closeSocket fd).connected = t.connected :=
  (TransportImpl.sameFlags_closeSocket (.refl t) fd).connected

/-- The control loop is of no concern to the other two threads. -/
theorem receiveStep_control_frame (s : TransportThreads) (r : ReceiveCalls) :
    SameLink s (s.receiveStep .control r) ∧ (s.receiveStep .control r).input = s.input := by
  have hloop : s.loop .control = s.control := rfl
  have hsame : SameLink s s := .refl s
  have hgoto : ∀ pc, SameLink s (s.goto pc .control) := fun _ => ⟨rfl, rfl, rfl, rfl, rfl⟩
  have hlose : SameLink s (s.loseConnection .control) := ⟨rfl, rfl, rfl, rfl, rfl⟩
  unfold receiveStep
  cases hpc : s.control with
  -- These are the steps of `linkStep`, which does nothing for the control loop.
  | stopped | returned | lowerLink | notifyDisconnected | raiseLink | notifyConnected =>
    rw [hloop, hpc]
    exact ⟨hsame, rfl⟩
  | check | load | deliver | lost | loadListen =>
    rw [hloop, hpc]
    exact ⟨hgoto _, rfl⟩
  | header fd =>
    rw [hloop, hpc]
    dsimp only
    split
    · exact ⟨hlose, rfl⟩
    · split
      · exact ⟨hlose, rfl⟩
      · exact ⟨hgoto _, rfl⟩
  | body fd len =>
    rw [hloop, hpc]
    dsimp only
    split
    · exact ⟨hlose, rfl⟩
    · exact ⟨hgoto _, rfl⟩
  | closeOld =>
    rw [hloop, hpc]
    exact ⟨⟨rfl, connected_closeSocket _ _, rfl, rfl, rfl⟩, rfl⟩
  | accept listenFd =>
    rw [hloop, hpc]
    dsimp only
    split
    · exact ⟨hgoto _, rfl⟩
    · exact ⟨hgoto _, rfl⟩
  | recheck newFd =>
    rw [hloop, hpc]
    dsimp only
    split
    · exact ⟨hgoto _, rfl⟩
    · exact ⟨⟨rfl, connected_closeSocket _ (some newFd), rfl, rfl, rfl⟩, rfl⟩
  | install newFd =>
    rw [hloop, hpc]
    exact ⟨⟨rfl, rfl, rfl, rfl, rfl⟩, rfl⟩

/-- What a step of the input loop does. -/
inductive InputMove (s : TransportThreads) : TransportThreads → Prop where
  | quiet {s' : TransportThreads} (hsame : SameLink s s')
      (hphase : s'.input.phase = s.input.phase) : InputMove s s'
  | returns {s' : TransportThreads} (hsame : SameLink s s') (hinput : s'.input = .returned)
      (hfrom : s.input.phase = .reading ∨ s.input.phase = .reported ∨
        s.input = .lost ∧ ¬ (s.transport.config.isServer = true ∧ s.transport.receiving = true)) :
      InputMove s s'
  | loses (hphase : s.input.phase = .reading) : InputMove s (s.loseConnection .input)
  | lowers (hinput : s.input = .lowerLink) : InputMove s (s.linkStep .lowerLink .input)
  | notifies (hinput : s.input = .notifyDisconnected) :
      InputMove s (s.linkStep .notifyDisconnected .input)
  | renews (newFd : Nat) (hinput : s.input = .install newFd) :
      InputMove s (s.installConnection newFd .input)
  | raises (hinput : s.input = .raiseLink) : InputMove s (s.linkStep .raiseLink .input)
  | goesOn (hinput : s.input = .notifyConnected) : InputMove s (s.linkStep .notifyConnected .input)

/-- What a step of the input loop can do. -/
theorem inputMove (s : TransportThreads) (r : ReceiveCalls) :
    InputMove s (s.receiveStep .input r) := by
  have hloop : s.loop .input = s.input := rfl
  have hgoto : ∀ pc, SameLink s (s.goto pc .input) := fun _ => ⟨rfl, rfl, rfl, rfl, rfl⟩
  unfold receiveStep
  cases hpc : s.input with
  | stopped | returned =>
    rw [hloop, hpc]
    exact .quiet (.refl s) rfl
  | check =>
    rw [hloop, hpc]
    dsimp only
    split
    · exact .quiet (hgoto _) (by rw [hpc]; rfl)
    · -- `receiving` was cleared: the loop ends.
      exact .returns (hgoto _) rfl (.inl (by rw [hpc]; rfl))
  | load =>
    rw [hloop, hpc]
    exact .quiet (hgoto _) (by rw [hpc]; rfl)
  | header fd =>
    have hreading : s.input.phase = .reading := by rw [hpc]; rfl
    rw [hloop, hpc]
    dsimp only
    split
    · exact .loses hreading
    · split
      · exact .loses hreading
      · exact .quiet (hgoto _) hreading.symm
  | body fd len =>
    have hreading : s.input.phase = .reading := by rw [hpc]; rfl
    rw [hloop, hpc]
    dsimp only
    split
    · exact .loses hreading
    · exact .quiet (hgoto _) hreading.symm
  | deliver =>
    rw [hloop, hpc]
    exact .quiet ⟨rfl, rfl, rfl, rfl, rfl⟩ (by rw [hpc]; rfl)
  | lost =>
    rw [hloop, hpc]
    dsimp only
    split
    · exact .quiet (hgoto _) (by rw [hpc]; rfl)
    · -- A client does not accept again.
      next hclient => exact .returns (hgoto _) rfl (.inr (.inr ⟨hpc, hclient⟩))
  | closeOld =>
    rw [hloop, hpc]
    exact .quiet ⟨rfl, connected_closeSocket _ _, rfl, rfl, rfl⟩ (by rw [hpc]; rfl)
  | lowerLink =>
    rw [hloop, hpc]
    exact .lowers hpc
  | notifyDisconnected =>
    rw [hloop, hpc]
    exact .notifies hpc
  | loadListen =>
    rw [hloop, hpc]
    exact .quiet (hgoto _) (by rw [hpc]; rfl)
  | accept listenFd =>
    have hreported : s.input.phase = .reported := by rw [hpc]; rfl
    rw [hloop, hpc]
    dsimp only
    split
    · exact .returns (hgoto _) rfl (.inr (.inl hreported))
    · exact .quiet (hgoto _) hreported.symm
  | recheck newFd =>
    have hreported : s.input.phase = .reported := by rw [hpc]; rfl
    rw [hloop, hpc]
    dsimp only
    split
    · exact .quiet (hgoto _) hreported.symm
    · -- `disconnect` came between: the connection is closed, and the loop ends.
      have hclosed := connected_closeSocket s.transport (some newFd)
      exact .returns ⟨rfl, hclosed, rfl, rfl, rfl⟩ rfl (.inr (.inl hreported))
  | install newFd =>
    rw [hloop, hpc]
    exact .renews newFd hpc
  | raiseLink =>
    rw [hloop, hpc]
    exact .raises hpc
  | notifyConnected =>
    rw [hloop, hpc]
    exact .goesOn hpc

/-! ### The sockets -/

end TransportThreads

/-- The descriptor that only the loop knows of: it is accepted, and not in its field yet. -/
def ReceivePc.held : ReceivePc → Option Nat
  | .recheck newFd | .install newFd => some newFd
  | _ => none

/-- The old connection of the plane is closed, and there is no new one in its field yet. -/
def ReceivePc.closedOld : ReceivePc → Bool
  | .lowerLink | .notifyDisconnected | .loadListen | .accept _ | .recheck _ | .install _ => true
  | _ => false

/-- The input loop has lowered the link, and has not raised it again yet. -/
def ReceivePc.lowered : ReceivePc → Bool
  | .notifyDisconnected | .loadListen | .accept _ | .recheck _ | .install _ | .raiseLink => true
  | _ => false

/-- The input loop has seen that it is to receive, and raises the link next. -/
def ReceivePc.renews : ReceivePc → Bool
  | .install _ | .raiseLink => true
  | _ => false

namespace TransportThreads

/-- What a step of the loop of `plane` leaves. It goes on at `pc`. -/
structure LoopStep (s s' : TransportThreads) (plane : Plane) (pc : ReceivePc) : Prop where
  caller : s'.caller = s.caller
  connected : s'.transport.connected = s.transport.connected
  receiving : s'.transport.receiving = s.transport.receiving
  listenSocket : s'.transport.listenSocket = s.transport.listenSocket
  loop : s'.loop plane = pc
  otherLoop : ∀ p, p ≠ plane → s'.loop p = s.loop p
  otherSocket : ∀ p, p ≠ plane → s'.transport.socket p = s.transport.socket p

/-- The socket of the plane stays, and nothing is closed. -/
structure SameSocket (s s' : TransportThreads) (plane : Plane) : Prop where
  socket : s'.transport.socket plane = s.transport.socket plane
  closed : s'.transport.closed = s.transport.closed

/-- What a step of a receive loop does with the sockets and the link. -/
inductive SocketMove (s : TransportThreads) (plane : Plane) (r : ReceiveCalls)
    (s' : TransportThreads) : Prop where
  | keeps (pc : ReceivePc) (hstep : LoopStep s s' plane pc) (hsame : SameSocket s s' plane)
      (hlinkUp : s'.transport.linkUp = s.transport.linkUp)
      (hheld : pc.held = none ∧ (s.loop plane).held = none ∨ pc = s.loop plane)
      (hclosedOld : pc.closedOld = true → (s.loop plane).closedOld = true)
      (hlowered : pc.lowered = true → (s.loop plane).lowered = true)
      (hrenews : pc.renews = true → (s.loop plane).renews = true)
  | closesOld (pc : ReceivePc) (hfrom : s.loop plane = .closeOld) (hstep : LoopStep s s' plane pc)
      (hsocket : s'.transport.socket plane = none)
      (hclosed :
        s'.transport.closed = (s.transport.socket plane).toList ++ s.transport.closed)
      (hlinkUp : s'.transport.linkUp = s.transport.linkUp)
      (hpc : pc.held = none ∧ pc.renews = false ∧ (plane = .input → pc.lowered = false))
  | lowers (hfrom : s.loop plane = .lowerLink) (hstep : LoopStep s s' plane .notifyDisconnected)
      (hsame : SameSocket s s' plane) (hlinkUp : s'.transport.linkUp = false)
  | accepts (newFd listenFd : Nat) (hfrom : s.loop plane = .accept (some listenFd))
      (haccepted : r.accepted = some newFd) (hstep : LoopStep s s' plane (.recheck newFd))
      (hsame : SameSocket s s' plane) (hlinkUp : s'.transport.linkUp = s.transport.linkUp)
  | passes (newFd : Nat) (hfrom : s.loop plane = .recheck newFd)
      (hreceiving : s.transport.receiving = true) (hstep : LoopStep s s' plane (.install newFd))
      (hsame : SameSocket s s' plane) (hlinkUp : s'.transport.linkUp = s.transport.linkUp)
  | rejects (newFd : Nat) (hfrom : s.loop plane = .recheck newFd)
      (hstep : LoopStep s s' plane .returned)
      (hsocket : s'.transport.socket plane = s.transport.socket plane)
      (hclosed : s'.transport.closed = newFd :: s.transport.closed)
      (hlinkUp : s'.transport.linkUp = s.transport.linkUp)
  | installs (newFd : Nat) (pc : ReceivePc) (hfrom : s.loop plane = .install newFd)
      (hstep : LoopStep s s' plane pc) (hsocket : s'.transport.socket plane = some newFd)
      (hclosed : s'.transport.closed = s.transport.closed)
      (hlinkUp : s'.transport.linkUp = s.transport.linkUp)
      (hpc : pc.held = none ∧ pc.closedOld = false)
  | raises (hplane : plane = .input) (hfrom : s.loop plane = .raiseLink)
      (hstep : LoopStep s s' plane .notifyConnected) (hsame : SameSocket s s' plane)

/-- Closing a socket adds it to the closed, if there is one. -/
theorem closeSocket_eq (t : TransportImpl) (fd : SocketFd) :
    t.closeSocket fd = { t with closed := fd.toList ++ t.closed } := by
  cases fd <;> rfl

/-- The other plane is the control plane. -/
theorem forall_ne_input {P : Plane → Prop} (h : P .control) : ∀ p, p ≠ .input → P p := by
  intro p hp
  cases p with
  | input => exact absurd rfl hp
  | control => exact h

/-- The other plane is the input plane. -/
theorem forall_ne_control {P : Plane → Prop} (h : P .input) : ∀ p, p ≠ .control → P p := by
  intro p hp
  cases p with
  | input => exact h
  | control => exact absurd rfl hp

/-- A jump is a step of its loop. -/
theorem loopStep_goto (s : TransportThreads) (pc : ReceivePc) (plane : Plane) :
    LoopStep s (s.goto pc plane) plane pc := by
  cases plane with
  | input => exact ⟨rfl, rfl, rfl, rfl, rfl, forall_ne_input rfl, fun _ _ => rfl⟩
  | control => exact ⟨rfl, rfl, rfl, rfl, rfl, forall_ne_control rfl, fun _ _ => rfl⟩

/-- A jump leaves the transport. -/
@[simp] theorem transport_goto (s : TransportThreads) (pc : ReceivePc) (plane : Plane) :
    (s.goto pc plane).transport = s.transport := by
  cases plane <;> rfl

/-- A jump leaves the sockets. -/
theorem sameSocket_goto (s : TransportThreads) (pc : ReceivePc) (plane : Plane) :
    SameSocket s (s.goto pc plane) plane := by
  constructor
  · rw [transport_goto]
  · rw [transport_goto]

/-- A jump that gains nothing is a move. -/
theorem socketMove_goto {s : TransportThreads} {plane : Plane} (r : ReceiveCalls) (pc : ReceivePc)
    (hheld : pc.held = none ∧ (s.loop plane).held = none)
    (hclosedOld : pc.closedOld = true → (s.loop plane).closedOld = true)
    (hlowered : pc.lowered = true → (s.loop plane).lowered = true)
    (hrenews : pc.renews = false) : SocketMove s plane r (s.goto pc plane) := by
  refine .keeps pc (loopStep_goto s pc plane) (sameSocket_goto s pc plane) ?_ (.inl hheld)
    hclosedOld hlowered ?_
  · rw [transport_goto]
  · intro h
    exact absurd (hrenews.symm.trans h) Bool.false_ne_true

/-- Staying is a move. -/
theorem socketMove_same (s : TransportThreads) (plane : Plane) (r : ReceiveCalls) :
    SocketMove s plane r s :=
  .keeps (s.loop plane) ⟨rfl, rfl, rfl, rfl, rfl, fun _ _ => rfl, fun _ _ => rfl⟩ ⟨rfl, rfl⟩ rfl
    (.inr rfl) id id id

/-- Losing a connection is a move. -/
theorem socketMove_lose {s : TransportThreads} {plane : Plane} (r : ReceiveCalls)
    (hheld : (s.loop plane).held = none) : SocketMove s plane r (s.loseConnection plane) := by
  have hstep : LoopStep s (s.loseConnection plane) plane .lost := by
    have hgoto := loopStep_goto s .lost plane
    cases plane with
    | input => exact ⟨rfl, rfl, rfl, rfl, rfl, hgoto.otherLoop, fun _ _ => rfl⟩
    | control => exact hgoto
  have htransport : (s.loseConnection plane).transport = s.transport := by cases plane <;> rfl
  refine .keeps .lost hstep ⟨?_, ?_⟩ ?_ (.inl ⟨rfl, hheld⟩) nofun nofun nofun
  · rw [htransport]
  · rw [htransport]
  · rw [htransport]

/-- Closing the old socket is a move. -/
theorem socketMove_closeOld {s : TransportThreads} {plane : Plane} (r : ReceiveCalls)
    (hpc : s.loop plane = .closeOld) : SocketMove s plane r (s.receiveStep plane r) := by
  rw [receiveStep, hpc]
  dsimp only
  rw [closeSocket_eq]
  cases plane with
  | input =>
    exact .closesOld .lowerLink hpc ⟨rfl, rfl, rfl, rfl, rfl, forall_ne_input rfl,
      forall_ne_input rfl⟩ rfl rfl rfl ⟨rfl, rfl, fun _ => rfl⟩
  | control =>
    exact .closesOld .loadListen hpc ⟨rfl, rfl, rfl, rfl, rfl, forall_ne_control rfl,
      forall_ne_control rfl⟩ rfl rfl rfl ⟨rfl, rfl, nofun⟩

/-- Installing a new socket is a move. -/
theorem socketMove_install {s : TransportThreads} {plane : Plane} (r : ReceiveCalls) {newFd : Nat}
    (hpc : s.loop plane = .install newFd) : SocketMove s plane r (s.receiveStep plane r) := by
  rw [receiveStep, hpc]
  dsimp only
  cases plane with
  | input =>
    exact .installs newFd .raiseLink hpc ⟨rfl, rfl, rfl, rfl, rfl, forall_ne_input rfl,
      forall_ne_input rfl⟩ rfl rfl rfl ⟨rfl, rfl⟩
  | control =>
    exact .installs newFd .check hpc ⟨rfl, rfl, rfl, rfl, rfl, forall_ne_control rfl,
      forall_ne_control rfl⟩ rfl rfl rfl ⟨rfl, rfl⟩

/-- The steps that are those of `linkStep` leave the control loop as it is. -/
theorem socketMove_linkStep {s : TransportThreads} {plane : Plane} (r : ReceiveCalls)
    {pc : ReceivePc} (hpc : s.loop plane = pc)
    (hlink : pc = .lowerLink ∨ pc = .notifyDisconnected ∨ pc = .raiseLink ∨ pc = .notifyConnected) :
    SocketMove s plane r (s.linkStep pc plane) := by
  cases plane with
  | control => exact socketMove_same s .control r
  | input =>
    -- Only the first and the third change the link.
    rcases hlink with rfl | rfl | rfl | rfl
    · exact .lowers hpc ⟨rfl, rfl, rfl, rfl, rfl, forall_ne_input rfl, forall_ne_input rfl⟩
        ⟨rfl, rfl⟩ rfl
    · exact .keeps .loadListen ⟨rfl, rfl, rfl, rfl, rfl, forall_ne_input rfl, fun _ _ => rfl⟩
        ⟨rfl, rfl⟩ rfl (.inl ⟨rfl, by rw [hpc]; rfl⟩)
        (fun _ => by rw [hpc]; rfl) (fun _ => by rw [hpc]; rfl) nofun
    · exact .raises rfl hpc ⟨rfl, rfl, rfl, rfl, rfl, forall_ne_input rfl, forall_ne_input rfl⟩
        ⟨rfl, rfl⟩
    · exact .keeps .check ⟨rfl, rfl, rfl, rfl, rfl, forall_ne_input rfl, fun _ _ => rfl⟩
        ⟨rfl, rfl⟩ rfl (.inl ⟨rfl, by rw [hpc]; rfl⟩)
        nofun nofun nofun

/-- What a step of a loop can do to its socket. -/
theorem socketMove (s : TransportThreads) (plane : Plane) (r : ReceiveCalls) :
    SocketMove s plane r (s.receiveStep plane r) := by
  unfold receiveStep
  cases hpc : s.loop plane with
  | stopped | returned => exact socketMove_same s plane r
  | check =>
    dsimp only
    split
    · exact socketMove_goto r _ ⟨rfl, by rw [hpc]; rfl⟩ nofun nofun rfl
    · exact socketMove_goto r _ ⟨rfl, by rw [hpc]; rfl⟩ nofun nofun rfl
  | load => exact socketMove_goto r _ ⟨rfl, by rw [hpc]; rfl⟩ nofun nofun rfl
  | header fd =>
    have hheld : (s.loop plane).held = none := by rw [hpc]; rfl
    dsimp only
    split
    · exact socketMove_lose r hheld
    · split
      · exact socketMove_lose r hheld
      · exact socketMove_goto r _ ⟨rfl, hheld⟩ nofun nofun rfl
  | body fd len =>
    have hheld : (s.loop plane).held = none := by rw [hpc]; rfl
    dsimp only
    split
    · exact socketMove_lose r hheld
    · exact socketMove_goto r _ ⟨rfl, hheld⟩ nofun nofun rfl
  | deliver =>
    have hheld : (s.loop plane).held = none := by rw [hpc]; rfl
    dsimp only
    split
    · next hplane =>
      subst hplane
      exact .keeps .check ⟨rfl, rfl, rfl, rfl, rfl, forall_ne_input rfl, fun _ _ => rfl⟩
        ⟨rfl, rfl⟩ rfl (.inl ⟨rfl, hheld⟩) nofun nofun nofun
    · exact socketMove_goto r _ ⟨rfl, hheld⟩ nofun nofun rfl
  | lost =>
    dsimp only
    split
    · exact socketMove_goto r _ ⟨rfl, by rw [hpc]; rfl⟩ nofun nofun rfl
    · exact socketMove_goto r _ ⟨rfl, by rw [hpc]; rfl⟩ nofun nofun rfl
  | closeOld =>
    have hmove := socketMove_closeOld r hpc
    rw [receiveStep, hpc] at hmove
    exact hmove
  | lowerLink => exact socketMove_linkStep r hpc (.inl rfl)
  | notifyDisconnected => exact socketMove_linkStep r hpc (.inr (.inl rfl))
  | loadListen =>
    exact socketMove_goto r _ ⟨rfl, by rw [hpc]; rfl⟩ (fun _ => by rw [hpc]; rfl)
      (fun _ => by rw [hpc]; rfl) rfl
  | accept listenFd =>
    cases listenFd with
    | none => exact socketMove_goto r _ ⟨rfl, by rw [hpc]; rfl⟩ nofun nofun rfl
    | some listenFd =>
      dsimp only [TransportImpl.acceptConnection, Option.isNone]
      cases haccepted : r.accepted with
      | none => exact socketMove_goto r _ ⟨rfl, by rw [hpc]; rfl⟩ nofun nofun rfl
      | some newFd =>
        refine .accepts newFd listenFd hpc haccepted (loopStep_goto s _ plane)
          (sameSocket_goto s _ plane) ?_
        show (s.goto (.recheck newFd) plane).transport.linkUp = s.transport.linkUp
        rw [transport_goto]
  | recheck newFd =>
    dsimp only
    split
    · next hreceiving =>
      refine .passes newFd hpc hreceiving (loopStep_goto s _ plane) (sameSocket_goto s _ plane) ?_
      rw [transport_goto]
    · -- The recheck failed: the accepted socket is closed again.
      have hgoto := loopStep_goto s .returned plane
      cases plane with
      | input =>
        exact .rejects newFd hpc
          ⟨rfl, rfl, rfl, rfl, rfl, hgoto.otherLoop, fun _ _ => rfl⟩ rfl rfl rfl
      | control =>
        exact .rejects newFd hpc
          ⟨rfl, rfl, rfl, rfl, rfl, hgoto.otherLoop, fun _ _ => rfl⟩ rfl rfl rfl
  | install newFd =>
    have hmove := socketMove_install r hpc
    rw [receiveStep, hpc] at hmove
    exact hmove
  | raiseLink => exact socketMove_linkStep r hpc (.inr (.inr (.inl rfl)))
  | notifyConnected => exact socketMove_linkStep r hpc (.inr (.inr (.inr rfl)))

/-- A move is a step of its loop. -/
theorem SocketMove.loopStep {s s' : TransportThreads} {plane : Plane} {r : ReceiveCalls}
    (hmove : SocketMove s plane r s') : LoopStep s s' plane (s'.loop plane) := by
  -- Where the loop goes on is where it is then.
  have hend : ∀ {pc}, LoopStep s s' plane pc → LoopStep s s' plane (s'.loop plane) := by
    intro pc hstep
    rw [hstep.loop]
    exact hstep
  cases hmove with
  | keeps _ hstep | closesOld _ _ hstep | lowers _ hstep | accepts _ _ _ _ hstep
  | passes _ _ _ hstep | rejects _ _ hstep | installs _ _ _ hstep | raises _ _ hstep =>
    exact hend hstep

end TransportThreads

/-! ### A server -/

/-- The configuration of a server. -/
def serverConfig : TransportConfig where
  remoteHost := []
  inputPlanePort := 11241
  controlPlanePort := 11242
  isServer := true

/-- Two peers connect to it. -/
def serverCalls : ConnectCalls where
  client := { sock1 := none, sock2 := none, connect1 := false, connect2 := false }
  server :=
    { listen1 := some 3
      listen2 := some 4
      bind1 := true
      bind2 := true
      accepted1 := some 5
      accepted2 := some 6 }

/-- The peer of the input plane closes its connection, and another one connects. -/
def peerLost : ReceiveCalls where
  netLen := none
  body := false
  accepted := some 7

/-- Some steps of the caller. -/
def callerSteps (n : Nat) : List ThreadAction := List.replicate n (.caller serverCalls)

/-- Some steps of a loop whose peer is lost. -/
def loopSteps (plane : Plane) (n : Nat) : List ThreadAction :=
  List.replicate n (.receive plane peerLost)

end CrossFlow
