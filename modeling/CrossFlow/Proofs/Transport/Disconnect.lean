import CrossFlow.Proofs.Transport.LinkLoss

/-!
# `CrossFlow.Proofs.Transport.Disconnect`: what is left after `disconnect`

A receive loop checks `receiving_` before it stores a new connection and raises the link, and
`disconnect` can run between the check and the two stores.

* `SocketMove.holds`, `SocketInv.receive`: every connection that is open is in a field, or a loop is
  about to store it there.
* `CallerSockets.receive`, `CallerSockets.caller`: what `disconnect` has done at each of its points,
  and what no loop undoes.
* `disconnect_final`: under which conditions nothing is left.
-/

set_option autoImplicit false

namespace CrossFlow

open Lib (Just Since)
open TransportImpl (ConnectCalls ServerCalls)

namespace TransportThreads

/-! ### What has happened -/

/-- The call of `disconnect` returns at the step, at once when there is nothing to disconnect. -/
def DisconnectReturns : TransportThreads × ThreadAction → Prop
  | (s, .caller _) => s.caller = .notifyDisconnected
  | (s, .disconnect) => s.caller = .idle ∧ s.transport.connected = false
  | _ => False

/-- A call of `connect` begins at the step. -/
def ConnectBegins : TransportThreads × ThreadAction → Prop
  | (s, .connect) => s.caller = .idle
  | _ => False

/-- `disconnect` has returned, and there was no new `connect` since then. -/
def Disconnected : List (TransportThreads × ThreadAction) → Prop :=
  Since ConnectBegins (Just DisconnectReturns fun _ => True)

/-- `createServerSockets` calls `::accept`. -/
def listens (r : ServerCalls) : Bool := r.listen1.isSome && r.listen2.isSome && r.bind1 && r.bind2

/-- The connections that `::accept` returns at a step. -/
def accepted (s : TransportThreads) : ThreadAction → List Nat
  | .caller r =>
    if s.caller = .createSockets ∧ s.transport.config.isServer ∧ listens r.server then
      r.server.accepted1.toList ++ r.server.accepted2.toList
    else []
  | .receive plane r =>
    match s.loop plane with
    | .accept (some _) => r.accepted.toList
    | _ => []
  | _ => []

/-- The descriptors that are passed to `::close` at a step. -/
def closes (s : TransportThreads) (a : ThreadAction) : List Nat :=
  (s.step a).transport.closed.take
    ((s.step a).transport.closed.length - s.transport.closed.length)

/-- The connections that were accepted and have not been closed since then. -/
def acceptedOpen : List (TransportThreads × ThreadAction) → List Nat
  | [] => []
  | (s, a) :: past => (accepted s a ++ acceptedOpen past).filter (· ∉ closes s a)

/-- Nothing is left of a connection. -/
structure Final (s : TransportThreads) (past : List (TransportThreads × ThreadAction)) : Prop where
  isConnected : s.transport.isConnected = false
  socket : ∀ plane, s.transport.socket plane = none
  listenSocket : ∀ plane, s.transport.listenSocket plane = none
  accepted : acceptedOpen past = []

/-- A loop that has seen that it is to receive is done with the new connection before `disconnect`
clears the link, and before it closes the sockets. The `disconnect` that finds nothing to disconnect
finds no listening sockets that a failed `connect` left. -/
def Orderly (s : TransportThreads) : ThreadAction → Prop
  | .caller _ =>
    (s.caller = .clearLinkUp → s.input.renews = false) ∧
      (s.caller = .closeSockets → s.control.renews = false)
  | .disconnect =>
    s.caller = .idle → s.transport.connected = false →
      s.transport.listenInputSocket = none ∧ s.transport.listenControlSocket = none
  | _ => True

/-! ### The receive loops -/

namespace SocketMove

variable {s s' : TransportThreads} {plane : Plane} {r : ReceiveCalls}

/-- A loop that is not to receive takes no new connection. -/
theorem renews_of_stop (hmove : SocketMove s plane r s')
    (hreceiving : s.transport.receiving = false) (hrenews : (s.loop plane).renews = false) :
    (s'.loop plane).renews = false := by
  cases hmove with
  | keeps pc hstep _ _ _ _ _ hkept =>
    rw [hstep.loop]
    -- A step that stays in the loop does not come to the part where the link is renewed.
    by_contra hpc
    rw [Bool.not_eq_false] at hpc
    exact Bool.false_ne_true (hrenews.symm.trans (hkept hpc))
  | closesOld pc _ hstep _ _ _ hpc =>
    rw [hstep.loop]
    exact hpc.2.1
  | lowers _ hstep | accepts _ _ _ _ hstep | rejects _ _ hstep | raises _ _ hstep =>
    rw [hstep.loop]
    rfl
  -- The check of `receiving` lets no one pass any more.
  | passes _ _ hreceives =>
    exact absurd (hreceiving.symm.trans hreceives) Bool.false_ne_true
  | installs _ _ hfrom =>
    rw [hfrom] at hrenews
    exact absurd hrenews.symm Bool.false_ne_true

/-- A stopped loop does not raise the link. -/
theorem linkUp_of_stop (hmove : SocketMove s plane r s') (hrenews : s.input.renews = false)
    (hlinkUp : s.transport.linkUp = false) : s'.transport.linkUp = false := by
  cases hmove with
  | keeps _ _ _ hsame | closesOld _ _ _ _ _ hsame | accepts _ _ _ _ _ _ hsame
  | passes _ _ _ _ _ hsame | rejects _ _ _ _ _ hsame | installs _ _ _ _ _ _ hsame =>
    exact hsame.trans hlinkUp
  | lowers _ _ _ hlowered => exact hlowered
  | raises hplane hfrom =>
    subst hplane
    have hinput : s.input = .raiseLink := hfrom
    rw [hinput] at hrenews
    exact absurd hrenews.symm Bool.false_ne_true

/-- A stopped loop installs no socket. -/
theorem socket_of_stop (hmove : SocketMove s plane r s') (hrenews : (s.loop plane).renews = false)
    (hsocket : s.transport.socket plane = none) : s'.transport.socket plane = none := by
  cases hmove with
  | keeps _ _ hsame | lowers _ _ hsame | accepts _ _ _ _ _ hsame | passes _ _ _ _ hsame
  | raises _ _ _ hsame => exact hsame.socket.trans hsocket
  | closesOld _ _ _ hnone => exact hnone
  | rejects _ _ _ hsame => exact hsame.trans hsocket
  | installs _ _ hfrom =>
    rw [hfrom] at hrenews
    exact absurd hrenews.symm Bool.false_ne_true

end SocketMove

/-! ### The connections that are open -/

/-- The descriptor is in a field, or a loop is about to store it there. -/
def Holds (s : TransportThreads) (fd : Nat) : Prop :=
  ∃ plane, s.transport.socket plane = some fd ∨ (s.loop plane).held = some fd

/-- The accepted sockets that are open after one more step. -/
theorem mem_acceptedOpen_cons {s : TransportThreads} {a : ThreadAction}
    {past : List (TransportThreads × ThreadAction)} {fd : Nat} :
    fd ∈ acceptedOpen ((s, a) :: past) ↔
      (fd ∈ accepted s a ∨ fd ∈ acceptedOpen past) ∧ fd ∉ closes s a := by
  simp [acceptedOpen, or_and_right]

/-- What a step closes, read from the list of the closed. -/
theorem closes_of_closed {s : TransportThreads} {a : ThreadAction} {fds : List Nat}
    (h : (s.step a).transport.closed = fds ++ s.transport.closed) : closes s a = fds := by
  simp [closes, h]

/-- Every connection that is open is held. While a loop waits for a new connection its field is
empty, so that the new one replaces none. -/
structure SocketInv (s : TransportThreads) (past : List (TransportThreads × ThreadAction)) :
    Prop where
  held : ∀ fd ∈ acceptedOpen past, s.Holds fd
  closedOld : ∀ plane, (s.loop plane).closedOld = true → s.transport.socket plane = none

variable {s : TransportThreads} {past : List (TransportThreads × ThreadAction)}

/-- The connections that a step accepts, and the ones that were held, are held after it or closed
by it. -/
theorem SocketInv.held_cons (h : SocketInv s past) {a : ThreadAction}
    (hstep : ∀ fd, fd ∈ accepted s a ∨ s.Holds fd → fd ∉ closes s a → (s.step a).Holds fd) :
    ∀ fd ∈ acceptedOpen ((s, a) :: past), (s.step a).Holds fd := by
  intro fd hfd
  obtain ⟨hopen, hclosed⟩ := mem_acceptedOpen_cons.mp hfd
  exact hstep fd (hopen.imp_right (h.held fd)) hclosed

/-- A step that accepts and closes nothing, and leaves what is held. -/
theorem SocketInv.of_same (h : SocketInv s past) {a : ThreadAction} (haccepted : accepted s a = [])
    (hsocket : (s.step a).transport.socket = s.transport.socket)
    (hloop : ∀ plane, (s.step a).loop plane = s.loop plane ∨
      (s.loop plane).held = none ∧ ((s.step a).loop plane).closedOld = false) :
    SocketInv (s.step a) ((s, a) :: past) := by
  constructor
  · refine h.held_cons ?_
    intro fd hfd _
    rw [haccepted] at hfd
    obtain ⟨plane, hplane⟩ := hfd.resolve_left List.not_mem_nil
    refine ⟨plane, ?_⟩
    rw [hsocket]
    -- A loop that the step changes held nothing.
    rcases hloop plane with hsame | ⟨hnone, -⟩
    · rw [hsame]
      exact hplane
    · rw [hnone] at hplane
      exact .inl (hplane.resolve_right (by simp))
  · intro plane hclosedOld
    rw [hsocket]
    rcases hloop plane with hsame | ⟨-, hfalse⟩
    · rw [hsame] at hclosedOld
      exact h.closedOld plane hclosedOld
    · exact absurd (hfalse.symm.trans hclosedOld) Bool.false_ne_true

/-- The loop that waits in `::accept` holds the new connection next. -/
theorem held_of_accepted {plane : Plane} {r : ReceiveCalls} {fd : Nat}
    (hfd : fd ∈ accepted s (.receive plane r)) :
    ((s.receiveStep plane r).loop plane).held = some fd := by
  rw [accepted] at hfd
  split at hfd
  · next listenFd hloop =>
    have haccepted : r.accepted = some fd := by simpa using hfd
    have hstep : s.receiveStep plane r = s.goto (.recheck fd) plane := by
      rw [receiveStep, hloop]
      dsimp only
      rw [haccepted]
      rfl
    rw [hstep, (loopStep_goto s (.recheck fd) plane).loop]
    rfl
  · exact absurd hfd List.not_mem_nil

/-- What the loop of `plane` holds after its step: all that it held or accepted, but for what it
closed. -/
theorem SocketMove.holds {s' : TransportThreads} {plane : Plane} {r : ReceiveCalls} {fd : Nat}
    (hmove : SocketMove s plane r s')
    (hclosedOld : (s.loop plane).closedOld = true → s.transport.socket plane = none)
    (hheld : s.transport.socket plane = some fd ∨ (s.loop plane).held = some fd)
    (hopen :
      fd ∉ s'.transport.closed.take (s'.transport.closed.length - s.transport.closed.length)) :
    s'.transport.socket plane = some fd ∨ (s'.loop plane).held = some fd := by
  -- At a point that holds nothing, it is the field that has the descriptor.
  have hfield : (s.loop plane).held = none → s.transport.socket plane = some fd := by
    intro hnone
    rw [hnone] at hheld
    exact hheld.resolve_right (by simp)
  cases hmove with
  | keeps pc hstep hsame _ hpc =>
    rw [hsame.socket, hstep.loop]
    rcases hpc with ⟨-, hnone⟩ | rfl
    · exact .inl (hfield hnone)
    · exact hheld
  | closesOld _ hfrom _ _ hclosed =>
    have hsocket := hfield (by rw [hfrom]; rfl)
    rw [hclosed, hsocket] at hopen
    simp at hopen
  | lowers hfrom _ hsame | raises _ hfrom _ hsame =>
    rw [hsame.socket]
    exact .inl (hfield (by rw [hfrom]; rfl))
  | accepts _ _ hfrom _ _ hsame =>
    rw [hsame.socket]
    exact .inl (hfield (by rw [hfrom]; rfl))
  | passes newFd hfrom _ hstep hsame =>
    rw [hsame.socket, hstep.loop]
    rw [hfrom] at hheld
    exact hheld
  | rejects newFd hfrom _ hsocket hclosed =>
    rw [hfrom] at hheld hclosedOld
    rw [hclosed] at hopen
    rcases hheld with hfd | hfd
    · exact absurd ((hclosedOld rfl).symm.trans hfd) (by simp)
    · cases hfd
      simp at hopen
  | installs newFd _ hfrom _ hsocket =>
    rw [hfrom] at hheld hclosedOld
    rcases hheld with hfd | hfd
    · exact absurd ((hclosedOld rfl).symm.trans hfd) (by simp)
    · exact .inl (hsocket.trans hfd)

/-- After closing the old socket the loop has none. -/
theorem SocketMove.closedOld {s' : TransportThreads} {plane : Plane} {r : ReceiveCalls}
    (hmove : SocketMove s plane r s')
    (hclosedOld : (s.loop plane).closedOld = true → s.transport.socket plane = none)
    (hwaits : (s'.loop plane).closedOld = true) : s'.transport.socket plane = none := by
  cases hmove with
  -- Waiting for a new connection, the loop has closed the old one.
  | keeps pc hstep hsame _ _ hkept =>
    rw [hstep.loop] at hwaits
    exact hsame.socket.trans (hclosedOld (hkept hwaits))
  | closesOld _ _ _ hnone => exact hnone
  | lowers hfrom _ hsame =>
    exact hsame.socket.trans (hclosedOld (by rw [hfrom]; rfl))
  | accepts _ _ hfrom _ _ hsame =>
    exact hsame.socket.trans (hclosedOld (by rw [hfrom]; rfl))
  | passes _ hfrom _ _ hsame =>
    exact hsame.socket.trans (hclosedOld (by rw [hfrom]; rfl))
  | rejects _ _ hstep | raises _ _ hstep =>
    rw [hstep.loop] at hwaits
    exact absurd hwaits Bool.false_ne_true
  -- A loop that has installed a socket does not wait.
  | installs _ pc _ hstep _ _ _ hpc =>
    rw [hstep.loop, hpc.2] at hwaits
    exact absurd hwaits Bool.false_ne_true

/-- A step of a receive loop keeps the invariant. -/
theorem SocketInv.receive (h : SocketInv s past) (plane : Plane) (r : ReceiveCalls) :
    SocketInv (s.step (.receive plane r)) ((s, .receive plane r) :: past) := by
  have hmove := s.socketMove plane r
  have hstep : LoopStep s (s.step (.receive plane r)) plane _ := hmove.loopStep
  constructor
  · refine h.held_cons ?_
    -- A socket is accepted by this loop, or was held before.
    rintro fd (hfd | ⟨p, hp⟩) hopen
    · exact ⟨plane, .inr (held_of_accepted hfd)⟩
    · refine ⟨p, ?_⟩
      -- The loop that takes the step still holds it, if it did not close it.
      by_cases hplane : p = plane
      · subst hplane
        exact hmove.holds (h.closedOld p) hp hopen
      · rw [hstep.otherSocket p hplane, hstep.otherLoop p hplane]
        exact hp
  · intro p hwaits
    by_cases hplane : p = plane
    · subst hplane
      exact hmove.closedOld (h.closedOld p) hwaits
    · rw [hstep.otherLoop p hplane] at hwaits
      rw [hstep.otherSocket p hplane]
      exact h.closedOld p hwaits

/-! ### `connect` and `disconnect` -/

/-- There is no connection, and no thread that could make one. -/
structure Down (s : TransportThreads) : Prop where
  linkUp : s.transport.linkUp = false
  socket : ∀ plane, s.transport.socket plane = none
  loop : ∀ plane, s.loop plane = .stopped

/-- `disconnect` has cleared the flags, and the input loop does not raise the link again. -/
structure Closing (s : TransportThreads) : Prop where
  connected : s.transport.connected = false
  receiving : s.transport.receiving = false
  linkUp : s.transport.linkUp = false
  input : s.input.renews = false

/-- It has closed the sockets as well. -/
structure Closed (s : TransportThreads) : Prop extends Closing s where
  control : s.control.renews = false
  socket : ∀ plane, s.transport.socket plane = none
  listenSocket : ∀ plane, s.transport.listenSocket plane = none

/-- What holds at each point of the calls of `connect` and `disconnect`. -/
def CallerSockets (s : TransportThreads) : Prop :=
  match s.caller with
  | .idle => s.transport.connected = false → s.Down
  | .createSockets | .notifyFailed => s.transport.connected = false ∧ s.Down
  | .setConnected | .setLinkUp | .setReceiving | .startInput => ∀ plane, s.loop plane = .stopped
  | .startControl _ => s.control = .stopped
  | .notifyConnected _ | .clearConnected => True
  | .clearReceiving => s.transport.connected = false
  | .clearLinkUp => s.transport.connected = false ∧ s.transport.receiving = false
  | .closeSockets => s.Closing
  | .joinInput => s.Closed
  | .joinControl => s.Closed ∧ s.input = .stopped
  | .notifyDisconnected => s.Closed ∧ s.Down

/-- A step of a receive loop leaves a disconnect that is closing. -/
theorem Closing.receive (h : s.Closing) (plane : Plane) (r : ReceiveCalls) :
    (s.receiveStep plane r).Closing := by
  have hmove := s.socketMove plane r
  have hstep := hmove.loopStep
  refine ⟨hstep.connected.trans h.connected, hstep.receiving.trans h.receiving,
    hmove.linkUp_of_stop h.input h.linkUp, ?_⟩
  cases plane with
  | input => exact hmove.renews_of_stop h.receiving h.input
  | control =>
    have hinput : (s.receiveStep .control r).input = s.input := hstep.otherLoop .input (by simp)
    rw [hinput]
    exact h.input

/-- A step of a receive loop leaves the sockets closed. -/
theorem Closed.receive (h : s.Closed) (plane : Plane) (r : ReceiveCalls) :
    (s.receiveStep plane r).Closed := by
  have hmove := s.socketMove plane r
  have hstep := hmove.loopStep
  have hrenews : ∀ p, (s.loop p).renews = false := by
    intro p
    cases p with
    | input => exact h.input
    | control => exact h.control
  -- A closed transport stays closed: no loop installs a socket, and none listens.
  refine ⟨h.toClosing.receive plane r, ?_, ?_, ?_⟩
  · cases plane with
    | control => exact hmove.renews_of_stop h.receiving h.control
    | input =>
      have hcontrol : (s.receiveStep .input r).control = s.control :=
        hstep.otherLoop .control (by simp)
      rw [hcontrol]
      exact h.control
  · intro p
    by_cases hplane : p = plane
    · subst hplane
      exact hmove.socket_of_stop (hrenews p) (h.socket p)
    · exact (hstep.otherSocket p hplane).trans (h.socket p)
  · intro p
    rw [hstep.listenSocket]
    exact h.listenSocket p

/-- A step of a receive loop leaves what the caller holds. -/
theorem CallerSockets.receive (h : s.CallerSockets) (plane : Plane) (r : ReceiveCalls) :
    (s.receiveStep plane r).CallerSockets := by
  by_cases hstopped : s.loop plane = .stopped
  · rw [receiveStep_of_stopped hstopped]
    exact h
  · have hstep := (s.socketMove plane r).loopStep
    unfold CallerSockets at h ⊢
    rw [hstep.caller]
    cases hpc : s.caller with
    | idle =>
      rw [hpc] at h
      -- Between calls the loops are there only while `connected` is set.
      intro hdown
      rw [hstep.connected] at hdown
      exact absurd ((h hdown).loop plane) hstopped
    | createSockets | notifyFailed =>
      rw [hpc] at h
      exact absurd (h.2.loop plane) hstopped
    | setConnected | setLinkUp | setReceiving | startInput =>
      rw [hpc] at h
      exact absurd (h plane) hstopped
    | startControl connection =>
      rw [hpc] at h
      cases plane with
      | input => exact (hstep.otherLoop .control (by simp)).trans h
      | control => exact absurd h hstopped
    | notifyConnected _ | clearConnected => trivial
    | clearReceiving =>
      rw [hpc] at h
      exact hstep.connected.trans h
    | clearLinkUp =>
      rw [hpc] at h
      exact ⟨hstep.connected.trans h.1, hstep.receiving.trans h.2⟩
    | closeSockets =>
      rw [hpc] at h
      exact h.receive plane r
    | joinInput =>
      rw [hpc] at h
      exact h.receive plane r
    | joinControl =>
      rw [hpc] at h
      refine ⟨h.1.receive plane r, ?_⟩
      cases plane with
      | input => exact absurd h.2 hstopped
      | control => exact (hstep.otherLoop .input (by simp)).trans h.2
    | notifyDisconnected =>
      rw [hpc] at h
      exact absurd (h.2.loop plane) hstopped

/-- A call that fails leaves the fields of the connections as they are. The connections that are
accepted are stored there or closed. -/
theorem createSockets_sockets (t : TransportImpl) (r : ConnectCalls) :
    ∃ fds, (t.createSockets r).1.closed = fds ++ t.closed ∧
      ((t.createSockets r).2 = false → (t.createSockets r).1.socket = t.socket) ∧
      (t.config.isServer = true → listens r.server = true →
        ∀ fd ∈ r.server.accepted1.toList ++ r.server.accepted2.toList,
          fd ∈ fds ∨ ∃ plane, (t.createSockets r).1.socket plane = some fd) := by
  unfold TransportImpl.createSockets
  cases hserver : t.config.isServer with
  | false =>
    rw [if_neg Bool.false_ne_true]
    unfold TransportImpl.createClientSockets
    simp only [closeSocket_eq]
    -- A client closes whatever it has opened when a step of the connect fails.
    split
    · exact ⟨_, (List.append_assoc _ _ _).symm, fun _ => rfl, nofun⟩
    · split
      · exact ⟨_, (List.append_assoc _ _ _).symm, fun _ => rfl, nofun⟩
      · split
        · exact ⟨_, (List.append_assoc _ _ _).symm, fun _ => rfl, nofun⟩
        · exact ⟨[], rfl, nofun, nofun⟩
  -- A server has its listening sockets closed or in their fields.
  | true =>
    rw [if_pos rfl]
    unfold TransportImpl.createServerSockets
    simp only [closeSocket_eq]
    split
    · next hsockets =>
      refine ⟨_, (List.append_assoc _ _ _).symm, fun _ => rfl, fun _ hlistens => ?_⟩
      rcases hsockets with hnone | hnone <;> simp_all [listens]
    · split
      · next hbind =>
        refine ⟨_, (List.append_assoc _ _ _).symm, fun _ => rfl, fun _ hlistens => ?_⟩
        rcases hbind with hfails | hfails <;> simp_all [listens]
      · split
        · refine ⟨_, (List.append_assoc _ _ _).symm, fun _ => rfl, fun _ _ fd hfd => .inl ?_⟩
          exact List.mem_append.mpr (List.mem_append.mp hfd).symm
        · -- Both accepts succeeded, and the sockets are in their fields.
          refine ⟨[], rfl, nofun, fun _ _ fd hfd => .inr ?_⟩
          rcases List.mem_append.mp hfd with hfd | hfd
          · exact ⟨.input, Option.mem_toList.mp hfd⟩
          · exact ⟨.control, Option.mem_toList.mp hfd⟩

/-- The loop that is joined holds nothing. -/
theorem held_of_done {pc : ReceivePc} (h : pc = .returned ∨ pc = .stopped) : pc.held = none := by
  rcases h with rfl | rfl
  · rfl
  · rfl

/-- All four sockets are closed. -/
theorem closeSockets_closed (t : TransportImpl) :
    t.closeSockets.closed = t.listenControlSocket.toList ++ t.listenInputSocket.toList ++
      t.controlSocket.toList ++ t.inputSocket.toList ++ t.closed := by
  simp [TransportImpl.closeSockets, closeSocket_eq]

/-- Closing the sockets leaves the flag of the loops. -/
theorem closeSockets_receiving (t : TransportImpl) : t.closeSockets.receiving = t.receiving := by
  simp [TransportImpl.closeSockets, closeSocket_eq]

/-- The connections that `connect` accepts are held or closed at once. -/
theorem SocketInv.createSockets (h : SocketInv s past) (hpc : s.caller = .createSockets)
    (hdown : s.Down) (r : ConnectCalls) :
    SocketInv (s.step (.caller r)) ((s, .caller r) :: past) := by
  obtain ⟨fds, hclosed, -, haccepted⟩ := createSockets_sockets s.transport r
  have hstep : s.step (.caller r) = s.callerStep r := rfl
  have htransport : (s.step (.caller r)).transport = (s.transport.createSockets r).1 := by
    rw [hstep, callerStep, hpc]
    dsimp only
    split <;> rfl
  have hloop : (s.step (.caller r)).loop = s.loop := by
    rw [hstep, callerStep, hpc]
    dsimp only
    split <;> rfl
  constructor
  · refine h.held_cons ?_
    rintro fd (hfd | ⟨plane, hholds⟩) hopen
    · -- A socket that is accepted is closed at once or installed.
      rw [closes_of_closed (htransport ▸ hclosed)] at hopen
      rw [accepted] at hfd
      split at hfd
      · next hserver =>
        obtain ⟨plane, hplane⟩ :=
          (haccepted hserver.2.1 hserver.2.2 fd hfd).resolve_left hopen
        exact ⟨plane, .inl (htransport ▸ hplane)⟩
      · exact absurd hfd List.not_mem_nil
    · -- Nothing was held before.
      rw [hdown.socket, hdown.loop] at hholds
      exact absurd hholds (by simp [ReceivePc.held])
  · intro plane hwaits
    rw [hloop, hdown.loop] at hwaits
    exact absurd hwaits Bool.false_ne_true

/-- `disconnect` closes the connections that are in the fields. -/
theorem SocketInv.closeSockets (h : SocketInv s past) (hpc : s.caller = .closeSockets)
    (r : ConnectCalls) : SocketInv (s.step (.caller r)) ((s, .caller r) :: past) := by
  have hstep : s.step (.caller r) = s.callerStep r := rfl
  have htransport : (s.step (.caller r)).transport = s.transport.closeSockets := by
    rw [hstep, callerStep, hpc]
  have hloop : (s.step (.caller r)).loop = s.loop := by
    rw [hstep, callerStep, hpc]
    rfl
  have hsocket : ∀ plane, (s.step (.caller r)).transport.socket plane = none := by
    intro plane
    rw [htransport]
    cases plane <;> rfl
  constructor
  · refine h.held_cons ?_
    rintro fd (hfd | ⟨plane, hholds⟩) hopen
    · simp [accepted, hpc] at hfd
    · refine ⟨plane, .inr ?_⟩
      rw [hloop]
      -- What is in a field is closed, so the loop is the one that holds it.
      refine hholds.resolve_left fun hfield => hopen ?_
      rw [closes_of_closed (htransport ▸ closeSockets_closed s.transport)]
      cases plane with
      | input =>
        have hinput : s.transport.inputSocket = some fd := hfield
        simp [hinput]
      | control =>
        have hcontrol : s.transport.controlSocket = some fd := hfield
        simp [hcontrol]
  · exact fun plane _ => hsocket plane

/-- A step of the caller keeps the invariant. -/
theorem SocketInv.caller (h : SocketInv s past) (hcaller : s.CallerSockets) (r : ConnectCalls) :
    SocketInv (s.step (.caller r)) ((s, .caller r) :: past) := by
  have hstep : s.step (.caller r) = s.callerStep r := rfl
  unfold CallerSockets at hcaller
  cases hpc : s.caller with
  | idle =>
    have hsame : s.step (.caller r) = s := by rw [hstep, callerStep, hpc]
    refine h.of_same (by simp [accepted, hpc]) ?_ fun plane => .inl ?_
    · rw [hsame]
    · rw [hsame]
  | notifyFailed | setConnected | setLinkUp | setReceiving | notifyConnected _ | clearConnected
  | clearReceiving | clearLinkUp | notifyDisconnected =>
    -- These steps change flags and report, and no socket.
    refine h.of_same (by simp [accepted, hpc]) ?_ fun plane => .inl ?_
    · rw [hstep, callerStep, hpc]
      rfl
    · rw [hstep, callerStep, hpc]
      rfl
  | createSockets =>
    rw [hpc] at hcaller
    exact h.createSockets hpc hcaller.2 r
  | startInput =>
    rw [hpc] at hcaller
    -- The loop starts with nothing held.
    refine h.of_same (by simp [accepted, hpc]) ?_ ?_
    · rw [hstep, callerStep, hpc]
    · intro plane
      rw [hstep, callerStep, hpc, hcaller plane]
      cases plane with
      | input => exact .inr ⟨rfl, rfl⟩
      | control => exact .inl (hcaller .control)
  | startControl connection =>
    rw [hpc] at hcaller
    refine h.of_same (by simp [accepted, hpc]) ?_ ?_
    · rw [hstep, callerStep, hpc]
    · intro plane
      rw [hstep, callerStep, hpc]
      cases plane with
      | input => exact .inl rfl
      | control =>
        have hcontrol : s.loop .control = .stopped := hcaller
        rw [hcontrol]
        exact .inr ⟨rfl, rfl⟩
  | closeSockets => exact h.closeSockets hpc r
  | joinInput =>
    refine h.of_same (by simp [accepted, hpc]) ?_ ?_
    · rw [hstep, callerStep, hpc]
      dsimp only
      split <;> rfl
    · intro plane
      rw [hstep, callerStep, hpc]
      dsimp only
      split
      · -- The loop has returned, and held nothing any more.
        next hdone =>
        cases plane with
        | input =>
          exact .inr ⟨held_of_done hdone, rfl⟩
        | control => exact .inl rfl
      · exact .inl rfl
  | joinControl =>
    refine h.of_same (by simp [accepted, hpc]) ?_ ?_
    · rw [hstep, callerStep, hpc]
      dsimp only
      split <;> rfl
    · intro plane
      rw [hstep, callerStep, hpc]
      dsimp only
      split
      · next hdone =>
        cases plane with
        | input => exact .inl rfl
        | control =>
          exact .inr ⟨held_of_done hdone, rfl⟩
      · exact .inl rfl

/-- An orderly step of the caller keeps what it holds. -/
theorem CallerSockets.caller (h : s.CallerSockets) (hreport : s.ReportInv) {r : ConnectCalls}
    (horderly : Orderly s (.caller r)) : (s.callerStep r).CallerSockets := by
  unfold CallerSockets at h
  unfold callerStep
  cases hpc : s.caller with
  | idle =>
    rw [CallerSockets, hpc]
    rw [hpc] at h
    exact h
  | createSockets =>
    rw [hpc] at h
    obtain ⟨-, -, hsocket, -⟩ := createSockets_sockets s.transport r
    have hflags := (s.transport.createSockets_spec r).1
    dsimp only
    split
    · -- The sockets of a connect that fails are closed, and there were none before.
      next hfails =>
      rw [Bool.not_eq_true'] at hfails
      refine ⟨hflags.connected.trans h.1, hflags.linkUp.trans h.2.linkUp, ?_, h.2.loop⟩
      intro plane
      show (s.transport.createSockets r).1.socket plane = none
      rw [hsocket hfails]
      exact h.2.socket plane
    · exact h.2.loop
  | notifyFailed =>
    rw [hpc] at h
    exact fun _ => ⟨h.2.linkUp, h.2.socket, h.2.loop⟩
  | setConnected | setLinkUp | setReceiving =>
    rw [hpc] at h
    exact h
  | startInput =>
    rw [hpc] at h
    exact h .control
  | startControl connection => trivial
  | notifyConnected connection =>
    intro hdown
    have hup := hreport.caller
    rw [CallerInv, hpc] at hup
    exact absurd (hdown.symm.trans hup.1) Bool.false_ne_true
  | clearConnected => rfl
  | clearReceiving =>
    rw [hpc] at h
    exact ⟨h, rfl⟩
  | clearLinkUp =>
    rw [hpc] at h
    -- The condition says that the input loop is not about to raise the link again.
    exact ⟨h.1, h.2, rfl, horderly.1 hpc⟩
  | closeSockets =>
    rw [hpc] at h
    have hflags := TransportImpl.sameFlags_closeSockets s.transport
    have hreceiving := closeSockets_receiving s.transport
    refine ⟨⟨hflags.connected.trans h.connected, hreceiving.trans h.receiving,
      -- The condition says that the control loop installs no socket any more.
      hflags.linkUp.trans h.linkUp, h.input⟩, horderly.2 hpc, ?_, ?_⟩
    · intro plane
      cases plane <;> rfl
    · intro plane
      cases plane <;> rfl
  | joinInput =>
    rw [hpc] at h
    dsimp only
    split
    · exact ⟨⟨⟨h.connected, h.receiving, h.linkUp, rfl⟩, h.control, h.socket, h.listenSocket⟩, rfl⟩
    · rw [CallerSockets, hpc]
      exact h
  | joinControl =>
    rw [hpc] at h
    dsimp only
    split
    · refine ⟨⟨⟨h.1.connected, h.1.receiving, h.1.linkUp, h.1.input⟩, rfl, h.1.socket,
        h.1.listenSocket⟩, h.1.linkUp, h.1.socket, ?_⟩
      intro plane
      cases plane with
      | input => exact h.2
      | control => rfl
    · rw [CallerSockets, hpc]
      exact h
  | notifyDisconnected =>
    rw [hpc] at h
    exact fun _ => ⟨h.2.linkUp, h.2.socket, h.2.loop⟩

/-! ### The runs -/

/-- What holds in every state that is reached. -/
structure DisconnectInv (s : TransportThreads) (past : List (TransportThreads × ThreadAction)) :
    Prop where
  report : s.ReportInv
  sockets : SocketInv s past
  caller : s.CallerSockets
  disconnected : Disconnected past →
    s.caller = .idle ∧ s.transport.connected = false ∧
      ∀ plane, s.transport.listenSocket plane = none

/-- After the disconnect everything is closed. -/
theorem DisconnectInv.final (h : DisconnectInv s past) (hdisconnected : Disconnected past) :
    Final s past := by
  obtain ⟨hidle, hconnected, hlisten⟩ := h.disconnected hdisconnected
  have hcaller := h.caller
  rw [CallerSockets, hidle] at hcaller
  have hdown := hcaller hconnected
  refine ⟨hdown.linkUp, hdown.socket, hlisten, List.eq_nil_iff_forall_not_mem.mpr ?_⟩
  intro fd hfd
  obtain ⟨plane, hholds⟩ := h.sockets.held fd hfd
  rw [hdown.socket, hdown.loop] at hholds
  exact absurd hholds (by simp [ReceivePc.held])

/-- The invariant holds at the start. -/
theorem disconnectInv_init (config : TransportConfig) :
    DisconnectInv (TransportThreads.init config) [] where
  report := reportInv_init config
  sockets := ⟨fun _ hfd => absurd hfd List.not_mem_nil, fun plane _ => by cases plane <;> rfl⟩
  caller := by
    refine fun _ => ⟨rfl, ?_, ?_⟩
    · intro plane
      cases plane <;> rfl
    · intro plane
      cases plane <;> rfl
  disconnected := fun h => absurd h id

/-- A step of no thread: a call that returns at once, or that waits. -/
theorem DisconnectInv.of_idle (h : DisconnectInv s past) {a : ThreadAction}
    (hsame : s.step a = s) (haccepted : accepted s a = [])
    (hdisconnected : Disconnected ((s, a) :: past) → s.caller = .idle ∧
      s.transport.connected = false ∧ ∀ plane, s.transport.listenSocket plane = none) :
    DisconnectInv (s.step a) ((s, a) :: past) := by
  have hsockets := h.sockets.of_same haccepted (congrArg (fun s => s.transport.socket) hsame)
    fun plane => .inl (by rw [hsame])
  rw [hsame] at hsockets ⊢
  exact ⟨h.report, hsockets, h.caller, hdisconnected⟩

/-- Every orderly step keeps the invariant. -/
theorem DisconnectInv.step (h : DisconnectInv s past) {a : ThreadAction} (horderly : Orderly s a) :
    DisconnectInv (s.step a) ((s, a) :: past) := by
  have hreport := reportInv_step h.report a
  have hcaller := h.caller
  cases a with
  | connect =>
    by_cases hbegins : s.caller = .idle ∧ (!s.transport.connected) = true
    · have hstep : s.step .connect = { s with caller := .createSockets } := if_pos hbegins
      have hconnected : s.transport.connected = false := by simpa using hbegins.2
      have hsockets := h.sockets.of_same (a := .connect) rfl (by rw [hstep])
        fun plane => .inl (by rw [hstep]; rfl)
      -- A call that begins finds nothing of the connection before.
      rw [CallerSockets, hbegins.1] at hcaller
      have hdown := hcaller hconnected
      rw [hstep] at hreport hsockets ⊢
      refine ⟨hreport, hsockets, ⟨hconnected, hdown.linkUp, hdown.socket, hdown.loop⟩, ?_⟩
      rintro (⟨hreturns, -⟩ | ⟨hnot, -⟩)
      · exact absurd hreturns id
      · exact absurd hbegins.1 hnot
    · refine h.of_idle (if_neg hbegins) rfl ?_
      rintro (⟨hreturns, -⟩ | ⟨hnot, hbefore⟩)
      · exact absurd hreturns id
      · exact h.disconnected hbefore
  | disconnect =>
    by_cases hbegins : s.caller = .idle ∧ s.transport.connected = true
    · have hstep : s.step .disconnect = { s with caller := .clearConnected } := if_pos hbegins
      have hsockets := h.sockets.of_same (a := .disconnect) rfl (by rw [hstep])
        fun plane => .inl (by rw [hstep]; rfl)
      rw [hstep] at hreport hsockets ⊢
      refine ⟨hreport, hsockets, trivial, ?_⟩
      rintro (⟨hreturns, -⟩ | ⟨hnot, hbefore⟩)
      · exact absurd (hreturns.2.symm.trans hbegins.2) Bool.false_ne_true
      · exact absurd ((h.disconnected hbefore).2.1.symm.trans hbegins.2) Bool.false_ne_true
    · refine h.of_idle (if_neg hbegins) rfl ?_
      rintro (⟨hreturns, -⟩ | ⟨hnot, hbefore⟩)
      · -- It returns at once, and the listening sockets are closed already.
        obtain ⟨hinput, hcontrol⟩ := horderly hreturns.1 hreturns.2
        refine ⟨hreturns.1, hreturns.2, ?_⟩
        intro plane
        cases plane with
        | input => exact hinput
        | control => exact hcontrol
      · exact h.disconnected hbefore
  | caller r =>
    refine ⟨hreport, h.sockets.caller h.caller r, h.caller.caller h.report horderly, ?_⟩
    rintro (⟨hreturns, -⟩ | ⟨hnot, hbefore⟩)
    · -- `disconnect` returns: it has joined the loops and closed the sockets.
      have hpc : s.caller = .notifyDisconnected := hreturns
      have hstep : s.step (.caller r) =
          { s.notifyLinkState .Disconnected s.connections with caller := .idle } := by
        show s.callerStep r = _
        rw [callerStep, hpc]
      rw [CallerSockets, hpc] at hcaller
      rw [hstep]
      exact ⟨rfl, hcaller.1.connected, hcaller.1.listenSocket⟩
    · have hdone := h.disconnected hbefore
      have hstep : s.step (.caller r) = s := by
        show s.callerStep r = s
        rw [callerStep, hdone.1]
      rw [hstep]
      exact hdone
  | receive plane r =>
    refine ⟨hreport, h.sockets.receive plane r, h.caller.receive plane r, ?_⟩
    rintro (⟨hreturns, -⟩ | ⟨hnot, hbefore⟩)
    · exact absurd hreturns id
    · obtain ⟨hidle, hconnected, hlisten⟩ := h.disconnected hbefore
      rw [CallerSockets, hidle] at hcaller
      -- After it, neither loop has been started.
      have hstep : s.step (.receive plane r) = s :=
        receiveStep_of_stopped ((hcaller hconnected).loop plane) r
      rw [hstep]
      exact ⟨hidle, hconnected, hlisten⟩

end TransportThreads

open TransportThreads

/-- A disconnect that is about to report has finished when it returns. -/
theorem disconnected_of_returns {config : TransportConfig} {acts : List ThreadAction}
    (h : ((threadMachine config).run acts).caller = .notifyDisconnected) (r : ConnectCalls) :
    Disconnected ((threadMachine config).past (acts ++ [.caller r])) := by
  rw [Lib.Machine.past_append_singleton]
  exact .inl ⟨h, trivial⟩

/-- In a run whose steps are all orderly, nothing is left of a connection whenever `disconnect` has
returned and there was no new `connect` since then. -/
theorem disconnect_final (config : TransportConfig) {acts : List ThreadAction}
    (hacts : (threadMachine config).Meets Orderly (threadMachine config).init acts) :
    ∀ pre, pre <+: acts → Disconnected ((threadMachine config).past pre) →
      Final ((threadMachine config).run pre) ((threadMachine config).past pre) := by
  rintro pre ⟨rest, rfl⟩ hdisconnected
  have hpre := (Lib.Machine.meets_append.mp hacts).1
  have hinv : DisconnectInv ((threadMachine config).run pre) ((threadMachine config).past pre) :=
    Lib.Machine.past_of_meets (disconnectInv_init config)
      (fun _ _ _ h horderly => h.step horderly) hpre
  exact hinv.final hdisconnected

/-! ### A server that accepts again -/

/-- Whether a step is orderly can be looked up. -/
instance decidableOrderly (s : TransportThreads) : ∀ a, Decidable (Orderly s a)
  | .connect => .isTrue trivial
  | .receive _ _ => .isTrue trivial
  | .caller _ =>
    inferInstanceAs (Decidable ((s.caller = .clearLinkUp → s.input.renews = false) ∧
      (s.caller = .closeSockets → s.control.renews = false)))
  | .disconnect =>
    inferInstanceAs (Decidable (s.caller = .idle → s.transport.connected = false →
      s.transport.listenInputSocket = none ∧ s.transport.listenControlSocket = none))

/-- The new connection is in use when `disconnect` begins. -/
theorem disconnect_final_reaccept :
    let acts := .connect :: callerSteps 8 ++ loopSteps .input 13 ++ .disconnect :: callerSteps 4 ++
      loopSteps .input 1 ++ loopSteps .control 1 ++ callerSteps 2
    Final ((threadMachine serverConfig).run (acts ++ [.caller serverCalls]))
      ((threadMachine serverConfig).past (acts ++ [.caller serverCalls])) := by
  intro acts
  have hacts : (threadMachine serverConfig).Meets Orderly (threadMachine serverConfig).init
      (acts ++ [.caller serverCalls]) := by decide +kernel
  have hcaller : ((threadMachine serverConfig).run acts).caller = .notifyDisconnected := by
    decide +kernel
  refine disconnect_final serverConfig hacts _ (List.prefix_refl _) ?_
  exact disconnected_of_returns hcaller serverCalls

/-- The loop has seen that it is to receive when `disconnect` begins, and stores the new connection
and raises the link when `disconnect` has closed the sockets. -/
theorem disconnect_not_final :
    ¬ ∀ config acts, Disconnected ((threadMachine config).past acts) →
      Final ((threadMachine config).run acts) ((threadMachine config).past acts) := by
  intro hclaim
  let acts := .connect :: callerSteps 8 ++ loopSteps .input 10 ++ .disconnect :: callerSteps 4 ++
    loopSteps .input 4 ++ loopSteps .control 1 ++ callerSteps 2
  have hcaller : ((threadMachine serverConfig).run acts).caller = .notifyDisconnected := by
    decide +kernel
  have hraised : ((threadMachine serverConfig).run
      (acts ++ [.caller serverCalls])).transport.isConnected = true := by decide +kernel
  have hfinal := hclaim serverConfig (acts ++ [.caller serverCalls])
    (disconnected_of_returns hcaller serverCalls)
  exact Bool.false_ne_true (hfinal.isConnected.symm.trans hraised)

end CrossFlow
