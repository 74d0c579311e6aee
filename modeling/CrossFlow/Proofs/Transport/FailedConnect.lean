import CrossFlow.Proofs.Transport.Disconnect

/-!
# `CrossFlow.Proofs.Transport.FailedConnect`: what a failed `connect` leaves behind

Each exit of `createClientSockets` and the first two of `createServerSockets` close what was opened.
The exit after a failed `::accept` comes when the two listening sockets are in their fields, and
closes neither of them.

* `failed_connect_leavesNothing_iff`: when a failed `connect` leaves nothing.
* `failed_connects_leave_nothing`: the runs in which none leaves anything.
-/

set_option autoImplicit false

namespace CrossFlow

open Lib (Machine)
open TransportImpl (ConnectCalls ServerCalls ClientCalls)
open TransportThreads (listens)

namespace TransportImpl

/-- As constructed, but for the counters and the history: no descriptor in a field, no flag set. -/
def Fresh (t : TransportImpl) : Prop :=
  t = { init t.config with
    backlog := t.backlog
    totalSent := t.totalSent
    totalReceived := t.totalReceived
    closed := t.closed }

/-- Whether a transport is fresh can be looked up. -/
instance (t : TransportImpl) : Decidable t.Fresh := inferInstanceAs (Decidable (_ = _))

/-- The descriptors that `connect` opens, as results of `::socket` and `::accept`. -/
def opened (t : TransportImpl) (r : ConnectCalls) : List Nat :=
  if t.config.isServer then
    let listening := r.server.listen1.toList ++ r.server.listen2.toList
    if listens r.server then
      listening ++ (r.server.accepted1.toList ++ r.server.accepted2.toList)
    else listening
  else r.client.sock1.toList ++ r.client.sock2.toList

/-- The call closes every descriptor that it opened, and the next one starts as the first did. -/
structure LeavesNothing (t : TransportImpl) (r : ConnectCalls) : Prop where
  closed : ∃ fds, fds.Perm (t.opened r) ∧ (t.connect r).1.closed = fds ++ t.closed
  fresh : (t.connect r).1.Fresh

/-- A server is listening on both ports, and an `::accept` fails. -/
def AcceptFails (t : TransportImpl) (r : ConnectCalls) : Prop :=
  t.config.isServer = true ∧ listens r.server = true ∧
    (r.server.accepted1.isNone = true ∨ r.server.accepted2.isNone = true)

section
variable {t : TransportImpl} {r : ConnectCalls}

/-- Closing two sockets. -/
theorem closeTwo (t : TransportImpl) (fd fd' : SocketFd) :
    (t.closeSocket fd).closeSocket fd' =
      { t with closed := fd'.toList ++ fd.toList ++ t.closed } := by
  simp [TransportThreads.closeSocket_eq]

/-- A client that fails to connect has closed what it opened. -/
theorem createClientSockets_failed (hclient : t.config.isServer = false)
    (hfailed : (t.createClientSockets r.client).2 = false) :
    ∃ fds, fds.Perm (t.opened r) ∧
      (t.createClientSockets r.client).1 = { t with closed := fds ++ t.closed } := by
  have hopened : (r.client.sock2.toList ++ r.client.sock1.toList).Perm (t.opened r) := by
    rw [opened, hclient, if_neg Bool.false_ne_true]
    exact List.perm_append_comm
  -- In each of the three places where a client fails, it closes both sockets.
  refine ⟨_, hopened, ?_⟩
  revert hfailed
  simp only [createClientSockets, closeTwo]
  split
  · intro _
    rfl
  · split
    · intro _
      rfl
    · split
      · intro _
        rfl
      · intro hfailed
        exact absurd hfailed.symm Bool.false_ne_true

/-- When a server listens. -/
theorem listens_iff (r : ServerCalls) :
    listens r = true ↔
      ¬ (r.listen1.isNone = true ∨ r.listen2.isNone = true) ∧
        ¬ ((!r.bind1) = true ∨ (!r.bind2) = true) := by
  cases h₁ : r.listen1 <;> cases h₂ : r.listen2 <;> simp [listens, h₁, h₂]

/-- The three exits of `createServerSockets`. -/
theorem createServerSockets_failed (hserver : t.config.isServer = true)
    (hfailed : (t.createServerSockets r.server).2 = false) :
    (¬ t.AcceptFails r ∧ ∃ fds, fds.Perm (t.opened r) ∧
      (t.createServerSockets r.server).1 = { t with closed := fds ++ t.closed }) ∨
    (t.AcceptFails r ∧
      (t.createServerSockets r.server).1.listenInputSocket = r.server.listen1) := by
  have hlistens := listens_iff r.server
  revert hfailed
  simp only [createServerSockets, closeTwo]
  by_cases hsockets : r.server.listen1.isNone = true ∨ r.server.listen2.isNone = true
  · -- A `::socket` failed: what the other one opened is closed.
    rw [if_pos hsockets]
    intro _
    have hnot : ¬ listens r.server = true := fun h => (hlistens.mp h).1 hsockets
    refine .inl ⟨fun haccept => hnot haccept.2.1, _, ?_, rfl⟩
    rw [opened, if_pos hserver, if_neg hnot]
    exact List.perm_append_comm
  · rw [if_neg hsockets]
    by_cases hbind : (!r.server.bind1) = true ∨ (!r.server.bind2) = true
    · -- A port is taken: both are closed.
      rw [if_pos hbind]
      intro _
      have hnot : ¬ listens r.server = true := fun h => (hlistens.mp h).2 hbind
      refine .inl ⟨fun haccept => hnot haccept.2.1, _, ?_, rfl⟩
      rw [opened, if_pos hserver, if_neg hnot]
      exact List.perm_append_comm
    · rw [if_neg hbind]
      split
      · -- The listening sockets are in their fields by now, and stay there.
        rename_i haccept
        intro _
        exact .inr ⟨⟨hserver, hlistens.mpr ⟨hsockets, hbind⟩, haccept⟩, rfl⟩
      · -- A server that has listened and accepted does not fail.
        intro hfailed
        exact absurd hfailed.symm Bool.false_ne_true

/-- A failed `connect` has changed nothing and closed what it opened, or an `::accept` failed. -/
theorem connect_failed (hfailed : (t.connect r).2.1 = false) :
    (¬ t.AcceptFails r ∧ ∃ fds, fds.Perm (t.opened r) ∧
      (t.connect r).1 = { t with closed := fds ++ t.closed }) ∨
    (t.AcceptFails r ∧ (t.connect r).1.listenInputSocket = r.server.listen1) := by
  have hcreate : (t.createSockets r).2 = false ∧ (t.connect r).1 = (t.createSockets r).1 := by
    revert hfailed
    simp only [connect]
    -- A connected transport returns true.
    split
    · intro hfailed
      exact absurd hfailed.symm Bool.false_ne_true
    · cases hok : (t.createSockets r).2 with
      | false => exact fun _ => ⟨rfl, rfl⟩
      | true => exact fun hfailed => absurd hfailed.symm Bool.false_ne_true
  obtain ⟨hnot, hstate⟩ := hcreate
  rw [hstate]
  -- The sockets are those of a server or of a client.
  cases hserver : t.config.isServer with
  | true =>
    have hbranch : t.createSockets r = t.createServerSockets r.server := if_pos hserver
    rw [hbranch] at hnot ⊢
    exact createServerSockets_failed hserver hnot
  | false =>
    have hbranch : t.createSockets r = t.createClientSockets r.client := by
      rw [createSockets, hserver, if_neg Bool.false_ne_true]
    rw [hbranch] at hnot ⊢
    refine .inl ⟨?_, createClientSockets_failed hserver hnot⟩
    rintro ⟨hisServer, -⟩
    exact Bool.false_ne_true (hserver.symm.trans hisServer)

/-- Closing sockets leaves a transport fresh. -/
theorem fresh_closed (fds : List Nat) : Fresh { t with closed := fds } ↔ t.Fresh := by
  cases t
  simp [Fresh, init]

/-- A failed connect leaves nothing behind, unless an accept failed. -/
theorem leavesNothing_of_accepts (hfailed : (t.connect r).2.1 = false) (hfresh : t.Fresh)
    (haccepts : ¬ t.AcceptFails r) : t.LeavesNothing r := by
  rcases connect_failed hfailed with ⟨-, fds, hperm, hstate⟩ | ⟨haccept, -⟩
  · refine ⟨⟨fds, hperm, by rw [hstate]⟩, ?_⟩
    rw [hstate, fresh_closed]
    exact hfresh
  · exact absurd haccept haccepts

end

end TransportImpl

/-- A failed `connect` closes what it opened and leaves the transport as constructed exactly when
the transport was so before, and no `::accept` failed. -/
theorem failed_connect_leavesNothing_iff (t : TransportImpl) (r : ConnectCalls)
    (hfailed : (t.connect r).2.1 = false) :
    t.LeavesNothing r ↔ t.Fresh ∧ ¬ t.AcceptFails r := by
  constructor
  · rintro ⟨-, hfresh⟩
    rcases TransportImpl.connect_failed hfailed with ⟨hnot, fds, -, hstate⟩ | ⟨haccept, hlisten⟩
    · rw [hstate, TransportImpl.fresh_closed] at hfresh
      exact ⟨hfresh, hnot⟩
    · -- The listening socket is still in its field.
      have hnone : (t.connect r).1.listenInputSocket = none := by
        rw [hfresh]
        rfl
      have hsockets := ((TransportImpl.listens_iff r.server).mp haccept.2.1).1
      rw [hlisten] at hnone
      rw [hnone] at hsockets
      exact absurd (.inl rfl) hsockets
  · -- Where the transport was fresh and the accept did not fail, all is closed again.
    rintro ⟨hfresh, hnot⟩
    exact TransportImpl.leavesNothing_of_accepts hfailed hfresh hnot

/-- A client whose first connection is refused. -/
theorem refused_connect_leavesNothing :
    (TransportImpl.init ⟨[], 9000, 9001, false⟩).LeavesNothing
      ⟨⟨some 3, some 4, false, false⟩, ⟨none, none, false, false, none, none⟩⟩ :=
  (failed_connect_leavesNothing_iff _ _ rfl).mpr ⟨rfl, fun haccept => nomatch haccept.1⟩

/-- A server that listens on both ports when `::accept` fails keeps both descriptors. -/
theorem failed_accept_leaves_listening :
    let t := TransportImpl.init ⟨[], 9000, 9001, true⟩
    let r : ConnectCalls :=
      ⟨⟨none, none, false, false⟩, ⟨some 3, some 4, true, true, none, none⟩⟩
    (t.connect r).2.1 = false ∧ (t.connect r).1.closed = [] ∧
      (t.connect r).1.listenInputSocket = some 3 ∧ (t.connect r).1.listenControlSocket = some 4 ∧
        ¬ t.LeavesNothing r := by
  refine ⟨rfl, rfl, rfl, rfl, ?_⟩
  rintro ⟨⟨fds, hperm, hclosed⟩, -⟩
  -- Two descriptors were opened, and none is closed.
  have hnone : fds = [] := (List.append_nil fds).symm.trans hclosed.symm
  rw [hnone] at hperm
  exact absurd hperm.length_eq (by decide)

/-! ### Runs -/

/-- A call that makes or ends the connection. -/
inductive ConnectionCall where
  | connect (r : ConnectCalls)
  | disconnect

/-- One thread that connects and disconnects. -/
def connectionMachine (config : TransportConfig) : Machine TransportImpl ConnectionCall where
  init := .init config
  step t
    | .connect r => (t.connect r).1
    | .disconnect => t.disconnect.1

/-- No `::accept` fails in the call. -/
def NoAcceptFails (t : TransportImpl) : ConnectionCall → Prop
  | .connect r => ¬ t.AcceptFails r
  | .disconnect => True

namespace TransportImpl

/-- A connect that creates no sockets returns false. -/
theorem connect_returns_false {t : TransportImpl} {r : ConnectCalls}
    (hconnected : t.connected = false) (hcreate : (t.createSockets r).2 = false) :
    (t.connect r).2.1 = false := by
  simp [connect, hconnected, hcreate]

/-- `disconnect` closes the four sockets and clears the flags. -/
theorem disconnect_fresh {t : TransportImpl} (hconnected : t.connected = true) :
    t.disconnect.1.Fresh := by
  simp [disconnect, hconnected, closeSockets, closeTwo, Fresh, init]

end TransportImpl

/-- A call keeps a transport that is not connected fresh, unless an accept failed. -/
theorem fresh_step {t : TransportImpl} {config : TransportConfig} (call : ConnectionCall)
    (ht : t.connected = false → t.Fresh) (haccepts : NoAcceptFails t call) :
    ((connectionMachine config).step t call).connected = false →
      ((connectionMachine config).step t call).Fresh := by
  cases call with
  | connect r =>
    show (t.connect r).1.connected = false → (t.connect r).1.Fresh
    rcases t.connect_cases r with ⟨-, hsame⟩ | ⟨hconnected, hcreate, -⟩ | ⟨-, -, -, hup, -⟩
    · rw [hsame]
      exact ht
    · -- The connect failed, and the transport was fresh before it.
      intro _
      have hfailed := TransportImpl.connect_returns_false hconnected hcreate
      exact (TransportImpl.leavesNothing_of_accepts hfailed (ht hconnected) haccepts).fresh
    · intro hdown
      exact absurd (hup.symm.trans hdown) (by decide)
  | disconnect =>
    show t.disconnect.1.connected = false → t.disconnect.1.Fresh
    cases hconnected : t.connected with
    | false =>
      have hsame : t.disconnect.1 = t := by simp [TransportImpl.disconnect, hconnected]
      rw [hsame]
      exact ht
    | true =>
      intro _
      exact TransportImpl.disconnect_fresh hconnected

/-- In a run in which no `::accept` fails, every failed `connect` leaves nothing, and the next call
starts from a transport that is as constructed. -/
theorem failed_connects_leave_nothing (config : TransportConfig) {calls : List ConnectionCall}
    {r : ConnectCalls}
    (hcalls : (connectionMachine config).Meets NoAcceptFails (.init config) (calls ++ [.connect r]))
    (hfailed : (((connectionMachine config).run calls).connect r).2.1 = false) :
    ((connectionMachine config).run calls).LeavesNothing r := by
  obtain ⟨hbefore, haccepts, -⟩ := Machine.meets_append.mp hcalls
  have hfresh : ((connectionMachine config).run calls).connected = false →
      ((connectionMachine config).run calls).Fresh :=
    Machine.invariant_of_meets (P := fun t => t.connected = false → t.Fresh) (fun _ => rfl)
      (fun _ call ht hcall => fresh_step call ht hcall) hbefore
  refine TransportImpl.leavesNothing_of_accepts hfailed (hfresh ?_) haccepts
  -- A `connect` on a connection returns true.
  cases hconnected : ((connectionMachine config).run calls).connected with
  | false => rfl
  | true => simp [TransportImpl.connect, hconnected] at hfailed

end CrossFlow
