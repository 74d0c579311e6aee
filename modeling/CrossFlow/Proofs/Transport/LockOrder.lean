import CrossFlow.Core.Transport.TransportLocks

/-!
# `CrossFlow.Proofs.Transport.LockOrder`: whether the calls of a transport come to an end

The functions of a transport lock `handlerMutex_` before `sendMutex_`, and this before
`socketMutex_`; and a thread that joins a receive loop holds none of them.

* `respects`: so they respect an order, if the handlers make no call that locks `handlerMutex_`.
* `transport_calls_return`: then no run of any number of threads comes to a deadlock.
* `handler_never_returns`: a handler that makes such a call stops its thread for good.
-/

set_option autoImplicit false

namespace CrossFlow

open Lib (LockOp LockOrder LockState LockAction Machine Reenters lockMachine)

/-- The order in which the mutexes are locked, and the threads joined. -/
def transportOrder : LockOrder TransportMutex TransportThread where
  rank
    | .handlerMutex => 0
    | .sendMutex => 1
    | .socketMutex => 2
  bound := 3
  rank_lt m := by cases m <;> decide
  level
    | .receive _ => 0
    | .caller _ => 1

/-! ### Programs that respect the order -/

section
variable {t : TransportThread} {held : List TransportMutex} {p q : TransportOps}

/-- What comes after is checked with what is held then. -/
theorem check_append_of_eq (hp : transportOrder.check t held p = some held) :
    transportOrder.check t held (p ++ q) = transportOrder.check t held q := by
  rw [LockOrder.check_append, hp]
  rfl

/-- A guard is in order if what is held comes before its mutex. -/
theorem check_lockGuard {m : TransportMutex}
    (hrank : ∀ m' ∈ held, transportOrder.rank m' < transportOrder.rank m)
    (hp : transportOrder.check t (m :: held) p = some (m :: held)) :
    transportOrder.check t held (lockGuard m p) = some held := by
  unfold lockGuard
  rw [LockOrder.check, if_pos hrank, check_append_of_eq hp, LockOrder.check]
  exact if_pos rfl

/-- The guard of the sockets is in order where its mutex may be taken. -/
theorem check_socketMutex
    (hrank : ∀ m' ∈ held, transportOrder.rank m' < transportOrder.rank .socketMutex) :
    transportOrder.check t held (lockGuard .socketMutex [.other]) = some held :=
  check_lockGuard hrank rfl

/-- A call that is allowed, in a handler or outside. -/
theorem check_allowed {c : TransportCall} (hc : c.allowed = true)
    (hheld : ∀ m ∈ held, m = .handlerMutex) : transportOrder.check t held c.ops = some held := by
  cases c with
  | read =>
    rw [TransportCall.ops]
    rfl
  | setHandler => cases hc
  | send connected =>
    rw [TransportCall.ops]
    cases connected with
    | false => rfl
    -- `sendMutex_` over `socketMutex_`, both above the `handlerMutex_` that may be held.
    | true =>
      refine check_lockGuard (fun m hm => ?_) ?_
      · rw [hheld m hm]
        decide
      · rw [check_append_of_eq (check_socketMutex fun m hm => ?_)]
        · rfl
        · rcases List.mem_cons.mp hm with rfl | hm
          · decide
          · rw [hheld m hm]
            decide
  | connect connected linkState =>
    change connected = true at hc
    rw [TransportCall.ops, if_pos hc]
    rfl
  | disconnect connected joinable linkState =>
    change (!connected) = true at hc
    rw [TransportCall.ops, if_pos hc]
    rfl

/-- The calls of a handler are in order if they are allowed. -/
theorem check_handlerOps {calls : List TransportCall} (hcalls : ∀ c ∈ calls, c.allowed = true)
    (hheld : ∀ m ∈ held, m = .handlerMutex) :
    transportOrder.check t held (handlerOps calls) = some held := by
  induction calls with
  | nil =>
    rw [handlerOps]
    rfl
  | cons c calls ih =>
    rw [handlerOps, check_append_of_eq (check_allowed (hcalls c List.mem_cons_self) hheld)]
    exact ih fun c' hc' => hcalls c' (List.mem_cons_of_mem c hc')

/-- A notification is in order if its handler's calls are allowed. -/
theorem check_notifyLinkStateOps {calls : List TransportCall}
    (hcalls : ∀ c ∈ calls, c.allowed = true) :
    transportOrder.check t [] (notifyLinkStateOps calls) = some [] := by
  refine check_lockGuard (fun m hm => absurd hm List.not_mem_nil) (check_handlerOps hcalls ?_)
  exact fun m hm => List.mem_singleton.mp hm

/-- Joining the loops is in order without a mutex held. -/
theorem check_joins (n : Nat) (joinable : List Nat) :
    transportOrder.check (.caller n) [] (joinable.map fun k => .join (.receive k)) = some [] := by
  induction joinable with
  | nil => rfl
  | cons k joinable ih =>
    rw [List.map_cons, LockOrder.check, if_pos ⟨rfl, Nat.zero_lt_one⟩]
    exact ih

/-- A read is in order. -/
theorem check_readOps : transportOrder.check t [] readOps = some [] := by
  unfold readOps
  rw [LockOrder.check,
    check_append_of_eq (check_socketMutex fun m hm => absurd hm List.not_mem_nil)]
  rfl

/-- A call is in order if its handlers' calls are allowed. -/
theorem check_call {c : TransportCall} (hc : c.HandlersAllowed) (n : Nat) :
    transportOrder.check (.caller n) [] c.ops = some [] := by
  have hnone : ∀ m ∈ ([] : List TransportMutex), m = .handlerMutex :=
    fun m hm => absurd hm List.not_mem_nil
  cases c with
  | read | send _ => exact check_allowed rfl hnone
  | setHandler =>
    rw [TransportCall.ops]
    exact check_lockGuard (fun m hm => absurd hm List.not_mem_nil) rfl
  | connect connected linkState =>
    cases connected with
    | true => exact check_allowed rfl hnone
    | false =>
      rw [TransportCall.ops]
      exact check_notifyLinkStateOps (hc rfl)
  | disconnect connected joinable linkState =>
    cases connected with
    | false => exact check_allowed rfl hnone
    | true =>
      -- The receive threads are joined with no mutex locked, and only then is the handler called.
      rw [TransportCall.ops, if_neg (by decide), LockOrder.check, List.append_assoc,
        check_append_of_eq (check_socketMutex fun m hm => absurd hm List.not_mem_nil),
        check_append_of_eq (check_joins n joinable)]
      exact check_notifyLinkStateOps (hc rfl)

/-- A pass of a loop is in order if its handlers' calls are allowed. -/
theorem check_pass {pass : ReceivePass} (hpass : pass.HandlersAllowed) :
    transportOrder.check t [] pass.ops = some [] := by
  have hsocket : transportOrder.check t [] (lockGuard .socketMutex [.other]) = some [] :=
    check_socketMutex fun m hm => absurd hm List.not_mem_nil
  -- A pass takes its mutexes one after the other; only the handlers' calls run inside another.
  cases pass with
  | deliver handler =>
    rw [ReceivePass.ops, check_append_of_eq check_readOps]
    exact check_notifyLinkStateOps hpass
  | lost disconnected =>
    simp only [ReceivePass.ops, List.append_assoc, List.cons_append,
      check_append_of_eq check_readOps, check_append_of_eq hsocket, LockOrder.check,
      check_append_of_eq (check_notifyLinkStateOps hpass)]
  | reaccept disconnected connected =>
    simp only [ReceivePass.ops, List.append_assoc, List.cons_append,
      check_append_of_eq check_readOps, check_append_of_eq hsocket, LockOrder.check,
      check_append_of_eq (check_notifyLinkStateOps hpass.1)]
    exact check_notifyLinkStateOps hpass.2
  | lostControl =>
    simp only [ReceivePass.ops, List.append_assoc, check_append_of_eq check_readOps,
      check_append_of_eq hsocket, LockOrder.check]
  | reacceptControl =>
    simp only [ReceivePass.ops, List.append_assoc, check_append_of_eq check_readOps,
      check_append_of_eq hsocket, LockOrder.check]
    exact hsocket
  | stop => exact check_readOps

end

/-- A program whose handlers make calls that are allowed respects the order. -/
theorem respects {t : TransportThread} (program : TransportProgram t)
    (hprogram : program.HandlersAllowed) : transportOrder.Respects t program.ops := by
  cases program with
  | call n c => exact check_call hprogram n
  | loop n passes =>
    show transportOrder.check (.receive n) [] (passes.flatMap ReceivePass.ops ++ [.other]) = some []
    induction passes with
    | nil => rfl
    | cons pass passes ih =>
      rw [List.flatMap_cons, List.append_assoc,
        check_append_of_eq (check_pass (hprogram pass List.mem_cons_self))]
      exact ih fun pass' hpass => hprogram pass' (List.mem_cons_of_mem pass hpass)

/-! ### Handlers that are not allowed -/

/-- What a call does before it comes to lock `handlerMutex_`. -/
def LocksHandlers (p : TransportOps) : Prop :=
  ∃ front back, p = front ++ .acquire .handlerMutex :: back ∧ .release .handlerMutex ∉ front

/-- What comes before and after does not matter, if the mutex is not released before. -/
theorem LocksHandlers.append {p : TransportOps} (h : LocksHandlers p) {q : TransportOps}
    (hq : .release .handlerMutex ∉ q) (r : TransportOps) : LocksHandlers (q ++ (p ++ r)) := by
  obtain ⟨front, back, rfl, hfront⟩ := h
  refine ⟨q ++ front, back ++ r, by simp, ?_⟩
  rw [List.mem_append, not_or]
  exact ⟨hq, hfront⟩

/-- A call that is allowed does not release the handlers' mutex. -/
theorem release_not_mem_of_allowed {c : TransportCall} (hc : c.allowed = true) :
    .release .handlerMutex ∉ c.ops := by
  cases c with
  | read =>
    rw [TransportCall.ops]
    simp
  | setHandler => cases hc
  | send connected =>
    rw [TransportCall.ops]
    cases connected <;> simp [lockGuard]
  | connect connected linkState =>
    change connected = true at hc
    rw [TransportCall.ops, if_pos hc]
    simp
  | disconnect connected joinable linkState =>
    change (!connected) = true at hc
    rw [TransportCall.ops, if_pos hc]
    simp

/-- A call that is not allowed takes the handlers' mutex. -/
theorem locksHandlers_of_not_allowed {c : TransportCall} (hc : ¬ c.allowed = true) :
    LocksHandlers c.ops := by
  cases c with
  | read | send _ => exact absurd rfl hc
  | setHandler =>
    rw [TransportCall.ops]
    exact ⟨[], _, rfl, List.not_mem_nil⟩
  | connect connected linkState =>
    change ¬ connected = true at hc
    rw [TransportCall.ops, if_neg hc]
    exact ⟨[.other], _, rfl, by simp⟩
  | disconnect connected joinable linkState =>
    change ¬ (!connected) = true at hc
    rw [TransportCall.ops, if_neg hc]
    exact ⟨.other :: (lockGuard .socketMutex [.other] ++
      joinable.map fun n => .join (.receive n)), _, rfl, by simp [lockGuard]⟩

/-- Among calls not all allowed, one takes the handlers' mutex. -/
theorem locksHandlers_handlerOps {calls : List TransportCall}
    (hcalls : ¬ ∀ c ∈ calls, c.allowed = true) : LocksHandlers (handlerOps calls) := by
  induction calls with
  | nil => exact absurd (fun c hc => absurd hc List.not_mem_nil) hcalls
  | cons c calls ih =>
    rw [handlerOps]
    -- The first call that is not allowed comes to lock the mutex, after those that leave it alone.
    by_cases hc : c.allowed = true
    · have hrest : ¬ ∀ c' ∈ calls, c'.allowed = true := fun hrest =>
        hcalls (List.forall_mem_cons.mpr ⟨hc, hrest⟩)
      have h := (ih hrest).append (release_not_mem_of_allowed hc) []
      rwa [List.append_nil] at h
    · exact (locksHandlers_of_not_allowed hc).append List.not_mem_nil (handlerOps calls)

/-- The handler is called with `handlerMutex_` locked. -/
theorem reenters_handler {calls : List TransportCall}
    (hcalls : ¬ ∀ c ∈ calls, c.allowed = true) :
    Reenters (lockGuard .handlerMutex (handlerOps calls)) := by
  obtain ⟨front, back, hops, hfront⟩ := locksHandlers_handlerOps hcalls
  refine ⟨.handlerMutex, [], front, back ++ [.release .handlerMutex], ?_, hfront⟩
  rw [lockGuard, hops]
  simp

/-- A call whose handlers call what is not allowed takes the mutex again. -/
theorem reenters_call {c : TransportCall} (hc : ¬ c.HandlersAllowed) : Reenters c.ops := by
  cases c with
  | read | send _ | setHandler => exact absurd trivial hc
  | connect connected linkState =>
    rw [TransportCall.HandlersAllowed, Classical.not_imp] at hc
    rw [TransportCall.ops, hc.1]
    have h := (reenters_handler hc.2).append [.other] []
    rwa [List.append_nil] at h
  | disconnect connected joinable linkState =>
    rw [TransportCall.HandlersAllowed, Classical.not_imp] at hc
    rw [TransportCall.ops, hc.1]
    have h := (reenters_handler hc.2).append (.other :: (lockGuard .socketMutex [.other] ++
      joinable.map fun n => .join (.receive n))) []
    rwa [List.append_nil] at h

/-- A pass whose handlers call what is not allowed takes the mutex again. -/
theorem reenters_pass {pass : ReceivePass} (hpass : ¬ pass.HandlersAllowed) :
    Reenters pass.ops := by
  cases pass with
  | deliver handler =>
    have h := (reenters_handler hpass).append readOps []
    rwa [List.append_nil] at h
  | lost disconnected =>
    have h := (reenters_handler hpass).append
      (readOps ++ lockGuard .socketMutex [.other] ++ [.other])
      (lockGuard .socketMutex [.other] ++ [.other])
    simpa [ReceivePass.ops, notifyLinkStateOps] using h
  | reaccept disconnected connected =>
    rw [ReceivePass.HandlersAllowed, Classical.not_and_iff_not_or_not] at hpass
    -- One of the two handlers makes a call that is not allowed.
    rcases hpass with hpass | hpass
    · have h := (reenters_handler hpass).append
        (readOps ++ lockGuard .socketMutex [.other] ++ [.other])
        (lockGuard .socketMutex [.other] ++ .other :: lockGuard .socketMutex [.other] ++
          .other :: notifyLinkStateOps connected)
      simpa [ReceivePass.ops, notifyLinkStateOps] using h
    · have h := (reenters_handler hpass).append
        (readOps ++ lockGuard .socketMutex [.other] ++ .other :: notifyLinkStateOps disconnected ++
          lockGuard .socketMutex [.other] ++ .other :: lockGuard .socketMutex [.other] ++ [.other]) []
      simpa [ReceivePass.ops, notifyLinkStateOps] using h
  | lostControl | reacceptControl | stop => exact absurd trivial hpass

/-- A program whose handlers call what is not allowed takes the mutex again. -/
theorem reenters {t : TransportThread} (program : TransportProgram t)
    (hprogram : ¬ program.HandlersAllowed) : Reenters program.ops := by
  cases program with
  | call n c => exact reenters_call hprogram
  | loop n passes =>
    rw [TransportProgram.HandlersAllowed, not_forall] at hprogram
    obtain ⟨pass, hpass⟩ := hprogram
    rw [Classical.not_imp] at hpass
    -- The passes before the one that goes wrong only make the program longer.
    obtain ⟨before, after, rfl⟩ := List.append_of_mem hpass.1
    have h := (reenters_pass hpass.2).append (before.flatMap ReceivePass.ops)
      (after.flatMap ReceivePass.ops ++ [.other])
    simpa [TransportProgram.ops] using h

/-! ### Runs -/

/-- The threads are started with calls of the transport and with its receive loops, and their
handlers make calls that are allowed. -/
def StartsAllowed (_ : LockState TransportMutex TransportThread) :
    LockAction TransportMutex TransportThread → Prop
  | .start t program =>
    ∃ p : TransportProgram t, p.HandlersAllowed ∧ program = p.ops
  | .step _ => True

/-- In every run of any number of threads that call the transport, with its receive loops, all calls
and loops can come to their end, and until then some thread can go on. The handlers may send, and
read the counts. -/
theorem transport_calls_return {as : List (LockAction TransportMutex TransportThread)}
    (has : lockMachine.Meets StartsAllowed lockMachine.init as) :
    (∀ t, (lockMachine.run as).left t ≠ [] → ∃ u, (lockMachine.run as).step u ≠ none) ∧
      ∃ s, lockMachine.Reaches (fun a => ∃ t, a = .step t) (lockMachine.run as) s ∧
        ∀ t, s.left t = [] := by
  have hrespects : lockMachine.Meets transportOrder.Starts lockMachine.init as := by
    refine Machine.meets_of_invariant (P := fun _ => True) trivial (fun _ _ _ _ => trivial) ?_ has
    intro s a _ ha
    cases a with
    | start t program =>
      obtain ⟨p, hp, rfl⟩ := ha
      exact respects p hp
    | step t => trivial
  -- All programs lock in the order of the ranks, so no threads wait for each other in a circle.
  obtain ⟨held, hordered⟩ := Lib.ordered_run hrespects
  obtain ⟨threads, hthreads⟩ := Lib.threads_run as
  exact ⟨fun t => hordered.can_step, hordered.finishes hthreads⟩

/-- A receive loop whose event handler sends, a thread that sends, and one that disconnects. -/
theorem transport_calls_return_three :
    let loop : TransportProgram (.receive 0) := .loop 0 [.deliver [.send true, .read], .stop]
    let send : TransportProgram (.caller 0) := .call 0 (.send true)
    let disconnect : TransportProgram (.caller 1) := .call 1 (.disconnect true [0] [.send false])
    let s := lockMachine.run [.start (.receive 0) loop.ops,
      .start (.caller 0) send.ops, .step (.receive 0),
      .step (.caller 0), .step (.caller 0), .start (.caller 1) disconnect.ops, .step (.receive 0)]
    (∀ t, s.left t ≠ [] → ∃ u, s.step u ≠ none) ∧
      ∃ s', lockMachine.Reaches (fun a => ∃ t, a = .step t) s s' ∧ ∀ t, s'.left t = [] := by
  intro loop send disconnect s
  refine transport_calls_return ⟨⟨loop, ?_, rfl⟩, ⟨send, trivial, rfl⟩, trivial, trivial, trivial,
    ⟨disconnect, ?_, rfl⟩, trivial, trivial⟩
  · simp [loop, TransportProgram.HandlersAllowed, ReceivePass.HandlersAllowed,
      TransportCall.allowed]
  · simp [disconnect, TransportProgram.HandlersAllowed, TransportCall.HandlersAllowed,
      TransportCall.allowed]

/-- A call or a receive loop whose handlers make one that is not allowed never comes to its end,
whatever the other threads do. -/
theorem handler_never_returns {t : TransportThread} (program : TransportProgram t)
    (hprogram : ¬ program.HandlersAllowed) {s : LockState TransportMutex TransportThread}
    (hidle : s.left t = []) (as : List (LockAction TransportMutex TransportThread)) :
    (lockMachine.runFrom s (.start t program.ops :: as)).left t ≠ [] := by
  refine Lib.reenters_run ?_ as
  show Reenters ((if (s.left t).isEmpty then _ else s : LockState _ _).left t)
  rw [hidle]
  show Reenters (Function.update s.left t program.ops t)
  rw [Function.update_self]
  exact reenters program hprogram

/-- `connect`, with a link-state handler that sets another one. -/
theorem handler_never_returns_connect :
    let program : TransportProgram (.caller 0) := .call 0 (.connect false [.send true, .setHandler])
    (lockMachine.runFrom LockState.init
      (.start (.caller 0) program.ops :: List.replicate 50 (.step (.caller 0)))).left
        (.caller 0) ≠ [] :=
  handler_never_returns (.call 0 (.connect false [.send true, .setHandler]))
    (fun h => absurd (h rfl .setHandler (by simp)) (by decide)) rfl _

end CrossFlow
