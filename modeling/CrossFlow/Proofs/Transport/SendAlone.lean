import CrossFlow.Proofs.Transport.SendThreads
import CrossFlow.Proofs.Transport.TransportImpl

/-!
# `CrossFlow.Proofs.Transport.SendAlone`: a thread that sends alone

`send_alone`: the steps of one call of `send`, with no step of another thread between them, do to the
transport what `TransportImpl.send` does at once, and write the same bytes.
-/

set_option autoImplicit false

namespace CrossFlow

namespace SendThreads

open TransportImpl (sendLoop htonl)

variable {s s' : SendThreads} {t : Nat}

/-- The steps of one thread lead from `s` to `s'`. -/
def Runs (t : Nat) (s s' : SendThreads) : Prop :=
  sendMachine.Reaches (fun a => ∃ ret, a = .stepSend t ret) s s'

/-- One step of a thread is a run of it. -/
theorem Runs.step (s : SendThreads) (t : Nat) (ret : Int) : Runs t s (s.stepSend t ret) :=
  .single ⟨ret, rfl⟩ rfl

/-- The last of two jumps counts. -/
theorem goto_goto (s : SendThreads) (t : Nat) (pc pc' : SendPc) :
    (s.goto t pc).goto t pc' = s.goto t pc' := by
  simp only [goto, Function.update_idem]

/-- Appending nothing changes nothing. -/
theorem append_nil (s : SendThreads) (c : Nat) : s.append c [] = s := by
  simp only [append, List.append_nil, Function.update_eq_self]

/-- A jump and an append change different things. -/
theorem append_goto (s : SendThreads) (t c : Nat) (pc : SendPc) (bytes : List UInt8) :
    (s.goto t pc).append c bytes = (s.append c bytes).goto t pc := rfl

/-- A jump and the end of a call change different things. -/
theorem complete_goto (s : SendThreads) (t c : Nat) (pc : SendPc) (call : SendCall) :
    (s.goto t pc).complete c call = (s.complete c call).goto t pc := rfl

/-- Two appends are one. -/
theorem append_append (s : SendThreads) (c : Nat) (bytes bytes' : List UInt8) :
    (s.append c bytes).append c bytes' = s.append c (bytes ++ bytes') := by
  simp only [append, Function.update_self, Function.update_idem, List.append_assoc]

/-- A call of `::send` on an open descriptor. -/
theorem sendCall_of_open {fd c : Nat} (hopen : s.connection fd = some c) (left : List UInt8)
    (ret : Int) :
    s.sendCall (some fd) left ret = if ret ≤ 0 then none else some (c, left.take ret.toNat) := by
  have h : s.openOn (some fd) = some c := hopen
  rw [sendCall, h]

/-- What is left after some bytes were taken. -/
theorem drop_take_length (left : List UInt8) (n : Nat) :
    left.drop (left.take n).length = left.drop n := by
  rw [List.length_take]
  rcases Nat.le_total n left.length with hle | hle
  · rw [Nat.min_eq_left hle]
  · rw [Nat.min_eq_right hle, List.drop_length, List.drop_eq_nil_of_le hle]

/-- A `sendRaw` whose calls are those of one thread: `pc` is where the thread is with the bytes that
are left, and `done` what it does when they are written. -/
theorem sendLoop_alone {call : SendCall} {fd c : Nat} (pc : List UInt8 → SendPc)
    (done : SendThreads → SendThreads)
    (hstep : ∀ (s : SendThreads) (left : List UInt8) (ret : Int),
      s.connection fd = some c → s.threads t = pc left →
      s.stepSend t ret =
        if ret ≤ 0 then s.goto t (failedPc call.plane)
        else if left.drop ret.toNat = [] then done (s.append c (left.take ret.toNat))
        else (s.append c (left.take ret.toNat)).goto t (pc (left.drop ret.toNat)))
    (hdone : ∀ s pc, done (s.goto t pc) = done s) (ret : Nat → Int) (k : Nat) {left : List UInt8}
    (hleft : left ≠ []) (s : SendThreads) (hopen : s.connection fd = some c)
    (hpc : s.threads t = pc left) :
    Runs t s
      (if (sendLoop ret k left).1 then done (s.append c (sendLoop ret k left).2.1)
       else (s.append c (sendLoop ret k left).2.1).goto t (failedPc call.plane)) := by
  -- The induction is that of `sendLoop`: one access of the thread for each call of `::send`.
  induction k, left using TransportImpl.sendLoop.induct ret generalizing s with
  | case1 k => exact absurd rfl hleft
  | case2 k left _ hfails =>
    have hrun := Runs.step s t (ret k)
    rw [hstep s left (ret k) hopen hpc, if_pos hfails] at hrun
    rw [sendLoop, if_neg hleft, if_pos hfails, append_nil]
    exact hrun
  | case3 k left _ hret n ok written k' hrec ih =>
    have hrun := Runs.step s t (ret k)
    rw [hstep s left (ret k) hopen hpc, if_neg hret] at hrun
    rw [sendLoop, if_neg hleft, if_neg hret]
    by_cases hlast : left.drop n = []
    · rw [if_pos hlast] at hrun
      -- The bytes are all written: the loop stops, and the thread is done with them.
      have hresult : sendLoop ret (k + 1) (left.drop n) = (true, [], k + 1) := by
        rw [hlast, sendLoop, if_pos rfl]
      simp only [n] at hresult
      simp only [hresult, List.append_nil, if_true]
      exact hrun
    · rw [if_neg hlast] at hrun
      have hrest := ih hlast ((s.append c (left.take n)).goto t (pc (left.drop n))) hopen
        (threads_goto _ t _)
      refine hrun.trans ?_
      rw [append_goto, hdone, goto_goto, append_append] at hrest
      exact hrest

/-- A step that writes the header. -/
theorem stepSend_header {call : SendCall} {fd c : Nat} (s : SendThreads) (left : List UInt8)
    (ret : Int) (hopen : s.connection fd = some c)
    (hpc : s.threads t = .header call (some fd) left) :
    s.stepSend t ret =
      if ret ≤ 0 then s.goto t (failedPc call.plane)
      else if left.drop ret.toNat = [] then
        (s.append c (left.take ret.toNat)).goto t (.body call (some fd) call.data)
      else (s.append c (left.take ret.toNat)).goto t
        (.header call (some fd) (left.drop ret.toNat)) := by
  unfold stepSend
  rw [hpc]
  dsimp only
  rw [sendCall_of_open hopen]
  -- A call that fails sends the thread to its failure, whatever is left to write.
  by_cases hret : ret ≤ 0
  · rw [if_pos hret, if_pos hret]
  · rw [if_neg hret, if_neg hret]
    dsimp only
    rw [drop_take_length]
    split <;> rfl

/-- A step that writes the body. -/
theorem stepSend_body {call : SendCall} {fd c : Nat} (s : SendThreads) (left : List UInt8)
    (ret : Int) (hopen : s.connection fd = some c)
    (hpc : s.threads t = .body call (some fd) left) :
    s.stepSend t ret =
      if ret ≤ 0 then s.goto t (failedPc call.plane)
      else if left.drop ret.toNat = [] then
        ((s.append c (left.take ret.toNat)).complete c call).goto t (.countSent call.plane)
      else (s.append c (left.take ret.toNat)).goto t
        (.body call (some fd) (left.drop ret.toNat)) := by
  unfold stepSend
  rw [hpc]
  dsimp only
  rw [sendCall_of_open hopen]
  by_cases hret : ret ≤ 0
  · rw [if_pos hret, if_pos hret]
  · rw [if_neg hret, if_neg hret]
    dsimp only
    rw [drop_take_length]

/-- The thread makes its next access. -/
theorem Runs.next {s s'' : SendThreads} {pc : SendPc} (s' : SendThreads) (h : Runs t s' s'')
    (ret : Int) (hstep : (s.goto t pc).stepSend t ret = s') : Runs t (s.goto t pc) s'' := by
  rw [← hstep] at h
  exact (Runs.step _ t ret).trans h

/-- What the calls see of a transport. -/
def transport (s : SendThreads) (T : TransportImpl) : TransportImpl :=
  { T with
    connected := s.connected
    backlog := s.backlog
    totalSent := s.totalSent
    inputSocket := s.inputSocket
    controlSocket := s.controlSocket }

/-- A frame is the header and then, if that was sent, the body. -/
theorem sendFrame_eq (fd : Nat) (ret : Nat → Int) (data : List UInt8) :
    let header := sendLoop ret 0 (htonl (UInt32.ofNat data.length))
    let body := sendLoop ret header.2.2 data
    TransportImpl.sendFrame (some fd) ret data =
      if header.1 then (body.1, header.2.1 ++ body.2.1) else (false, header.2.1) := by
  unfold TransportImpl.sendFrame TransportImpl.sendRaw
  dsimp only
  cases (sendLoop ret 0 (htonl (UInt32.ofNat data.length))).1 <;> rfl

/-- The frame of a call, written by one thread. -/
theorem sendFrame_alone (call : SendCall) {fd c : Nat} (hopen : s.connection fd = some c)
    (ret : Nat → Int) :
    let sent := TransportImpl.sendFrame (some fd) ret call.data
    Runs t (s.goto t (.header call (some fd) (htonl (UInt32.ofNat call.data.length))))
      (if sent.1 then ((s.append c sent.2).complete c call).goto t (.countSent call.plane)
       else (s.append c sent.2).goto t (failedPc call.plane)) := by
  have hlength : htonl (UInt32.ofNat call.data.length) ≠ [] := nofun
  have hheader := sendLoop_alone (.header call (some fd))
    (fun s => s.goto t (.body call (some fd) call.data))
    stepSend_header (fun s pc => goto_goto s t pc _) ret 0 hlength (s.goto t _) hopen
    (threads_goto s t _)
  have hdata : call.data ≠ [] := List.length_pos_iff.mp call.data_pos
  rw [sendFrame_eq]
  generalize sendLoop ret 0 (htonl (UInt32.ofNat call.data.length)) = header at hheader ⊢
  obtain ⟨ok, written, k⟩ := header
  rw [append_goto, goto_goto, goto_goto] at hheader
  cases ok with
  -- The header failed, and the data are not sent.
  | false => exact hheader
  | true =>
    have hbody := sendLoop_alone (.body call (some fd))
      (fun s => (s.complete c call).goto t (.countSent call.plane))
      stepSend_body (fun s pc => goto_goto (s.complete c call) t pc _) ret k hdata
      ((s.append c written).goto t _) hopen (threads_goto _ t _)
    refine Lib.Machine.Reaches.trans hheader ?_
    generalize sendLoop ret k call.data = body at hbody ⊢
    rw [append_goto, complete_goto, goto_goto, goto_goto, append_append] at hbody
    simp only [if_true]
    exact hbody

/-- The thread gets `sendMutex_` and the socket. -/
theorem begin_alone (call : SendCall) (hconnected : s.connected = true)
    (hfree : s.sendMutex = .free) :
    Runs t (s.goto t (.loadConnected call))
      ({ s with sendMutex := { holder := some t } }.goto t
        (.header call (s.socket call.plane) (htonl (UInt32.ofNat call.data.length)))) := by
  -- Backwards from the header: load the socket, lock, load the flag.
  refine Runs.next (s.goto t (.lock call)) ?_ 0 ?_
  · refine Runs.next ({ s with sendMutex := { holder := some t } }.goto t (.loadSocket call))
      ?_ 0 ?_
    · refine Runs.next _ (.refl _) 0 ?_
      unfold stepSend
      rw [threads_goto]
      show SendThreads.goto (SendThreads.goto _ t _) t
        (.header call ((goto _ t _).socket call.plane) _) = _
      rw [goto_goto]
      cases call.plane <;> rfl
    · unfold stepSend
      rw [threads_goto]
      dsimp only
      rw [show (s.goto t (.lock call)).sendMutex = .free from hfree]
      exact goto_goto { s with sendMutex := { holder := some t } } t _ _
  · unfold stepSend
    rw [threads_goto]
    show (if s.connected then _ else _) = _
    rw [hconnected, if_pos rfl]
    exact goto_goto s t _ _

/-- After an event whose frame was not written. -/
theorem failed_alone (s : SendThreads) (t : Nat) :
    Runs t (s.goto t .backlogFailed) ({ s.addBacklog with sendMutex := .free }.goto t .idle) := by
  refine Runs.next (s.addBacklog.goto t .unlock) ?_ 0 ?_
  · refine Runs.next _ (.refl _) 0 ?_
    unfold stepSend
    rw [threads_goto]
    exact goto_goto { s.addBacklog with sendMutex := .free } t _ _
  · unfold stepSend
    rw [threads_goto]
    exact goto_goto s.addBacklog t _ _

/-- After an event whose frame was written. -/
theorem sent_alone (s : SendThreads) (t : Nat) :
    ∃ s', Runs t (s.goto t (.countSent .input)) s' ∧ s'.threads t = .idle ∧ s'.sendMutex = .free ∧
      s'.totalSent = s.totalSent + 1 ∧
      s'.backlog = (if s.backlog > 0 then s.backlog - 1 else s.backlog) ∧
      (∀ T, s'.transport T =
        { s.transport T with totalSent := s'.totalSent, backlog := s'.backlog }) ∧
      s'.streams = s.streams := by
  let counted : SendThreads := { s with totalSent := s.totalSent + 1 }
  have hcount : (s.goto t (.countSent .input)).stepSend t 0 = counted.goto t .loadBacklog := by
    unfold stepSend
    rw [threads_goto]
    exact goto_goto counted t _ _
  have hunlock : ∀ s₁ : SendThreads,
      (s₁.goto t .unlock).stepSend t 0 = { s₁ with sendMutex := .free }.goto t .idle := by
    intro s₁
    unfold stepSend
    rw [threads_goto]
    exact goto_goto { s₁ with sendMutex := .free } t _ _
  have hload : (counted.goto t .loadBacklog).stepSend t 0 =
      counted.goto t (if s.backlog > 0 then .subBacklog else .unlock) := by
    unfold stepSend
    rw [threads_goto]
    exact goto_goto counted t _ _
  -- A backlog that is not 0 goes down by one.
  by_cases hbacklog : s.backlog > 0
  · rw [if_pos hbacklog] at hload
    let taken : SendThreads := { counted with backlog := s.backlog - 1, subs := s.subs + 1 }
    have hsub : (counted.goto t .subBacklog).stepSend t 0 = taken.goto t .unlock := by
      unfold stepSend
      rw [threads_goto]
      exact goto_goto taken t _ _
    refine ⟨{ taken with sendMutex := .free }.goto t .idle, ?_, threads_goto _ t _, rfl, rfl, ?_,
      fun _ => rfl, rfl⟩
    · have hrest := Runs.next _ (Runs.next _ (.refl _) 0 (hunlock taken)) 0 hsub
      exact Runs.next _ (Runs.next _ hrest 0 hload) 0 hcount
    · rw [if_pos hbacklog]
      rfl
  · rw [if_neg hbacklog] at hload
    refine ⟨{ counted with sendMutex := .free }.goto t .idle, ?_, threads_goto _ t _, rfl, rfl, ?_,
      fun _ => rfl, rfl⟩
    · exact Runs.next _ (Runs.next _ (Runs.next _ (.refl _) 0 (hunlock counted)) 0 hload) 0 hcount
    · rw [if_neg hbacklog]
      rfl

/-- Without a connection an event is only counted. -/
theorem send_of_disconnected {t : TransportImpl} (h : t.connected = false) (bytes : ObjectBytes)
    (event : CanonicalInputEvent) (ret : Nat → Int) :
    t.send bytes event ret = ({ t with backlog := t.backlog + 1 }, []) := by
  rw [TransportImpl.send, h]
  rfl

/-- With a connection an event is sent as a frame. -/
theorem send_of_connected {t : TransportImpl} (h : t.connected = true) (bytes : ObjectBytes)
    (event : CanonicalInputEvent) (ret : Nat → Int) :
    t.send bytes event ret =
      (if (TransportImpl.sendFrame t.inputSocket ret (bytes.event event)).1 then
        { t with
          totalSent := t.totalSent + 1
          backlog := if t.backlog > 0 then t.backlog - 1 else t.backlog }
      else { t with backlog := t.backlog + 1 },
        (TransportImpl.sendFrame t.inputSocket ret (bytes.event event)).2) := by
  cases hok : (TransportImpl.sendFrame t.inputSocket ret (bytes.event event)).1 with
  | false => simp [TransportImpl.send, h, hok]
  | true =>
    by_cases hbacklog : t.backlog > 0
    · simp [TransportImpl.send, h, hok, hbacklog]
    · simp [TransportImpl.send, h, hok, hbacklog]

/-- `send(const CanonicalInputEvent&)`, with no step of another thread between its own, does to the
transport what `TransportImpl.send` does at once, and writes the same bytes. -/
theorem send_alone (T : TransportImpl) (bytes : ObjectBytes) {event : CanonicalInputEvent}
    {call : SendCall} (hplane : call.plane = .input) (hdata : call.data = bytes.event event)
    (hidle : s.threads t = .idle) (hfree : s.sendMutex = .free) {fd c : Nat}
    (hfd : s.inputSocket = some fd) (hopen : s.connection fd = some c) (ret : Nat → Int) :
    ∃ s', Runs t (s.callSend t call) s' ∧ s'.threads t = .idle ∧ s'.sendMutex = .free ∧
      s'.transport T = ((s.transport T).send bytes event ret).1 ∧
      s'.streams =
        Function.update s.streams c (s.streams c ++ ((s.transport T).send bytes event ret).2) := by
  have hcall : s.callSend t call = s.goto t (.loadConnected call) := by
    unfold callSend
    rw [hidle]
  rw [hcall]
  cases hconnected : s.connected with
  | false =>
    rw [send_of_disconnected (t := s.transport T) hconnected]
    -- Not connected: the call only adds to the backlog, without the mutex.
    refine ⟨s.addBacklog.goto t .idle, ?_, threads_goto _ t _, hfree, rfl, ?_⟩
    · refine Runs.next (s.goto t .backlogUnsent) ?_ 0 ?_
      · refine Runs.next (s.addBacklog.goto t .idle) (.refl _) 0 ?_
        unfold stepSend
        rw [threads_goto]
        exact goto_goto s.addBacklog t _ _
      · unfold stepSend
        rw [threads_goto]
        show (if s.connected then _ else _) = _
        rw [hconnected, if_neg Bool.false_ne_true, hplane]
        exact goto_goto s t _ _
    · show s.streams = Function.update s.streams c (s.streams c ++ [])
      rw [List.append_nil, Function.update_eq_self]
  | true =>
    rw [send_of_connected (t := s.transport T) hconnected]
    -- Connected: the mutex and the socket, then the frame, then the counters.
    let locked : SendThreads := { s with sendMutex := { holder := some t } }
    have hsocket : s.socket call.plane = some fd := by
      rw [hplane]
      exact hfd
    have hbegin := begin_alone (t := t) call hconnected hfree
    rw [hsocket] at hbegin
    have hframe := hbegin.trans (sendFrame_alone (s := locked) (t := t) call hopen ret)
    rw [hplane, hdata] at hframe
    have hsent : TransportImpl.sendFrame (some fd) ret (bytes.event event) =
        TransportImpl.sendFrame (s.transport T).inputSocket ret (bytes.event event) := by
      rw [← hfd]
      rfl
    rw [hsent] at hframe
    generalize TransportImpl.sendFrame (s.transport T).inputSocket ret (bytes.event event) = sent
      at hframe ⊢
    obtain ⟨ok, written⟩ := sent
    cases ok with
    | false =>
      exact ⟨_, hframe.trans (failed_alone (locked.append c written) t), threads_goto _ t _, rfl,
        rfl, rfl⟩
    | true =>
      obtain ⟨s', hrun, hpc, hmutex, htotal, hbacklog, htransport, hstreams⟩ :=
        sent_alone ((locked.append c written).complete c call) t
      refine ⟨s', hframe.trans hrun, hpc, hmutex, ?_, hstreams⟩
      rw [htransport, htotal, hbacklog]
      rfl

end SendThreads

end CrossFlow
