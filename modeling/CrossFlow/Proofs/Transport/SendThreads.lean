import CrossFlow.Core.Transport.SendThreads

/-!
# `CrossFlow.Proofs.Transport.SendThreads`: the steps of the threads that send

* `stepSend_move`: what one step of a thread does to the streams.
* `sameWires_stepSend`: what it leaves as it is.
* `guards_step`: the threads in the guarded part are the ones that hold `sendMutex_`.
-/

set_option autoImplicit false

namespace CrossFlow

open Lib (Mutex)

/-- What the thread has still to write of the frame of its call, and where. -/
def SendPc.writing : SendPc → Option (SendCall × SocketFd × List UInt8)
  | .header call fd left => some (call, fd, left ++ call.data)
  | .body call fd left => some (call, fd, left)
  | _ => none

/-- The descriptor that the thread has written part of a frame to. -/
def SendPc.midFrame (pc : SendPc) : SocketFd :=
  match pc.writing with
  | none => none
  | some (call, fd, left) => if left.length < call.frame.length then fd else none

/-- A thread that writes holds the mutex. -/
theorem SendPc.guarded_of_writing {pc : SendPc} {w : SendCall × SocketFd × List UInt8}
    (h : pc.writing = some w) : pc.Guarded := by
  cases pc with
  | header _ _ _ | body _ _ _ => trivial
  | idle | loadConnected _ | backlogUnsent | lock _ | loadSocket _ | backlogFailed | countSent _
  | loadBacklog | subBacklog | unlock => cases h

namespace SendThreads

variable {s s' : SendThreads} {t : Nat} {ret : Int}

/-! ### The steps -/

/-- What a step of a thread does to the streams. -/
inductive SendMove (s s' : SendThreads) (t : Nat) (ret : Int) : Prop where
  | quiet (hpc : (s'.threads t).writing = (s.threads t).writing) (hstreams : s'.streams = s.streams)
      (hframed : s'.framed = s.framed) : SendMove s s' t ret
  | begins (call : SendCall) (fd : SocketFd)
      (hpc : (s'.threads t).writing = some (call, fd, call.frame))
      (hidle : (s.threads t).writing = none) (hstreams : s'.streams = s.streams)
      (hframed : s'.framed = s.framed) : SendMove s s' t ret
  | writes (call : SendCall) (fd c n : Nat) (left : List UInt8)
      (hbefore : (s.threads t).writing = some (call, some fd, left))
      (hopen : s.connection fd = some c) (hleft : left.drop n ≠ [])
      (hpc : (s'.threads t).writing = some (call, some fd, left.drop n))
      (hstreams : s'.streams = Function.update s.streams c (s.streams c ++ left.take n))
      (hframed : s'.framed = s.framed) : SendMove s s' t ret
  | completes (call : SendCall) (fd c : Nat) (left : List UInt8)
      (hbefore : (s.threads t).writing = some (call, some fd, left))
      (hopen : s.connection fd = some c) (hpc : (s'.threads t).writing = none)
      (hstreams : s'.streams = Function.update s.streams c (s.streams c ++ left))
      (hframed : s'.framed = Function.update s.framed c (s.framed c ++ [call])) :
      SendMove s s' t ret
  | givesUp (call : SendCall) (fd : SocketFd) (left : List UInt8)
      (hbefore : (s.threads t).writing = some (call, fd, left))
      (hfails : s.openOn fd = none ∨ ret ≤ 0) (hpc : (s'.threads t).writing = none)
      (hstreams : s'.streams = s.streams) (hframed : s'.framed = s.framed) : SendMove s s' t ret

/-- What a step of a thread leaves as it is. -/
structure SameWires (s s' : SendThreads) (t : Nat) : Prop where
  connection : s'.connection = s.connection
  connections : s'.connections = s.connections
  others : ∀ u, u ≠ t → s'.threads u = s.threads u

/-- A step leaves the other threads and what they write. -/
theorem sameWires_stepSend (s : SendThreads) (t : Nat) (ret : Int) :
    SameWires s (s.stepSend t ret) t := by
  have hself : SameWires s s t := ⟨rfl, rfl, fun _ _ => rfl⟩
  have hgoto : ∀ pc, SameWires s (s.goto t pc) t := fun pc =>
    ⟨rfl, rfl, fun _ hu => Function.update_of_ne hu _ _⟩
  -- A step goes on in `t`, after a change of something else.
  have hafter : ∀ (s₁ : SendThreads) (pc : SendPc), s₁.connection = s.connection →
      s₁.connections = s.connections → s₁.threads = s.threads → SameWires s (s₁.goto t pc) t := by
    intro s₁ pc hconnection hconnections hthreads
    refine ⟨hconnection, hconnections, fun u hu => ?_⟩
    show Function.update s₁.threads t pc u = s.threads u
    rw [Function.update_of_ne hu, hthreads]
  unfold stepSend
  split
  · exact hself
  · split
    · exact hgoto _
    · split <;> exact hgoto _
  · exact hafter _ _ rfl rfl rfl
  · split
    · exact hafter _ _ rfl rfl rfl
    · exact hself
  · exact hgoto _
  · split
    · exact hgoto _
    · exact hafter _ _ rfl rfl rfl
  · split
    · exact hgoto _
    · dsimp only
      split
      · exact hafter _ _ rfl rfl rfl
      · exact hafter _ _ rfl rfl rfl
  · exact hafter _ _ rfl rfl rfl
  · exact hafter _ _ rfl rfl rfl
  · exact hgoto _
  · exact hafter _ _ rfl rfl rfl
  · exact hafter _ _ rfl rfl rfl

/-- A call of `::send` that writes something. -/
theorem sendCall_eq_some {fd : SocketFd} {left written : List UInt8} {c : Nat}
    (h : s.sendCall fd left ret = some (c, written)) :
    ∃ fd', fd = some fd' ∧ s.connection fd' = some c ∧ written = left.take ret.toNat := by
  unfold sendCall at h
  split at h
  · cases h
  · rename_i c' hopen
    split at h
    · cases h
    · obtain ⟨rfl, rfl⟩ := Prod.mk.inj (Option.some.inj h)
      obtain ⟨fd', hfd, hconnection⟩ := Option.bind_eq_some_iff.mp hopen
      exact ⟨fd', hfd, hconnection, rfl⟩

/-- Why a call of `send` fails. -/
theorem sendCall_eq_none {fd : SocketFd} {left : List UInt8}
    (h : s.sendCall fd left ret = none) : s.openOn fd = none ∨ ret ≤ 0 := by
  unfold sendCall at h
  split at h
  · exact .inl ‹_›
  · split at h
    · exact .inr ‹_›
    · cases h

/-- A jump sets where the thread is. -/
theorem threads_goto (s : SendThreads) (t : Nat) (pc : SendPc) : (s.goto t pc).threads t = pc := by
  show Function.update s.threads t pc t = pc
  exact Function.update_self t pc s.threads

/-- A thread that failed writes nothing. -/
theorem writing_failedPc (plane : Plane) : (failedPc plane).writing = none := by
  cases plane <;> rfl

/-- The first `n` of the bytes that are left are those of `l`, and the others come after. -/
theorem take_min_left (l l' : List UInt8) (n : Nat) :
    (l ++ l').take (l.take n).length = l.take n ∧
      (l ++ l').drop (l.take n).length = l.drop (l.take n).length ++ l' := by
  have hle : (l.take n).length ≤ l.length := by
    rw [List.length_take]
    omega
  constructor
  · rw [List.take_append_of_le_length hle, List.length_take, ← List.take_take, List.take_length]
  · rw [List.drop_append_of_le_length hle]

/-- What a step of a sender can do. -/
theorem stepSend_move (s : SendThreads) (t : Nat) (ret : Int) :
    SendMove s (s.stepSend t ret) t ret := by
  have hquiet : ∀ (s₁ : SendThreads) (pc : SendPc), (s.threads t).writing = none →
      pc.writing = none → s₁.streams = s.streams → s₁.framed = s.framed →
      SendMove s (s₁.goto t pc) t ret := by
    intro s₁ pc hidle hpc hstreams hframed
    refine .quiet ?_ hstreams hframed
    rw [threads_goto, hpc, hidle]
  -- Only the calls of `::send` touch the streams: other accesses are quiet, or begin a frame.
  unfold stepSend
  cases hpc : s.threads t with
  | idle => exact .quiet rfl rfl rfl
  | loadConnected call =>
    have hidle : (s.threads t).writing = none := by rw [hpc]; rfl
    dsimp only
    split
    · exact hquiet s _ hidle rfl rfl rfl
    · split <;> exact hquiet s _ hidle rfl rfl rfl
  | backlogUnsent => exact hquiet _ _ (by rw [hpc]; rfl) rfl rfl rfl
  | lock call =>
    dsimp only
    split
    · exact hquiet _ _ (by rw [hpc]; rfl) rfl rfl rfl
    · exact .quiet rfl rfl rfl
  | loadSocket call =>
    refine .begins call (s.socket call.plane) ?_ (by rw [hpc]; rfl) rfl rfl
    rw [threads_goto]
    rfl
  | header call fd left =>
    have hbefore : (s.threads t).writing = some (call, fd, left ++ call.data) := by rw [hpc]; rfl
    dsimp only
    cases hcall : s.sendCall fd left ret with
    | none =>
      refine .givesUp call fd _ hbefore (sendCall_eq_none hcall) ?_ rfl rfl
      rw [threads_goto, writing_failedPc]
    | some result =>
      obtain ⟨c, written⟩ := result
      obtain ⟨fd', rfl, hopen, rfl⟩ := sendCall_eq_some hcall
      obtain ⟨htake, hdrop⟩ := take_min_left left call.data ret.toNat
      -- The data still come after the header, so the frame is not done.
      refine .writes call fd' c (left.take ret.toNat).length _ hbefore hopen ?_ ?_ ?_ rfl
      · rw [hdrop]
        exact fun h => absurd (List.append_eq_nil_iff.mp h).2
          (List.length_pos_iff.mp call.data_pos)
      · rw [threads_goto, hdrop]
        split
        · next hdone =>
          rw [hdone]
          rfl
        · rfl
      · rw [htake]
        rfl
  | body call fd left =>
    have hbefore : (s.threads t).writing = some (call, fd, left) := by rw [hpc]; rfl
    dsimp only
    cases hcall : s.sendCall fd left ret with
    | none =>
      refine .givesUp call fd _ hbefore (sendCall_eq_none hcall) ?_ rfl rfl
      rw [threads_goto, writing_failedPc]
    | some result =>
      obtain ⟨c, written⟩ := result
      obtain ⟨fd', rfl, hopen, rfl⟩ := sendCall_eq_some hcall
      obtain ⟨htake, -⟩ := take_min_left left [] ret.toNat
      rw [List.append_nil] at htake
      dsimp only
      split
      · next hdone =>
        have hall : left.take ret.toNat = left := by
          rw [← htake]
          exact List.take_of_length_le (List.drop_eq_nil_iff.mp hdone)
        -- The last bytes of the data: the frame is on the wire.
        refine .completes call fd' c left hbefore hopen ?_ ?_ rfl
        · rw [threads_goto]
          rfl
        · rw [hall]
          rfl
      · next hmore =>
        refine .writes call fd' c (left.take ret.toNat).length left hbefore hopen hmore ?_ ?_ rfl
        · rw [threads_goto]
          rfl
        · rw [htake]
          rfl
  | backlogFailed => exact hquiet _ _ (by rw [hpc]; rfl) rfl rfl rfl
  | countSent plane =>
    cases plane <;> exact hquiet _ _ (by rw [hpc]; rfl) rfl rfl rfl
  | loadBacklog =>
    refine hquiet _ _ (by rw [hpc]; rfl) ?_ rfl rfl
    split <;> rfl
  | subBacklog => exact hquiet _ _ (by rw [hpc]; rfl) rfl rfl rfl
  | unlock => exact hquiet _ _ (by rw [hpc]; rfl) rfl rfl rfl

/-! ### The guarded part -/

/-- A jump that keeps what is guarded keeps the mutex. -/
theorem guards_goto (hguards : s.sendMutex.Guards fun t => (s.threads t).Guarded) (t : Nat)
    (pc : SendPc) (hsame : pc.Guarded ↔ (s.threads t).Guarded) :
    (s.goto t pc).sendMutex.Guards fun u => ((s.goto t pc).threads u).Guarded := by
  refine hguards.of_same fun u => ?_
  show (Function.update s.threads t pc u).Guarded ↔ _
  by_cases hu : u = t
  · subst hu
    rw [Function.update_self]
    exact hsame
  · rw [Function.update_of_ne hu]

/-- A thread that failed still holds the mutex. -/
theorem guarded_failedPc (plane : Plane) : (failedPc plane).Guarded := by
  cases plane <;> trivial

/-- The threads in the guarded part are the ones that hold `sendMutex_`. -/
theorem guards_stepSend (hguards : s.sendMutex.Guards fun t => (s.threads t).Guarded) (t : Nat)
    (ret : Int) :
    (s.stepSend t ret).sendMutex.Guards fun u => ((s.stepSend t ret).threads u).Guarded := by
  -- A step inside the guarded part, and one outside of it.
  have hstays : ∀ (s₁ : SendThreads) (pc : SendPc), s₁.sendMutex = s.sendMutex →
      s₁.threads = s.threads → (pc.Guarded ↔ (s.threads t).Guarded) →
      (s₁.goto t pc).sendMutex.Guards fun u => ((s₁.goto t pc).threads u).Guarded := by
    intro s₁ pc hmutex hthreads hsame
    refine guards_goto ?_ t pc ?_
    · rw [hmutex, hthreads]
      exact hguards
    · rw [hthreads]
      exact hsame
  have hother : ∀ (pc : SendPc) (u : Nat), u ≠ t →
      ((Function.update s.threads t pc u).Guarded ↔ (s.threads u).Guarded) := by
    intro pc u hu
    rw [Function.update_of_ne hu]
  unfold stepSend
  cases hpc : s.threads t with
  | idle => exact hguards
  | loadConnected call =>
    have hout : ¬ (s.threads t).Guarded := by rw [hpc]; exact id
    dsimp only
    split
    · exact hstays s _ rfl rfl (iff_of_false id hout)
    · split <;> exact hstays s _ rfl rfl (iff_of_false id hout)
  | backlogUnsent =>
    have hout : ¬ (s.threads t).Guarded := by rw [hpc]; exact id
    exact hstays s.addBacklog _ rfl rfl (iff_of_false id hout)
  -- `lock` is the access by which a thread gets into the guarded part.
  | lock call =>
    dsimp only
    split
    · next hlock =>
      refine hguards.lock hlock ?_ (hother _)
      show (Function.update s.threads t (SendPc.loadSocket call) t).Guarded
      rw [Function.update_self]
      trivial
    · exact hguards
  | loadSocket call =>
    have hin : (s.threads t).Guarded := by rw [hpc]; trivial
    exact hstays s _ rfl rfl (iff_of_true trivial hin)
  | header call fd left =>
    have hin : (s.threads t).Guarded := by rw [hpc]; trivial
    dsimp only
    split
    · exact hstays s _ rfl rfl (iff_of_true (guarded_failedPc _) hin)
    · refine hstays (s.append _ _) _ rfl rfl (iff_of_true ?_ hin)
      split <;> trivial
  | body call fd left =>
    have hin : (s.threads t).Guarded := by rw [hpc]; trivial
    dsimp only
    split
    · exact hstays s _ rfl rfl (iff_of_true (guarded_failedPc _) hin)
    · split
      · exact hstays ((s.append _ _).complete _ _) _ rfl rfl (iff_of_true trivial hin)
      · exact hstays (s.append _ _) _ rfl rfl (iff_of_true trivial hin)
  | backlogFailed =>
    have hin : (s.threads t).Guarded := by rw [hpc]; trivial
    exact hstays s.addBacklog _ rfl rfl (iff_of_true trivial hin)
  | countSent plane =>
    have hin : (s.threads t).Guarded := by rw [hpc]; trivial
    cases plane <;> exact hstays { s with totalSent := s.totalSent + 1 } _ rfl rfl
      (iff_of_true trivial hin)
  | loadBacklog =>
    have hin : (s.threads t).Guarded := by rw [hpc]; trivial
    refine hstays s _ rfl rfl (iff_of_true ?_ hin)
    split <;> trivial
  | subBacklog =>
    have hin : (s.threads t).Guarded := by rw [hpc]; trivial
    exact hstays { s with backlog := s.backlog - 1, subs := s.subs + 1 } _ rfl rfl
      (iff_of_true trivial hin)
  -- `unlock` is the one by which it leaves it, also after a frame that failed.
  | unlock =>
    have hin : (s.threads t).Guarded := by rw [hpc]; trivial
    refine hguards.unlock hin ?_ (hother _)
    show ¬ (Function.update s.threads t SendPc.idle t).Guarded
    rw [Function.update_self]
    exact id

/-- Every step keeps the mutex. -/
theorem guards_step (hguards : s.sendMutex.Guards fun t => (s.threads t).Guarded) (a : SendAction) :
    (sendMachine.step s a).sendMutex.Guards fun t =>
      ((sendMachine.step s a).threads t).Guarded := by
  cases a with
  | callSend t call =>
    show (s.callSend t call).sendMutex.Guards fun u => ((s.callSend t call).threads u).Guarded
    unfold callSend
    split
    · -- A call begins before its thread asks for `sendMutex_`.
      next hidle =>
      refine guards_goto hguards t (.loadConnected call) (iff_of_false id ?_)
      rw [hidle]
      exact id
    · exact hguards
  | stepSend t ret => exact guards_stepSend hguards t ret
  | setConnected connected => exact hguards
  | openConnection fd =>
    show (s.openConnection fd).sendMutex.Guards fun u => ((s.openConnection fd).threads u).Guarded
    unfold openConnection
    split <;> exact hguards
  | install plane fd => cases plane <;> exact hguards
  | closeConnection fd => exact hguards
  | closeSocket plane =>
    show (s.closeSocket plane).sendMutex.Guards fun u => ((s.closeSocket plane).threads u).Guarded
    unfold closeSocket
    cases plane <;> cases s.socket _ <;> exact hguards

end SendThreads

end CrossFlow
