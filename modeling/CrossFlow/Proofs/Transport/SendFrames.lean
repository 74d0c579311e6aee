import CrossFlow.Proofs.Transport.Framing
import CrossFlow.Proofs.Transport.SendThreads

/-!
# `CrossFlow.Proofs.Transport.SendFrames`: the frames of threads that send at once

* `framed_run`: under `sendMutex_` a connection carries whole frames and part of one at most, in runs
  in which no frame is broken off while its descriptor stays in use.
* `received_are_framed`: so the peer reads what the completed calls of `send` wrote.
-/

set_option autoImplicit false

namespace CrossFlow

open Lib (Machine Mutex FrameFormat)

namespace SendThreads

variable {s s' : SendThreads} {t : Nat} {ret : Int}

/-- No frame is broken off on a connection that is still used: `::send` does not fail on an open
descriptor in the middle of a frame, and the number of a closed descriptor is not given to a new
connection while a thread is in the middle of a frame for it. -/
def Tidy (s : SendThreads) : SendAction → Prop
  | .stepSend t ret => s.openOn (s.threads t).midFrame ≠ none → 0 < ret
  | .openConnection fd => ∀ t, (s.threads t).midFrame ≠ some fd
  | _ => True

/-- The frames of the calls. -/
def frames (calls : List SendCall) : List UInt8 := calls.flatMap SendCall.frame

/-- `p` is what the connection carries of a frame that is not complete. -/
structure PartOnWire (s : SendThreads) (c : Nat) (p : List UInt8) : Prop where
  initial : p = [] ∨ ∃ (call : SendCall) (left : List UInt8), left ≠ [] ∧ p ++ left = call.frame
  /-- The thread that writes on it has still to write the others. -/
  writer : ∀ {t : Nat} {call : SendCall} {fd : Nat} {left : List UInt8},
    (s.threads t).writing = some (call, some fd, left) → s.connection fd = some c →
    p ++ left = call.frame
  idle : ∀ {fd : Nat}, s.connection fd = some c →
    (∀ t call left, (s.threads t).writing ≠ some (call, some fd, left)) → p = []

/-- Each connection carries whole frames, and then part of one. -/
structure Framed (s : SendThreads) : Prop where
  guards : s.sendMutex.Guards fun t => (s.threads t).Guarded
  suffix : ∀ {t : Nat} {call : SendCall} {fd : SocketFd} {left : List UInt8},
    (s.threads t).writing = some (call, fd, left) → left <:+ call.frame
  connection_lt : ∀ {fd c : Nat}, s.connection fd = some c → c < s.connections
  connection_inj : ∀ {fd fd' c : Nat}, s.connection fd = some c → s.connection fd' = some c →
    fd = fd'
  fresh : ∀ c, s.connections ≤ c → s.streams c = [] ∧ s.framed c = []
  streams : ∀ c, ∃ p, PartOnWire s c p ∧ s.streams c = frames (s.framed c) ++ p

/-- There is one writer at most. -/
theorem Framed.writer_unique (h : Framed s) {t u : Nat}
    {w w' : SendCall × SocketFd × List UInt8} (ht : (s.threads t).writing = some w)
    (hu : (s.threads u).writing = some w') : t = u :=
  h.guards.unique (SendPc.guarded_of_writing ht) (SendPc.guarded_of_writing hu)

/-- Nothing is written, and connections may be closed. -/
theorem PartOnWire.mono {c : Nat} {p : List UInt8} (h : PartOnWire s c p)
    (hwriting : ∀ u, (s'.threads u).writing = (s.threads u).writing)
    (hopen : ∀ fd, s'.connection fd = some c → s.connection fd = some c) : PartOnWire s' c p where
  initial := h.initial
  writer := fun ht hfd => h.writer ((hwriting _).symm.trans ht) (hopen _ hfd)
  idle := fun hfd hidle => h.idle (hopen _ hfd) fun t call left ht =>
    hidle t call left ((hwriting t).trans ht)

/-- A step that leaves the streams keeps them framed. -/
theorem Framed.mono (h : Framed s)
    (hguards : s'.sendMutex.Guards fun t => (s'.threads t).Guarded)
    (hwriting : ∀ u, (s'.threads u).writing = (s.threads u).writing)
    (hopen : ∀ fd c, s'.connection fd = some c → s.connection fd = some c)
    (hconnections : s'.connections = s.connections) (hstreams : s'.streams = s.streams)
    (hframed : s'.framed = s.framed) : Framed s' where
  guards := hguards
  suffix := fun ht => h.suffix ((hwriting _).symm.trans ht)
  connection_lt := fun hfd => by
    rw [hconnections]
    exact h.connection_lt (hopen _ _ hfd)
  connection_inj := fun hfd hfd' => h.connection_inj (hopen _ _ hfd) (hopen _ _ hfd')
  fresh := by
    rw [hconnections, hstreams, hframed]
    exact h.fresh
  streams := fun c => by
    obtain ⟨p, hp, hsplit⟩ := h.streams c
    rw [hstreams, hframed]
    exact ⟨p, hp.mono hwriting fun fd => hopen fd c, hsplit⟩

/-- A frame of which nothing is written: its writer is not in the middle of it. -/
theorem eq_frame_of_midFrame {pc : SendPc} {call : SendCall} {fd : Nat} {left : List UInt8}
    (h : pc.writing = some (call, some fd, left)) (hsuffix : left <:+ call.frame)
    (hmid : pc.midFrame ≠ some fd) : left = call.frame := by
  refine hsuffix.eq_of_length_le (Nat.not_lt.mp fun hlt => hmid ?_)
  rw [SendPc.midFrame, h]
  exact if_pos hlt

/-! #### The moves of a thread -/

/-- The frame of a thread that begins: no other one writes. -/
theorem PartOnWire.begins (hguards : s'.sendMutex.Guards fun t => (s'.threads t).Guarded)
    (hsame : SameWires s s' t) {call : SendCall} {fd : SocketFd}
    (hpc : (s'.threads t).writing = some (call, fd, call.frame))
    (hidle : (s.threads t).writing = none) {c : Nat} {p : List UInt8} (hp : PartOnWire s c p) :
    PartOnWire s' c p := by
  -- The thread that begins has the mutex, and it was not writing before.
  have hnobody : ∀ u w, (s.threads u).writing ≠ some w := by
    intro u w hu
    by_cases hut : u = t
    · rw [hut, hidle] at hu
      cases hu
    · have hu' := hu
      rw [← hsame.others u hut] at hu'
      exact hut (hguards.unique (SendPc.guarded_of_writing hu') (SendPc.guarded_of_writing hpc))
  constructor
  · exact hp.initial
  · intro u call' fd' left hu hfd'
    rw [hsame.connection] at hfd'
    by_cases hut : u = t
    · rw [hut, hpc] at hu
      cases hu
      rw [hp.idle hfd' fun t call left => hnobody t _, List.nil_append]
    · rw [hsame.others u hut] at hu
      exact absurd hu (hnobody u _)
  · intro fd' hfd' _
    rw [hsame.connection] at hfd'
    exact hp.idle hfd' fun t call left => hnobody t _

/-- The connections that the thread does not write on. -/
theorem Framed.elsewhere (h : Framed s) (hsame : SameWires s s' t) {call : SendCall} {fd c : Nat}
    {left : List UInt8}
    (hbefore : (s.threads t).writing = some (call, some fd, left))
    (hfd : s.connection fd = some c)
    (hafter : ∀ {call' : SendCall} {fd' : Nat} {left' : List UInt8},
      (s'.threads t).writing = some (call', some fd', left') → fd' = fd) {c' : Nat} (hc : c' ≠ c)
    {p : List UInt8} (hp : PartOnWire s c' p) : PartOnWire s' c' p := by
  -- Nobody writes on `c'`: it has another descriptor.
  have hother : ∀ {fd'}, s.connection fd' = some c' → fd' ≠ fd := by
    rintro fd' hfd' rfl
    exact hc (Option.some_inj.mp (hfd'.symm.trans hfd))
  constructor
  · exact hp.initial
  · intro u call' fd' left' hu hfd'
    rw [hsame.connection] at hfd'
    by_cases hut : u = t
    · rw [hut] at hu
      exact absurd (hafter hu) (hother hfd')
    · rw [hsame.others u hut] at hu
      exact absurd (h.writer_unique hu hbefore) hut
  · intro fd' hfd' _
    rw [hsame.connection] at hfd'
    refine hp.idle hfd' fun u call' left' hu => ?_
    have hut := h.writer_unique hu hbefore
    rw [hut, hbefore] at hu
    cases hu
    exact hother hfd' rfl

/-- A step inside a frame keeps the streams framed. -/
theorem Framed.writes (h : Framed s)
    (hguards : s'.sendMutex.Guards fun t => (s'.threads t).Guarded) (hsame : SameWires s s' t)
    {call : SendCall} {fd c n : Nat} {left : List UInt8}
    (hbefore : (s.threads t).writing = some (call, some fd, left))
    (hfd : s.connection fd = some c) (hleft : left.drop n ≠ [])
    (hpc : (s'.threads t).writing = some (call, some fd, left.drop n)) {p : List UInt8}
    (hp : PartOnWire s c p) : PartOnWire s' c (p ++ left.take n) := by
  have hall : p ++ left.take n ++ left.drop n = call.frame := by
    rw [List.append_assoc, List.take_append_drop]
    exact hp.writer hbefore hfd
  constructor
  · exact .inr ⟨call, left.drop n, hleft, hall⟩
  · intro u call' fd' left' hu _
    -- Only the holder of `sendMutex_` writes, so `u` is this thread.
    have hut := hguards.unique (SendPc.guarded_of_writing hu) (SendPc.guarded_of_writing hpc)
    rw [hut, hpc] at hu
    cases hu
    exact hall
  · intro fd' hfd' hidle
    rw [hsame.connection] at hfd'
    rw [h.connection_inj hfd' hfd] at hidle
    exact absurd hpc (hidle t call _)

/-- After the last byte of a frame nothing is left of it. -/
theorem Framed.completes (h : Framed s) (hsame : SameWires s s' t) {call : SendCall} {fd c : Nat}
    {left : List UInt8}
    (hbefore : (s.threads t).writing = some (call, some fd, left))
    (hpc : (s'.threads t).writing = none) : PartOnWire s' c [] := by
  refine ⟨.inl rfl, ?_, fun _ _ => rfl⟩
  intro u call' fd' left' hu _
  by_cases hut : u = t
  · rw [hut, hpc] at hu
    cases hu
  · -- Another thread cannot be in the middle of a frame: `sendMutex_` is held by `t`.
    rw [hsame.others u hut] at hu
    exact absurd (h.writer_unique hu hbefore) hut

/-- A frame is given up on a closed descriptor, or before anything of it is written. -/
theorem Framed.givesUp (h : Framed s) (hsame : SameWires s s' t) {call : SendCall} {fd : SocketFd}
    {left : List UInt8}
    (hbefore : (s.threads t).writing = some (call, fd, left))
    (hfails : s.openOn fd = none ∨ ret ≤ 0) (htidy : Tidy s (.stepSend t ret))
    (hpc : (s'.threads t).writing = none) {c : Nat} {p : List UInt8} (hp : PartOnWire s c p) :
    PartOnWire s' c p := by
  constructor
  · exact hp.initial
  · intro u call' fd' left' hu hfd'
    rw [hsame.connection] at hfd'
    by_cases hut : u = t
    · rw [hut, hpc] at hu
      cases hu
    · rw [hsame.others u hut] at hu
      exact hp.writer hu hfd'
  · intro fd' hfd' _
    rw [hsame.connection] at hfd'
    by_cases hfd : fd = some fd'
    · subst hfd
      -- The descriptor is still in use, so the step is tidy: nothing of the frame was written.
      have hopen : s.openOn (some fd') = some c := hfd'
      have hwhole : left = call.frame := by
        refine eq_frame_of_midFrame hbefore (h.suffix hbefore) fun hmid => ?_
        have hret : 0 < ret := by
          refine htidy ?_
          rw [hmid, hopen]
          exact Option.some_ne_none c
        rcases hfails with hclosed | hret'
        · rw [hopen] at hclosed
          cases hclosed
        · omega
      have hnothing := hp.writer hbefore hfd'
      rw [hwhole] at hnothing
      exact List.append_left_eq_self.mp hnothing
    · refine hp.idle hfd' fun u call' left' hu => ?_
      have hut := h.writer_unique hu hbefore
      rw [hut, hbefore] at hu
      cases hu
      exact hfd rfl

/-- A tidy step of a sender keeps the streams framed. -/
theorem framed_stepSend (h : Framed s) (t : Nat) (ret : Int) (htidy : Tidy s (.stepSend t ret)) :
    Framed (s.stepSend t ret) := by
  have hguards := guards_stepSend h.guards t ret
  have hsame := sameWires_stepSend s t ret
  have hmove := stepSend_move s t ret
  generalize s.stepSend t ret = s' at hguards hsame hmove
  have hconnection_lt {fd c : Nat} (hfd : s'.connection fd = some c) : c < s'.connections := by
    rw [hsame.connection] at hfd
    rw [hsame.connections]
    exact h.connection_lt hfd
  have hconnection_inj {fd fd' c : Nat} (hfd : s'.connection fd = some c)
      (hfd' : s'.connection fd' = some c) : fd = fd' := by
    rw [hsame.connection] at hfd hfd'
    exact h.connection_inj hfd hfd'
  -- The thread that moves is the only one whose frame changes.
  have hsuffix (hself : ∀ {call fd left}, (s'.threads t).writing = some (call, fd, left) →
      left <:+ call.frame) {u : Nat} {call : SendCall} {fd : SocketFd} {left : List UInt8}
      (hu : (s'.threads u).writing = some (call, fd, left)) : left <:+ call.frame := by
    by_cases hut : u = t
    · subst hut
      exact hself hu
    · rw [hsame.others u hut] at hu
      exact h.suffix hu
  cases hmove with
  | quiet hpc hstreams hframed =>
    refine h.mono hguards (fun u => ?_) (fun fd c hfd => ?_) hsame.connections hstreams hframed
    · by_cases hut : u = t
      · rw [hut, hpc]
      · rw [hsame.others u hut]
    · rwa [hsame.connection] at hfd
  | begins call fd hpc hidle hstreams hframed =>
    refine ⟨hguards, hsuffix fun hu => ?_, hconnection_lt, hconnection_inj, ?_, fun c => ?_⟩
    · rw [hpc] at hu
      cases hu
      exact List.suffix_refl _
    · rw [hsame.connections, hstreams, hframed]
      exact h.fresh
    · obtain ⟨p, hp, hsplit⟩ := h.streams c
      rw [hstreams, hframed]
      exact ⟨p, hp.begins hguards hsame hpc hidle, hsplit⟩
  | writes call fd c n left hbefore hopen hleft hpc hstreams hframed =>
    refine ⟨hguards, hsuffix fun hu => ?_, hconnection_lt, hconnection_inj, ?_, fun c' => ?_⟩
    · rw [hpc] at hu
      cases hu
      exact (List.drop_suffix n left).trans (h.suffix hbefore)
    · intro c' hc'
      rw [hsame.connections] at hc'
      have hlt := h.connection_lt hopen
      rw [hstreams, hframed, Function.update_of_ne (by omega)]
      exact h.fresh c' hc'
    · obtain ⟨p, hp, hsplit⟩ := h.streams c'
      rw [hstreams, hframed]
      by_cases hc : c' = c
      · subst hc
        -- The part on the wire grows by what this call of `::send` took.
        refine ⟨p ++ left.take n, h.writes hguards hsame hbefore hopen hleft hpc hp, ?_⟩
        rw [Function.update_self, hsplit, List.append_assoc]
      · refine ⟨p, h.elsewhere hsame hbefore hopen (fun hu => ?_) hc hp, ?_⟩
        · rw [hpc] at hu
          cases hu
          rfl
        · rw [Function.update_of_ne hc, hsplit]
  | completes call fd c left hbefore hopen hpc hstreams hframed =>
    refine ⟨hguards, hsuffix fun hu => ?_, hconnection_lt, hconnection_inj, ?_, fun c' => ?_⟩
    · rw [hpc] at hu
      cases hu
    · intro c' hc'
      rw [hsame.connections] at hc'
      have hlt := h.connection_lt hopen
      rw [hstreams, hframed, Function.update_of_ne (by omega), Function.update_of_ne (by omega)]
      exact h.fresh c' hc'
    · obtain ⟨p, hp, hsplit⟩ := h.streams c'
      rw [hstreams, hframed]
      by_cases hc : c' = c
      · subst hc
        -- Part and rest are the frame, which joins the frames of the connection.
        refine ⟨[], h.completes hsame hbefore hpc, ?_⟩
        rw [Function.update_self, Function.update_self, hsplit, List.append_assoc,
          hp.writer hbefore hopen, frames, frames, List.flatMap_append, List.flatMap_singleton,
          List.append_nil]
      · refine ⟨p, h.elsewhere hsame hbefore hopen (fun hu => ?_) hc hp, ?_⟩
        · rw [hpc] at hu
          cases hu
        · rw [Function.update_of_ne hc, Function.update_of_ne hc, hsplit]
  | givesUp call fd left hbefore hfails hpc hstreams hframed =>
    refine ⟨hguards, hsuffix fun hu => ?_, hconnection_lt, hconnection_inj, ?_, fun c => ?_⟩
    · rw [hpc] at hu
      cases hu
    · rw [hsame.connections, hstreams, hframed]
      exact h.fresh
    · obtain ⟨p, hp, hsplit⟩ := h.streams c
      rw [hstreams, hframed]
      exact ⟨p, h.givesUp hsame hbefore hfails htidy hpc hp, hsplit⟩

/-- A new connection carries nothing, and no thread is in the middle of a frame for it. -/
theorem framed_openConnection (h : Framed s) (fd : Nat) (htidy : Tidy s (.openConnection fd)) :
    Framed (s.openConnection fd) := by
  have hguards := guards_step h.guards (.openConnection fd)
  change (s.openConnection fd).sendMutex.Guards
    fun t => ((s.openConnection fd).threads t).Guarded at hguards
  unfold openConnection at hguards ⊢
  cases hfd : s.connection fd with
  | some c => exact h
  | none =>
    -- The descriptors of the old connections, and the one of the new connection.
    have hcases {fd' c : Nat}
        (hfd' : Function.update s.connection fd (some s.connections) fd' = some c) :
        fd' ≠ fd ∧ s.connection fd' = some c ∧ c < s.connections ∨
          fd' = fd ∧ c = s.connections := by
      by_cases heq : fd' = fd
      · rw [heq, Function.update_self] at hfd'
        exact .inr ⟨heq, (Option.some.inj hfd').symm⟩
      · rw [Function.update_of_ne heq] at hfd'
        exact .inl ⟨heq, hfd', h.connection_lt hfd'⟩
    rw [hfd] at hguards
    refine ⟨hguards, h.suffix, fun hfd' => ?_, fun hfd₁ hfd₂ => ?_, fun c hc => ?_, fun c => ?_⟩
    · show _ < s.connections + 1
      rcases hcases hfd' with ⟨-, -, hlt⟩ | ⟨-, heq⟩ <;> omega
    · rcases hcases hfd₁ with ⟨-, hold, hlt⟩ | ⟨heq, hnew⟩
      · rcases hcases hfd₂ with ⟨-, hold', -⟩ | ⟨-, hnew'⟩
        · exact h.connection_inj hold hold'
        · omega
      · rcases hcases hfd₂ with ⟨-, -, hlt'⟩ | ⟨heq', -⟩
        · omega
        · rw [heq, heq']
    · change s.connections + 1 ≤ c at hc
      exact h.fresh c (by omega)
    · obtain ⟨p, hp, hsplit⟩ := h.streams c
      by_cases hc : c = s.connections
      · -- A descriptor number is used again: nobody writes on it in the middle of a frame.
        obtain ⟨hstreams, hframed⟩ := h.fresh c (by omega)
        rw [hstreams, hframed] at hsplit
        have hnil : p = [] := (List.append_eq_nil_iff.mp hsplit.symm).2
        subst hnil
        refine ⟨[], ⟨.inl rfl, fun {t call fd' left} ht hfd' => ?_, fun _ _ => rfl⟩, ?_⟩
        · rcases hcases hfd' with ⟨-, -, hlt⟩ | ⟨rfl, -⟩
          · omega
          · exact eq_frame_of_midFrame ht (h.suffix ht) (htidy t)
        · show s.streams c = frames (s.framed c) ++ []
          rw [hstreams, hframed]
          rfl
      · refine ⟨p, hp.mono (fun _ => rfl) fun fd' hfd' => ?_, hsplit⟩
        rcases hcases hfd' with ⟨-, hold, -⟩ | ⟨-, heq⟩
        · exact hold
        · exact absurd heq hc

/-- A connection that is closed is the connection of no descriptor. -/
theorem connection_closeConnection {fd : SocketFd} {fd' c : Nat}
    (h : (s.closeConnection fd).connection fd' = some c) : s.connection fd' = some c := by
  cases fd with
  | none => exact h
  | some fd =>
    change Function.update s.connection fd none fd' = some c at h
    by_cases heq : fd' = fd
    · rw [heq, Function.update_self] at h
      cases h
    · rwa [Function.update_of_ne heq] at h

/-- Closing a connection keeps the streams framed. -/
theorem framed_closeConnection (h : Framed s) (fd : SocketFd) : Framed (s.closeConnection fd) := by
  cases fd with
  | none => exact h
  | some fd =>
    exact h.mono h.guards (fun _ => rfl) (fun _ _ => connection_closeConnection) rfl rfl rfl

/-- Every tidy step keeps the streams framed. -/
theorem framed_step (s : SendThreads) (a : SendAction) (h : Framed s) (htidy : Tidy s a) :
    Framed (sendMachine.step s a) := by
  have hguards := guards_step h.guards a
  cases a with
  | callSend t call =>
    show Framed (s.callSend t call)
    change (s.callSend t call).sendMutex.Guards
      fun u => ((s.callSend t call).threads u).Guarded at hguards
    unfold callSend at hguards ⊢
    cases hidle : s.threads t with
    | idle =>
      rw [hidle] at hguards
      refine h.mono hguards (fun u => ?_) (fun _ _ => id) rfl rfl rfl
      by_cases hut : u = t
      · rw [hut, threads_goto, hidle]
        rfl
      · show (Function.update s.threads t _ u).writing = _
        rw [Function.update_of_ne hut]
    | _ => exact h
  | stepSend t ret => exact framed_stepSend h t ret htidy
  | setConnected connected => exact h.mono hguards (fun _ => rfl) (fun _ _ => id) rfl rfl rfl
  | openConnection fd => exact framed_openConnection h fd htidy
  | install plane fd =>
    cases plane <;> exact h.mono hguards (fun _ => rfl) (fun _ _ => id) rfl rfl rfl
  | closeConnection fd =>
    exact framed_closeConnection h (some fd)
  | closeSocket plane =>
    cases plane <;>
      exact (framed_closeConnection h _).mono hguards (fun _ => rfl) (fun _ _ => id) rfl rfl rfl

/-- The streams are framed at the start. -/
theorem framed_init : Framed init where
  guards := Mutex.guards_free fun _ => id
  suffix := fun ht => nomatch ht
  connection_lt := fun hfd => nomatch hfd
  connection_inj := fun hfd => nomatch hfd
  fresh := fun _ _ => ⟨rfl, rfl⟩
  streams := fun _ =>
    ⟨[], { initial := .inl rfl, writer := (nomatch ·), idle := fun _ _ => rfl }, rfl⟩

/-- The run lemma. -/
theorem framed_run {as : List SendAction} (has : sendMachine.Meets Tidy sendMachine.init as) :
    Framed (sendMachine.run as) :=
  Machine.invariant_of_meets framed_init framed_step has

/-! ### What the peer reads -/

open TransportImpl (eventFrames announces_htonl htonl)

/-- The header of a frame announces its body. -/
theorem announces_frame (call : SendCall) :
    (eventFrames.comap id).Announces (htonl (UInt32.ofNat call.data.length)) call.data :=
  announces_htonl call.data_pos call.data_le

/-- Part of a frame is no frame. -/
theorem parse_part {p left : List UInt8} {call : SendCall} (hleft : left ≠ [])
    (hframe : p ++ left = call.frame) : (eventFrames.comap id).parse p = ([], p) := by
  obtain ⟨hheader, hbody⟩ := announces_frame call
  have hlength : p.length + left.length =
      (htonl (UInt32.ofNat call.data.length)).length + call.data.length := by
    rw [← List.length_append, hframe, SendCall.frame, List.length_append]
  have hpos := List.length_pos_iff.mpr hleft
  by_cases hshort : p.length < (eventFrames.comap id).headerSize
  · -- The part ends in the header, or in the body that the header announces.
    exact FrameFormat.parse_of_short _ hshort
  · have htake : p.take (eventFrames.comap id).headerSize =
        htonl (UInt32.ofNat call.data.length) := by
      rw [← List.take_append_of_le_length (Nat.not_lt.mp hshort), hframe, SendCall.frame,
        ← hheader, List.take_left]
    rw [← htake] at hbody
    refine FrameFormat.parse_of_incomplete _ hbody ?_
    omega

/-- Whole frames are read, and a part of one is left. -/
theorem parse_frames_part {calls : List SendCall} {p : List UInt8}
    (hp : p = [] ∨ ∃ (call : SendCall) (left : List UInt8), left ≠ [] ∧ p ++ left = call.frame) :
    ((eventFrames.comap id).parse (frames calls ++ p)).1 = calls.map SendCall.data := by
  have hjoin : frames calls =
      (calls.map fun call => (htonl (UInt32.ofNat call.data.length), call.data)).flatMap
        fun frame => frame.1 ++ frame.2 := by
    rw [List.flatMap_map]
    rfl
  have hannounces : ∀ frame ∈
      calls.map fun call => (htonl (UInt32.ofNat call.data.length), call.data),
      (eventFrames.comap id).Announces frame.1 frame.2 := by
    intro frame hframe
    obtain ⟨call, -, rfl⟩ := List.mem_map.mp hframe
    exact announces_frame call
  -- What is left over is less than a frame and parses to nothing.
  have hpart : ((eventFrames.comap id).parse p).1 = [] := by
    rcases hp with rfl | ⟨call, left, hleft, hframe⟩
    · rw [FrameFormat.parse_nil]
    · rw [parse_part hleft hframe]
  rw [hjoin, FrameFormat.parse_frames hannounces p, hpart, List.append_nil, List.map_map]
  rfl

end SendThreads

open SendThreads in
/-- Any number of threads may send at once, while others open and close the connections: if no frame
is broken off while its descriptor stays in use, the peer of each connection reads the data of the
calls that wrote their frame on it, each as a whole and in the order in which they were written. -/
theorem received_are_framed {as : List SendAction}
    (has : sendMachine.Meets SendThreads.Tidy sendMachine.init as) (c receiver : Nat)
    {ret : Nat → Int} (hret : ∀ k, 0 < ret k) :
    (TransportImpl.inputReceiveLoop id (some receiver) ret ((sendMachine.run as).streams c)).1 =
      ((sendMachine.run as).framed c).map SendCall.data := by
  obtain ⟨p, hp, hsplit⟩ := (framed_run has).streams c
  obtain ⟨hbodies, -⟩ := TransportImpl.receiveFrames_parse id hret receiver 0
    ((sendMachine.run as).streams c)
  show (TransportImpl.receiveFrames id (some receiver) ret 0 _).1 = _
  rw [hbodies, hsplit, parse_frames_part hp.initial]

/-- Two threads at once: one writes its frame in three calls of `::send`, and the other waits. -/
theorem received_are_framed_two :
    let first : SendCall := ⟨.input, [1, 2, 3], by decide, by decide⟩
    let second : SendCall := ⟨.input, [4], by decide, by decide⟩
    let as : List SendAction :=
      [.openConnection 3, .install .input 3, .setConnected true, .callSend 0 first,
        .callSend 1 second, .stepSend 0 1, .stepSend 1 1, .stepSend 0 1, .stepSend 1 1,
        .stepSend 0 1, .stepSend 0 4, .stepSend 0 2, .stepSend 1 1, .stepSend 0 2, .stepSend 0 1,
        .stepSend 0 1, .stepSend 0 1, .stepSend 1 1, .stepSend 1 1, .stepSend 1 9, .stepSend 1 9]
    (TransportImpl.inputReceiveLoop id (some 6) (fun _ => 3) ((sendMachine.run as).streams 0)).1 =
        ((sendMachine.run as).framed 0).map SendCall.data ∧
      ((sendMachine.run as).framed 0).map SendCall.data = [[1, 2, 3], [4]] := by
  intro first second as
  refine ⟨received_are_framed ?_ 0 6 fun _ => by decide, by decide⟩
  simp [as, Machine.Meets, SendThreads.Tidy, sendMachine, SendThreads.init, SendPc.midFrame,
    SendPc.writing]

end CrossFlow
