import CrossFlow.Proofs.Integration.Pipeline
import CrossFlow.Proofs.Transport.FrameSync

/-!
# `CrossFlow.Proofs.Integration.SentAccounting`: events sent and events written

`processEvent` counts an event as sent when `send` returns, and `send` returns nothing.

* `send_writes_iff`: when the transport writes the frame of an event.
* `totalTransportSent_run`: the count is of the events written and those lost in `send`.
* `transportSent_exact_iff`: when it is the number of events written, at every moment of a run.
-/

set_option autoImplicit false

namespace CrossFlow

open Lib (Machine)

namespace TransportImpl

/-- The calls of `::send` take the header and a body of `n` bytes. -/
def TakesFrame (ret : Nat → Int) (n : Nat) : Prop :=
  (socketTakes ret 0 4).1 = 4 ∧ (socketTakes ret (socketTakes ret 0 4).2 n).1 = n

/-- Whether a frame is taken whole is decided by the results of `::send`. -/
instance (ret : Nat → Int) (n : Nat) : Decidable (TakesFrame ret n) :=
  inferInstanceAs (Decidable (_ ∧ _))

/-- A frame is written whole when it is taken whole. -/
theorem sendFrame_writes_iff (socket : Nat) (ret : Nat → Int) (data : List UInt8) :
    (sendFrame (some socket) ret data).2 = htonl (UInt32.ofNat data.length) ++ data ↔
      TakesFrame ret data.length := by
  have hheaderLe := socketTakes_le ret 0 4
  generalize hheader : htonl (UInt32.ofNat data.length) = header
  have hlength : header.length = 4 := by
    rw [← hheader]
    rfl
  simp only [sendFrame, hheader, sendRaw, sendLoop_takes, hlength]
  by_cases hall : (socketTakes ret 0 4).1 = 4
  · have hbodyLe := socketTakes_le ret (socketTakes ret 0 4).2 data.length
    simp only [hall, decide_true, Bool.not_true, Bool.false_eq_true, if_false, TakesFrame, true_and]
    rw [List.take_of_length_le (Nat.le_of_eq hlength), List.append_cancel_left_eq,
      List.take_eq_self_iff]
    omega
  · -- A header that is cut is shorter than the frame.
    simp only [hall, decide_false, Bool.not_false, if_true, TakesFrame, false_and, iff_false]
    intro hwritten
    have hcut := congrArg List.length hwritten
    rw [List.length_take, List.length_append, hlength] at hcut
    omega

/-- The frame of an event is written when the transport is connected, has a socket, and the socket
takes all of it. -/
theorem send_writes_iff (t : TransportImpl) (bytes : ObjectBytes) (event : CanonicalInputEvent)
    (ret : Nat → Int) :
    (t.send bytes event ret).2 = frame bytes event ↔
      t.connected = true ∧ t.inputSocket.isSome = true ∧
        TakesFrame ret (bytes.event event).length := by
  have hframe : frame bytes event ≠ [] := List.cons_ne_nil _ _
  cases hconnected : t.connected with
  | false =>
    rw [send, hconnected]
    simp [hframe.symm]
  | true =>
    have hwritten : (t.send bytes event ret).2 =
        (sendFrame t.inputSocket ret (bytes.event event)).2 := by
      rw [send, hconnected]
      simp only [Bool.not_true, Bool.false_eq_true, if_false]
      split
      · rfl
      · rfl
    rw [hwritten]
    -- Without a socket nothing is written, and a frame is not empty.
    cases hsocket : t.inputSocket with
    | none => simp [sendFrame, sendRaw, hframe.symm]
    | some socket =>
      rw [frame, sendFrame_writes_iff]
      simp

end TransportImpl

namespace E2EPipelineOrchestrator

/-! ### Steps -/

/-- `processEvent` gets to `send`. -/
def Sends (o : E2EPipelineOrchestrator) : Prop :=
  o.running = true ∧ ¬ o.plane.backlog > o.config.backpressureThreshold

/-- Whether an event is sent can be looked up. -/
instance (o : E2EPipelineOrchestrator) : Decidable o.Sends := inferInstanceAs (Decidable (_ ∧ _))

/-- The transport can write the frame of the event. -/
def CanWrite (o : E2EPipelineOrchestrator) (bytes : ObjectBytes) (event : CanonicalInputEvent)
    (nowUs : UInt64) (ret : Nat → Int) : Prop :=
  o.plane.connected = true ∧ o.plane.inputSocket.isSome = true ∧
    TransportImpl.TakesFrame ret (bytes.event (o.enriched event nowUs)).length

/-- Whether an event can be written can be looked up. -/
instance (o : E2EPipelineOrchestrator) (bytes : ObjectBytes) (event : CanonicalInputEvent)
    (nowUs : UInt64) (ret : Nat → Int) : Decidable (o.CanWrite bytes event nowUs ret) :=
  inferInstanceAs (Decidable (_ ∧ _))

/-- The events of the pipeline whose frame is written at a step: one or none. -/
def written (bytes : ObjectBytes) (o : E2EPipelineOrchestrator) : PipelineCall → Nat
  | .processEvent event nowUs ret =>
    if (o.processEvent bytes event nowUs ret).2 =
      TransportImpl.frame bytes (o.enriched event nowUs) then 1 else 0
  | _ => 0

/-- The events that are lost in `send` at a step. -/
def lost (bytes : ObjectBytes) (o : E2EPipelineOrchestrator) : PipelineCall → Nat
  | .processEvent event nowUs ret =>
    if o.Sends ∧ ¬ o.CanWrite bytes event nowUs ret then 1 else 0
  | _ => 0

/-- An event that gets to `send` can be written. -/
def SendsWhole (bytes : ObjectBytes) (o : E2EPipelineOrchestrator) : PipelineCall → Prop
  | .processEvent event nowUs ret => o.Sends → o.CanWrite bytes event nowUs ret
  | _ => True

section
variable {bytes : ObjectBytes} {o : E2EPipelineOrchestrator}

/-- `processEvent` writes the frame exactly when it gets to a `send` that can. -/
theorem processEvent_writes_iff (event : CanonicalInputEvent) (nowUs : UInt64) (ret : Nat → Int) :
    (o.processEvent bytes event nowUs ret).2 =
        TransportImpl.frame bytes (o.enriched event nowUs) ↔
      o.Sends ∧ o.CanWrite bytes event nowUs ret := by
  have hframe : TransportImpl.frame bytes (o.enriched event nowUs) ≠ [] := List.cons_ne_nil _ _
  cases hrunning : o.running with
  | false =>
    rw [processEvent, hrunning]
    simp [Sends, hrunning, hframe.symm]
  | true =>
    obtain ⟨-, -, hcases⟩ := o.processEvent_cases bytes event nowUs ret hrunning
    rcases hcases with ⟨hdrop, -, hnothing⟩ | ⟨hroom, -, hwritten⟩
    · rw [hnothing]
      simp [Sends, hdrop, hframe.symm]
    · rw [hwritten, TransportImpl.send_writes_iff]
      exact (and_iff_right ⟨hrunning, hroom⟩).symm

/-- An event that is sent is counted, whether it was written or not. -/
theorem processEvent_totalTransportSent (event : CanonicalInputEvent) (nowUs : UInt64)
    (ret : Nat → Int) :
    (o.processEvent bytes event nowUs ret).1.totalTransportSent =
      if o.Sends then o.totalTransportSent + 1 else o.totalTransportSent := by
  cases hrunning : o.running with
  | false =>
    rw [processEvent, hrunning]
    simp [Sends, hrunning]
  | true =>
    by_cases hdrop : o.plane.backlog > o.config.backpressureThreshold
    · cases hedge : o.config.enableEdgeDetection <;>
        simp [processEvent, enrichEvent, Sends, hrunning, hdrop, hedge]
    · cases hedge : o.config.enableEdgeDetection <;>
        simp [processEvent, enrichEvent, Sends, hrunning, hdrop, hedge]

/-- `start` counts nothing. -/
theorem start_totalTransportSent (nowUs : UInt64) (ret : Nat → Int) (threadOk : Bool) :
    (o.start bytes nowUs ret threadOk).1.totalTransportSent = o.totalTransportSent := by
  rw [start]
  split
  · rfl
  · dsimp only
    split
    · rfl
    · rfl

/-- Every event that gets to `send` is counted, written or not. -/
theorem totalTransportSent_step (c : PipelineCall) :
    (o.step bytes c).totalTransportSent =
      o.totalTransportSent + UInt64.ofNat (written bytes o c + lost bytes o c) := by
  -- Only an event and the start of the pipeline are counted by it.
  cases c with
  | processEvent event nowUs ret =>
    show (o.processEvent bytes event nowUs ret).1.totalTransportSent = _
    simp only [written, lost, processEvent_totalTransportSent, processEvent_writes_iff]
    by_cases hsends : o.Sends
    · by_cases hwrites : o.CanWrite bytes event nowUs ret
      · simp [hsends, hwrites]
      · simp [hsends, hwrites]
    · simp [hsends]
  | start nowUs ret threadOk =>
    show (o.start bytes nowUs ret threadOk).1.totalTransportSent = _
    simp [written, lost, start_totalTransportSent]
  | stop =>
    have hsame : o.stop.totalTransportSent = o.totalTransportSent := by
      rw [stop]
      split
      · rfl
      · rfl
    simp [step, written, lost, hsame]
  | send event ret => simp [step, written, lost]
  | sendMessage msg ret => simp [step, written, lost]
  | connect r => simp [step, written, lost]
  | disconnect => simp [step, written, lost]
  | reacceptInput_close =>
    simp only [step, written, lost]
    split
    · simp
    · simp
  | reacceptInput_accept accepted =>
    simp only [step, written, lost]
    split
    · simp
    · simp

/-- Nothing is lost in a call that writes what it sends. -/
theorem lost_eq_zero_iff (c : PipelineCall) : lost bytes o c = 0 ↔ o.SendsWhole bytes c := by
  cases c with
  | processEvent event nowUs ret =>
    simp only [lost, SendsWhole]
    split
    · rename_i hloses
      exact iff_of_false (by decide) fun hwhole => hloses.2 (hwhole hloses.1)
    · rename_i hkeeps
      exact iff_of_true rfl fun hsends => not_not.mp fun hnot => hkeeps ⟨hsends, hnot⟩
  | _ => simp [lost, SendsWhole]

/-- A call loses one event at most. -/
theorem lost_le_one (c : PipelineCall) : lost bytes o c ≤ 1 := by
  cases c with
  | processEvent event nowUs ret =>
    simp only [lost]
    split
    · exact Nat.le_refl 1
    · exact Nat.zero_le 1
  | _ => exact Nat.zero_le 1

end

end E2EPipelineOrchestrator

/-! ### Runs -/

section
variable (bytes : ObjectBytes) (transport : TransportConfig) (config : E2EPipelineConfig)

/-- The events of the pipeline, in a run, whose frame the transport wrote as a whole. -/
def eventsWritten (calls : List PipelineCall) : Nat :=
  (pipelineMachine bytes transport config).total (E2EPipelineOrchestrator.written bytes)
    (.init (.init transport) config) calls

/-- The events of a run that were lost in `send`. -/
def eventsLost (calls : List PipelineCall) : Nat :=
  (pipelineMachine bytes transport config).total (E2EPipelineOrchestrator.lost bytes)
    (.init (.init transport) config) calls

/-- By induction on the calls, the last one first. -/
theorem totalTransportSent_run (calls : List PipelineCall) :
    ((pipelineMachine bytes transport config).run calls).totalTransportSent =
      UInt64.ofNat
        (eventsWritten bytes transport config calls + eventsLost bytes transport config calls) := by
  induction calls using List.reverseRecOn with
  | nil => rfl
  | append_singleton calls c ih =>
    have hstep : ((pipelineMachine bytes transport config).step
        ((pipelineMachine bytes transport config).run calls) c).totalTransportSent = _ :=
      E2EPipelineOrchestrator.totalTransportSent_step c
    rw [Machine.run_append_singleton, hstep, ih, ← UInt64.ofNat_add]
    simp only [eventsWritten, eventsLost, Machine.total_append_singleton]
    refine congrArg UInt64.ofNat ?_
    show _ + _ + (_ + _) = _ + E2EPipelineOrchestrator.written bytes _ c +
      (_ + E2EPipelineOrchestrator.lost bytes _ c)
    exact Nat.add_add_add_comm _ _ _ _

/-- The count is that of the events written when what was lost is nothing to it. -/
theorem countsWritten_iff (calls : List PipelineCall) :
    ((pipelineMachine bytes transport config).run calls).totalTransportSent =
        UInt64.ofNat (eventsWritten bytes transport config calls) ↔
      UInt64.ofNat (eventsLost bytes transport config calls) = 0 := by
  rw [totalTransportSent_run, UInt64.ofNat_add]
  exact UInt64.add_eq_left

/-- The last call adds its loss. -/
theorem eventsLost_append_singleton (calls : List PipelineCall) (c : PipelineCall) :
    eventsLost bytes transport config (calls ++ [c]) =
      eventsLost bytes transport config calls +
        ((pipelineMachine bytes transport config).run calls).lost bytes c :=
  Machine.total_append_singleton _ _ _ _ _

/-- The count is that of the events written, at every moment of a run, exactly when each event that
gets to `send` finds the transport connected, with a socket that takes its whole frame. -/
theorem transportSent_exact_iff (calls : List PipelineCall) :
    (∀ pre, pre <+: calls →
      ((pipelineMachine bytes transport config).run pre).totalTransportSent =
        UInt64.ofNat (eventsWritten bytes transport config pre)) ↔
      (pipelineMachine bytes transport config).Meets (E2EPipelineOrchestrator.SendsWhole bytes)
        (.init (.init transport) config) calls := by
  simp only [countsWritten_iff]
  constructor
  · intro hcounts
    rw [Machine.meets_iff_forall]
    intro pre c hpre
    have hbefore := hcounts pre ((List.prefix_append pre [c]).trans hpre)
    have hafter := hcounts (pre ++ [c]) hpre
    rw [eventsLost_append_singleton, UInt64.ofNat_add, hbefore, UInt64.zero_add] at hafter
    -- A step loses one event at most.
    have hone : ((pipelineMachine bytes transport config).run pre).lost bytes c ≤ 1 :=
      E2EPipelineOrchestrator.lost_le_one c
    have hzero := congrArg UInt64.toNat hafter
    rw [UInt64.toNat_ofNat', Nat.mod_eq_of_lt (by omega)] at hzero
    exact (E2EPipelineOrchestrator.lost_eq_zero_iff c).mp hzero
  · rintro hwhole pre ⟨rest, rfl⟩
    have hnone : eventsLost bytes transport config pre = 0 := by
      rw [eventsLost, Machine.total_eq_zero_iff]
      -- A prefix of such a run is one itself.
      simp only [E2EPipelineOrchestrator.lost_eq_zero_iff]
      exact (Machine.meets_append.mp hwhole).1
    rw [hnone]
    rfl

end

/-- A pipeline that is started before the transport is connected counts an event that went nowhere. -/
theorem transportSent_unconnected :
    let calls : List PipelineCall := [.start 0 (fun _ => 1) true, .processEvent
      TransportImpl.stillEvent 0 (fun _ => 1)]
    let o := (pipelineMachine TransportImpl.stillBytes ⟨[], 9000, 9001, false⟩
      ⟨⟨0, 1⟩, 1, false, 8⟩).run calls
    o.totalTransportSent = 1 ∧
      eventsWritten TransportImpl.stillBytes ⟨[], 9000, 9001, false⟩ ⟨⟨0, 1⟩, 1, false, 8⟩ calls =
        0 := by
  decide

end CrossFlow
