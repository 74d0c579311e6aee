import CrossFlow.Proofs.Logging.Worker

/-!
# `CrossFlow.Proofs.Logging.Lines`: every line of every thread

Any number of threads call `submit` while one worker writes. A line that is submitted is accepted,
counted as dropped, or refused by a logger that does not run. The lines that were accepted reach the
sink in that order, each once.

* `LinesInv`: where the lines of a run are, and how many there were.
* `lines_accounted`: the account of a run, and of a logger that has stopped.
-/

set_option autoImplicit false

namespace CrossFlow

namespace Logger

variable {l : Logger}

/-- The step submits a line to a full queue. -/
def drops (l : Logger) : LoggerAction → Nat
  | .submit _ _ => if l.queue.length ≥ kMaxQueue then 1 else 0
  | _ => 0

/-- The step submits a line that is neither accepted nor counted. -/
def refuses (l : Logger) : LoggerAction → Nat
  | .submit _ _ => if l.running = false ∧ l.queue.length < kMaxQueue then 1 else 0
  | _ => 0

end Logger

/-- How many lines the threads have submitted. -/
def submits (acts : List LoggerAction) : Nat :=
  acts.countP fun a => match a with
    | .submit _ _ => true
    | _ => false

namespace Logger

variable {l : Logger}

/-- A line that is submitted is accepted, dropped or refused. -/
theorem submits_append_singleton (acts : List LoggerAction) (a : LoggerAction) (l : Logger) :
    submits (acts ++ [a]) =
      submits acts + ((l.accepts a).length + l.drops a + l.refuses a) := by
  rw [submits, submits, List.countP_append]
  congr 1
  cases a with
  | submit jsonLine pick =>
    -- A line is dropped when the queue is full, and accepted or refused when it is not.
    by_cases hfull : l.queue.length ≥ kMaxQueue
    · simp [accepts, drops, refuses, hfull, Nat.not_lt.mpr hfull]
    · have hroom : l.queue.length < kMaxQueue := Nat.lt_of_not_le hfull
      cases hrunning : l.running <;> simp [accepts, drops, refuses, hfull, hroom, hrunning]
  | _ => rfl

/-- `stop` leaves the queue and the count of drops. -/
theorem stop_keeps (l : Logger) : l.stop.queue = l.queue ∧ l.stop.dropped = l.dropped := by
  unfold stop
  split
  · split <;> exact ⟨rfl, rfl⟩
  · exact ⟨rfl, rfl⟩
  · split <;> exact ⟨rfl, rfl⟩
  · obtain ⟨cv, heq, -⟩ := l.flush_eq .owner
    rw [heq]
    split <;> exact ⟨rfl, rfl⟩
  · exact ⟨rfl, rfl⟩

/-- Only `submit` makes the queue longer, and only when there is room. -/
theorem queue_step (hqueue : l.queue.length ≤ kMaxQueue) (a : LoggerAction) :
    (l.step a).queue.length ≤ kMaxQueue := by
  cases a with
  | submit jsonLine pick =>
    show (l.submit jsonLine pick).queue.length ≤ kMaxQueue
    rcases l.submit_cases jsonLine pick with ⟨-, hroom, heq⟩ | ⟨-, dropped, heq⟩
    · rw [heq]
      show (l.queue ++ [jsonLine]).length ≤ kMaxQueue
      rw [List.length_append]
      exact hroom
    · rw [heq]
      exact hqueue
  | start =>
    show l.callStart.queue.length ≤ kMaxQueue
    rcases l.callStart_cases with heq | ⟨-, -, heq⟩ <;> rw [heq] <;> exact hqueue
  | stop =>
    show l.stop.queue.length ≤ kMaxQueue
    rw [l.stop_keeps.1]
    exact hqueue
  | flush id =>
    obtain ⟨cv, heq, -⟩ := l.flush_eq (.caller id)
    show (l.flush (.caller id)).queue.length ≤ kMaxQueue
    rw [heq]
    exact hqueue
  | workerLoop =>
    show l.workerLoop.queue.length ≤ kMaxQueue
    -- The worker only takes from the queue.
    rcases l.workerLoop_cases with ⟨-, heq⟩ | ⟨line, queue, -, -, hlines, heq⟩ | ⟨-, -, -, heq⟩ |
      ⟨-, -, -, -, heq⟩ | ⟨line, -, heq⟩
    · rw [heq]
      exact hqueue
    · rw [hlines] at hqueue
      rw [heq]
      exact Nat.le_of_succ_le hqueue
    · rw [heq]
      exact hqueue
    · rw [heq]
      exact hqueue
    · rw [heq]
      exact hqueue
  | wakeSpuriously thread => exact hqueue

/-- The count of drops goes up by what a step drops. -/
theorem dropped_step (l : Logger) (a : LoggerAction) :
    (l.step a).dropped = l.dropped + l.drops a := by
  cases a with
  | submit jsonLine pick =>
    show (l.submit jsonLine pick).dropped = l.dropped + if l.queue.length ≥ kMaxQueue then 1 else 0
    unfold submit
    -- A line is counted as dropped when the queue is full, also while nobody runs.
    by_cases hfull : l.queue.length ≥ kMaxQueue
    · rw [if_pos (.inr hfull), if_pos hfull, if_pos hfull]
    · rw [if_neg hfull, if_neg hfull]
      split <;> rfl
  | start =>
    show l.callStart.dropped = l.dropped
    rcases l.callStart_cases with heq | ⟨-, -, heq⟩ <;> rw [heq]
  | stop => exact l.stop_keeps.2
  | flush id =>
    obtain ⟨cv, heq, -⟩ := l.flush_eq (.caller id)
    show (l.flush (.caller id)).dropped = l.dropped
    rw [heq]
  | workerLoop =>
    show l.workerLoop.dropped = l.dropped
    rcases l.workerLoop_cases with ⟨-, heq⟩ | ⟨line, queue, -, -, -, heq⟩ | ⟨-, -, -, heq⟩ |
      ⟨-, -, -, -, heq⟩ | ⟨line, -, heq⟩ <;> rw [heq]
  | wakeSpuriously thread => rfl

end Logger

/-- Where the lines of the run are, and how many there were. -/
structure LinesInv (acts : List LoggerAction) (l : Logger) : Prop where
  worker : WorkerInv l
  conserved : Conserved (loggerMachine.outputs Logger.accepts loggerMachine.init acts) l
  queue : l.queue.length ≤ Logger.kMaxQueue
  counted : (loggerMachine.outputs Logger.accepts loggerMachine.init acts).length + l.dropped +
    loggerMachine.total Logger.refuses loggerMachine.init acts = submits acts

/-- The invariant holds in every run. -/
theorem linesInv_run (acts : List LoggerAction) : LinesInv acts (loggerMachine.run acts) := by
  refine Lib.Machine.run_induction (P := LinesInv) ?_ ?_ acts
  · exact
      { worker := workerInv_init
        conserved := ⟨[], rfl, rfl⟩
        queue := Nat.zero_le _
        counted := rfl }
  · -- A submit adds one to the accepted, to the dropped or to the refused.
    intro acts a h
    have hdropped := (loggerMachine.run acts).dropped_step a
    have hsubmits := Logger.submits_append_singleton acts a (loggerMachine.run acts)
    have hcounted := h.counted
    refine ⟨h.worker.step a, ?_, Logger.queue_step h.queue a, ?_⟩
    · rw [Lib.Machine.outputs_append_singleton]
      exact h.conserved.step h.worker a
    · rw [Lib.Machine.outputs_append_singleton, Lib.Machine.total_append_singleton,
        List.length_append, hsubmits]
      show _ + ((loggerMachine.run acts).step a).dropped + _ = _
      rw [hdropped]
      show _ + ((loggerMachine.run acts).accepts a).length + _ +
        (_ + (loggerMachine.run acts).refuses a) = _
      omega

/-- The account of any run. What is written, held by the worker and waiting are the lines that were
accepted, in that order; the queue has its bound; and every line that was submitted was accepted,
dropped or refused. When the logger has stopped, all lines that were accepted are written. -/
theorem lines_accounted (acts : List LoggerAction) :
    let l := loggerMachine.run acts
    let accepted := loggerMachine.outputs Logger.accepts loggerMachine.init acts
    l.written ++ nonEmpty (l.held ++ l.queue) = nonEmpty accepted ∧
      l.queue.length ≤ Logger.kMaxQueue ∧
      accepted.length + l.dropped + loggerMachine.total Logger.refuses loggerMachine.init acts =
        submits acts ∧
      (l.running = false → l.stopPc = .idle → l.written = nonEmpty accepted) := by
  intro l accepted
  have h : LinesInv acts l := linesInv_run acts
  refine ⟨?_, h.queue, h.counted, ?_⟩
  · obtain ⟨done, haccepted, hdone⟩ := h.conserved
    show l.written ++ nonEmpty (l.held ++ l.queue) = nonEmpty accepted
    rw [show accepted = _ from haccepted, nonEmpty_append done, hdone]
  · intro hrunning hidle
    -- `stop` has joined the worker, which ends only with the queue empty.
    refine h.conserved.written_of_ended h.worker (.inl ?_)
    exact h.worker.joined hrunning (by simp [hidle]) (by simp [hidle])

end CrossFlow
