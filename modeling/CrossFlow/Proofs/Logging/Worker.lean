import CrossFlow.Proofs.Logging.Steps

/-!
# `CrossFlow.Proofs.Logging.Worker`: what the worker does with the lines

The worker takes a line from the queue under the mutex and writes it after it has let go of the
mutex. So a line that was accepted is in the queue, in the hands of the worker, or dealt with.

* `WorkerInv`: when there is a worker, and what it leaves behind.
* `Conserved`: the lines accepted are those dealt with, the one held and the queue, in that order.
* `WrittenWithin`: from `notify_all` on, every step of the worker counts.
-/

set_option autoImplicit false

namespace CrossFlow

open Lib (ConditionVariable)
open Lib.ConditionVariable

namespace Logger

/-- The line that the step puts in the queue, if it does. -/
def accepts (l : Logger) : LoggerAction → List StdString
  | .submit jsonLine _ => if l.running ∧ l.queue.length < kMaxQueue then [jsonLine] else []
  | _ => []

/-- The line that the worker has taken from the queue and not written yet. -/
def held (l : Logger) : List StdString :=
  match l.workerPc with
  | .write line => [line]
  | _ => []

end Logger

/-- The lines that reach the sink: the worker skips the empty ones. -/
def nonEmpty (lines : List StdString) : List StdString := lines.filter (· ≠ [])

namespace Logger

variable {l : Logger}

/-- `flush` changes nothing but who is inside `wait`. -/
theorem flush_eq (l : Logger) (thread : LoggerThread) :
    ∃ cv, l.flush thread = { l with cv } ∧
      ∀ t ∈ cv.asleep, t ∈ l.cv.asleep ∨ l.running = true := by
  rcases l.flush_cases thread with heq | ⟨-, heq⟩ | ⟨-, hrunning, heq⟩
  · exact ⟨l.cv, heq, fun t ht => .inl ht⟩
  · exact ⟨l.cv.leave thread, heq, fun t ht => .inl ht⟩
  · exact ⟨_, heq, fun t ht => .inr hrunning⟩

/-- A worker that has ended holds no line. -/
theorem held_of_ended (hended : l.workerPc = .none ∨ l.workerPc = .returned) : l.held = [] := by
  rcases hended with hpc | hpc
  · simp [held, hpc]
  · simp [held, hpc]

/-- `stop` moves no line. -/
theorem stop_lines (l : Logger) :
    l.stop.held ++ l.stop.queue = l.held ++ l.queue ∧ l.stop.written = l.written := by
  unfold stop
  split
  · split
    · exact ⟨rfl, rfl⟩
    · exact ⟨rfl, rfl⟩
  · exact ⟨rfl, rfl⟩
  · -- The thread has returned, so it holds no line that its end could lose.
    split
    · rename_i hreturned
      rw [held_of_ended (.inr hreturned)]
      exact ⟨rfl, rfl⟩
    · exact ⟨rfl, rfl⟩
  · -- The flush at the end looks at the queue only.
    obtain ⟨cv, heq, -⟩ := l.flush_eq .owner
    rw [heq]
    split
    · exact ⟨rfl, rfl⟩
    · exact ⟨rfl, rfl⟩
  · exact ⟨rfl, rfl⟩

end Logger

/-- When there is a worker, and what it leaves behind. -/
structure WorkerInv (l : Logger) : Prop where
  stopping : l.stopPc ≠ .idle → l.running = false
  joined : l.running = false → l.stopPc ≠ .notifyAll → l.stopPc ≠ .join → l.workerPc = .none
  /-- The worker ends on an empty queue. -/
  ended : l.workerPc = .none ∨ l.workerPc = .returned → l.running = false ∧ l.queue = []
  sink : l.workerPc ≠ .none → l.sink = true
  /-- `notify_all` has woken it, and it does not sleep after `running_` was cleared. -/
  awake : l.running = false → l.stopPc ≠ .notifyAll → .worker ∉ l.cv.asleep

/-- The invariant holds of a logger that was just made. -/
theorem workerInv_init : WorkerInv .init where
  stopping h := absurd rfl h
  joined _ _ _ := rfl
  ended _ := ⟨rfl, rfl⟩
  sink h := absurd rfl h
  awake _ _ := List.not_mem_nil

namespace WorkerInv

variable {l : Logger}

/-- The worker falls asleep only while the logger runs, and nothing else changes. -/
theorem of_cv (hi : WorkerInv l) {cv : ConditionVariable LoggerThread}
    (hcv : .worker ∈ cv.asleep → .worker ∈ l.cv.asleep ∨ l.running = true) :
    WorkerInv { l with cv } where
  stopping := hi.stopping
  joined := hi.joined
  ended := hi.ended
  sink := hi.sink
  awake hrunning hpc h := by
    rcases hcv h with h | h
    · exact hi.awake hrunning hpc h
    · exact absurd (hrunning.symm.trans h) (by simp)

/-- While the logger runs, only the worker itself and the sink matter. -/
theorem of_running (hrunning : l.running = true) (hstop : l.stopPc = .idle)
    (hworker : l.workerPc ≠ .none) (hreturned : l.workerPc ≠ .returned) (hsink : l.sink = true) :
    WorkerInv l where
  stopping h := absurd hstop h
  joined h := absurd h (by simp [hrunning])
  ended h := absurd h (by simp [hworker, hreturned])
  sink _ := hsink
  awake h := absurd h (by simp [hrunning])

/-- Nobody is inside `stop` while the logger runs. -/
theorem idle_of_running (hi : WorkerInv l) (hrunning : l.running = true) : l.stopPc = .idle := by
  by_contra h
  have hstopped := hi.stopping h
  simp [hrunning] at hstopped

/-- There is a worker while the logger runs. -/
theorem worker_of_running (hi : WorkerInv l) (hrunning : l.running = true) :
    l.workerPc ≠ .none ∧ l.workerPc ≠ .returned := by
  rw [← not_or]
  intro h
  have hstopped := (hi.ended h).1
  simp [hrunning] at hstopped

/-- `start` keeps the invariant. -/
theorem callStart (hi : WorkerInv l) : WorkerInv l.callStart := by
  rcases l.callStart_cases with heq | ⟨hidle, -, heq⟩
  · rw [heq]
    exact hi
  · rw [heq]
    exact of_running rfl hidle (by simp) (by simp) rfl

/-- `submit` keeps the invariant. -/
theorem submit (hi : WorkerInv l) (jsonLine : StdString) (pick : Nat) :
    WorkerInv (l.submit jsonLine pick) := by
  rcases l.submit_cases jsonLine pick with ⟨hrunning, -, heq⟩ | ⟨-, dropped, heq⟩
  · rw [heq]
    have hworker := hi.worker_of_running hrunning
    exact of_running hrunning (hi.idle_of_running hrunning) hworker.1 hworker.2 (hi.sink hworker.1)
  · rw [heq]
    exact ⟨hi.stopping, hi.joined, hi.ended, hi.sink, hi.awake⟩

/-- A step of `flush` keeps the invariant. -/
theorem flush (hi : WorkerInv l) (thread : LoggerThread) : WorkerInv (l.flush thread) := by
  obtain ⟨cv, heq, hcv⟩ := l.flush_eq thread
  rw [heq]
  exact hi.of_cv fun h => hcv _ h

/-- A step of `stop` keeps the invariant. -/
theorem stop (hi : WorkerInv l) : WorkerInv l.stop := by
  unfold Logger.stop
  split
  -- A stop begins only with the thread running.
  case h_1 hpc =>
    split
    · exact hi
    · rename_i hrunning
      have hworker := hi.worker_of_running (by simpa using hrunning)
      constructor
      case stopping => exact fun _ => rfl
      case joined => exact fun _ h => absurd rfl h
      case ended => exact fun h => absurd h (by simp [hworker.1, hworker.2])
      case sink => exact hi.sink
      case awake => exact fun _ h => absurd rfl h
  case h_2 hpc =>
    have hrunning : l.running = false := hi.stopping (by simp [hpc])
    exact ⟨fun _ => hrunning, fun _ _ h => absurd rfl h, hi.ended, hi.sink,
      fun _ _ => List.not_mem_nil⟩
  -- The join waits until the thread has returned, with the queue drained.
  case h_3 hpc =>
    have hrunning : l.running = false := hi.stopping (by simp [hpc])
    split
    · rename_i hreturned
      have hended := hi.ended (.inr hreturned)
      exact ⟨fun _ => hrunning, fun _ _ _ => rfl, fun _ => hended, fun h => absurd rfl h,
        fun _ _ => hi.awake hrunning (by simp [hpc])⟩
    · exact hi
  -- The thread is gone, and the flush may go to sleep.
  case h_4 hpc =>
    have hflush := hi.flush .owner
    obtain ⟨cv, heq, -⟩ := l.flush_eq .owner
    rw [heq] at hflush ⊢
    have hrunning : l.running = false := hi.stopping (by simp [hpc])
    have hnone : l.workerPc = .none := hi.joined hrunning (by simp [hpc]) (by simp [hpc])
    split
    · exact ⟨fun _ => hrunning, fun _ _ _ => hnone, hflush.ended, hflush.sink,
        fun _ _ => hflush.awake hrunning (by simp [hpc])⟩
    · exact hflush
  case h_5 hpc =>
    have hrunning : l.running = false := hi.stopping (by simp [hpc])
    have hnone : l.workerPc = .none := hi.joined hrunning (by simp [hpc]) (by simp [hpc])
    exact ⟨fun _ => hrunning, fun _ _ _ => hnone, hi.ended, fun h => absurd hnone h,
      fun _ _ => hi.awake hrunning (by simp [hpc])⟩

/-- A worker that takes a line, writes it or ends. -/
theorem of_working (hi : WorkerInv l) (hsome : l.workerPc ≠ .none) {l' : Logger}
    (hstop : l'.stopPc = l.stopPc) (hrunning : l'.running = l.running) (hsink : l'.sink = l.sink)
    (hasleep : l'.cv.asleep = l.cv.asleep)
    (hended : l'.workerPc = .none ∨ l'.workerPc = .returned → l'.running = false ∧ l'.queue = []) :
    WorkerInv l' where
  stopping h := by
    rw [hrunning]
    exact hi.stopping (hstop ▸ h)
  joined h₁ h₂ h₃ := by
    have hnone := hi.joined (hrunning ▸ h₁) (hstop ▸ h₂) (hstop ▸ h₃)
    -- The thread is not gone.
    exact absurd hnone hsome
  ended := hended
  sink _ := by
    rw [hsink]
    exact hi.sink hsome
  awake h₁ h₂ := by
    rw [hasleep]
    exact hi.awake (hrunning ▸ h₁) (hstop ▸ h₂)

/-- A step of the worker keeps the invariant. -/
theorem workerLoop (hi : WorkerInv l) : WorkerInv l.workerLoop := by
  rcases l.workerLoop_cases with ⟨-, heq⟩ | ⟨line, queue, hpc, -, -, heq⟩ | ⟨-, -, hrunning, heq⟩ |
    ⟨hpc, -, hqueue, hrunning, heq⟩ | ⟨line, hpc, heq⟩
  · rw [heq]
    exact hi
  · rw [heq]
    exact hi.of_working (by simp [hpc]) rfl rfl rfl rfl fun h => absurd h (by simp)
  · rw [heq]
    exact hi.of_cv fun _ => .inr hrunning
  · rw [heq]
    exact hi.of_working (by simp [hpc]) rfl rfl rfl rfl fun _ => ⟨hrunning, hqueue⟩
  · rw [heq]
    exact hi.of_working (by simp [hpc]) rfl rfl rfl rfl fun h => absurd h (by simp)

/-- Each step keeps the invariant. -/
theorem step (hi : WorkerInv l) (a : LoggerAction) : WorkerInv (loggerMachine.step l a) := by
  cases a with
  | start => exact hi.callStart
  | stop => exact hi.stop
  | submit jsonLine pick => exact hi.submit jsonLine pick
  | flush id => exact hi.flush (.caller id)
  | workerLoop => exact hi.workerLoop
  | wakeSpuriously thread => exact hi.of_cv fun h => .inl (mem_asleep_wakeSpuriously h)

end WorkerInv

/-! ### Nothing is lost, doubled or overtaken -/

/-- The lines that are not empty, in two parts. -/
@[simp] theorem nonEmpty_append (xs ys : List StdString) :
    nonEmpty (xs ++ ys) = nonEmpty xs ++ nonEmpty ys := List.filter_append xs ys

/-- More lines have more that are not empty. -/
theorem nonEmpty_mono {xs ys : List StdString} (h : xs <+: ys) : nonEmpty xs <+: nonEmpty ys :=
  h.filter _

/-- The lines accepted are those dealt with, then the one the worker holds, then the queue. Of
those dealt with, the sink has got the ones that are not empty. -/
def Conserved (accepted : List StdString) (l : Logger) : Prop :=
  ∃ done, accepted = done ++ (l.held ++ l.queue) ∧ l.written = nonEmpty done

namespace Conserved

variable {accepted : List StdString} {l l' : Logger}

/-- A step that moves no line. -/
theorem of_eq (h : Conserved accepted l) (hheld : l'.held ++ l'.queue = l.held ++ l.queue)
    (hwritten : l'.written = l.written) : Conserved accepted l' := by
  obtain ⟨done, haccepted, hdone⟩ := h
  exact ⟨done, by rw [haccepted, hheld], by rw [hwritten, hdone]⟩

/-- `start` keeps the account. -/
theorem callStart (h : Conserved accepted l) (hi : WorkerInv l) : Conserved accepted l.callStart := by
  rcases l.callStart_cases with heq | ⟨hidle, hrunning, heq⟩
  · rw [heq]
    exact h
  · rw [heq]
    -- There is no worker yet, so no line is held.
    have hnone : l.workerPc = .none := hi.joined hrunning (by simp [hidle]) (by simp [hidle])
    exact h.of_eq (by simp [Logger.held, hnone]) rfl

/-- A step of `stop` keeps the account. -/
theorem stop (h : Conserved accepted l) : Conserved accepted l.stop :=
  h.of_eq l.stop_lines.1 l.stop_lines.2

/-- A line that is accepted comes last in the account. -/
theorem submit (h : Conserved accepted l) (jsonLine : StdString) (pick : Nat) :
    Conserved (accepted ++ l.accepts (.submit jsonLine pick)) (l.submit jsonLine pick) := by
  rcases l.submit_cases jsonLine pick with ⟨hrunning, hlength, heq⟩ | ⟨hclosed, dropped, heq⟩
  · have haccepts : l.accepts (.submit jsonLine pick) = [jsonLine] := if_pos ⟨hrunning, hlength⟩
    rw [heq, haccepts]
    obtain ⟨done, haccepted, hdone⟩ := h
    refine ⟨done, ?_, hdone⟩
    rw [haccepted, List.append_assoc, List.append_assoc]
    rfl
  · have haccepts : l.accepts (.submit jsonLine pick) = [] := if_neg hclosed
    rw [heq, haccepts, List.append_nil]
    exact h.of_eq rfl rfl

/-- A step of the worker keeps the account. -/
theorem workerLoop (h : Conserved accepted l) (hi : WorkerInv l) :
    Conserved accepted l.workerLoop := by
  rcases l.workerLoop_cases with ⟨-, heq⟩ | ⟨line, queue, hpc, -, hqueue, heq⟩ | ⟨-, -, -, heq⟩ |
    ⟨hpc, -, -, -, heq⟩ | ⟨line, hpc, heq⟩
  · rw [heq]
    exact h
  · rw [heq]
    exact h.of_eq (by simp [Logger.held, hpc, hqueue]) rfl
  · rw [heq]
    exact h.of_eq rfl rfl
  · rw [heq]
    exact h.of_eq (by simp [Logger.held, hpc]) rfl
  · rw [heq]
    -- The line held is dealt with, and written unless it is empty.
    obtain ⟨done, haccepted, hdone⟩ := h
    have hsink : l.sink = true := hi.sink (by simp [hpc])
    refine ⟨done ++ [line], ?_, ?_⟩
    · rw [haccepted]
      simp [Logger.held, hpc]
    · simp only [hdone, hsink, nonEmpty_append, and_true]
      by_cases hline : line = []
      · simp [nonEmpty, hline]
      · simp [nonEmpty, hline]

/-- Each step keeps the account. -/
theorem step (h : Conserved accepted l) (hi : WorkerInv l) (a : LoggerAction) :
    Conserved (accepted ++ l.accepts a) (l.step a) := by
  cases a with
  | submit jsonLine pick => exact h.submit jsonLine pick
  | start => exact (List.append_nil accepted).symm ▸ h.callStart hi
  | stop => exact (List.append_nil accepted).symm ▸ h.stop
  | workerLoop => exact (List.append_nil accepted).symm ▸ h.workerLoop hi
  | wakeSpuriously thread => exact (List.append_nil accepted).symm ▸ h.of_eq rfl rfl
  | flush id =>
    obtain ⟨cv, heq, -⟩ := l.flush_eq (.caller id)
    show Conserved (accepted ++ []) (l.flush (.caller id))
    rw [heq, List.append_nil]
    exact h.of_eq rfl rfl

/-- A worker that has ended, or never began, leaves nothing behind. -/
theorem written_of_ended (h : Conserved accepted l) (hi : WorkerInv l)
    (hended : l.workerPc = .none ∨ l.workerPc = .returned) : l.written = nonEmpty accepted := by
  obtain ⟨done, haccepted, hdone⟩ := h
  rw [haccepted, hdone, Logger.held_of_ended hended, (hi.ended hended).2, List.append_nil,
    List.append_nil]

end Conserved

/-! ### What `stop` waits for -/

/-- The lines are written, or the worker is being joined and has at most `k` steps to take until
they are: two for each line in the queue and one for the line it holds. -/
def WrittenWithin (k : Nat) (lines : List StdString) (l : Logger) : Prop :=
  lines <+: l.written ∨
    l.stopPc = .join ∧ l.written ++ nonEmpty (l.held ++ l.queue) = lines ∧
      2 * l.queue.length + l.held.length ≤ k

namespace WrittenWithin

variable {k : Nat} {lines : List StdString} {l : Logger}

/-- Nothing is left to write. -/
theorem of_ended (hlines : l.written ++ nonEmpty (l.held ++ l.queue) = lines)
    (hheld : l.held = []) (hqueue : l.queue = []) : lines <+: l.written := by
  rw [hheld, hqueue] at hlines
  rw [← hlines]
  exact (List.append_nil l.written).symm ▸ List.prefix_refl _

/-- A step that is not the worker's moves no line. -/
theorem step (h : WrittenWithin k lines l) (hi : WorkerInv l) {a : LoggerAction}
    (ha : a ≠ .workerLoop) : WrittenWithin k lines (loggerMachine.step l a) := by
  cases a with
  | workerLoop => exact absurd rfl ha
  | wakeSpuriously thread => exact h
  | flush id =>
    obtain ⟨cv, heq, -⟩ := l.flush_eq (.caller id)
    show WrittenWithin k lines (l.flush (.caller id))
    rw [heq]
    exact h
  | start =>
    show WrittenWithin k lines l.callStart
    rcases l.callStart_cases with heq | ⟨hidle, -, heq⟩
    · rw [heq]
      exact h
    · rw [heq]
      rcases h with hwritten | ⟨hpc, -, -⟩
      · exact .inl hwritten
      · -- A logger that is stopping cannot be started.
        exact absurd (hpc.symm.trans hidle) (by simp)
  | submit jsonLine pick =>
    show WrittenWithin k lines (l.submit jsonLine pick)
    rcases l.submit_cases jsonLine pick with ⟨hrunning, -, heq⟩ | ⟨-, dropped, heq⟩
    · rw [heq]
      rcases h with hwritten | ⟨hpc, -, -⟩
      · exact .inl hwritten
      · -- A logger that is stopping accepts nothing.
        have hidle := hi.idle_of_running hrunning
        exact absurd (hpc.symm.trans hidle) (by simp)
    · rw [heq]
      exact h
  | stop =>
    show WrittenWithin k lines l.stop
    rcases h with hwritten | ⟨hpc, hlines, hsteps⟩
    · left
      rw [l.stop_lines.2]
      exact hwritten
    · simp only [Logger.stop, hpc]
      split
      · -- The queue is empty when the thread has returned.
        rename_i hreturned
        have hheld : l.held = [] := Logger.held_of_ended (.inr hreturned)
        have hwritten := of_ended hlines hheld (hi.ended (.inr hreturned)).2
        exact .inl hwritten
      · exact .inr ⟨hpc, hlines, hsteps⟩

/-- Each step of the worker brings it nearer to its end. -/
theorem workerLoop (h : WrittenWithin k lines l) (hi : WorkerInv l) :
    WrittenWithin (k - 1) lines l.workerLoop := by
  rcases h with hwritten | ⟨hpc, hlines, hsteps⟩
  · -- What is written stays written.
    left
    rcases l.workerLoop_cases with ⟨-, heq⟩ | ⟨line, queue, -, -, -, heq⟩ | ⟨-, -, -, heq⟩ |
      ⟨-, -, -, -, heq⟩ | ⟨line, -, heq⟩
    · rwa [heq]
    · rwa [heq]
    · rwa [heq]
    · rwa [heq]
    · rw [heq]
      exact hwritten.trans (List.prefix_append _ _)
  · have hstopped : l.running = false := hi.stopping (by simp [hpc])
    rcases l.workerLoop_cases with ⟨hidle, heq⟩ | ⟨line, queue, hwait, -, hqueue, heq⟩ |
      ⟨-, -, hrunning, heq⟩ | ⟨hwait, -, hqueue, -, heq⟩ | ⟨line, hwrite, heq⟩
    · rw [heq]
      have hended : l.workerPc = .none ∨ l.workerPc = .returned := by
        rcases hidle with hasleep | hended
        · exact absurd hasleep (hi.awake hstopped (by simp [hpc]))
        · exact hended
      -- The thread has ended, with nothing held and the queue empty.
      exact .inl (of_ended hlines (Logger.held_of_ended hended) (hi.ended hended).2)
    · rw [heq]
      have hheld : l.held = [] := by simp [Logger.held, hwait]
      rw [hheld, hqueue, List.nil_append] at hlines
      rw [hheld, hqueue, List.length_cons, List.length_nil] at hsteps
      -- A line is taken, and one step of the two for it is left.
      refine .inr ⟨hpc, hlines, ?_⟩
      show 2 * queue.length + 1 ≤ k - 1
      omega
    · -- A thread that is stopped does not go back to sleep.
      exact absurd (hstopped.symm.trans hrunning) (by simp)
    · rw [heq]
      have hheld : l.held = [] := by simp [Logger.held, hwait]
      have hwritten := of_ended hlines hheld hqueue
      exact .inl hwritten
    · rw [heq]
      have hheld : l.held = [line] := by simp [Logger.held, hwrite]
      have hsink : l.sink = true := hi.sink (by simp [hwrite])
      rw [hheld, List.length_singleton] at hsteps
      right
      refine ⟨hpc, ?_, ?_⟩
      · -- The line goes to the sink, which is there as long as the thread is.
        rw [← hlines, hheld, nonEmpty_append]
        by_cases hline : line = []
        · simp [Logger.held, nonEmpty, hline]
        · simp [Logger.held, nonEmpty, hline, hsink]
      · show 2 * l.queue.length + 0 ≤ k - 1
        omega

end WrittenWithin

end CrossFlow
