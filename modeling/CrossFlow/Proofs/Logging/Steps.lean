import CrossFlow.Core.Common.Logger

/-!
# `CrossFlow.Proofs.Logging.Steps`: what a step of the logger can do

A lemma for each call, with its cases and the state after each of them. The proofs about runs go
through these cases.
-/

set_option autoImplicit false

namespace CrossFlow.Logger

/-- `start` launches the worker, unless there is one or its thread is inside `stop`. -/
theorem callStart_cases (l : Logger) :
    l.callStart = l ∨
      l.stopPc = .idle ∧ l.running = false ∧
        l.callStart = { l with sink := true, running := true, workerPc := .wait } := by
  unfold callStart
  split
  · rename_i hidle
    unfold start
    split
    · exact .inl rfl
    · rename_i hrunning
      exact .inr ⟨hidle, Bool.not_eq_true _ ▸ hrunning, rfl⟩
  · exact .inl rfl

/-- `submit` puts its line in the queue and wakes somebody, or at most counts it. -/
theorem submit_cases (l : Logger) (jsonLine : StdString) (pick : Nat) :
    (l.running = true ∧ l.queue.length < kMaxQueue ∧ l.submit jsonLine pick =
        { l with queue := l.queue ++ [jsonLine], cv := l.cv.notifyOne pick }) ∨
      ¬ (l.running = true ∧ l.queue.length < kMaxQueue) ∧
        ∃ dropped, l.submit jsonLine pick = { l with dropped } := by
  unfold submit
  split
  · rename_i hfull
    right
    constructor
    · rintro ⟨hrunning, hlength⟩
      rcases hfull with hfull | hfull
      · simp [hrunning] at hfull
      · omega
    · -- The line is dropped, and counted only if the queue is full.
      split
      · exact ⟨_, rfl⟩
      · exact ⟨l.dropped, rfl⟩
  · rename_i hopen
    left
    have hopen : l.running = true ∧ l.queue.length < kMaxQueue := by simpa using hopen
    exact ⟨hopen.1, hopen.2, rfl⟩

/-- A thread that calls `flush` is asleep, returns, or goes to sleep. -/
theorem flush_cases (l : Logger) (thread : LoggerThread) :
    l.flush thread = l ∨
      (l.drained = true ∧ l.flush thread = { l with cv := l.cv.leave thread }) ∨
      l.queue ≠ [] ∧ l.running = true ∧
        l.flush thread = { l with cv := (l.cv.leave thread).sleep thread } := by
  unfold flush
  split
  · exact .inl rfl
  · simp only
    split
    · rename_i hdrained
      exact .inr (.inl ⟨hdrained, rfl⟩)
    · rename_i hdrained
      have hbusy : l.queue ≠ [] ∧ l.running = true := by simpa [drained] using hdrained
      exact .inr (.inr ⟨hbusy.1, hbusy.2, rfl⟩)

/-- The worker has nothing to do, takes a line, goes to sleep, ends, or writes. -/
theorem workerLoop_cases (l : Logger) :
    ((.worker ∈ l.cv.asleep ∨ l.workerPc = .none ∨ l.workerPc = .returned) ∧ l.workerLoop = l) ∨
      (∃ line queue, l.workerPc = .wait ∧ .worker ∉ l.cv.asleep ∧ l.queue = line :: queue ∧
        l.workerLoop = { l with cv := l.cv.leave .worker, queue, workerPc := .write line }) ∨
      (l.workerPc = .wait ∧ l.queue = [] ∧ l.running = true ∧
        l.workerLoop = { l with cv := (l.cv.leave .worker).sleep .worker }) ∨
      (l.workerPc = .wait ∧ .worker ∉ l.cv.asleep ∧ l.queue = [] ∧ l.running = false ∧
        l.workerLoop = { l with cv := l.cv.leave .worker, workerPc := .returned }) ∨
      ∃ line, l.workerPc = .write line ∧ l.workerLoop =
        { l with
          workerPc := .wait
          written := l.written ++ if line ≠ [] ∧ l.sink then [line] else [] } := by
  unfold workerLoop
  split
  case h_1 hpc => exact .inl ⟨.inr (.inl hpc), rfl⟩
  case h_2 hpc => exact .inl ⟨.inr (.inr hpc), rfl⟩
  -- The worker is at the wait: asleep, with a line to take, to sleep again, or at its end.
  case h_3 hpc =>
    split
    · rename_i hasleep
      exact .inl ⟨.inl hasleep, rfl⟩
    · rename_i hawake
      simp only
      split
      · rename_i line queue hqueue
        exact .inr (.inl ⟨line, queue, hpc, hawake, hqueue, rfl⟩)
      · rename_i hqueue
        split
        · rename_i hrunning
          exact .inr (.inr (.inl ⟨hpc, hqueue, hrunning, rfl⟩))
        · rename_i hrunning
          rw [Bool.not_eq_true] at hrunning
          exact .inr (.inr (.inr (.inl ⟨hpc, hawake, hqueue, hrunning, rfl⟩)))
  case h_4 line hpc =>
    right; right; right; right
    refine ⟨line, hpc, ?_⟩
    split
    · rfl
    · simp

end CrossFlow.Logger
