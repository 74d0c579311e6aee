import CrossFlow.Proofs.Logging.Worker

/-!
# `CrossFlow.Proofs.Logging.Flush`: which lines are written when `flush` returns

`flush` waits until the queue is empty, and the line that the worker holds is not in the queue. The
runs here have a history: the lines that were accepted, and the calls of `flush` with the lines that
were accepted before each of them.

* `FlushInv`: the history fits the logger.
* `meansWritten_step_iff`: the steps after which each `flush` has left no line unwritten.
* `WrittenWithin.written_runFrom`: what `stop` waits for is written.
* `flush_means_written_iff`: the runs in which `flush` means written, and what is written in any.
-/

set_option autoImplicit false

namespace CrossFlow

open Lib (Machine)

/-- A call of `flush` that has returned. -/
structure FlushReturn where
  /-- Whether the logger was running when it returned. -/
  running : Bool
  /-- The lines that were accepted before the call. -/
  before : List StdString
  /-- The lines that were written when it returned. -/
  written : List StdString

/-- A logger with the history of its `submit` and `flush` calls. -/
structure FlushHistory where
  logger : Logger
  /-- The lines that were put in the queue, in order. -/
  accepted : List StdString
  /-- The calls of `flush` that have not returned, each with the lines accepted before it. -/
  begun : Nat → Option (List StdString)
  flushed : List FlushReturn

/-- A call of `flush` begins, or the logger takes a step. -/
inductive FlushAction where
  /-- A thread calls `flush`. It has not taken the mutex yet. -/
  | callFlush (id : Nat)
  /-- A step of the logger. A `flush` step is one of a call that has begun. -/
  | logger (action : LoggerAction)

namespace FlushHistory

/-- A logger that was just made, with no call begun. -/
def init : FlushHistory where
  logger := .init
  accepted := []
  begun := fun _ => none
  flushed := []

/-- The lines that were accepted before the call are noted. -/
def callFlush (h : FlushHistory) (id : Nat) : FlushHistory :=
  match h.begun id with
  | some _ => h
  | none => { h with begun := fun i => if i = id then some h.accepted else h.begun i }

/-- The predicate of the `flush` holds, and its thread is not asleep: the next step returns. -/
def Returns (h : FlushHistory) (id : Nat) : Prop :=
  .caller id ∉ h.logger.cv.asleep ∧ h.logger.drained

/-- Whether a call returns can be looked up. -/
instance (h : FlushHistory) (id : Nat) : Decidable (h.Returns id) :=
  inferInstanceAs (Decidable (_ ∧ _))

/-- A step of a call. When it returns, what was accepted before it and what is written are noted. -/
def flush (h : FlushHistory) (id : Nat) : FlushHistory :=
  match h.begun id with
  | none => h
  | some before =>
    let logger := h.logger.flush (.caller id)
    if h.Returns id then
      { h with
        logger
        begun := fun i => if i = id then none else h.begun i
        flushed := ⟨h.logger.running, before, h.logger.written⟩ :: h.flushed }
    else { h with logger }

/-- One action. -/
def step (h : FlushHistory) : FlushAction → FlushHistory
  | .callFlush id => h.callFlush id
  | .logger (.flush id) => h.flush id
  | .logger action =>
    { h with
      logger := h.logger.step action
      accepted := h.accepted ++ h.logger.accepts action }

end FlushHistory

/-- A logger with its calls of `flush`, in every interleaving. -/
def flushMachine : Machine FlushHistory FlushAction where
  init := .init
  step := FlushHistory.step

/-- A step of the worker. -/
def isWorkerLoop : FlushAction → Bool
  | .logger .workerLoop => true
  | _ => false

/-- Each step of the history is a step of its logger, or none. -/
theorem logger_step (h : FlushHistory) (a : FlushAction) :
    (flushMachine.step h a).logger = h.logger ∧ isWorkerLoop a = false ∨
      ∃ action, a = .logger action ∧
        (flushMachine.step h a).logger = loggerMachine.step h.logger action := by
  cases a with
  | callFlush id =>
    refine .inl ⟨?_, rfl⟩
    show (h.callFlush id).logger = h.logger
    unfold FlushHistory.callFlush
    split
    · rfl
    · rfl
  | logger action =>
    -- All actions but a flush that has not begun are actions of the logger.
    cases action with
    | flush id =>
      show (h.flush id).logger = h.logger ∧ _ ∨ ∃ action, _ ∧ (h.flush id).logger = _
      unfold FlushHistory.flush
      split
      · exact .inl ⟨rfl, rfl⟩
      · refine .inr ⟨.flush id, rfl, ?_⟩
        simp only
        split
        · rfl
        · rfl
    | start => exact .inr ⟨.start, rfl, rfl⟩
    | stop => exact .inr ⟨.stop, rfl, rfl⟩
    | submit jsonLine pick => exact .inr ⟨.submit jsonLine pick, rfl, rfl⟩
    | workerLoop => exact .inr ⟨.workerLoop, rfl, rfl⟩
    | wakeSpuriously thread => exact .inr ⟨.wakeSpuriously thread, rfl, rfl⟩

/-- What holds in every run: the history fits the logger. -/
structure FlushInv (h : FlushHistory) : Prop where
  worker : WorkerInv h.logger
  conserved : Conserved h.accepted h.logger
  begun : ∀ id before, h.begun id = some before → before <+: h.accepted

namespace FlushInv

variable {h : FlushHistory}

/-- The invariant holds of a logger that was just made. -/
theorem init : FlushInv .init where
  worker := workerInv_init
  conserved := ⟨[], rfl, rfl⟩
  begun _ _ hbegun := absurd hbegun (by simp [FlushHistory.init])

/-- A call that begins keeps the invariant. -/
theorem callFlush (hi : FlushInv h) (id : Nat) : FlushInv (h.callFlush id) := by
  unfold FlushHistory.callFlush
  split
  · exact hi
  · refine ⟨hi.worker, hi.conserved, ?_⟩
    intro i before hbefore
    simp only at hbefore
    split at hbefore
    · obtain rfl := Option.some.inj hbefore
      exact List.prefix_refl _
    · exact hi.begun i before hbefore

/-- A step of a call keeps the invariant. -/
theorem flush (hi : FlushInv h) (id : Nat) : FlushInv (h.flush id) := by
  have hworker := hi.worker.flush (.caller id)
  have hconserved := hi.conserved.step hi.worker (.flush id)
  rw [show h.logger.accepts (.flush id) = [] from rfl, List.append_nil] at hconserved
  unfold FlushHistory.flush
  split
  · exact hi
  · simp only
    split
    · refine ⟨hworker, hconserved, ?_⟩
      intro i before hbefore
      simp only at hbefore
      split at hbefore
      · exact absurd hbefore (by simp)
      · exact hi.begun i before hbefore
    · exact ⟨hworker, hconserved, hi.begun⟩

/-- Each action keeps the invariant. -/
theorem step (hi : FlushInv h) (a : FlushAction) : FlushInv (flushMachine.step h a) := by
  -- An action of the logger adds what it accepts, and every mark stays a prefix.
  have hlogger (action : LoggerAction) : FlushInv
      { h with
        logger := h.logger.step action
        accepted := h.accepted ++ h.logger.accepts action } := by
    refine ⟨hi.worker.step action, hi.conserved.step hi.worker action, ?_⟩
    intro id before hbefore
    exact (hi.begun id before hbefore).trans (List.prefix_append _ _)
  cases a with
  | callFlush id => exact hi.callFlush id
  | logger action =>
    cases action with
    | flush id => exact hi.flush id
    | start => exact hlogger .start
    | stop => exact hlogger .stop
    | submit jsonLine pick => exact hlogger (.submit jsonLine pick)
    | workerLoop => exact hlogger .workerLoop
    | wakeSpuriously thread => exact hlogger (.wakeSpuriously thread)

end FlushInv

/-! ### `flush` returns -/

/-- Each `flush` that returned with the logger running had the lines accepted before it written. -/
def FlushMeansWritten (h : FlushHistory) : Prop :=
  ∀ r ∈ h.flushed, r.running = true → nonEmpty r.before <+: r.written

/-- When a `flush` returns with the logger running, the line that the worker holds, if there is one
to be written, comes after those accepted before the call. -/
def HoldsNoneBefore (h : FlushHistory) : FlushAction → Prop
  | .logger (.flush id) =>
    ∀ before, h.begun id = some before → h.Returns id → h.logger.running = true →
      ∀ line ∈ h.logger.held, line ≠ [] →
        before.length + h.logger.queue.length < h.accepted.length
  | _ => True

/-- With an empty queue the line held is the last one accepted, and the only one not written. -/
theorem Conserved.written_iff {accepted before : List StdString} {l : Logger}
    (h : Conserved accepted l) (hqueue : l.queue = []) (hbefore : before <+: accepted) :
    nonEmpty before <+: l.written ↔
      ∀ line ∈ l.held, line ≠ [] → before.length < accepted.length := by
  obtain ⟨done, haccepted, hdone⟩ := h
  rw [hqueue, List.append_nil] at haccepted
  subst haccepted
  rw [hdone]
  -- The worker holds one line or none.
  have hheld : l.held = [] ∨ ∃ line, l.held = [line] := by
    unfold Logger.held
    split
    · exact .inr ⟨_, rfl⟩
    · exact .inl rfl
  rcases hheld with hheld | ⟨line, hheld⟩
  · rw [hheld, List.append_nil] at hbefore
    rw [hheld]
    exact iff_of_true (nonEmpty_mono hbefore) fun _ hline => absurd hline List.not_mem_nil
  · rw [hheld] at hbefore
    rw [hheld]
    -- An empty line that is held is not to be written.
    by_cases hline : line = []
    · refine iff_of_true ?_ ?_
      · have hprefix := nonEmpty_mono hbefore
        rwa [nonEmpty_append, show nonEmpty [line] = [] by simp [nonEmpty, hline],
          List.append_nil] at hprefix
      · intro line' hline' hne
        rw [List.mem_singleton] at hline'
        exact absurd (hline'.trans hline) hne
    · constructor
      · -- The line that is held is not written, so the mark cannot be the whole.
        rintro hwritten - - -
        by_contra hlength
        obtain rfl := hbefore.eq_of_length_le (Nat.le_of_not_lt hlength)
        have hlast : nonEmpty [line] = [line] := by simp [nonEmpty, hline]
        rw [nonEmpty_append, hlast] at hwritten
        have hle := hwritten.length_le
        simp at hle
      · intro hlength
        have hlt := hlength line (List.mem_singleton.mpr rfl) hline
        rw [List.length_append, List.length_singleton] at hlt
        exact nonEmpty_mono (List.prefix_of_prefix_length_le hbefore (List.prefix_append _ _)
          (Nat.le_of_lt_succ hlt))

/-- The steps after which `flush` still means written. -/
theorem meansWritten_step_iff {h : FlushHistory} (hi : FlushInv h) (hmeans : FlushMeansWritten h)
    (a : FlushAction) : FlushMeansWritten (flushMachine.step h a) ↔ HoldsNoneBefore h a := by
  cases a with
  | callFlush id =>
    refine iff_of_true ?_ trivial
    show FlushMeansWritten (h.callFlush id)
    unfold FlushHistory.callFlush
    split
    · exact hmeans
    · exact hmeans
  | logger action =>
    cases action with
    | flush id =>
      show FlushMeansWritten (h.flush id) ↔ _
      simp only [FlushHistory.flush, HoldsNoneBefore]
      cases hbegun : h.begun id with
      | none => exact iff_of_true hmeans fun _ hsome => absurd hsome (by simp)
      | some before =>
        simp only [Option.some.injEq, forall_eq']
        -- A flush that returns is compared with what is written now, one that waits is not.
        split
        · rename_i hreturns
          have hwritten (hrunning : h.logger.running = true) :
              nonEmpty before <+: h.logger.written ↔ ∀ line ∈ h.logger.held, line ≠ [] →
                before.length + h.logger.queue.length < h.accepted.length := by
            have hqueue : h.logger.queue = [] := by
              simpa [Logger.drained, hrunning] using hreturns.2
            rw [hqueue]
            exact hi.conserved.written_iff hqueue (hi.begun id before hbegun)
          simp only [FlushMeansWritten, List.forall_mem_cons]
          constructor
          · intro hafter _ hrunning
            exact (hwritten hrunning).mp (hafter.1 hrunning)
          · intro hholds
            exact ⟨fun hrunning => (hwritten hrunning).mpr (hholds hreturns hrunning), hmeans⟩
        · rename_i hwaits
          exact iff_of_true hmeans fun hreturns => absurd hreturns hwaits
    | start => exact iff_of_true hmeans trivial
    | stop => exact iff_of_true hmeans trivial
    | submit jsonLine pick => exact iff_of_true hmeans trivial
    | workerLoop => exact iff_of_true hmeans trivial
    | wakeSpuriously thread => exact iff_of_true hmeans trivial

/-! ### What `stop` waits for -/

/-- Each step of the worker is one step less until the lines are written. -/
theorem WrittenWithin.history_step {k : Nat} {lines : List StdString} {h : FlushHistory}
    (hi : FlushInv h) (hwithin : WrittenWithin k lines h.logger) (a : FlushAction) :
    WrittenWithin (k - if isWorkerLoop a then 1 else 0) lines (flushMachine.step h a).logger := by
  rcases logger_step h a with ⟨hsame, hidle⟩ | ⟨action, rfl, haction⟩
  · rw [hsame, hidle]
    exact hwithin
  · rw [haction]
    cases action with
    | workerLoop => exact hwithin.workerLoop hi.worker
    | start => exact hwithin.step hi.worker (by simp)
    | stop => exact hwithin.step hi.worker (by simp)
    | submit jsonLine pick => exact hwithin.step hi.worker (by simp)
    | flush id => exact hwithin.step hi.worker (by simp)
    | wakeSpuriously thread => exact hwithin.step hi.worker (by simp)

/-- The lines are written after that many steps of the worker, whatever runs between them. -/
theorem WrittenWithin.written_runFrom {k : Nat} {lines : List StdString} {h : FlushHistory}
    (hi : FlushInv h) (hwithin : WrittenWithin k lines h.logger) {more : List FlushAction}
    (hmore : k ≤ more.countP isWorkerLoop) :
    lines <+: (flushMachine.runFrom h more).logger.written := by
  induction more generalizing h k with
  | nil =>
    rcases hwithin with hwritten | ⟨-, hlines, hsteps⟩
    · exact hwritten
    · have hk : k = 0 := Nat.le_zero.mp hmore
      have hqueue : h.logger.queue = [] := List.eq_nil_of_length_eq_zero (by omega)
      have hheld : h.logger.held = [] := List.eq_nil_of_length_eq_zero (by omega)
      exact of_ended hlines hheld hqueue
  | cons a more ih =>
    rw [Machine.runFrom_cons]
    refine ih (hi.step a) (hwithin.history_step hi a) ?_
    rw [List.countP_cons] at hmore
    omega

/-- The invariant holds in every run. -/
theorem flushInv_run : flushMachine.Invariant FlushInv :=
  .of_step FlushInv.init fun _ a hi => hi.step a

/-- When `stop` joins the worker, the lines that were accepted are the written ones and those the
worker has yet to deal with. -/
theorem writtenWithin_of_join {h : FlushHistory} (hi : FlushInv h)
    (hjoin : h.logger.stopPc = .join) :
    WrittenWithin (2 * h.logger.queue.length + 1) (nonEmpty h.accepted) h.logger := by
  obtain ⟨done, haccepted, hdone⟩ := hi.conserved
  refine .inr ⟨hjoin, ?_, ?_⟩
  · rw [hdone, haccepted, nonEmpty_append done]
  · have hheld : h.logger.held.length ≤ 1 := by
      unfold Logger.held
      split
      · exact Nat.le_refl 1
      · exact Nat.zero_le 1
    omega

/-- Take any run. In all states of it each `flush` that returned with the logger running has left
none of the lines before it unwritten, when none of its `flush` steps returns while the worker holds
one of them, and only then.

In any run, the lines accepted are those dealt with, the one held and the queue, and the sink has
got those dealt with, in order, less the empty ones. It has got them all when `stop` has returned.
When `stop` joins the worker, it gets them in so many steps of the worker. -/
theorem flush_means_written_iff (acts : List FlushAction) :
    ((∀ pre, pre <+: acts → FlushMeansWritten (flushMachine.run pre)) ↔
        flushMachine.Meets HoldsNoneBefore flushMachine.init acts) ∧
      (let h := flushMachine.run acts
      Conserved h.accepted h.logger ∧
        (h.logger.running = false → h.logger.stopPc = .idle →
          h.logger.written = nonEmpty h.accepted) ∧
        (h.logger.stopPc = .join → ∀ more : List FlushAction,
          2 * h.logger.queue.length + 1 ≤ more.countP isWorkerLoop →
            nonEmpty h.accepted <+: (flushMachine.run (acts ++ more)).logger.written)) := by
  have hi : FlushInv (flushMachine.run acts) := flushInv_run acts
  have hstep (h : FlushHistory) (a : FlushAction) (hh : FlushInv h ∧ FlushMeansWritten h) :
      FlushInv (flushMachine.step h a) ∧ FlushMeansWritten (flushMachine.step h a) ↔
        HoldsNoneBefore h a := by
    rw [meansWritten_step_iff hh.1 hh.2 a]
    exact and_iff_right (hh.1.step a)
  have hinit : FlushMeansWritten flushMachine.init := fun _ hr => absurd hr List.not_mem_nil
  refine ⟨?_, hi.conserved, ?_, ?_⟩
  · -- Each return is right exactly if the worker holds no line of before.
    rw [Machine.meets_iff_forall_run (m := flushMachine) ⟨FlushInv.init, hinit⟩ hstep]
    constructor
    · intro hmeans pre hpre
      exact ⟨flushInv_run pre, hmeans pre hpre⟩
    · intro hmeans pre hpre
      exact (hmeans pre hpre).2
  · -- Without a thread everything accepted is written already.
    intro hrunning hidle
    have hnone := hi.worker.joined hrunning (by simp [hidle]) (by simp [hidle])
    exact hi.conserved.written_of_ended hi.worker (.inl hnone)
  · -- The join waits for the worker, which drains the queue.
    intro hjoin more hmore
    have hrun : flushMachine.run (acts ++ more) =
        flushMachine.runFrom (flushMachine.run acts) more := Machine.runFrom_append _ _ _ _
    rw [hrun]
    exact (writtenWithin_of_join hi hjoin).written_runFrom hi hmore

/-- The worker has taken the line and not written it. The queue is empty, and `flush` returns. -/
theorem flush_returns_before_the_write :
    let h := flushMachine.run [.logger .start, .logger (.submit [65] 0), .logger .workerLoop,
      .callFlush 0, .logger (.flush 0)]
    h.logger.running = true ∧ h.flushed = [⟨true, [[65]], []⟩] ∧ ¬ FlushMeansWritten h := by
  intro h
  have hflushed : h.flushed = [⟨true, [[65]], []⟩] := rfl
  refine ⟨rfl, hflushed, ?_⟩
  intro hmeans
  have hwritten := hmeans ⟨true, [[65]], []⟩ (by rw [hflushed]; exact List.mem_singleton.mpr rfl)
    rfl
  exact absurd hwritten (by decide)

end CrossFlow
