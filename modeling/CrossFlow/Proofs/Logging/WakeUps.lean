import CrossFlow.Proofs.Logging.Steps

/-!
# `CrossFlow.Proofs.Logging.WakeUps`: a condition variable with two predicates

The worker waits on `cv_` for a line, and the callers of `flush` wait on it for an empty queue.
`submit` notifies one of them, and the worker notifies nobody when it takes the last line. So a
caller that sleeps when the queue becomes empty is left asleep, and from then on `notify_one` can
choose it in the place of the worker.

As long as the worker takes the last line only with no `flush` asleep (`DrainsUnwatched`), no
`flush` sleeps on an empty queue, and the worker is the only one that `notify_one` finds.

* `no_lost_wakeUp`: no wake-up is lost in the runs that keep to this.
* `lost_wakeUp_of_watched`: in any other, one is lost once the threads that were notified have run.
* `flush_left_asleep`: such a run.
-/

set_option autoImplicit false

namespace CrossFlow

open Lib (Machine ConditionVariable)
open Lib.ConditionVariable

namespace Logger

/-- A thread sleeps that has nothing left to wait for, and no notified thread is to run. -/
def LosesWakeUp (l : Logger) : Prop :=
  l.running = true ∧ l.cv.notified = [] ∧
    (l.queue ≠ [] ∧ .worker ∈ l.cv.asleep ∨ l.queue = [] ∧ ∃ id, .caller id ∈ l.cv.asleep)

/-- The next step of the worker takes the last line. -/
def TakesLast (l : Logger) : Prop :=
  l.workerPc = .wait ∧ .worker ∉ l.cv.asleep ∧ l.queue.length = 1

end Logger

/-- The worker does not take the last line while a `flush` is asleep. -/
def DrainsUnwatched (l : Logger) : LoggerAction → Prop
  | .workerLoop => l.running = true → l.TakesLast → ∀ id, .caller id ∉ l.cv.asleep
  | _ => True

/-- Who can be asleep, and when. -/
structure WakeUpInv (l : Logger) : Prop where
  stopping : l.stopPc ≠ .idle → l.running = false
  /-- `notify_all` leaves nobody asleep, and nobody goes to sleep after `running_` was cleared. -/
  stopped : l.running = false → l.stopPc ≠ .notifyAll → ∀ id, .caller id ∉ l.cv.asleep
  joined : l.running = false → l.stopPc ≠ .notifyAll → l.stopPc ≠ .join → l.workerPc = .none
  owner : l.cv.Outside .owner
  worker : .worker ∈ l.cv.asleep → l.workerPc = .wait
  flush : l.running = true → l.queue = [] → ∀ id, .caller id ∉ l.cv.asleep
  queue : l.running = true → .worker ∈ l.cv.asleep → l.queue = []

/-- The invariant holds of a logger that was just made. -/
theorem wakeUpInv_init : WakeUpInv .init where
  stopping h := absurd rfl h
  stopped _ _ _ := List.not_mem_nil
  joined _ _ _ := rfl
  owner := List.not_mem_nil
  worker h := absurd h List.not_mem_nil
  flush _ _ _ := List.not_mem_nil
  queue _ h := absurd h List.not_mem_nil

namespace WakeUpInv

variable {l : Logger}

/-- Nobody new is asleep, and nothing else changes. -/
theorem of_cv {cv : ConditionVariable LoggerThread} (hi : WakeUpInv l)
    (hcv : ∀ t ∈ cv.asleep, t ∈ l.cv.asleep) (howner : cv.Outside .owner) :
    WakeUpInv { l with cv } where
  stopping := hi.stopping
  stopped hrunning hpc id h := hi.stopped hrunning hpc id (hcv _ h)
  joined := hi.joined
  owner := howner
  worker h := hi.worker (hcv _ h)
  flush hrunning hqueue id h := hi.flush hrunning hqueue id (hcv _ h)
  queue hrunning h := hi.queue hrunning (hcv _ h)

/-- `start` keeps the invariant. -/
theorem callStart (hi : WakeUpInv l) : WakeUpInv l.callStart := by
  rcases l.callStart_cases with heq | ⟨hpc, hrunning, heq⟩
  · rw [heq]
    exact hi
  · rw [heq]
    -- The thread before was joined, and everybody was notified since.
    have hnone : l.workerPc = .none := hi.joined hrunning (by simp [hpc]) (by simp [hpc])
    have hcallers := hi.stopped hrunning (by simp [hpc])
    have hworker : .worker ∉ l.cv.asleep := by
      intro h
      have hwait := hi.worker h
      simp [hnone] at hwait
    constructor
    case stopping => exact fun h => absurd hpc h
    case stopped => exact fun h => absurd h (by simp)
    case joined => exact fun h => absurd h (by simp)
    case owner => exact hi.owner
    case worker => exact fun _ => rfl
    case flush => exact fun _ _ => hcallers
    case queue => exact fun _ h => absurd h hworker

/-- `notify_one` reaches the worker when it is asleep: nobody else is then. -/
theorem submit (hi : WakeUpInv l) (jsonLine : StdString) (pick : Nat) :
    WakeUpInv (l.submit jsonLine pick) := by
  rcases l.submit_cases jsonLine pick with ⟨hrunning, -, heq⟩ | ⟨-, dropped, heq⟩
  · rw [heq]
    have hfewer : ∀ t ∈ (l.cv.notifyOne pick).asleep, t ∈ l.cv.asleep :=
      fun t ht => mem_asleep_notifyOne ht
    have hcv := of_cv hi hfewer (hi.owner.notifyOne pick)
    constructor
    case stopping => exact hcv.stopping
    case stopped => exact hcv.stopped
    case joined => exact hcv.joined
    case owner => exact hcv.owner
    case worker => exact hcv.worker
    case flush => exact fun _ h => absurd h (by simp)
    case queue =>
      intro _ h
      have hempty : l.queue = [] := hi.queue hrunning (hfewer _ h)
      -- No `flush` sleeps on an empty queue, so the worker is the one notified.
      have honly : ∀ t ∈ l.cv.asleep, t = .worker := by
        intro t ht
        cases t with
        | worker => rfl
        | owner => exact absurd ht hi.owner.not_asleep
        | caller id => exact absurd ht (hi.flush hrunning hempty id)
      have hnobody := notifyOne_of_only honly pick
      simp only at h
      rw [hnobody] at h
      exact absurd h List.not_mem_nil
  · rw [heq]
    exact ⟨hi.stopping, hi.stopped, hi.joined, hi.owner, hi.worker, hi.flush, hi.queue⟩

/-- A `flush` sleeps on a queue that is not empty. -/
theorem flush_caller (hi : WakeUpInv l) (id : Nat) : WakeUpInv (l.flush (.caller id)) := by
  rcases l.flush_cases (.caller id) with heq | ⟨-, heq⟩ | ⟨hqueue, hrunning, heq⟩
  · rw [heq]
    exact hi
  · rw [heq]
    exact of_cv hi (fun t ht => ht) (hi.owner.leave _)
  · rw [heq]
    have hsleep : ∀ t ∈ ((l.cv.leave (.caller id)).sleep (.caller id)).asleep,
        t = .caller id ∨ t ∈ l.cv.asleep :=
      fun t ht => mem_asleep_sleep (c := l.cv.leave (.caller id)) ht
    constructor
    case stopping => exact hi.stopping
    -- The logger runs, or the predicate of `flush` would hold.
    case stopped => exact fun h => absurd h (by simp [hrunning])
    case joined => exact hi.joined
    case owner => exact (hi.owner.leave _).sleep (by simp)
    case worker =>
      intro h
      rcases hsleep _ h with h | h
      · cases h
      · exact hi.worker h
    case flush => exact fun _ h => absurd h hqueue
    case queue =>
      intro hrunning h
      rcases hsleep _ h with h | h
      · cases h
      · exact hi.queue hrunning h

/-- While the logger does not run, two of the parts are about nothing. -/
theorem of_stopped (hrunning : l.running = false)
    (hasleep : l.stopPc ≠ .notifyAll → ∀ id, .caller id ∉ l.cv.asleep)
    (hjoined : l.stopPc ≠ .notifyAll → l.stopPc ≠ .join → l.workerPc = .none)
    (howner : l.cv.Outside .owner) (hworker : .worker ∈ l.cv.asleep → l.workerPc = .wait) :
    WakeUpInv l where
  stopping _ := hrunning
  stopped _ := hasleep
  joined _ := hjoined
  owner := howner
  worker := hworker
  flush h := absurd h (by simp [hrunning])
  queue h := absurd h (by simp [hrunning])

/-- A step of `stop` keeps the invariant. -/
theorem stop (hi : WakeUpInv l) : WakeUpInv l.stop := by
  unfold Logger.stop
  split
  case h_1 hpc =>
    split
    · exact hi
    · exact of_stopped rfl (fun h => absurd rfl h) (fun h => absurd rfl h) hi.owner hi.worker
  case h_2 hpc =>
    have hrunning : l.running = false := hi.stopping (by simp [hpc])
    exact of_stopped hrunning (fun _ _ => List.not_mem_nil) (fun _ h => absurd rfl h)
      hi.owner.notifyAll fun h => absurd h List.not_mem_nil
  case h_3 hpc =>
    have hrunning : l.running = false := hi.stopping (by simp [hpc])
    split
    · rename_i hreturned
      refine of_stopped hrunning (fun _ => hi.stopped hrunning (by simp [hpc])) (fun _ _ => rfl)
        hi.owner ?_
      intro h
      have hwait := hi.worker h
      simp [hreturned] at hwait
    · exact hi
  case h_4 hpc =>
    have hrunning : l.running = false := hi.stopping (by simp [hpc])
    -- The predicate of `flush` holds, so the thread does not sleep.
    have hdrained : l.drained = true := by simp [Logger.drained, hrunning]
    have hflush : l.flush .owner = { l with cv := l.cv.leave .owner } := by
      simp only [Logger.flush, if_neg hi.owner.not_asleep, hdrained, if_true]
    rw [if_pos ⟨hi.owner.not_asleep, hdrained⟩, hflush]
    exact of_stopped hrunning (fun _ => hi.stopped hrunning (by simp [hpc]))
      (fun _ _ => hi.joined hrunning (by simp [hpc]) (by simp [hpc])) (hi.owner.leave _) hi.worker
  case h_5 hpc =>
    have hrunning : l.running = false := hi.stopping (by simp [hpc])
    exact of_stopped hrunning (fun _ => hi.stopped hrunning (by simp [hpc]))
      (fun _ _ => hi.joined hrunning (by simp [hpc]) (by simp [hpc])) hi.owner hi.worker

/-- A worker that is not asleep and goes on without sleeping, on a queue that is empty only when no
`flush` is asleep. -/
theorem of_working (hi : WakeUpInv l) (hpc : l.workerPc ≠ .none) {l' : Logger}
    (hstop : l'.stopPc = l.stopPc) (hrunning : l'.running = l.running)
    (hasleep : l'.cv.asleep = l.cv.asleep) (howner : l'.cv.Outside .owner)
    (hawake : .worker ∉ l.cv.asleep)
    (hflush : l.running = true → l'.queue = [] → ∀ id, .caller id ∉ l.cv.asleep) :
    WakeUpInv l' where
  stopping h := by
    rw [hrunning]
    exact hi.stopping (hstop ▸ h)
  stopped h₁ h₂ := by
    rw [hasleep]
    exact hi.stopped (hrunning ▸ h₁) (hstop ▸ h₂)
  joined h₁ h₂ h₃ := by
    have hnone := hi.joined (hrunning ▸ h₁) (hstop ▸ h₂) (hstop ▸ h₃)
    exact absurd hnone hpc
  owner := howner
  -- Whoever works does not sleep.
  worker h := absurd (hasleep ▸ h) hawake
  flush h₁ h₂ := by
    rw [hasleep]
    exact hflush (hrunning ▸ h₁) h₂
  queue _ h := absurd (hasleep ▸ h) hawake

/-- The worker sleeps on an empty queue. It empties the queue with no `flush` asleep. -/
theorem workerLoop (hi : WakeUpInv l) (hdrains : DrainsUnwatched l .workerLoop) :
    WakeUpInv l.workerLoop := by
  rcases l.workerLoop_cases with ⟨-, heq⟩ | ⟨line, queue, hpc, hawake, hqueue, heq⟩ |
    ⟨hpc, hqueue, hrunning, heq⟩ | ⟨hpc, hawake, hqueue, -, heq⟩ | ⟨line, hpc, heq⟩
  · rw [heq]
    exact hi
  · rw [heq]
    refine hi.of_working (by simp [hpc]) rfl rfl rfl (hi.owner.leave _) hawake ?_
    intro hrunning hempty
    have hempty : queue = [] := hempty
    -- That was the last line.
    exact hdrains hrunning ⟨hpc, hawake, by rw [hqueue, hempty]; rfl⟩
  · rw [heq]
    have hsleep : ∀ t ∈ ((l.cv.leave .worker).sleep .worker).asleep,
        t = .worker ∨ t ∈ l.cv.asleep :=
      fun t ht => mem_asleep_sleep (c := l.cv.leave .worker) ht
    have hcaller : ∀ id, .caller id ∉ ((l.cv.leave .worker).sleep .worker).asleep := by
      intro id h
      -- The worker joins those asleep, and no caller was among them.
      rcases hsleep _ h with h | h
      · cases h
      · exact hi.flush hrunning hqueue id h
    constructor
    case stopping => exact hi.stopping
    case stopped => exact fun h => absurd h (by simp [hrunning])
    case joined => exact hi.joined
    case owner => exact (hi.owner.leave _).sleep (by simp)
    case worker => exact fun _ => hpc
    case flush => exact fun _ _ => hcaller
    case queue => exact fun _ _ => hqueue
  · rw [heq]
    exact hi.of_working (by simp [hpc]) rfl rfl rfl (hi.owner.leave _) hawake
      fun hrunning _ => hi.flush hrunning hqueue
  · rw [heq]
    have hawake : .worker ∉ l.cv.asleep := by
      intro h
      have hwait := hi.worker h
      simp [hpc] at hwait
    exact hi.of_working (by simp [hpc]) rfl rfl rfl hi.owner hawake hi.flush

/-- Each step that meets the condition keeps the invariant. -/
theorem step (hi : WakeUpInv l) (a : LoggerAction) (hdrains : DrainsUnwatched l a) :
    WakeUpInv (loggerMachine.step l a) := by
  cases a with
  | start => exact hi.callStart
  | stop => exact hi.stop
  | submit jsonLine pick => exact hi.submit jsonLine pick
  | flush id => exact hi.flush_caller id
  | workerLoop => exact hi.workerLoop hdrains
  | wakeSpuriously thread =>
    exact of_cv hi (fun t ht => mem_asleep_wakeSpuriously ht) (hi.owner.wakeSpuriously _)

/-- The worker has no line to write when it sleeps, and no caller of `flush` sleeps then. -/
theorem keeps_wakeUps (hi : WakeUpInv l) : ¬ l.LosesWakeUp := by
  rintro ⟨hrunning, -, ⟨hqueue, hworker⟩ | ⟨hqueue, id, hcaller⟩⟩
  · exact hqueue (hi.queue hrunning hworker)
  · exact hi.flush hrunning hqueue id hcaller

end WakeUpInv

/-- The invariant holds in every run whose steps meet the condition. -/
theorem wakeUpInv_run {acts : List LoggerAction}
    (hacts : loggerMachine.Meets DrainsUnwatched loggerMachine.init acts) :
    WakeUpInv (loggerMachine.run acts) :=
  Machine.invariant_of_meets (m := loggerMachine) wakeUpInv_init (fun _ a hi ha => hi.step a ha)
    hacts

/-- No wake-up is lost in a run in which the worker never takes the last line while a `flush` is
asleep. -/
theorem no_lost_wakeUp (acts : List LoggerAction)
    (hacts : loggerMachine.Meets DrainsUnwatched loggerMachine.init acts) :
    ¬ (loggerMachine.run acts).LosesWakeUp := (wakeUpInv_run hacts).keeps_wakeUps

/-- The worker goes to sleep and a line wakes it; a `flush` goes to sleep and the next line wakes
it; the worker takes both lines and sleeps again, and `flush` finds the queue empty. -/
def wakesBoth : List LoggerAction :=
  [.start, .workerLoop, .submit [65] 0, .flush 0, .submit [66] 0, .workerLoop, .workerLoop,
    .workerLoop, .workerLoop, .workerLoop, .flush 0]

/-- Both threads slept and were woken, both lines are written, and no wake-up is lost. -/
theorem no_lost_wakeUp_wakesBoth :
    (loggerMachine.run (wakesBoth.take 2)).cv.asleep = [.worker] ∧
      (loggerMachine.run (wakesBoth.take 4)).cv.asleep = [.caller 0] ∧
      (loggerMachine.run (wakesBoth.take 5)).cv.notified = [.caller 0, .worker] ∧
      (loggerMachine.run wakesBoth).written = [[65], [66]] ∧
      ¬ (loggerMachine.run wakesBoth).LosesWakeUp := by
  refine ⟨rfl, rfl, rfl, rfl, no_lost_wakeUp _ ?_⟩
  refine ⟨trivial, ?sleeps, trivial, trivial, trivial, ?takesFirst, ?writes, ?takesLast,
    ?writesLast, ?sleepsAgain, trivial, trivial⟩
  case takesLast => exact fun _ _ _ => List.not_mem_nil
  -- The other steps of the worker do not take a last line.
  case sleeps | takesFirst | sleepsAgain => exact fun _ h => absurd h.2.2 (by decide)
  case writes | writesLast => exact fun _ h => absurd h.1 (by decide)

/-! ### The last line, with a `flush` asleep -/

/-- The threads that were notified find the queue empty and return, and the one asleep is left. -/
theorem exists_losesWakeUp {l : Logger} (hrunning : l.running = true) (hqueue : l.queue = [])
    (hnotified : ∀ t ∈ l.cv.notified, ∃ id, t = .caller id)
    (hasleep : ∃ id, .caller id ∈ l.cv.asleep) :
    ∃ ids : List Nat, (loggerMachine.runFrom l (ids.map .flush)).LosesWakeUp := by
  induction hn : l.cv.notified generalizing l with
  | nil => exact ⟨[], hrunning, hn, .inr ⟨hqueue, hasleep⟩⟩
  | cons t rest ih =>
    -- The first of them runs, finds the queue empty and leaves.
    obtain ⟨id, rfl⟩ := hnotified t (by simp [hn])
    have hawake : .caller id ∉ l.cv.asleep := not_asleep_of_notified (by simp [hn])
    have hdrained : l.drained = true := by simp [Logger.drained, hqueue]
    have hstep : loggerMachine.step l (.flush id) = { l with cv := l.cv.leave (.caller id) } := by
      show l.flush (.caller id) = _
      simp only [Logger.flush, if_neg hawake, hdrained, if_true]
    have hrest : (l.cv.leave (.caller id)).notified = rest := by
      show l.cv.notified.erase (.caller id) = rest
      rw [hn, List.erase_cons_head]
    have hcallers : ∀ t ∈ (l.cv.leave (.caller id)).notified, ∃ id, t = .caller id := by
      intro t ht
      rw [hrest] at ht
      exact hnotified t (by simp [hn, ht])
    obtain ⟨ids, hids⟩ := ih (l := { l with cv := l.cv.leave (.caller id) }) hrunning hqueue
      hcallers hasleep hrest
    refine ⟨id :: ids, ?_⟩
    rw [List.map_cons, Machine.runFrom_cons, hstep]
    exact hids

/-- When the worker does take the last line while a `flush` is asleep, a wake-up is lost as soon
as the threads that were notified before have run. -/
theorem lost_wakeUp_of_watched {acts : List LoggerAction} {a : LoggerAction}
    (hacts : loggerMachine.Meets DrainsUnwatched loggerMachine.init acts)
    (hwatched : ¬ DrainsUnwatched (loggerMachine.run acts) a) :
    ∃ ids : List Nat, (loggerMachine.run (acts ++ a :: ids.map .flush)).LosesWakeUp := by
  have hi := wakeUpInv_run hacts
  generalize hl : loggerMachine.run acts = l at hi hwatched
  cases a with
  | workerLoop =>
    simp only [DrainsUnwatched, not_forall, not_not] at hwatched
    obtain ⟨hrunning, ⟨hpc, hawake, hlength⟩, hasleep⟩ := hwatched
    obtain ⟨line, hqueue⟩ := List.length_eq_one_iff.mp hlength
    -- The worker takes the last line while somebody sleeps until the queue is empty.
    have hstep : loggerMachine.step l .workerLoop =
        { l with cv := l.cv.leave .worker, queue := [], workerPc := .write line } := by
      show l.workerLoop = _
      simp only [Logger.workerLoop, hpc, if_neg hawake, hqueue]
    have hnotified : ∀ t ∈ (l.cv.leave .worker).notified, ∃ id, t = .caller id := by
      intro t ht
      cases t with
      | caller id => exact ⟨id, rfl⟩
      | worker => exact absurd ht (not_notified_leave l.cv .worker)
      | owner => exact absurd ht (hi.owner.leave .worker).not_notified
    -- The flushes that were notified return one after the other, and nobody wakes the sleeper.
    obtain ⟨ids, hids⟩ := exists_losesWakeUp
      (l := { l with cv := l.cv.leave .worker, queue := [], workerPc := .write line })
      hrunning rfl hnotified hasleep
    refine ⟨ids, ?_⟩
    rw [Machine.run, Machine.runFrom_append, ← Machine.run, hl, Machine.runFrom_cons, hstep]
    exact hids
  | _ => exact absurd trivial hwatched

/-- `flush` sleeps until the queue is empty, and nobody wakes it when it is. -/
theorem flush_left_asleep :
    (loggerMachine.run [.start, .submit [65] 0, .flush 0, .workerLoop]).LosesWakeUp :=
  ⟨rfl, rfl, .inr ⟨rfl, 0, List.mem_singleton.mpr rfl⟩⟩

end CrossFlow
