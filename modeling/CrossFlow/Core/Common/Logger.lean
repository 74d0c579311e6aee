import CrossFlow.Core.Common.StdString
import CrossFlow.Lib.ConditionVariable
import CrossFlow.Lib.Machine

/-!
# `CrossFlow.Core.Common.Logger`: lines on their way to the sink

The `Logger` of `core/common/logger.hpp` and `.cpp`. What a thread does while it holds `mutex_` is
one step, with the `wait` it begins or ends there. `start` and `stop` are called by one thread, so
no `start` falls into a `stop` (`callStart`); `submit` and `flush` are called by any number of
threads. The queue holds lines that are ready to be written.

`written` is a history variable: the lines that were passed to the sink.
-/

set_option autoImplicit false

namespace CrossFlow

open Lib (Machine ConditionVariable)

/-- The threads that wait on `cv_`. -/
inductive LoggerThread where
  | worker
  /-- The thread that calls `start` and `stop`. -/
  | owner
  /-- A thread that calls `flush`. -/
  | caller (id : Nat)
  deriving DecidableEq

/-- Where the thread of `workerLoop` is. -/
inductive WorkerPc where
  /-- There is no thread, or it was joined. -/
  | none
  /-- It is about to take the mutex, or inside `wait`. -/
  | wait
  /-- It has let go of the mutex, and `sink_(line)` comes next. -/
  | write (line : StdString)
  | returned
  deriving DecidableEq

/-- Where `stop` is. -/
inductive StopPc where
  | idle
  /-- `cv_.notify_all()` -/
  | notifyAll
  /-- `worker_.join()` -/
  | join
  /-- inside `flush()` -/
  | flush
  /-- `sink_ = nullptr` -/
  | clearSink
  deriving DecidableEq

/-- The logger with its queue, its worker and the thread that calls `stop`. `written` is what the
sink was called with. -/
structure Logger where
  queue : List StdString
  running : Bool
  /-- Whether `sink_` holds a function. -/
  sink : Bool
  dropped : Nat
  cv : ConditionVariable LoggerThread
  workerPc : WorkerPc
  stopPc : StopPc
  written : List StdString

namespace Logger

/-- The bound of the queue. -/
def kMaxQueue : Nat := 4096

/-- A logger that was not started. -/
def init : Logger where
  queue := []
  running := false
  sink := false
  dropped := 0
  cv := .init
  workerPc := .none
  stopPc := .idle
  written := []

/-- A `sink_` that is not given is the one that writes to `stderr`. -/
def start (l : Logger) : Logger :=
  if l.running then l else { l with sink := true, running := true, workerPc := .wait }

/-- The thread that calls `start` and `stop` calls `start`, unless it is inside `stop`. -/
def callStart (l : Logger) : Logger :=
  match l.stopPc with
  | .idle => l.start
  | _ => l

/-- `pick` is the choice that `notify_one` makes. -/
def submit (l : Logger) (jsonLine : StdString) (pick : Nat) : Logger :=
  if !l.running ∨ l.queue.length ≥ kMaxQueue then
    if l.queue.length ≥ kMaxQueue then { l with dropped := l.dropped + 1 } else l
  else { l with queue := l.queue ++ [jsonLine], cv := l.cv.notifyOne pick }

/-- The predicate of `flush`. -/
def drained (l : Logger) : Bool := l.queue = [] ∨ !l.running

/-- The thread calls `flush`, or it was woken and takes the mutex. It returns from `flush` or goes
to sleep. -/
def flush (l : Logger) (thread : LoggerThread) : Logger :=
  if thread ∈ l.cv.asleep then l
  else
    let cv := l.cv.leave thread
    if l.drained then { l with cv } else { l with cv := cv.sleep thread }

/-- The thread that called `stop` takes its next step. A `join` waits until the worker has
returned. -/
def stop (l : Logger) : Logger :=
  match l.stopPc with
  | .idle => if !l.running then l else { l with running := false, stopPc := .notifyAll }
  | .notifyAll => { l with cv := l.cv.notifyAll, stopPc := .join }
  | .join => if l.workerPc = .returned then { l with workerPc := .none, stopPc := .flush } else l
  | .flush =>
    if .owner ∉ l.cv.asleep ∧ l.drained then { l.flush .owner with stopPc := .clearSink }
    else l.flush .owner
  | .clearSink => { l with sink := false, stopPc := .idle }

/-- The worker takes its next step: the part of the loop under the mutex, or the write. -/
def workerLoop (l : Logger) : Logger :=
  match l.workerPc with
  | .none | .returned => l
  | .wait =>
    if .worker ∈ l.cv.asleep then l
    else
      let cv := l.cv.leave .worker
      match l.queue with
      | line :: queue => { l with cv, queue, workerPc := .write line }
      | [] =>
        if l.running then { l with cv := cv.sleep .worker } else { l with cv, workerPc := .returned }
  | .write line =>
    if line ≠ [] ∧ l.sink then { l with workerPc := .wait, written := l.written ++ [line] }
    else { l with workerPc := .wait }

end Logger

/-- The steps of the threads, and the wake-ups that nobody asked for. -/
inductive LoggerAction where
  | start
  | stop
  | submit (jsonLine : StdString) (pick : Nat)
  | flush (id : Nat)
  | workerLoop
  | wakeSpuriously (thread : LoggerThread)

namespace Logger

/-- One step of a thread. A thread that cannot go on leaves all as it is. -/
def step (l : Logger) : LoggerAction → Logger
  | .start => l.callStart
  | .stop => l.stop
  | .submit jsonLine pick => l.submit jsonLine pick
  | .flush id => l.flush (.caller id)
  | .workerLoop => l.workerLoop
  | .wakeSpuriously thread => { l with cv := l.cv.wakeSpuriously thread }

end Logger

/-- The logger with its threads, in every interleaving. -/
def loggerMachine : Machine Logger LoggerAction where
  init := .init
  step := Logger.step

end CrossFlow
