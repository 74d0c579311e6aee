import CrossFlow.Core.Transport.TransportImpl
import CrossFlow.Lib.Machine

/-!
# `CrossFlow.Integration.E2EPipelineOrchestrator`: events on their way to the transport

The model of `integration/e2e_pipeline_orchestrator.hpp` and `.cpp`, with a `TransportImpl` as both
planes. The readings of the clock are arguments. `processingLoop` only sleeps, so it is left out.
-/

set_option autoImplicit false

namespace CrossFlow

open Lib (Machine)
open TransportImpl (ConnectCalls)

/-- What a pipeline is told at its construction. -/
structure E2EPipelineConfig where
  localNodeId : NodeId
  eventIdSeed : UInt64
  enableEdgeDetection : Bool
  backpressureThreshold : UInt32
  deriving DecidableEq

/-- The pipeline with its transport and its counts. -/
structure E2EPipelineOrchestrator where
  plane : TransportImpl
  config : E2EPipelineConfig
  running : Bool
  stopRequested : Bool
  eventIdCounter : UInt64
  totalProcessed : UInt64
  totalEdgeOverflow : UInt64
  totalTransportSent : UInt64
  totalDroppedOldest : UInt64
  deriving DecidableEq

namespace E2EPipelineOrchestrator

/-- A pipeline that was just made. The first event has the number of the seed. -/
def init (plane : TransportImpl) (config : E2EPipelineConfig) : E2EPipelineOrchestrator where
  plane := plane
  config := config
  running := false
  stopRequested := false
  eventIdCounter := config.eventIdSeed
  totalProcessed := 0
  totalEdgeOverflow := 0
  totalTransportSent := 0
  totalDroppedOldest := 0

/-- `threadOk` is whether the processing thread could be started. -/
def start (o : E2EPipelineOrchestrator) (bytes : ObjectBytes) (nowUs : UInt64) (ret : Nat → Int)
    (threadOk : Bool) : E2EPipelineOrchestrator × Bool :=
  if o.running then (o, true)
  else
    let o := { o with stopRequested := false, running := true }
    let heartbeat : HeartbeatMessage := { timestamp := nowUs }
    let o :=
      { o with plane := (o.plane.sendMessage bytes ⟨.HeartbeatMessage, heartbeat⟩ ret).1 }
    if !threadOk then ({ o with running := false }, false) else (o, true)

/-- The pipeline no longer runs. Its counts stay. -/
def stop (o : E2EPipelineOrchestrator) : E2EPipelineOrchestrator :=
  if !o.running then o else { o with stopRequested := true, running := false }

/-- The event gets its number, its source and its time. -/
def enrichEvent (o : E2EPipelineOrchestrator) (event : CanonicalInputEvent) (nowUs : UInt64) :
    E2EPipelineOrchestrator × CanonicalInputEvent :=
  ({ o with eventIdCounter := o.eventIdCounter + 1 },
    { event with
      eventId := o.eventIdCounter
      sourceNodeId := o.config.localNodeId
      timestamp := nowUs })

/-- `processEvent`, with the bytes it writes on the input socket. -/
def processEvent (o : E2EPipelineOrchestrator) (bytes : ObjectBytes) (event : CanonicalInputEvent)
    (nowUs : UInt64) (ret : Nat → Int) : E2EPipelineOrchestrator × List UInt8 :=
  if !o.running then (o, [])
  else
    let (o, enriched) := o.enrichEvent event nowUs
    let o :=
      if o.config.enableEdgeDetection then
        { o with totalEdgeOverflow := o.totalEdgeOverflow + 1 }
      else o
    let bl := o.plane.backlog
    if bl > o.config.backpressureThreshold then
      ({ o with totalDroppedOldest := o.totalDroppedOldest + 1 }, [])
    else
      let (plane, written) := o.plane.send bytes enriched ret
      ({ o with
          plane := plane
          totalTransportSent := o.totalTransportSent + 1
          totalProcessed := o.totalProcessed + 1 }, written)

end E2EPipelineOrchestrator

/-! ### Runs -/

/-- The calls of the pipeline and of its transport, and what the receive thread does to the input
socket. -/
inductive PipelineCall where
  | start (nowUs : UInt64) (ret : Nat → Int) (threadOk : Bool)
  | stop
  | processEvent (event : CanonicalInputEvent) (nowUs : UInt64) (ret : Nat → Int)
  | send (event : CanonicalInputEvent) (ret : Nat → Int)
  | sendMessage (msg : ControlMessage) (ret : Nat → Int)
  | connect (r : ConnectCalls)
  | disconnect
  | reacceptInput_close
  | reacceptInput_accept (accepted : SocketFd)

namespace E2EPipelineOrchestrator

/-- The receive thread waits for a new connection. -/
def reaccepting (o : E2EPipelineOrchestrator) : Bool :=
  o.plane.connected ∧ o.plane.config.isServer ∧ o.plane.inputSocket.isNone

/-- One call. -/
def step (bytes : ObjectBytes) (o : E2EPipelineOrchestrator) :
    PipelineCall → E2EPipelineOrchestrator
  | .start nowUs ret threadOk => (o.start bytes nowUs ret threadOk).1
  | .stop => o.stop
  | .processEvent event nowUs ret => (o.processEvent bytes event nowUs ret).1
  | .send event ret => { o with plane := (o.plane.send bytes event ret).1 }
  | .sendMessage msg ret => { o with plane := (o.plane.sendMessage bytes msg ret).1 }
  | .connect r => { o with plane := (o.plane.connect r).1 }
  | .disconnect => { o with plane := o.plane.disconnect.1 }
  | .reacceptInput_close =>
    -- The loop leaves the socket alone as a client and when it is not to receive any more.
    if o.plane.config.isServer ∧ o.plane.receiving then
      { o with plane := o.plane.reacceptInput_close.1 }
    else o
  | .reacceptInput_accept accepted =>
    if o.reaccepting then { o with plane := (o.plane.reacceptInput_accept accepted).1 } else o

end E2EPipelineOrchestrator

/-- A pipeline over a transport, in any order of the calls. -/
def pipelineMachine (bytes : ObjectBytes) (transport : TransportConfig)
    (config : E2EPipelineConfig) : Machine E2EPipelineOrchestrator PipelineCall where
  init := .init (.init transport) config
  step := E2EPipelineOrchestrator.step bytes

end CrossFlow
