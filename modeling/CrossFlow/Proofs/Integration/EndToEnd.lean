import CrossFlow.Integration.EndToEnd
import CrossFlow.Proofs.Integration.Pipeline
import CrossFlow.Proofs.Transport.SendAlone
import CrossFlow.Proofs.Transport.SendFrames

/-!
# `CrossFlow.Proofs.Integration.EndToEnd`: every event arrives

* `processEvents_written`: the pipeline writes one frame for each event, numbered in order.
* `handleReceivedEvents_posts`: the receiver posts what the events stand for.
* `events_arrive`: so what is posted on one machine is what was captured on the other.
-/

set_option autoImplicit false

namespace CrossFlow

open TransportImpl (sizeofEvent receiveFrames_parse)
open SendThreads (frames parse_frames_part)

/-! ### The receiver -/

/-- The injector turns an event into the input that it stands for. -/
theorem WinEventInjector.dispatch_received {event : CanonicalInputEvent} {input : WinInput}
    (hinput : event.winInput = some input) (sent : UInt32) :
    WinEventInjector.dispatch event.received sent =
      some (WinEventInjector.sendInput sent input) := by
  obtain ⟨eventId, sourceNodeId, timestamp, eventType, payload, modifierState⟩ := event
  -- An event without an input, or with the payload of another type, is out by `hinput`.
  cases eventType <;> cases payload <;> cases hinput
  case MouseMove.mouseMove payload => rfl
  case MouseButtonPress.mouseButton payload =>
    obtain ⟨button⟩ := payload
    cases button <;> rfl
  case MouseButtonRelease.mouseButton payload =>
    obtain ⟨button⟩ := payload
    cases button <;> rfl
  case Wheel.wheel payload =>
    obtain ⟨delta, axis⟩ := payload
    cases axis <;> rfl
  case KeyPress.key payload => rfl
  case KeyRelease.key payload => rfl

/-- The sources that the receiver and its injector let through. -/
def WinInputPlaneReceiver.Admits (r : WinInputPlaneReceiver) (source : NodeId) : Prop :=
  r.expectedSourceNodeId = source ∧ r.injector.sourceNodeId = source

namespace WinInputPlaneReceiver

/-- An event of the right source is posted, and counted by whether `SendInput` took it. -/
theorem handleReceivedEvent_received {r : WinInputPlaneReceiver} {event : CanonicalInputEvent}
    {input : WinInput} (hinput : event.winInput = some input)
    (hadmits : r.Admits event.sourceNodeId) (sent : UInt32) (latencyUs : UInt64) :
    ∃ r', r.handleReceivedEvent event.received sent latencyUs =
        some (r', if r.hasHandler then [event.received] else [], [input]) ∧
      r'.expectedSourceNodeId = r.expectedSourceNodeId ∧
      r'.injector.sourceNodeId = r.injector.sourceNodeId ∧ r'.hasHandler = r.hasHandler ∧
      r'.totalReceived = r.totalReceived + 1 ∧
      r'.totalInjected + r'.totalRejected = r.totalInjected + r.totalRejected + 1 := by
  obtain ⟨hexpected, hsource⟩ := hadmits
  have hdispatch := WinEventInjector.dispatch_received hinput sent
  have hexpected' : event.received.sourceNodeId = r.expectedSourceNodeId := hexpected.symm
  have hsource' : event.received.sourceNodeId = r.injector.sourceNodeId := hsource.symm
  unfold handleReceivedEvent WinEventInjector.inject WinEventInjector.validateSource
  rw [if_neg (not_not.mpr hexpected'), if_neg (not_not.mpr hsource'), hdispatch]
  have hcount : r.totalInjected + 1 + r.totalRejected = r.totalInjected + r.totalRejected + 1 := by
    rw [UInt64.add_assoc, UInt64.add_comm 1, ← UInt64.add_assoc]
  -- An input that the system takes is counted as injected, one it refuses as rejected.
  by_cases hsent : sent = 1
  · simp [WinEventInjector.sendInput, hsent, hcount]
  · simp [WinEventInjector.sendInput, hsent, UInt64.add_assoc]

/-- The receiver posts what the events stand for, one input for each. -/
theorem handleReceivedEvents_posts {source : NodeId} (calls : Nat → UInt32 × UInt64)
    {events : List CanonicalInputEvent}
    (hevents : ∀ event ∈ events, event.sourceNodeId = source ∧ event.winInput.isSome = true)
    {r : WinInputPlaneReceiver} (hadmits : r.Admits source) (k : Nat) :
    ∃ r', r.handleReceivedEvents calls k (events.map CanonicalInputEvent.received) =
        some (r', if r.hasHandler then events.map CanonicalInputEvent.received else [],
          events.filterMap CanonicalInputEvent.winInput) ∧
      r'.totalReceived = r.totalReceived + UInt64.ofNat events.length ∧
      r'.totalInjected + r'.totalRejected =
        r.totalInjected + r.totalRejected + UInt64.ofNat events.length := by
  induction events generalizing r k with
  | nil =>
    refine ⟨r, ?_, (UInt64.add_zero _).symm, (UInt64.add_zero _).symm⟩
    cases r.hasHandler <;> rfl
  | cons event events ih =>
    obtain ⟨hsource, hsome⟩ := hevents event List.mem_cons_self
    obtain ⟨input, hinput⟩ := Option.isSome_iff_exists.mp hsome
    rw [← hsource] at hadmits
    -- The first event is posted, and what lets the others through stays as it is.
    obtain ⟨r₁, hfirst, hexpected, hinjector, hhandler, hreceived, hcount⟩ :=
      handleReceivedEvent_received hinput hadmits (calls k).1 (calls k).2
    have hadmits₁ : r₁.Admits source := by
      rw [← hsource]
      exact ⟨hexpected.trans hadmits.1, hinjector.trans hadmits.2⟩
    obtain ⟨r', hrest, hreceived', hcount'⟩ :=
      ih (fun e he => hevents e (List.mem_cons_of_mem event he)) hadmits₁ (k + 1)
    have hlength (x : UInt64) :
        x + 1 + UInt64.ofNat events.length = x + UInt64.ofNat (events.length + 1) := by
      rw [UInt64.ofNat_add, UInt64.add_assoc, UInt64.add_comm 1]
      rfl
    refine ⟨r', ?_, ?_, ?_⟩
    · rw [List.map_cons, handleReceivedEvents, hfirst, List.filterMap_cons_some hinput]
      simp only [Option.bind_eq_bind, Option.bind_some, hrest, hhandler, Option.pure_def]
      cases r.hasHandler <;> rfl
    · rw [hreceived', hreceived, hlength, List.length_cons]
    · rw [hcount', hcount, hlength, List.length_cons]

end WinInputPlaneReceiver

/-! ### The sender -/

/-- The events as the pipeline numbers them. -/
def sentEvents (config : E2EPipelineConfig) (eventId : UInt64) :
    List (CanonicalInputEvent × UInt64 × (Nat → Int)) → List CanonicalInputEvent
  | [] => []
  | (event, nowUs, _) :: inputs =>
    { event with eventId, sourceNodeId := config.localNodeId, timestamp := nowUs } ::
      sentEvents config (eventId + 1) inputs

/-- The call of `send` for an event. -/
def EventMemory.call (memory : EventMemory) (event : CanonicalInputEvent) : SendCall where
  plane := .input
  data := memory.bytes event
  data_pos := by
    rw [memory.length_bytes]
    decide
  data_le := by
    rw [memory.length_bytes]
    decide

/-- The object representations, with some of the messages. -/
def EventMemory.objectBytes (memory : EventMemory) (message : ControlMessage → List UInt8) :
    ObjectBytes where
  event := memory.bytes
  message := message

namespace E2EPipelineOrchestrator

variable {memory : EventMemory} {message : ControlMessage → List UInt8}

/-- The pipeline runs and has room, and its transport is connected. -/
structure Ready (o : E2EPipelineOrchestrator) : Prop where
  running : o.running = true
  connected : o.plane.connected = true
  inputSocket : o.plane.inputSocket.isSome = true
  room : o.HasRoom

/-- Each event takes a number. -/
theorem eventIdCounter_processEvent {o : E2EPipelineOrchestrator} (hrunning : o.running = true)
    (bytes : ObjectBytes) (event : CanonicalInputEvent) (nowUs : UInt64) (ret : Nat → Int) :
    (o.processEvent bytes event nowUs ret).1.eventIdCounter = o.eventIdCounter + 1 := by
  unfold processEvent enrichEvent
  rw [hrunning]
  by_cases hdrop : o.plane.backlog > o.config.backpressureThreshold
  · cases hedge : o.config.enableEdgeDetection <;> simp [hedge, hdrop]
  · cases hedge : o.config.enableEdgeDetection <;> simp [hedge, hdrop]

/-- A count that goes down leaves room. -/
theorem backlog_pred_le {backlog threshold : UInt32} (h : backlog ≤ threshold) :
    (if backlog > 0 then backlog - 1 else backlog) ≤ threshold := by
  split
  · next hpos =>
    rw [UInt32.le_iff_toNat_le] at h ⊢
    rw [gt_iff_lt, UInt32.lt_iff_toNat_lt] at hpos
    have hone : 1 ≤ backlog := UInt32.le_iff_toNat_le.mpr hpos
    rw [UInt32.toNat_sub_of_le _ _ hone]
    omega
  · exact h

/-- One event is one frame. -/
theorem processEvent_written (memory : EventMemory) (message : ControlMessage → List UInt8)
    {o : E2EPipelineOrchestrator} (h : o.Ready)
    (event : CanonicalInputEvent) (nowUs : UInt64) {ret : Nat → Int} (hret : ∀ k, 0 < ret k) :
    let o' := (o.processEvent (memory.objectBytes message) event nowUs ret).1
    o'.Ready ∧ o'.config = o.config ∧ o'.eventIdCounter = o.eventIdCounter + 1 ∧
      (o.processEvent (memory.objectBytes message) event nowUs ret).2 =
        (memory.call (o.enriched event nowUs)).frame := by
  intro o'
  have hdrop : ¬ o.plane.backlog > o.config.backpressureThreshold := UInt32.not_lt.mpr h.room
  obtain ⟨hrunning, hconfig, hcases⟩ :=
    o.processEvent_cases (memory.objectBytes message) event nowUs ret h.running
  -- There is room, so the event is not dropped before it is sent.
  obtain ⟨-, hplane, hwritten⟩ := hcases.resolve_left fun hc => hdrop hc.1
  rw [SendThreads.send_of_connected h.connected,
    TransportImpl.sendFrame_of_pos h.inputSocket hret] at hplane hwritten
  rw [if_pos rfl] at hplane
  refine ⟨⟨hrunning, ?_, ?_, ?_⟩, hconfig, eventIdCounter_processEvent h.running _ _ _ _, hwritten⟩
  · rw [hplane]
    exact h.connected
  · rw [hplane]
    exact h.inputSocket
  · -- A frame that was written takes from the backlog, so there is room for the next one.
    show o'.plane.backlog ≤ o'.config.backpressureThreshold
    rw [hconfig, hplane]
    exact backlog_pred_le h.room

/-- The pipeline writes the frames of the events, in their order. -/
theorem processEvents_written {inputs : List (CanonicalInputEvent × UInt64 × (Nat → Int))}
    (hret : ∀ i ∈ inputs, ∀ k, 0 < i.2.2 k) {o : E2EPipelineOrchestrator} (h : o.Ready) :
    (o.processEvents (memory.objectBytes message) inputs).2 =
      frames ((sentEvents o.config o.eventIdCounter inputs).map memory.call) := by
  induction inputs generalizing o with
  | nil => rfl
  | cons input inputs ih =>
    obtain ⟨event, nowUs, ret⟩ := input
    obtain ⟨hready, hconfig, hcounter, hwritten⟩ :=
      processEvent_written memory message h event nowUs (hret _ List.mem_cons_self)
    have hrest := ih (fun i hi => hret i (List.mem_cons_of_mem _ hi)) hready
    rw [hconfig, hcounter] at hrest
    show (o.processEvent (memory.objectBytes message) event nowUs ret).2 ++
      ((o.processEvent (memory.objectBytes message) event nowUs ret).1.processEvents _ inputs).2 = _
    rw [hrest, hwritten]
    rfl

end E2EPipelineOrchestrator

/-! ### The whole way -/

/-- Each body is an event. -/
theorem TransportImpl.receiveEvents_map (image : List UInt8 → ReceivedEvent)
    (bodies : List (List UInt8)) (t : TransportImpl) :
    (t.receiveEvents image true bodies).2 = bodies.map (TransportImpl.deserializeEvent image) := by
  induction bodies generalizing t with
  | nil => rfl
  | cons data bodies ih =>
    show [TransportImpl.deserializeEvent image data] ++
      (TransportImpl.receiveEvents image true _ bodies).2 = _
    rw [ih]
    rfl

/-- An event is received as it was sent. -/
theorem deserializeEvent_bytes (memory : EventMemory) (event : CanonicalInputEvent) :
    TransportImpl.deserializeEvent memory.image (memory.bytes event) = event.received := by
  have hlength := memory.length_bytes event
  rw [TransportImpl.deserializeEvent, if_pos hlength.ge, ← hlength, List.take_length,
    memory.image_bytes]

/-- Whatever the calls of `::recv` return, the peer gets the first of the events that were sent;
and it gets all of them when the connection is not lost. -/
theorem receiveConnection_events (memory : EventMemory) (events : List CanonicalInputEvent)
    (t : TransportImpl) (socket : Nat) (ret : Nat → Int) :
    let received := (t.receiveConnection memory.image true socket ret
      (frames (events.map memory.call))).2
    ∃ n, received = (events.take n).map CanonicalInputEvent.received ∧
      ((∀ k, 0 < ret k) → events.take n = events) := by
  have hbodies : ((TransportImpl.eventFrames.comap id).parse
      (frames (events.map memory.call))).1 =
      events.map (memory.bytes) := by
    have h := @parse_frames_part (events.map memory.call) [] (.inl rfl)
    rw [List.append_nil, List.map_map] at h
    exact h
  -- The frames that are read before the connection is lost are the first of those on the wire.
  have hinitial := TransportImpl.receiveFrames_initial id (some socket) ret 0
    (frames (events.map memory.call))
  rw [hbodies] at hinitial
  intro received
  have hreceived : received = (TransportImpl.receiveFrames id (some socket) ret 0
      (frames (events.map memory.call))).1.map
        (TransportImpl.deserializeEvent memory.image) :=
    TransportImpl.receiveEvents_map _ _ t
  have hall (hret : ∀ k, 0 < ret k) := (receiveFrames_parse id hret socket 0
    (frames (events.map memory.call))).1.trans hbodies
  generalize (TransportImpl.receiveFrames id (some socket) ret 0
    (frames (events.map memory.call))).1 = bodies at hinitial hreceived hall
  have htake : bodies = (events.take bodies.length).map (memory.bytes) := by
    rw [List.map_take]
    exact List.prefix_iff_eq_take.mp hinitial
  refine ⟨bodies.length, ?_, fun hret => ?_⟩
  · calc received
        = ((events.take bodies.length).map (memory.bytes)).map
            (TransportImpl.deserializeEvent memory.image) := by rw [← htake, hreceived]
      _ = (events.take bodies.length).map CanonicalInputEvent.received := by
        rw [List.map_map]
        exact List.map_congr_left fun event _ => deserializeEvent_bytes memory event
  · rw [hall hret, List.length_map, List.take_length]

/-- Each event is sent. -/
theorem length_sentEvents (config : E2EPipelineConfig) (eventId : UInt64)
    (inputs : List (CanonicalInputEvent × UInt64 × (Nat → Int))) :
    (sentEvents config eventId inputs).length = inputs.length := by
  induction inputs generalizing eventId with
  | nil => rfl
  | cons input inputs ih =>
    show (sentEvents config (eventId + 1) inputs).length + 1 = inputs.length + 1
    rw [ih]

/-- Numbering an event changes its source, and nothing that it stands for. -/
theorem sentEvents_forall (config : E2EPipelineConfig)
    {inputs : List (CanonicalInputEvent × UInt64 × (Nat → Int))}
    (hinput : ∀ i ∈ inputs, i.1.winInput.isSome = true) (eventId : UInt64) :
    ∀ event ∈ sentEvents config eventId inputs,
      event.sourceNodeId = config.localNodeId ∧ event.winInput.isSome = true := by
  induction inputs generalizing eventId with
  | nil => exact fun event hevent => absurd hevent List.not_mem_nil
  | cons input inputs ih =>
    intro event hevent
    rcases List.mem_cons.mp hevent with rfl | hevent
    · exact ⟨rfl, hinput input List.mem_cons_self⟩
    · exact ih (fun i hi => hinput i (List.mem_cons_of_mem input hi)) (eventId + 1) event hevent

/-- What is sent stands for the inputs of the events. -/
theorem filterMap_sentEvents (config : E2EPipelineConfig) (eventId : UInt64)
    (inputs : List (CanonicalInputEvent × UInt64 × (Nat → Int))) :
    (sentEvents config eventId inputs).filterMap CanonicalInputEvent.winInput =
      inputs.filterMap fun i => i.1.winInput := by
  induction inputs generalizing eventId with
  | nil => rfl
  | cons input inputs ih =>
    show (_ :: sentEvents config (eventId + 1) inputs).filterMap CanonicalInputEvent.winInput = _
    have hsame : ({ input.1 with
        eventId, sourceNodeId := config.localNodeId, timestamp := input.2.1 } :
        CanonicalInputEvent).winInput = input.1.winInput := rfl
    rw [List.filterMap_cons, List.filterMap_cons, hsame, ih]

/-- The first of what is sent is what is sent of the first. -/
theorem take_sentEvents (config : E2EPipelineConfig) (eventId : UInt64)
    (inputs : List (CanonicalInputEvent × UInt64 × (Nat → Int))) (n : Nat) :
    (sentEvents config eventId inputs).take n = sentEvents config eventId (inputs.take n) := by
  induction inputs generalizing eventId n with
  | nil => rw [List.take_nil, sentEvents, List.take_nil]
  | cons input inputs ih =>
    cases n with
    | zero => rfl
    | succ n =>
      show _ :: (sentEvents config (eventId + 1) inputs).take n = _
      rw [ih]
      rfl

/-- The numbers are consecutive. -/
theorem eventIds_sentEvents (config : E2EPipelineConfig) (eventId : UInt64)
    (inputs : List (CanonicalInputEvent × UInt64 × (Nat → Int))) :
    (sentEvents config eventId inputs).map CanonicalInputEvent.eventId =
      (List.range inputs.length).map fun k => eventId + UInt64.ofNat k := by
  induction inputs generalizing eventId with
  | nil => rfl
  | cons input inputs ih =>
    show eventId :: (sentEvents config (eventId + 1) inputs).map CanonicalInputEvent.eventId = _
    rw [ih, List.length_cons, List.range_succ_eq_map, List.map_cons, List.map_map]
    refine congrArg₂ List.cons (UInt64.add_zero eventId).symm (List.map_congr_left fun k _ => ?_)
    show eventId + 1 + UInt64.ofNat k = eventId + UInt64.ofNat (k + 1)
    rw [UInt64.ofNat_add, UInt64.add_assoc, UInt64.add_comm 1]
    rfl

/-- What is captured on one machine is injected on the other. For events that come to a pipeline
which is ready, when no write fails: whenever the connection is lost, the receiver posts what the
first of them stand for, each once and in their order, and their numbers are consecutive; and when
the connection is not lost, it posts what all of them stand for. -/
theorem events_arrive {o : E2EPipelineOrchestrator} (hready : o.Ready) (memory : EventMemory)
    (message : ControlMessage → List UInt8)
    {inputs : List (CanonicalInputEvent × UInt64 × (Nat → Int))}
    (hret : ∀ i ∈ inputs, ∀ k, 0 < i.2.2 k) (hinput : ∀ i ∈ inputs, i.1.winInput.isSome = true)
    {r : WinInputPlaneReceiver} (hadmits : r.Admits o.config.localNodeId) (t : TransportImpl)
    (socket : Nat) (ret : Nat → Int) (calls : Nat → UInt32 × UInt64) :
    let wire := (o.processEvents (memory.objectBytes message) inputs).2
    let received := (t.receiveConnection memory.image true socket ret wire).2
    ∃ n r' handled posted, r.handleReceivedEvents calls 0 received = some (r', handled, posted) ∧
      posted = (inputs.take n).filterMap (fun i => i.1.winInput) ∧
      received.map ReceivedEvent.eventId =
        (List.range (min n inputs.length)).map (fun k => o.eventIdCounter + UInt64.ofNat k) ∧
      r'.totalInjected + r'.totalRejected =
        r.totalInjected + r.totalRejected + UInt64.ofNat received.length ∧
      ((∀ k, 0 < ret k) → inputs.take n = inputs) := by
  intro wire received
  have hwire : wire = frames ((sentEvents o.config o.eventIdCounter inputs).map memory.call) :=
    E2EPipelineOrchestrator.processEvents_written hret hready
  obtain ⟨n, hreceived, hall⟩ := receiveConnection_events memory
    (sentEvents o.config o.eventIdCounter inputs) t socket ret
  rw [← hwire, take_sentEvents] at hreceived
  change received = _ at hreceived
  -- The events received are the numbered ones, from the source that the receiver lets through.
  have hsent := sentEvents_forall o.config
    (fun i hi => hinput i (List.mem_of_mem_take (i := n) hi)) o.eventIdCounter
  obtain ⟨r', hhandled, -, hcount⟩ :=
    WinInputPlaneReceiver.handleReceivedEvents_posts calls hsent hadmits 0
  refine ⟨n, r', _, _, by rw [hreceived, hhandled], filterMap_sentEvents .., ?_, ?_, fun hpos => ?_⟩
  · rw [hreceived, List.map_map]
    show (sentEvents o.config o.eventIdCounter (inputs.take n)).map CanonicalInputEvent.eventId = _
    rw [eventIds_sentEvents, List.length_take]
  · rw [hcount, hreceived, List.length_map]
  · have hlength := congrArg List.length (hall hpos)
    rw [List.length_take, length_sentEvents] at hlength
    exact List.take_of_length_le (by omega)

/-- A move, a press and a release, of which the calls of `::send` and of `::recv` take three bytes
each. `SendInput` refuses them, and the receiver posts them all the same. -/
theorem events_arrive_three :
    let node : NodeId := { high := 1, low := 1 }
    let plane : TransportImpl :=
      { TransportImpl.init ⟨[], 11401, 11402, false⟩ with connected := true, inputSocket := some 3 }
    let o := { E2EPipelineOrchestrator.init plane ⟨node, 7, true, 100⟩ with running := true }
    let input (eventType : EventType) (payload : EventPayload) :
        CanonicalInputEvent × UInt64 × (Nat → Int) :=
      (⟨0, ⟨0, 0⟩, 0, eventType, payload, WinEventInjector.noModifiers⟩, 5, fun _ => 3)
    let inputs := [input .MouseMove (.mouseMove ⟨4, -2⟩),
      input .MouseButtonPress (.mouseButton ⟨.Right⟩), input .KeyRelease (.key ⟨65⟩)]
    let memory : EventMemory := .natural fun _ => 0
    let wire := (o.processEvents (memory.objectBytes fun _ => []) inputs).2
    let received := (plane.receiveConnection memory.image true 4 (fun _ => 3) wire).2
    ∃ r' handled, (WinInputPlaneReceiver.init (.init node) node).handleReceivedEvents
      (fun _ => (0, 9)) 0 received =
        some (r', handled, [.mouse 4 (-2) 0 .MOVE, .mouse 0 0 0 .RIGHTDOWN, .keyboard 65 true]) := by
  intro node plane o input inputs memory wire received
  -- An open socket, no edge detection, full sends, and the receiver's own node.
  obtain ⟨n, r', handled, posted, hhandled, hposted, -, -, hall⟩ :=
    @events_arrive o ⟨rfl, rfl, rfl, by decide⟩ memory (fun _ => []) inputs
      (by simp [inputs, input]) (by decide) (WinInputPlaneReceiver.init (.init node) node)
      ⟨rfl, rfl⟩ plane 4 (fun _ => 3) (fun _ => (0, 9))
  refine ⟨r', handled, hhandled.trans ?_⟩
  rw [hposted, hall fun _ => by decide]
  rfl

end CrossFlow
