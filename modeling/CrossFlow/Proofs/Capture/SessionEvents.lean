import Mathlib.Data.List.GetD
import CrossFlow.Platform.Mac.TapSessions
import CrossFlow.Proofs.Capture.Saturation

/-!
# `CrossFlow.Proofs.Capture.SessionEvents`: each handler gets the events of its own capture

`stop` ends the capture thread, which empties the rings, before it uninstalls the event tap. What a
callback puts into a ring after that is still there when the next capture begins.

* `controlView`: the calls of `start` and `stop`, taken one after the other.
* `channelsView`: the two rings under all three threads.
* `processed_stepCapture`: the events the handlers are called with are those the thread processes.
* `RingCaptures`: what is still in a ring belongs to the capture that is running.
* `captures_apart`: the runs in which every capture begins with empty rings.
-/

set_option autoImplicit false

namespace CrossFlow

open Lib (Machine Refinement)

/-! ### `start` and `stop` -/

/-- The state of the tap, and of its handles, without the call in progress. -/
def TapSessions.calledControl (s : TapSessions) : TapControl :=
  match s.controlPc with
  | .idle | .startLoadState _ => s.control
  | _ => s.control.deactivate

/-- An inactive tap stays as it is. -/
theorem TapControl.deactivate_of_inactive {t : TapControl} (h : t.state = .Inactive) :
    t.deactivate = t := by
  rw [TapControl.deactivate, ← h]

/-- Each call of `start` and `stop` does what it does when it runs alone. -/
def controlView : Refinement tapSessionsMachine tapControlMachine where
  view s := s.calledControl
  acts s a :=
    match a, s.controlPc with
    | .callStop handle, .idle => [.stop handle]
    | .stepControl _, .startLoadState permitted =>
      if s.control.state = .Inactive ∧ permitted = true then [] else [.start permitted true]
    | .stepControl installs, .installEventTap => if installs then [] else [.start true false]
    | .stepControl _, .storeActive => [.start true true]
    | _, _ => []
  view_init := rfl
  view_step s a := by
    cases a with
    | cgEventCallback flat =>
      show (s.cgEventCallback flat).calledControl = s.calledControl
      unfold TapSessions.cgEventCallback
      split
      · split <;> rfl
      · rfl
    | stepEnqueue => rfl
    | stepCapture osModifiers => rfl
    | callStart permitted =>
      show (s.callStart permitted).calledControl = s.calledControl
      unfold TapSessions.callStart TapSessions.calledControl
      cases hpc : s.controlPc <;> simp [hpc]
    | callStop handle =>
      simp only [tapSessionsMachine, TapSessions.callStop, TapSessions.calledControl]
      cases hpc : s.controlPc with
      | idle =>
        -- What the handle is released from is what the call leaves behind, but for the state.
        show _ = s.control.stop handle
        unfold TapControl.stop
        dsimp only
        split
        · next hstate => exact TapControl.deactivate_of_inactive hstate
        · rfl
      | _ => simp [hpc]
    | stepControl installs =>
      simp only [tapSessionsMachine, TapSessions.stepControl, TapSessions.calledControl]
      cases hpc : s.controlPc with
      | startLoadState permitted =>
        by_cases hstate : s.control.state = .Inactive
        · cases permitted with
          | false => simp [hstate, tapControlMachine, TapControl.start]
          | true => simp [hstate, TapControl.deactivate_of_inactive]
        · simp [hstate, tapControlMachine, TapControl.start]
      | installEventTap => cases installs <;> rfl
      | storeActive => rfl
      | stopLoadState =>
        by_cases hstate : s.control.state = .Inactive
        · simp [hstate, TapControl.deactivate_of_inactive]
        · simp [hstate]
      | join =>
        cases s.joinable with
        | false => rfl
        | true => cases hthread : s.tap.capturePc <;> simp [hpc]
      | _ => simp [hpc]

/-! ### The rings -/

/-- The data ring of a `DualChannelSpsc`, under the calls `enqueue` and `tryPopData` make. -/
def dataChannelView :
    Refinement dualMachine (spscMachine RawInputEventFlat spscDataCapacity) where
  view d := d.dataChannel
  acts d a :=
    match a, d.enqueuePc with
    | .callEnqueue event, .idle =>
      if DualChannelSpsc.isStateEvent event then [] else [.callPush .tryPushDropOldest event]
    | .stepEnqueue, .tryPushDropOldest _ => [.stepPush]
    | .callPopData, _ => [.callPop]
    | .stepPopData, _ => [.stepPop]
    | _, _ => []
  view_init := rfl
  view_step d a := by
    cases a with
    | callEnqueue event =>
      cases hpc : d.enqueuePc with
      | idle =>
        by_cases hstate : DualChannelSpsc.isStateEvent event
        · simp [dualMachine, DualChannelSpsc.callEnqueue, hpc, hstate]
        · simp [dualMachine, DualChannelSpsc.callEnqueue, hpc, hstate, spscMachine]
      | _ => simp [dualMachine, DualChannelSpsc.callEnqueue, hpc]
    | stepEnqueue =>
      cases hpc : d.enqueuePc with
      | tryPushDropOldest event =>
        simp only [dualMachine, DualChannelSpsc.stepEnqueue, hpc, spscMachine,
          Machine.runFrom_cons, Machine.runFrom_nil]
        split <;> rfl
      -- A step of the state ring is no step of the data ring.
      | tryPush event =>
        simp only [dualMachine, DualChannelSpsc.stepEnqueue, hpc]
        split <;> rfl
      | loadDropCount event =>
        simp only [dualMachine, DualChannelSpsc.stepEnqueue, hpc]
        split <;> rfl
      | _ => simp [dualMachine, DualChannelSpsc.stepEnqueue, hpc, DualChannelSpsc.returnEnqueue]
    | callPopState => rfl
    | stepPopState => rfl
    | callPopData => rfl
    | stepPopData => rfl
    | clearStateChannelSaturated => rfl

/-- A call of `enqueue` pushes nothing yet. -/
theorem DualChannelSpsc.callEnqueue_frame (d : DualChannelSpsc) (event : RawInputEventFlat) :
    ((d.callEnqueue event).stateChannel.pushed = d.stateChannel.pushed ∧
        (d.callEnqueue event).stateChannel.ring.tail = d.stateChannel.ring.tail) ∧
      (d.callEnqueue event).dataChannel.pushed = d.dataChannel.pushed ∧
        (d.callEnqueue event).dataChannel.ring.tail = d.dataChannel.ring.tail := by
  unfold DualChannelSpsc.callEnqueue Channel.callPush
  split
  · split
    · split <;> exact ⟨⟨rfl, rfl⟩, rfl, rfl⟩
    · split <;> exact ⟨⟨rfl, rfl⟩, rfl, rfl⟩
  · exact ⟨⟨rfl, rfl⟩, rfl, rfl⟩

/-- What a callback does up to the call of `enqueue`. -/
theorem cgEventCallback_cases (s : TapSessions) (flat : RawInputEventFlat) :
    s.cgEventCallback flat = s ∨
      s.cgEventCallback flat =
        { s with enqueuedIn := s.handler }.setTap (s.tap.callEnqueue flat) := by
  unfold TapSessions.cgEventCallback
  split
  · split
    · exact .inr rfl
    · exact .inl rfl
  · exact .inl rfl

/-- No step of `start` or `stop` touches the rings and their history. -/
theorem stepControl_frame (s : TapSessions) (installs : Bool) :
    (s.stepControl installs).tap.dualChannel = s.tap.dualChannel ∧
      (s.stepControl installs).enqueuedIn = s.enqueuedIn ∧
      (s.stepControl installs).stateCaptures = s.stateCaptures ∧
      (s.stepControl installs).dataCaptures = s.dataCaptures ∧
      (s.stepControl installs).handled = s.handled := by
  unfold TapSessions.stepControl
  -- What `start` and `stop` do to the channel are calls on other threads.
  cases s.controlPc with
  | startLoadState permitted =>
    dsimp only
    split
    · exact ⟨rfl, rfl, rfl, rfl, rfl⟩
    · split <;> exact ⟨rfl, rfl, rfl, rfl, rfl⟩
  | installEventTap => cases installs <;> exact ⟨rfl, rfl, rfl, rfl, rfl⟩
  | stopLoadState =>
    dsimp only
    split <;> exact ⟨rfl, rfl, rfl, rfl, rfl⟩
  | join =>
    dsimp only
    split
    · exact ⟨rfl, rfl, rfl, rfl, rfl⟩
    · split <;> exact ⟨rfl, rfl, rfl, rfl, rfl⟩
  | _ => exact ⟨rfl, rfl, rfl, rfl, rfl⟩

/-- The handler changes only where it is set. -/
theorem stepControl_handler {s : TapSessions} {installs : Bool} (h : s.controlPc ≠ .setOnEvent) :
    (s.stepControl installs).handler = s.handler := by
  unfold TapSessions.stepControl
  cases hpc : s.controlPc with
  | setOnEvent => exact absurd hpc h
  | startLoadState permitted =>
    dsimp only
    split
    · rfl
    · split <;> rfl
  | installEventTap => cases installs <;> rfl
  | stopLoadState =>
    dsimp only
    split <;> rfl
  | join =>
    dsimp only
    split
    · rfl
    · split <;> rfl
  | _ => rfl

/-- The rings of the tap under its three threads. -/
def channelsView : Refinement tapSessionsMachine dualMachine where
  view s := s.tap.dualChannel
  acts s a :=
    -- A callback enqueues only into an installed tap, and only a valid event.
    match a, s.tap.dualChannel.enqueuePc with
    | .cgEventCallback flat, .idle =>
      if s.installed && flat.valid != 0 then [.callEnqueue flat] else []
    | .stepEnqueue, _ => [.stepEnqueue]
    | .stepCapture osModifiers, _ => captureActs s.tap osModifiers
    | _, _ => []
  view_init := rfl
  view_step s a := by
    cases a with
    | cgEventCallback flat =>
      simp only [tapSessionsMachine, TapSessions.cgEventCallback]
      cases hpc : s.tap.dualChannel.enqueuePc with
      | idle =>
        dsimp only
        split <;> rfl
      | _ => rfl
    | stepEnqueue => rfl
    | stepCapture osModifiers => exact dualChannelView.view_step s.tap (.stepCapture osModifiers)
    | callStart permitted =>
      show (s.callStart permitted).tap.dualChannel = s.tap.dualChannel
      unfold TapSessions.callStart
      split <;> rfl
    | callStop handle =>
      show (s.callStop handle).tap.dualChannel = s.tap.dualChannel
      unfold TapSessions.callStop
      split <;> rfl
    | stepControl installs => exact (stepControl_frame s installs).1

/-- The state ring of the tap, and its data ring. -/
def stateRingView : Refinement tapSessionsMachine (spscMachine RawInputEventFlat spscStateCapacity) :=
  stateChannelView.comp channelsView

/-- The data ring, in a run of the sessions. -/
def dataRingView : Refinement tapSessionsMachine (spscMachine RawInputEventFlat spscDataCapacity) :=
  dataChannelView.comp channelsView

section
variable {cap : Capacity}

/-- From `c` to `c'` no push is called. -/
structure Channel.Advances (c c' : Channel RawInputEventFlat cap) : Prop where
  pushed : c.pushed.length ≤ c'.pushed.length
  tail : c.ring.tail ≤ c'.ring.tail
  idle : c.producer = .idle → c'.producer = .idle ∧ c'.pushed.length = c.pushed.length

/-- The action calls a push. -/
def SpscAction.CallsPush : SpscAction RawInputEventFlat → Prop
  | .callPush _ _ => True
  | _ => False

/-- A ring has come as far as it has. -/
theorem Channel.Advances.refl (c : Channel RawInputEventFlat cap) : c.Advances c :=
  ⟨Nat.le_refl _, Nat.le_refl _, fun h => ⟨h, rfl⟩⟩

/-- A ring goes on from where it has come. -/
theorem Channel.Advances.trans {c c' c'' : Channel RawInputEventFlat cap} (h : c.Advances c')
    (h' : c'.Advances c'') : c.Advances c'' where
  pushed := h.pushed.trans h'.pushed
  tail := h.tail.trans h'.tail
  idle hidle := by
    obtain ⟨hidle', hsame⟩ := h.idle hidle
    obtain ⟨hidle'', hsame'⟩ := h'.idle hidle'
    exact ⟨hidle'', hsame'.trans hsame⟩

/-- Only a call of a push adds an item. -/
theorem advances_step {c : Channel RawInputEventFlat cap} (hs : SeqlockInv c)
    {a : SpscAction RawInputEventFlat} (ha : ¬ a.CallsPush) :
    c.Advances ((spscMachine RawInputEventFlat cap).step c a) := by
  cases a with
  | callPush kind item => exact absurd trivial ha
  | stepPush =>
    -- Only a call begins a push, and there is none in this step.
    refine ⟨?_, Nat.le_of_eq (ProducerPc.step_tail c.ring c.producer).symm, ?_⟩
    · show c.pushed.length ≤ (c.pushed ++ c.producer.publishes).length
      rw [List.length_append]
      exact Nat.le_add_right _ _
    · -- A producer that is idle publishes nothing and stays idle.
      intro hidle
      show (c.producer.step c.ring).pc = .idle ∧ (c.pushed ++ c.producer.publishes).length = _
      rw [hidle]
      exact ⟨rfl, congrArg List.length (List.append_nil c.pushed)⟩
  | callPop =>
    show c.Advances c.callPop
    unfold Channel.callPop
    split
    · exact ⟨Nat.le_refl _, Nat.le_refl _, fun h => ⟨h, rfl⟩⟩
    · exact .refl c
  | stepPop =>
    have htail := ConsumerPc.step_tail_le c.ring c.consumer hs.reader.consumer hs.reader.tail_le
    exact ⟨Nat.le_refl _, htail.1, fun h => ⟨h, rfl⟩⟩

/-- A step of the tap's threads that calls no push, in the view of a ring. -/
theorem advances_view (R : Refinement tapSessionsMachine (spscMachine RawInputEventFlat cap))
    {s : TapSessions} {a : SessionAction} (hs : SeqlockInv (R.view s))
    (ha : ∀ b ∈ R.acts s a, ¬ b.CallsPush) :
    (R.view s).Advances (R.view (tapSessionsMachine.step s a)) := by
  rw [R.view_step]
  have hrun := Machine.runFrom_of_meets (m := spscMachine RawInputEventFlat cap)
    (C := fun _ b => ¬ b.CallsPush) (P := fun c => SeqlockInv c ∧ (R.view s).Advances c)
    (fun c b hc hb => ⟨seqlockInv_step c b hc.1, hc.2.trans (advances_step hc.1 hb)⟩)
    ⟨hs, .refl _⟩ (Machine.meets_of_forall fun b hb _ => ha b hb)
  exact hrun.2

/-- The captures of the events pushed to a ring. Those still in the ring belong to the capture of
the last handler, and so does an event that is being pushed. -/
structure RingCaptures (c : Channel RawInputEventFlat cap) (captures : List Nat)
    (enqueuedIn handler : Nat) : Prop where
  length : captures.length = c.pushed.length
  current : ∀ t, c.ring.tail ≤ t → t < captures.length → captures.getD t 0 = handler
  pushing : c.producer ≠ .idle → enqueuedIn = handler

variable {c c' : Channel RawInputEventFlat cap} {captures : List Nat} {enqueuedIn handler : Nat}

/-- Items keep their captures while the ring goes on. -/
theorem RingCaptures.advance (h : RingCaptures c captures enqueuedIn handler)
    (hadvances : c.Advances c') :
    RingCaptures c' (capturesAfter captures enqueuedIn c c') enqueuedIn handler := by
  have hpushed := hadvances.pushed
  have hlength := h.length
  refine ⟨?_, ?_, ?_⟩
  · rw [capturesAfter, List.length_append, List.length_replicate]
    omega
  · -- The slots that are pushed already keep their capture.
    intro t htail ht
    rw [capturesAfter] at ht ⊢
    by_cases hold : t < captures.length
    · rw [List.getD_append _ _ _ _ hold]
      exact h.current t (hadvances.tail.trans htail) hold
    · -- An event pushed by this step.
      have hle := Nat.le_of_not_lt hold
      rw [List.length_append, List.length_replicate] at ht
      rw [List.getD_append_right _ _ _ _ hle, List.getD_replicate _ (by omega)]
      refine h.pushing fun hidle => ?_
      have hsame := (hadvances.idle hidle).2
      omega
  · exact fun hbusy => h.pushing fun hidle => hbusy (hadvances.idle hidle).1

/-- A push that is called now. -/
theorem RingCaptures.callPush (h : RingCaptures c captures enqueuedIn handler)
    (hpushed : c'.pushed = c.pushed) (htail : c'.ring.tail = c.ring.tail) :
    RingCaptures c' (capturesAfter captures handler c c') handler handler := by
  have hsame : capturesAfter captures handler c c' = captures := by
    rw [capturesAfter, hpushed, Nat.sub_self, List.replicate_zero, List.append_nil]
  rw [hsame]
  exact ⟨by rw [hpushed, h.length], by rw [htail]; exact h.current, fun _ => rfl⟩

/-- The ring is empty, and nothing is being pushed to it. -/
def Channel.Vacant (c : Channel RawInputEventFlat cap) : Prop :=
  c.producer = .idle ∧ c.ring.head = c.ring.tail

/-- The next capture may begin when the ring is empty. -/
theorem RingCaptures.of_vacant (hs : SeqlockInv c)
    (h : RingCaptures c captures enqueuedIn handler) (hvacant : c.Vacant) (next : Nat) :
    RingCaptures c captures enqueuedIn next where
  length := h.length
  current t htail ht := by
    have hhead := hs.writer.length_pushed
    have hlength := h.length
    have hempty := hvacant.2
    omega
  pushing hbusy := absurd hvacant.1 hbusy

/-- What a pop takes belongs to the capture of the last handler. -/
theorem RingCaptures.of_takes (hs : SeqlockInv c)
    (h : RingCaptures c captures enqueuedIn handler) {pop : PopRecord RawInputEventFlat}
    (hpop : pop ∈ c.consumer.takes c.ring) : captures.getD pop.tailBefore 0 = handler := by
  have hok := hs.reader.consumer
  cases hpc : c.consumer with
  | storeTail ct item =>
    rw [hpc] at hok hpop
    obtain ⟨hct, hlt, -⟩ := hok
    rw [List.mem_singleton.mp hpop]
    have hhead := hs.writer.length_pushed
    have hlength := h.length
    have htail : c.ring.tail < captures.length := by omega
    exact h.current c.ring.tail (Nat.le_refl _) htail
  | _ =>
    rw [hpc] at hpop
    exact absurd hpop List.not_mem_nil

end

/-! ### What the capture thread takes -/

/-- What a pop returns is processed. -/
theorem processed_afterPop (t : MacEventTap)
    (popped : DualChannelSpsc × Option (Option RawInputEventFlat))
    {onFalse onTrue : MacEventTap → MacEventTap}
    (hfalse : ∀ t, (onFalse t).processed = t.processed)
    (htrue : ∀ t, (onTrue t).processed = t.processed) :
    (t.afterPop popped onFalse onTrue).processed = t.processed ++ popped.2.join.toList := by
  unfold MacEventTap.afterPop
  cases popped.2 with
  | none => exact (List.append_nil _).symm
  | some ret =>
    cases ret with
    | none => exact (hfalse _).trans (List.append_nil _).symm
    | some flat => exact htrue _

/-- The events that the capture thread hands to `processEvent` are the ones it takes. -/
theorem processed_stepCapture (s : TapSessions) (osModifiers : ModifierState) :
    (s.tap.stepCapture osModifiers).processed = s.tap.processed ++ s.taken.map Prod.snd := by
  unfold MacEventTap.stepCapture TapSessions.taken
  cases s.tap.capturePc with
  -- A pop that ends processes exactly what it takes.
  | popState | drainState | finalState =>
    dsimp only
    rw [processed_afterPop, List.map_map]
    · exact congrArg (s.tap.processed ++ ·) (ConsumerPc.takes_eq_returned _ _).symm
    · exact fun _ => rfl
    · exact fun _ => rfl
  | popData | finalData =>
    dsimp only
    rw [processed_afterPop, List.map_map]
    · exact congrArg (s.tap.processed ++ ·) (ConsumerPc.takes_eq_returned _ _).symm
    · exact fun _ => rfl
    · exact fun _ => rfl
  | resynchronize pc => cases pc <;> simp [AuthoritativeResync.stepResync, MacEventTap.callPopState]
  | confirmRecovery pc =>
    cases pc with
    | loadState =>
      simp only [AuthoritativeResync.stepConfirm, List.map_nil, List.append_nil]
      split <;> rfl
    | _ => simp [AuthoritativeResync.stepConfirm]
  | checkRunning | poll | checkIdle | checkRecovered | loadEmptyTail _ | checkPending =>
    rw [List.map_nil, List.append_nil]
    dsimp only
    split <;> rfl
  | loadEmptyHead | clear | done => exact (List.append_nil _).symm
/-! ### The calls of a push -/

/-- The action calls `enqueue`. -/
def DualAction.CallsEnqueue : DualAction → Prop
  | .callEnqueue _ => True
  | _ => False

/-- The capture thread does not push. -/
theorem callsEnqueue_popActs {step : DualAction} {ret : Option (Option RawInputEventFlat)}
    {onFalse onTrue : List DualAction} (hstep : ¬ step.CallsEnqueue)
    (hfalse : ∀ b ∈ onFalse, ¬ b.CallsEnqueue) (htrue : ∀ b ∈ onTrue, ¬ b.CallsEnqueue) :
    ∀ b ∈ popActs step ret onFalse onTrue, ¬ b.CallsEnqueue := by
  unfold popActs
  cases ret with
  | none => simpa using hstep
  | some ret =>
    cases ret with
    | none => simpa using ⟨hstep, hfalse⟩
    | some flat => simpa using ⟨hstep, htrue⟩

/-- The capture thread only pops. -/
theorem callsEnqueue_captureActs (t : MacEventTap) (osModifiers : ModifierState) :
    ∀ b ∈ captureActs t osModifiers, ¬ b.CallsEnqueue := by
  unfold captureActs
  cases t.capturePc with
  | popState | popData | drainState | finalState | finalData =>
    exact callsEnqueue_popActs id (by simp [DualAction.CallsEnqueue])
      (by simp [DualAction.CallsEnqueue])
  | checkRecovered =>
    dsimp only
    split <;> simp [DualAction.CallsEnqueue]
  | resynchronize pc => cases pc <;> simp [AuthoritativeResync.stepResync, DualAction.CallsEnqueue]
  | _ => simp [DualAction.CallsEnqueue]

/-- Only a callback calls `enqueue`. -/
theorem callsEnqueue_channelsView {s : TapSessions} {a : SessionAction}
    (ha : ∀ flat, a ≠ .cgEventCallback flat) : ∀ b ∈ channelsView.acts s a, ¬ b.CallsEnqueue := by
  cases a with
  | cgEventCallback flat => exact absurd rfl (ha flat)
  | stepCapture osModifiers => exact callsEnqueue_captureActs s.tap osModifiers
  | _ => simp [channelsView, DualAction.CallsEnqueue]

/-- What does not call `enqueue` does not push to the state ring. -/
theorem callsPush_stateChannelView {d : DualChannelSpsc} {b : DualAction}
    (hb : ¬ b.CallsEnqueue) : ∀ c ∈ stateChannelView.acts d b, ¬ c.CallsPush := by
  cases b with
  | callEnqueue event => exact absurd trivial hb
  | stepEnqueue => cases hpc : d.enqueuePc <;> simp [stateChannelView, hpc, SpscAction.CallsPush]
  | _ => simp [stateChannelView, SpscAction.CallsPush]

/-- What does not call `enqueue` does not push to the data ring. -/
theorem callsPush_dataChannelView {d : DualChannelSpsc} {b : DualAction}
    (hb : ¬ b.CallsEnqueue) : ∀ c ∈ dataChannelView.acts d b, ¬ c.CallsPush := by
  cases b with
  | callEnqueue event => exact absurd trivial hb
  | stepEnqueue => cases hpc : d.enqueuePc <;> simp [dataChannelView, hpc, SpscAction.CallsPush]
  | _ => simp [dataChannelView, SpscAction.CallsPush]

/-- Only a callback calls a push. -/
theorem callsPush_comp {cap : Capacity}
    {R : Refinement dualMachine (spscMachine RawInputEventFlat cap)}
    (hR : ∀ {d b}, ¬ DualAction.CallsEnqueue b → ∀ c ∈ R.acts d b, ¬ c.CallsPush) {s : TapSessions}
    {a : SessionAction} (ha : ∀ flat, a ≠ .cgEventCallback flat) :
    ∀ c ∈ (R.comp channelsView).acts s a, ¬ c.CallsPush := by
  intro c hc
  obtain ⟨d, b, hb, hmem⟩ := R.mem_trace hc
  exact hR (callsEnqueue_channelsView ha b hb) c hmem

/-! ### Every run -/

/-- The invariant of the captures. -/
structure SessionInv (s : TapSessions) : Prop where
  stateRing : SeqlockInv s.tap.dualChannel.stateChannel
  dataRing : SeqlockInv s.tap.dualChannel.dataChannel
  states : RingCaptures s.tap.dualChannel.stateChannel s.stateCaptures s.enqueuedIn s.handler
  data : RingCaptures s.tap.dualChannel.dataChannel s.dataCaptures s.enqueuedIn s.handler
  handled : ∀ call ∈ s.handled, call.capturedIn = call.handler

/-- The invariant holds before the first capture. -/
theorem sessionInv_init : SessionInv TapSessions.init where
  stateRing := seqlockInv_init
  dataRing := seqlockInv_init
  states := ⟨rfl, fun _ _ h => absurd h (Nat.not_lt_zero _), fun h => absurd rfl h⟩
  data := ⟨rfl, fun _ _ h => absurd h (Nat.not_lt_zero _), fun h => absurd rfl h⟩
  handled := fun _ h => absurd h List.not_mem_nil

/-- When a handler is set, both rings are empty and nothing is being pushed. -/
def BeginsVacant (s : TapSessions) : SessionAction → Prop
  | .stepControl _ => s.controlPc = .setOnEvent →
      s.tap.dualChannel.stateChannel.Vacant ∧ s.tap.dualChannel.dataChannel.Vacant
  | _ => True

/-- What the capture thread takes belongs to the capture of the last handler. -/
theorem SessionInv.taken {s : TapSessions} (hs : SessionInv s) :
    ∀ pop ∈ s.taken, pop.1 = s.handler := by
  have hstates : ∀ pop ∈ s.tap.dualChannel.stateChannel.consumer.takes
      s.tap.dualChannel.stateChannel.ring, s.stateCaptures.getD pop.tailBefore 0 = s.handler :=
    fun _ hpop => hs.states.of_takes hs.stateRing hpop
  have hdata : ∀ pop ∈ s.tap.dualChannel.dataChannel.consumer.takes
      s.tap.dualChannel.dataChannel.ring, s.dataCaptures.getD pop.tailBefore 0 = s.handler :=
    fun _ hpop => hs.data.of_takes hs.dataRing hpop
  unfold TapSessions.taken
  cases s.tap.capturePc <;> simp <;> assumption

/-- The invariant is kept when captures begin with empty rings. -/
theorem sessionInv_step (s : TapSessions) (a : SessionAction) (hs : SessionInv s)
    (ha : BeginsVacant s a) : SessionInv (tapSessionsMachine.step s a) := by
  have hstateRing : SeqlockInv (tapSessionsMachine.step s a).tap.dualChannel.stateChannel :=
    stateRingView.view_preserves seqlockInv_step a hs.stateRing
  have hdataRing : SeqlockInv (tapSessionsMachine.step s a).tap.dualChannel.dataChannel :=
    dataRingView.view_preserves seqlockInv_step a hs.dataRing
  -- The steps that call no push.
  have hadvances : (∀ flat, a ≠ .cgEventCallback flat) →
      s.tap.dualChannel.stateChannel.Advances
          (tapSessionsMachine.step s a).tap.dualChannel.stateChannel ∧
        s.tap.dualChannel.dataChannel.Advances
          (tapSessionsMachine.step s a).tap.dualChannel.dataChannel := fun ha =>
    ⟨advances_view stateRingView hs.stateRing (callsPush_comp callsPush_stateChannelView ha),
      advances_view dataRingView hs.dataRing (callsPush_comp callsPush_dataChannelView ha)⟩
  cases a with
  | cgEventCallback flat =>
    change SeqlockInv (s.cgEventCallback flat).tap.dualChannel.stateChannel at hstateRing
    change SeqlockInv (s.cgEventCallback flat).tap.dualChannel.dataChannel at hdataRing
    show SessionInv (s.cgEventCallback flat)
    rcases cgEventCallback_cases s flat with hsame | hcalled
    · rw [hsame]
      exact hs
    · rw [hcalled] at hstateRing hdataRing ⊢
      obtain ⟨hstate, hdata⟩ := s.tap.dualChannel.callEnqueue_frame flat
      exact ⟨hstateRing, hdataRing, hs.states.callPush hstate.1 hstate.2,
        hs.data.callPush hdata.1 hdata.2, hs.handled⟩
  | stepEnqueue =>
    obtain ⟨hstate, hdata⟩ := hadvances fun flat h => SessionAction.noConfusion h
    exact ⟨hstateRing, hdataRing, hs.states.advance hstate, hs.data.advance hdata, hs.handled⟩
  | stepCapture osModifiers =>
    obtain ⟨hstate, hdata⟩ := hadvances fun flat h => SessionAction.noConfusion h
    refine ⟨hstateRing, hdataRing, hs.states.advance hstate, hs.data.advance hdata, ?_⟩
    intro call hcall
    rcases List.mem_append.mp hcall with hcall | hcall
    · exact hs.handled call hcall
    · obtain ⟨pop, hpop, rfl⟩ := List.mem_map.mp hcall
      exact hs.taken pop (List.mem_of_mem_filter hpop)
  | callStart permitted =>
    show SessionInv (s.callStart permitted)
    unfold TapSessions.callStart
    split <;> exact ⟨hs.stateRing, hs.dataRing, hs.states, hs.data, hs.handled⟩
  | callStop handle =>
    show SessionInv (s.callStop handle)
    unfold TapSessions.callStop
    split <;> exact ⟨hs.stateRing, hs.dataRing, hs.states, hs.data, hs.handled⟩
  | stepControl installs =>
    obtain ⟨hchannel, henqueued, hstates, hdata, hhandled⟩ := stepControl_frame s installs
    refine ⟨hstateRing, hdataRing, ?_, ?_, ?_⟩
    · show RingCaptures (s.stepControl installs).tap.dualChannel.stateChannel
        (s.stepControl installs).stateCaptures (s.stepControl installs).enqueuedIn
        (s.stepControl installs).handler
      rw [hchannel, henqueued, hstates]
      by_cases hpc : s.controlPc = .setOnEvent
      · exact hs.states.of_vacant hs.stateRing (ha hpc).1 _
      · rw [stepControl_handler hpc]
        exact hs.states
    · show RingCaptures (s.stepControl installs).tap.dualChannel.dataChannel
        (s.stepControl installs).dataCaptures (s.stepControl installs).enqueuedIn
        (s.stepControl installs).handler
      rw [hchannel, henqueued, hdata]
      by_cases hpc : s.controlPc = .setOnEvent
      · exact hs.data.of_vacant hs.dataRing (ha hpc).2 _
      · rw [stepControl_handler hpc]
        exact hs.data
    · intro call hcall
      exact hs.handled call (hhandled ▸ hcall)

/-- In a run in which every capture begins with empty rings and nothing being pushed, no handler is
called with an event of an earlier capture. -/
theorem captures_apart (acts : List SessionAction)
    (hacts : tapSessionsMachine.Meets BeginsVacant .init acts) :
    ∀ call ∈ (tapSessionsMachine.run acts).handled, ¬ call.capturedIn < call.handler := by
  have hinv : SessionInv (tapSessionsMachine.run acts) :=
    Machine.invariant_of_meets sessionInv_init sessionInv_step hacts
  exact fun call hcall => Nat.not_lt.mpr (Nat.le_of_eq (hinv.handled call hcall).symm)

/-! ### A capture after another -/

/-- A capture is started. -/
def startCapture : List SessionAction := .callStart true :: List.replicate 6 (.stepControl true)

/-- A key is pressed. -/
def pressKey : List SessionAction := .cgEventCallback keyPress :: List.replicate 12 .stepEnqueue

/-- The capture thread makes `n` accesses. -/
def captureSteps (n : Nat) : List SessionAction :=
  List.replicate n (.stepCapture AuthoritativeResync.init.groundTruthModifiers)

/-- `stop`: the capture thread empties both rings and ends, and the event tap is uninstalled. -/
def stopCapture : List SessionAction :=
  .callStop TapControl.noHandle :: List.replicate 2 (.stepControl true) ++ captureSteps 20 ++
    List.replicate 3 (.stepControl true)

/-- Whether a ring is vacant can be looked up. -/
instance {cap : Capacity} (c : Channel RawInputEventFlat cap) : Decidable c.Vacant :=
  match h : c.producer with
  | .idle => decidable_of_iff (c.ring.head = c.ring.tail) (by rw [Channel.Vacant, h]; simp)
  | .loadHead _ _ | .loadTail _ _ | .beginWrite _ _ _ | .storeWord _ _ _ _ | .endWrite _ _ _
  | .storeHead _ _ _ | .checkDrop _ | .countDrop => .isFalse (by rw [Channel.Vacant, h]; simp)

/-- The condition of `BeginsVacant` on the access `start` is about to make. -/
instance (s : TapSessions) : ∀ a : SessionAction, Decidable (BeginsVacant s a)
  | .stepControl _ =>
    match h : s.controlPc with
    | .setOnEvent =>
      decidable_of_iff
        (s.tap.dualChannel.stateChannel.Vacant ∧ s.tap.dualChannel.dataChannel.Vacant)
        (by rw [BeginsVacant, h]; simp)
    | .idle | .startLoadState _ | .installEventTap | .storeRunning | .launchThread | .storeActive
    | .stopLoadState | .storeNotRunning | .join | .uninstallEventTap | .storeInactive =>
      .isTrue (by rw [BeginsVacant, h]; exact nofun)
  | .cgEventCallback _ | .stepEnqueue | .stepCapture _ | .callStart _ | .callStop _ =>
    .isTrue trivial

/-- A key pressed in a capture, a stop, and a key pressed in the next capture: each handler gets
its own. -/
theorem captures_apart_restart :
    let acts := startCapture ++ pressKey ++ captureSteps 14 ++ stopCapture ++ startCapture ++
      pressKey ++ captureSteps 14
    (tapSessionsMachine.run acts).handled =
        [{ handler := 1, capturedIn := 1, event := keyPress },
          { handler := 2, capturedIn := 2, event := keyPress }] ∧
      ∀ call ∈ (tapSessionsMachine.run acts).handled, ¬ call.capturedIn < call.handler :=
  ⟨by decide +kernel, captures_apart _ (by decide +kernel)⟩

/-- A key is pressed after the capture thread has emptied the rings and ended, and before the event
tap is uninstalled. The handler of the next capture gets it. -/
theorem captures_leak :
    ¬ ∀ acts, ∀ call ∈ (tapSessionsMachine.run acts).handled,
      ¬ call.capturedIn < call.handler := by
  intro hclaim
  let acts := startCapture ++
    (.callStop TapControl.noHandle :: List.replicate 2 (.stepControl true)) ++ captureSteps 5 ++
    (.stepControl true :: pressKey) ++ List.replicate 2 (.stepControl true) ++ startCapture ++
    captureSteps 14
  have hhandled : (tapSessionsMachine.run acts).handled =
      [{ handler := 2, capturedIn := 1, event := keyPress }] := by decide +kernel
  refine hclaim acts { handler := 2, capturedIn := 1, event := keyPress } ?_ (by decide)
  rw [hhandled]
  exact List.mem_singleton_self _

end CrossFlow
