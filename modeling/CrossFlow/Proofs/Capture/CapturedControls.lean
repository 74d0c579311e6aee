import CrossFlow.Proofs.Capture.Extraction
import CrossFlow.Proofs.Capture.SessionEvents

/-!
# `CrossFlow.Proofs.Capture.CapturedControls`: the handler knows what is held

The events of the buttons and keys go through the state ring, in order, and nothing else does. So as
long as the state ring has refused no event, the handler has been told about the first of the events
that the callback saw, and holds down what they hold down.

* `processed_state`: the state events that the capture thread processes are those it pops.
* `callbackInv_run`: the finished `enqueue` calls are those of the events that the callback saw.
* `captured_controls`: what the handler is told.
-/

set_option autoImplicit false

namespace CrossFlow

open Lib (Machine Refinement Change heldAfter)

/-! ### What is in the rings -/

/-- The item of a push call in progress has `P`. -/
def ProducerPc.Carries {T : Type} (P : T → Prop) : ProducerPc T → Prop
  | .loadHead _ x | .loadTail x _ | .beginWrite _ x _ | .storeWord _ x _ _ | .endWrite _ x _
  | .storeHead _ x _ => P x
  | .idle | .checkDrop _ | .countDrop => True

/-- Every item pushed, or about to be, has `P`. -/
structure Channel.Carries {T : Type} [TriviallyCopyable T] {cap : Capacity} (P : T → Prop)
    (c : Channel T cap) : Prop where
  producer : c.producer.Carries P
  pushed : ∀ p ∈ c.pushed, P p.2

/-- A call of a push has an item with `P`. -/
def SpscAction.Carries {T : Type} (P : T → Prop) : SpscAction T → Prop
  | .callPush _ item => P item
  | _ => True

section

variable {T : Type} [TriviallyCopyable T] {cap : Capacity} {P : T → Prop}

/-- A push goes on with the item that it has. -/
theorem ProducerPc.Carries.step {pc : ProducerPc T} (h : pc.Carries P)
    (r : SpscRingBuffer T cap) : (pc.step r).pc.Carries P := by
  cases pc with
  | loadHead kind x => cases kind <;> exact h
  | loadTail x head =>
    simp only [ProducerPc.step]
    split
    · trivial
    · exact h
  | storeWord kind x head k =>
    simp only [ProducerPc.step]
    split <;> exact h
  | storeHead kind x head => cases kind <;> trivial
  | checkDrop head =>
    simp only [ProducerPc.step]
    split <;> trivial
  | _ => exact h

/-- What all pushed items have in common, all items of the ring have. -/
theorem carries_step (c : Channel T cap) (a : SpscAction T) (hc : c.Carries P)
    (ha : a.Carries P) : ((spscMachine T cap).step c a).Carries P := by
  cases a with
  | callPush kind item =>
    -- A push that is called carries what the action carries, if it is begun at all.
    show (c.callPush kind item).Carries P
    unfold Channel.callPush
    split
    · exact ⟨ha, hc.pushed⟩
    · exact hc
  | stepPush =>
    refine ⟨hc.producer.step c.ring, ?_⟩
    intro p hp
    rcases List.mem_append.mp (show p ∈ c.pushed ++ c.producer.publishes from hp) with hp | hp
    · exact hc.pushed p hp
    · -- What is published is what the call carries.
      have hcarries := hc.producer
      cases hpc : c.producer with
      | storeHead kind x head =>
        rw [hpc] at hp hcarries
        rw [List.mem_singleton.mp hp]
        exact hcarries
      | _ =>
        rw [hpc] at hp
        exact absurd hp List.not_mem_nil
  | callPop =>
    show c.callPop.Carries P
    unfold Channel.callPop
    split
    · exact ⟨hc.producer, hc.pushed⟩
    · exact hc
  | stepPop => exact ⟨hc.producer, hc.pushed⟩

end

/-- The data ring has data events only. -/
theorem dataChannel_carries (acts : List DualAction) :
    SeqlockInv (dualMachine.run acts).dataChannel ∧
      (dualMachine.run acts).dataChannel.Carries
        (fun flat => ¬ DualChannelSpsc.isStateEvent flat = true) := by
  have hview : (dualMachine.run acts).dataChannel =
      (spscMachine _ _).run (dataChannelView.trace dualMachine.init acts) :=
    dataChannelView.view_run acts
  rw [hview]
  refine ⟨Machine.Invariant.of_step seqlockInv_init seqlockInv_step _, ?_⟩
  refine Machine.invariant_of_meets
    (C := fun _ a => a.Carries fun flat => ¬ DualChannelSpsc.isStateEvent flat = true)
    ⟨trivial, ?pushed⟩ (fun c a hc ha => carries_step c a hc ha) (Machine.meets_of_forall ?_)
  case pushed =>
    intro p hp
    exact absurd hp List.not_mem_nil
  intro b hb _
  -- `enqueue` pushes to the data ring only what is no state event.
  obtain ⟨d, a, -, hmem⟩ := dataChannelView.mem_trace hb
  simp only [dataChannelView] at hmem
  split at hmem
  · split at hmem
    · exact absurd hmem List.not_mem_nil
    · next hdata =>
      rw [List.mem_singleton.mp hmem]
      exact hdata
  all_goals first
    | exact absurd hmem List.not_mem_nil
    | rw [List.mem_singleton.mp hmem]; trivial

/-! ### What the capture thread takes -/

/-- From `t` to `t'` the capture thread has taken `ss` from the state ring and `ds` from the data
ring, and has processed them. -/
structure MacEventTap.Takes (t t' : MacEventTap) (ss ds : List (PopRecord RawInputEventFlat)) :
    Prop where
  state : t'.dualChannel.stateChannel.popped = t.dualChannel.stateChannel.popped ++ ss
  data : t'.dualChannel.dataChannel.popped = t.dualChannel.dataChannel.popped ++ ds
  processed : t'.processed = t.processed ++ (ss ++ ds).map PopRecord.item
  returned : t'.dualChannel.returned = t.dualChannel.returned
  enqueuePc : t'.dualChannel.enqueuePc = t.dualChannel.enqueuePc

namespace MacEventTap

/-- A step that does neither. -/
theorem Takes.of_eq {t t' : MacEventTap}
    (hstate : t'.dualChannel.stateChannel.popped = t.dualChannel.stateChannel.popped)
    (hdata : t'.dualChannel.dataChannel.popped = t.dualChannel.dataChannel.popped)
    (hprocessed : t'.processed = t.processed)
    (hreturned : t'.dualChannel.returned = t.dualChannel.returned)
    (hpc : t'.dualChannel.enqueuePc = t.dualChannel.enqueuePc) : Takes t t' [] [] where
  state := hstate.trans (List.append_nil _).symm
  data := hdata.trans (List.append_nil _).symm
  processed := hprocessed.trans (List.append_nil _).symm
  returned := hreturned
  enqueuePc := hpc

/-- What follows takes nothing. -/
theorem Takes.trans_nil {t t' t'' : MacEventTap} {ss ds : List (PopRecord RawInputEventFlat)}
    (h : Takes t t' ss ds) (h' : Takes t' t'' [] []) : Takes t t'' ss ds where
  state := h'.state.trans ((List.append_nil _).trans h.state)
  data := h'.data.trans ((List.append_nil _).trans h.data)
  processed := h'.processed.trans ((List.append_nil _).trans h.processed)
  returned := h'.returned.trans h.returned
  enqueuePc := h'.enqueuePc.trans h.enqueuePc

/-- The call of a pop takes nothing yet. -/
theorem takes_callPopState (t : MacEventTap) (pc : CapturePc) :
    Takes t (t.callPopState pc) [] [] := by
  refine .of_eq ?_ rfl rfl rfl rfl
  show t.dualChannel.stateChannel.callPop.popped = _
  unfold Channel.callPop
  split <;> rfl

/-- The call of a pop takes nothing yet. -/
theorem takes_callPopData (t : MacEventTap) (pc : CapturePc) :
    Takes t (t.callPopData pc) [] [] := by
  refine .of_eq rfl ?_ rfl rfl rfl
  show t.dualChannel.dataChannel.callPop.popped = _
  unfold Channel.callPop
  split <;> rfl

/-- After a step of a `tryPop`, the event that it returns is processed. -/
theorem takes_afterPop {t : MacEventTap}
    {popped : DualChannelSpsc × Option (Option RawInputEventFlat)}
    {ss ds : List (PopRecord RawInputEventFlat)}
    (hstate : popped.1.stateChannel.popped = t.dualChannel.stateChannel.popped ++ ss)
    (hdata : popped.1.dataChannel.popped = t.dualChannel.dataChannel.popped ++ ds)
    (hret : (ss ++ ds).map PopRecord.item = popped.2.join.toList)
    (hreturned : popped.1.returned = t.dualChannel.returned)
    (hpc : popped.1.enqueuePc = t.dualChannel.enqueuePc)
    {onFalse onTrue : MacEventTap → MacEventTap}
    (hfalse : ∀ t, Takes t (onFalse t) [] []) (htrue : ∀ t, Takes t (onTrue t) [] []) :
    Takes t (t.afterPop popped onFalse onTrue) ss ds := by
  -- Only a call that has ended processes something, and goes on from there.
  unfold MacEventTap.afterPop
  cases hpop : popped.2 with
  | none =>
    rw [hpop] at hret
    exact ⟨hstate, hdata, (List.append_nil _).symm.trans (congrArg (t.processed ++ ·) hret.symm),
      hreturned, hpc⟩
  | some ret =>
    cases ret with
    | none =>
      rw [hpop] at hret
      refine Takes.trans_nil ⟨hstate, hdata, ?_, hreturned, hpc⟩ (hfalse _)
      exact (List.append_nil _).symm.trans (congrArg (t.processed ++ ·) hret.symm)
    | some flat =>
      rw [hpop] at hret
      refine Takes.trans_nil ⟨hstate, hdata, ?_, hreturned, hpc⟩ (htrue _)
      exact congrArg (t.processed ++ ·) hret.symm

/-- What a pop of the state channel returns is taken. -/
theorem takes_stepPopState (t : MacEventTap) {onFalse onTrue : MacEventTap → MacEventTap}
    (hfalse : ∀ t, Takes t (onFalse t) [] []) (htrue : ∀ t, Takes t (onTrue t) [] []) :
    ∃ ss, Takes t (t.afterPop t.dualChannel.stepPopState onFalse onTrue) ss [] := by
  refine ⟨_, takes_afterPop rfl (List.append_nil _).symm ?_ rfl rfl hfalse htrue⟩
  rw [List.append_nil]
  exact ConsumerPc.takes_eq_returned _ _

/-- What a pop of the data channel returns is taken. -/
theorem takes_stepPopData (t : MacEventTap) {onFalse onTrue : MacEventTap → MacEventTap}
    (hfalse : ∀ t, Takes t (onFalse t) [] []) (htrue : ∀ t, Takes t (onTrue t) [] []) :
    ∃ ds, Takes t (t.afterPop t.dualChannel.stepPopData onFalse onTrue) [] ds := by
  refine ⟨_, takes_afterPop (List.append_nil _).symm rfl ?_ rfl rfl hfalse htrue⟩
  rw [List.nil_append]
  exact ConsumerPc.takes_eq_returned _ _

/-- A step of the capture thread takes from one of the rings, or from none. -/
theorem takes_stepCapture (t : MacEventTap) (osModifiers : ModifierState) :
    ∃ ss ds, Takes t (t.stepCapture osModifiers) ss ds := by
  have hstay (t : MacEventTap) (pc : CapturePc) : Takes t { t with capturePc := pc } [] [] :=
    .of_eq rfl rfl rfl rfl rfl
  unfold MacEventTap.stepCapture
  cases t.capturePc with
  | popState =>
    obtain ⟨ss, h⟩ := takes_stepPopState t (takes_callPopData · .popData)
      (takes_callPopData · .popData)
    exact ⟨ss, [], h⟩
  | popData =>
    obtain ⟨ds, h⟩ := takes_stepPopData t (hstay · .poll) (hstay · .poll)
    exact ⟨[], ds, h⟩
  | drainState =>
    obtain ⟨ss, h⟩ := takes_stepPopState t (hstay · .loadEmptyHead)
      (takes_callPopState · .drainState)
    exact ⟨ss, [], h⟩
  | finalState =>
    obtain ⟨ss, h⟩ := takes_stepPopState t (takes_callPopData · .finalData)
      (takes_callPopState · .finalState)
    exact ⟨ss, [], h⟩
  | finalData =>
    obtain ⟨ds, h⟩ := takes_stepPopData t (hstay · .done) (takes_callPopData · .finalData)
    exact ⟨[], ds, h⟩
  | resynchronize pc =>
    refine ⟨[], [], ?_⟩
    -- A resync pops nothing before its last step, and then it drains the state channel.
    cases pc with
    | storeRecoveryPending groundTruth =>
      have hstore (resync : AuthoritativeResync) : Takes t { t with resync } [] [] :=
        .of_eq rfl rfl rfl rfl rfl
      exact (hstore _).trans_nil (takes_callPopState _ .drainState)
    | _ => exact .of_eq rfl rfl rfl rfl rfl
  | confirmRecovery pc =>
    refine ⟨[], [], ?_⟩
    cases pc with
    | loadState =>
      simp only [AuthoritativeResync.stepConfirm]
      split <;> exact .of_eq rfl rfl rfl rfl rfl
    | _ => exact .of_eq rfl rfl rfl rfl rfl
  | checkRunning =>
    refine ⟨[], [], ?_⟩
    dsimp only
    split <;> exact takes_callPopState t _
  | checkRecovered =>
    refine ⟨[], [], ?_⟩
    dsimp only
    split
    · exact .of_eq rfl rfl rfl rfl rfl
    · exact takes_callPopState t _
  | poll | checkIdle | loadEmptyTail _ | checkPending =>
    refine ⟨[], [], ?_⟩
    dsimp only
    split <;> exact .of_eq rfl rfl rfl rfl rfl
  | loadEmptyHead | clear | done => exact ⟨[], [], .of_eq rfl rfl rfl rfl rfl⟩

end MacEventTap

/-! ### The events processed -/

/-- A push pops nothing. -/
theorem popped_stepEnqueue (d : DualChannelSpsc) :
    d.stepEnqueue.stateChannel.popped = d.stateChannel.popped := by
  unfold DualChannelSpsc.stepEnqueue
  cases d.enqueuePc with
  | tryPush event =>
    dsimp only
    split <;> rfl
  | tryPushDropOldest event =>
    dsimp only
    split <;> rfl
  | loadDropCount event =>
    dsimp only
    split <;> rfl
  | _ => rfl

/-- A push pops nothing. -/
theorem popped_callEnqueue (d : DualChannelSpsc) (event : RawInputEventFlat) :
    (d.callEnqueue event).stateChannel.popped = d.stateChannel.popped := by
  unfold DualChannelSpsc.callEnqueue
  split
  · split
    · show (d.stateChannel.callPush _ _).popped = _
      unfold Channel.callPush
      split <;> rfl
    · rfl
  · rfl

/-- A call has not returned yet. -/
theorem returned_callEnqueue (d : DualChannelSpsc) (event : RawInputEventFlat) :
    (d.callEnqueue event).returned = d.returned := by
  unfold DualChannelSpsc.callEnqueue
  split
  · split <;> rfl
  · rfl

/-- What a tap pops from its rings. -/
theorem tap_popped (acts : List TapAction) :
    (∀ p ∈ (tapMachine.run acts).dualChannel.stateChannel.popped,
        DualChannelSpsc.isStateEvent p.item = true) ∧
      ∀ p ∈ (tapMachine.run acts).dualChannel.dataChannel.popped,
        ¬ DualChannelSpsc.isStateEvent p.item = true := by
  -- What is popped of the state channel was accepted there, and that are state events.
  constructor
  · intro p hp
    have hmem : p.item ∈ (tapMachine.run acts).dualChannel.poppedStates :=
      List.mem_map_of_mem hp
    obtain ⟨r, hr, hitem⟩ :=
      List.mem_map.mp ((tap_stateChannel_lossless acts).subset hmem)
    have hstate := (List.mem_filter.mp hr).2
    rw [Bool.and_eq_true] at hstate
    exact hitem ▸ hstate.1
  · -- What is popped of the data channel was pushed into it by an enqueue of a data event.
    intro p hp
    have hview : (tapMachine.run acts).dualChannel =
        dualMachine.run (dualChannelView.trace tapMachine.init acts) :=
      dualChannelView.view_run acts
    rw [hview] at hp
    obtain ⟨hseq, hdata⟩ := dataChannel_carries (dualChannelView.trace tapMachine.init acts)
    exact hdata.pushed _ (hseq.reader.popped_mem p hp).2.2

/-- The state events that the capture thread processes are those it pops from the state ring. -/
theorem processed_state (acts : List TapAction) :
    (tapMachine.run acts).processed.filter DualChannelSpsc.isStateEvent =
      (tapMachine.run acts).dualChannel.poppedStates := by
  refine Machine.run_induction (P := fun _ (t : MacEventTap) =>
    t.processed.filter DualChannelSpsc.isStateEvent = t.dualChannel.poppedStates) rfl ?_ acts
  intro acts a ih
  have hpopped := tap_popped (acts ++ [a])
  rw [Machine.run_append_singleton] at hpopped
  generalize tapMachine.run acts = t at ih hpopped ⊢
  cases a with
  | callEnqueue event =>
    show t.processed.filter _ = (t.dualChannel.callEnqueue event).stateChannel.popped.map _
    rw [ih, popped_callEnqueue]
    rfl
  | stepEnqueue =>
    show t.processed.filter _ = t.dualChannel.stepEnqueue.stateChannel.popped.map _
    rw [ih, popped_stepEnqueue]
    rfl
  | stop => exact ih
  | stepCapture osModifiers =>
    -- What comes from the state ring passes the filter, and what comes from the data ring does not.
    obtain ⟨ss, ds, h⟩ := t.takes_stepCapture osModifiers
    have hss : (ss.map PopRecord.item).filter DualChannelSpsc.isStateEvent =
        ss.map PopRecord.item := by
      refine List.filter_eq_self.mpr ?_
      intro item hitem
      obtain ⟨p, hp, rfl⟩ := List.mem_map.mp hitem
      exact hpopped.1 p (h.state ▸ List.mem_append_right _ hp)
    have hds : (ds.map PopRecord.item).filter DualChannelSpsc.isStateEvent = [] := by
      refine List.filter_eq_nil_iff.mpr ?_
      intro item hitem
      obtain ⟨p, hp, rfl⟩ := List.mem_map.mp hitem
      exact hpopped.2 p (h.data ▸ List.mem_append_right _ hp)
    show (t.stepCapture osModifiers).processed.filter _ =
      (t.stepCapture osModifiers).dualChannel.stateChannel.popped.map _
    rw [h.processed, h.state, List.map_append, List.map_append, List.filter_append,
      List.filter_append, hss, hds, ih, List.append_nil]
    rfl

/-! ### The events that `enqueue` is called with -/

/-- The event of the `enqueue` call in progress. -/
def EnqueuePc.event : EnqueuePc → List RawInputEventFlat
  | .idle => []
  | .tryPush event | .storeSaturated event | .countSaturated event => [event.val]
  | .tryPushDropOldest event | .loadDropCount event => [event.val]

/-- The event that the callback is about to call `enqueue` with. -/
def CallbackPc.event : CallbackPc → List RawInputEventFlat
  | .storeModifierFlags flat => [flat]
  | _ => []

/-- The events that `enqueue` has been called with. -/
def DualChannelSpsc.enqueued (d : DualChannelSpsc) : List RawInputEventFlat :=
  d.returned.map Prod.fst ++ d.enqueuePc.event

/-- A step of a call adds no event. -/
theorem enqueued_stepEnqueue (d : DualChannelSpsc) : d.stepEnqueue.enqueued = d.enqueued := by
  unfold DualChannelSpsc.stepEnqueue DualChannelSpsc.enqueued
  cases hpc : d.enqueuePc with
  | idle => simp [hpc]
  | tryPush event =>
    dsimp only
    split <;> simp [DualChannelSpsc.returnEnqueue, EnqueuePc.event]
  | tryPushDropOldest event =>
    dsimp only
    split <;> simp [EnqueuePc.event]
  | loadDropCount event =>
    dsimp only
    split <;> simp [DualChannelSpsc.returnEnqueue, EnqueuePc.event]
  | _ => simp [DualChannelSpsc.returnEnqueue, EnqueuePc.event]

/-- A call adds its event. -/
theorem enqueued_callEnqueue {d : DualChannelSpsc} (hidle : d.enqueuePc = .idle)
    (event : RawInputEventFlat) : (d.callEnqueue event).enqueued = d.enqueued ++ [event] := by
  unfold DualChannelSpsc.callEnqueue DualChannelSpsc.enqueued
  rw [hidle]
  dsimp only
  split <;> simp [EnqueuePc.event]

/-- An `enqueue` of a state event accepts it or refuses it. -/
def DualChannelSpsc.Answered (d : DualChannelSpsc) : Prop :=
  ∀ r ∈ d.returned, DualChannelSpsc.isStateEvent r.1 = true →
    r.2 = .Success ∨ r.2 = .StateSaturated

/-- A call that returns has an answer, which for a state event is one of two. -/
theorem answered_returnEnqueue {d : DualChannelSpsc} (h : d.Answered)
    {event : RawInputEventFlat} {result : ChannelResult}
    (hresult : DualChannelSpsc.isStateEvent event = true →
      result = .Success ∨ result = .StateSaturated) :
    (d.returnEnqueue event result).Answered := by
  intro r hr
  rcases List.mem_append.mp hr with hr | hr
  · exact h r hr
  · rw [List.mem_singleton.mp hr]
    exact hresult

/-- Each call that has returned has an answer. -/
theorem answered_stepEnqueue {d : DualChannelSpsc} (h : d.Answered) :
    d.stepEnqueue.Answered := by
  unfold DualChannelSpsc.stepEnqueue
  cases d.enqueuePc with
  | tryPush event =>
    dsimp only
    -- A push that has not ended, one that succeeded, and one that was refused.
    split
    · exact h
    · exact answered_returnEnqueue h fun _ => .inl rfl
    · exact h
  | countSaturated event => exact answered_returnEnqueue h fun _ => .inr rfl
  | tryPushDropOldest event =>
    dsimp only
    split <;> exact h
  | loadDropCount event =>
    dsimp only
    split
    · exact answered_returnEnqueue h fun hstate => absurd hstate event.property
    · exact answered_returnEnqueue h fun _ => .inl rfl
  | _ => exact h

/-- What the finished `enqueue` calls are about, once none of them was refused. -/
theorem accepted_of_not_rejected {d : DualChannelSpsc} (h : d.Answered)
    (hrejected : d.rejected = []) :
    d.accepted = (d.returned.map Prod.fst).filter DualChannelSpsc.isStateEvent := by
  rw [DualChannelSpsc.accepted, List.filter_map]
  refine congrArg (List.map Prod.fst) (List.filter_congr ?_)
  intro r hr
  show (DualChannelSpsc.isStateEvent r.1 && r.2 == .Success) = DualChannelSpsc.isStateEvent r.1
  cases hstate : DualChannelSpsc.isStateEvent r.1 with
  | false => rfl
  | true =>
    rcases h r hr hstate with hres | hres
    · rw [hres]
      rfl
    · have hmem : r.1 ∈ d.rejected :=
        List.mem_map_of_mem (List.mem_filter.mpr ⟨hr, by rw [hstate, hres]; rfl⟩)
      rw [hrejected] at hmem
      exact absurd hmem List.not_mem_nil

/-! ### The callback -/

/-- The tap under the callback. -/
def tapView : Refinement callbackMachine tapMachine where
  view s := s.tap
  acts s a :=
    -- Of the callback only its last two steps are steps of the tap.
    match a, s.callbackPc with
    | .stepCallback, .storeModifierFlags flat => [.callEnqueue flat]
    | .stepCallback, .enqueue => [.stepEnqueue]
    | .stepCapture osModifiers, _ => [.stepCapture osModifiers]
    | .stop, _ => [.stop]
    | _, _ => []
  view_init := rfl
  -- The other steps of the callback leave the tap alone.
  view_step s a := by
    cases a with
    | cgEventCallback event =>
      show (s.cgEventCallback event).tap = s.tap
      unfold TapCallback.cgEventCallback
      cases s.callbackPc with
      | idle =>
        dsimp only
        split <;> rfl
      | _ => rfl
    | stepCallback =>
      simp only [callbackMachine, TapCallback.stepCallback]
      cases hpc : s.callbackPc with
      | enqueue =>
        dsimp only
        split <;> rfl
      | _ => rfl
    | stepCapture osModifiers => rfl
    | stop => rfl

/-- How many events have been given to `enqueue` and are not counted in `totalCaptured_` yet. -/
def CallbackPc.uncounted : CallbackPc → UInt64
  | .enqueue | .countCaptured => 1
  | .idle | .storeModifierFlags _ => 0

/-- The invariant of the callback. -/
structure CallbackInv (s : TapCallback) : Prop where
  idle : s.callbackPc ≠ .enqueue → s.tap.dualChannel.enqueuePc = .idle
  seen : s.seen.filterMap CGEventRef.flat = s.tap.dualChannel.enqueued ++ s.callbackPc.event
  answered : s.tap.dualChannel.Answered
  captured : s.totalCaptured + s.callbackPc.uncounted =
    UInt64.ofNat s.tap.dualChannel.enqueued.length

/-- An event that the callback sees is given to `enqueue` when it is extracted. -/
theorem filterMap_flat (event : Option CGEventRef) :
    event.toList.filterMap CGEventRef.flat =
      if (MacEventFieldExtractor.extract event).valid = 0 then []
      else [MacEventFieldExtractor.extract event] := by
  cases event with
  | none => rfl
  | some event =>
    rw [Option.toList_some, List.filterMap_cons, CGEventRef.flat]
    by_cases hvalid : (MacEventFieldExtractor.extract (some event)).valid = 0
    · rw [if_pos hvalid, if_pos hvalid]
      rfl
    · rw [if_neg hvalid, if_neg hvalid]
      rfl

/-- A new event keeps the invariant. -/
theorem CallbackInv.cgEventCallback {s : TapCallback} (hs : CallbackInv s)
    (event : Option CGEventRef) : CallbackInv (s.cgEventCallback event) := by
  unfold TapCallback.cgEventCallback
  cases hpc : s.callbackPc with
  | idle =>
    have hidle := hs.idle (by rw [hpc]; simp)
    have hseen := hs.seen
    have hcaptured := hs.captured
    rw [hpc] at hseen hcaptured
    dsimp only
    -- The event is enqueued exactly if the extraction of its fields succeeds.
    have hflat := congrArg (s.tap.dualChannel.enqueued ++ ·) (filterMap_flat event)
    have happend : (s.seen ++ event.toList).filterMap CGEventRef.flat =
        s.seen.filterMap CGEventRef.flat ++ event.toList.filterMap CGEventRef.flat :=
      List.filterMap_append
    rw [hseen] at happend
    split
    · next hvalid =>
      rw [if_pos hvalid] at hflat
      exact ⟨fun _ => hidle, happend.trans (by simpa [CallbackPc.event] using hflat), hs.answered,
        hcaptured⟩
    · next hvalid =>
      rw [if_neg hvalid] at hflat
      exact ⟨fun _ => hidle, happend.trans (by simpa [CallbackPc.event] using hflat), hs.answered,
        hcaptured⟩
  | _ => exact hs

/-- A step of the callback keeps the invariant. -/
theorem CallbackInv.stepCallback {s : TapCallback} (hs : CallbackInv s) :
    CallbackInv s.stepCallback := by
  obtain ⟨hidle, hseen, hanswered, hcaptured⟩ := hs
  unfold TapCallback.stepCallback
  cases hpc : s.callbackPc with
  | idle => exact ⟨hidle, hseen, hanswered, hcaptured⟩
  | storeModifierFlags flat =>
    rw [hpc] at hidle hseen hcaptured
    -- The event goes from the callback to `enqueue`.
    have hcall := enqueued_callEnqueue (hidle (by simp)) flat
    refine ⟨fun h => absurd rfl h, ?_, ?_, ?_⟩
    · show _ = (s.tap.dualChannel.callEnqueue flat).enqueued ++ []
      rw [hcall, hseen, List.append_nil]
      rfl
    · show (s.tap.dualChannel.callEnqueue flat).Answered
      unfold DualChannelSpsc.Answered
      rw [returned_callEnqueue]
      exact hanswered
    · show s.totalCaptured + 1 = UInt64.ofNat (s.tap.dualChannel.callEnqueue flat).enqueued.length
      rw [hcall, List.length_append]
      show _ = UInt64.ofNat (s.tap.dualChannel.enqueued.length + 1)
      rw [UInt64.ofNat_add, ← hcaptured]
      simp [CallbackPc.uncounted]
  | enqueue =>
    rw [hpc] at hseen hcaptured
    have hstep : s.tap.stepEnqueue.dualChannel = s.tap.dualChannel.stepEnqueue := rfl
    have henqueued := enqueued_stepEnqueue s.tap.dualChannel
    dsimp only
    split
    · -- The call has returned, or the callback stays in it. Either way the events are the same.
      next hdone =>
      exact ⟨fun _ => hdone, by rw [hstep, henqueued]; exact hseen,
        answered_stepEnqueue hanswered, by rw [hstep, henqueued]; exact hcaptured⟩
    · exact ⟨fun h => absurd rfl h, by rw [hstep, henqueued]; exact hseen,
        answered_stepEnqueue hanswered, by rw [hstep, henqueued]; exact hcaptured⟩
  | countCaptured =>
    rw [hpc] at hidle hseen hcaptured
    refine ⟨fun _ => hidle (by simp), hseen, hanswered, ?_⟩
    show s.totalCaptured + 1 + 0 = _
    rw [UInt64.add_zero]
    exact hcaptured

/-- The invariant holds in every run. -/
theorem callbackInv_run : callbackMachine.Invariant CallbackInv := by
  refine .of_step ⟨fun _ => rfl, rfl, ?_, rfl⟩ ?_
  · intro r hr
    exact absurd hr List.not_mem_nil
  intro s a hs
  cases a with
  | cgEventCallback event => exact hs.cgEventCallback event
  | stepCallback => exact hs.stepCallback
  | stop => exact ⟨hs.idle, hs.seen, hs.answered, hs.captured⟩
  | stepCapture osModifiers =>
    obtain ⟨ss, ds, h⟩ := s.tap.takes_stepCapture osModifiers
    -- The capture thread takes from the rings and leaves the call of `enqueue` alone.
    have henqueued : (s.tap.stepCapture osModifiers).dualChannel.enqueued =
        s.tap.dualChannel.enqueued := by
      rw [DualChannelSpsc.enqueued, h.returned, h.enqueuePc]
      rfl
    refine ⟨fun hpc => h.enqueuePc.trans (hs.idle hpc), ?_, ?_, ?_⟩
    · exact hs.seen.trans (congrArg (· ++ s.callbackPc.event) henqueued.symm)
    · show (s.tap.stepCapture osModifiers).dualChannel.Answered
      unfold DualChannelSpsc.Answered
      rw [h.returned]
      exact hs.answered
    · exact hs.captured.trans (congrArg (fun l => UInt64.ofNat (List.length l)) henqueued.symm)

/-- `totalCaptured_` counts the events that were extracted, also those that a ring has refused. -/
theorem totalCaptured_run (acts : List CallbackAction)
    (hidle : (callbackMachine.run acts).callbackPc = .idle) :
    (callbackMachine.run acts).totalCaptured =
      UInt64.ofNat ((callbackMachine.run acts).seen.filterMap CGEventRef.flat).length := by
  have hs : CallbackInv (callbackMachine.run acts) := callbackInv_run acts
  have hcaptured := hs.captured
  have hseen := hs.seen
  rw [hidle] at hcaptured hseen
  rw [hseen]
  simpa [CallbackPc.uncounted, CallbackPc.event] using hcaptured

/-! ### What the handler is told -/

/-- A valid event is told to the handler, if there is one. -/
theorem normalize_valid (normalizer : CGEventNormalizer) {flat : RawInputEventFlat}
    (hvalid : flat.valid ≠ 0) :
    (normalizer.normalize flat).1.onEvent = normalizer.onEvent ∧
      (normalizer.normalize flat).2 =
        if normalizer.onEvent then [CGEventNormalizer.toRawInputEvent flat] else [] := by
  rw [CGEventNormalizer.normalize, if_neg hvalid]
  exact ⟨rfl, rfl⟩

/-- What the handler is told are the valid events, one after the other. -/
theorem processEvents_events {normalizer : CGEventNormalizer} (honEvent : normalizer.onEvent = true)
    (flats : List RawInputEventFlat) :
    (normalizer.processEvents flats).2 =
      (flats.filter (·.valid ≠ 0)).map CGEventNormalizer.toRawInputEvent := by
  induction flats generalizing normalizer with
  | nil => rfl
  | cons flat flats ih =>
    rw [CGEventNormalizer.processEvents]
    by_cases hvalid : flat.valid = 0
    · simp [hvalid, ih honEvent]
    · obtain ⟨hkeeps, hevents⟩ := normalize_valid normalizer hvalid
      rw [if_neg hvalid]
      show (normalizer.normalize flat).2 ++
        ((normalizer.normalize flat).1.processEvents flats).2 = _
      rw [hevents, if_pos honEvent, ih (hkeeps.trans honEvent),
        List.filter_cons_of_pos (by simpa using hvalid)]
      rfl

/-- The state event that the callback gives to `enqueue`. -/
def CGEventRef.stateFlat (event : CGEventRef) : Option RawInputEventFlat :=
  event.flat.filter DualChannelSpsc.isStateEvent

/-- What is said about a control is said by the state events. -/
theorem change_stateFlat (event : CGEventRef) :
    event.stateFlat.bind RawInputEventFlat.change =
      event.change.bind (Change.rename CGControl.raw) := by
  rw [← change_extract, CGEventRef.stateFlat]
  cases event.flat with
  | none => rfl
  | some flat =>
    by_cases hstate : DualChannelSpsc.isStateEvent flat = true
    · simp [Option.filter, hstate]
    · rw [Option.filter_some, if_neg hstate]
      exact (change_of_not_isStateEvent hstate).symm

section

variable {s : TapCallback}

/-- The state events popped, when none was refused. -/
theorem CallbackInv.accepted (hs : CallbackInv s) (hrejected : s.tap.dualChannel.rejected = []) :
    s.tap.dualChannel.accepted <+: s.seen.filterMap CGEventRef.stateFlat ∧
      (s.callbackPc = .idle →
        s.tap.dualChannel.accepted = s.seen.filterMap CGEventRef.stateFlat) := by
  have hseen : s.seen.filterMap CGEventRef.stateFlat =
      (s.tap.dualChannel.enqueued ++ s.callbackPc.event).filter DualChannelSpsc.isStateEvent := by
    rw [← hs.seen, List.filter_filterMap]
    rfl
  rw [accepted_of_not_rejected hs.answered hrejected, hseen, DualChannelSpsc.enqueued,
    List.append_assoc, List.filter_append]
  refine ⟨List.prefix_append _ _, ?_⟩
  intro hidle
  rw [hs.idle (by rw [hidle]; simp), hidle]
  simp [EnqueuePc.event, CallbackPc.event]

/-- Every state event that was accepted has been extracted. -/
theorem CallbackInv.valid_of_accepted (hs : CallbackInv s)
    (hrejected : s.tap.dualChannel.rejected = []) {flat : RawInputEventFlat}
    (h : flat ∈ s.tap.dualChannel.accepted) : flat.valid ≠ 0 := by
  obtain ⟨event, -, hflat⟩ := List.mem_filterMap.mp ((hs.accepted hrejected).1.subset h)
  rw [CGEventRef.stateFlat, Option.filter_eq_some_iff] at hflat
  exact CGEventRef.valid_flat hflat.1

end

/-- What the handler is told about the controls comes from the state events popped. -/
theorem told_eq {acts : List CallbackAction}
    (hrejected : (callbackMachine.run acts).tap.dualChannel.rejected = [])
    {normalizer : CGEventNormalizer} (honEvent : normalizer.onEvent = true) :
    (normalizer.processEvents (callbackMachine.run acts).tap.processed).2.filterMap
        RawInputEvent.change =
      (callbackMachine.run acts).tap.dualChannel.poppedStates.filterMap
        RawInputEventFlat.change := by
  have hs : CallbackInv (callbackMachine.run acts) := callbackInv_run acts
  have hview : (callbackMachine.run acts).tap =
      tapMachine.run (tapView.trace callbackMachine.init acts) := tapView.view_run acts
  have hprocessed := processed_state (tapView.trace callbackMachine.init acts)
  have hpopped := tap_stateChannel_lossless (tapView.trace callbackMachine.init acts)
  rw [← hview] at hprocessed hpopped
  rw [processEvents_events honEvent, List.filterMap_map, ← hprocessed, List.filterMap_filter,
    List.filterMap_filter]
  refine List.filterMap_congr ?_
  intro flat hflat
  by_cases hstate : DualChannelSpsc.isStateEvent flat = true
  · -- A state event processed is one that was popped, so it is valid.
    have hmem : flat ∈ (callbackMachine.run acts).tap.dualChannel.poppedStates :=
      hprocessed ▸ List.mem_filter.mpr ⟨hflat, hstate⟩
    have hvalid := hs.valid_of_accepted hrejected (hpopped.subset hmem)
    rw [if_pos (by simpa using hvalid), if_pos hstate]
    rfl
  · -- A data event changes no control, valid or not.
    rw [if_neg hstate]
    split
    · exact change_of_not_isStateEvent hstate
    · rfl

/-- A key of the table keeps its code, and no other control gets it. -/
theorem raw_eq_key_iff {control : CGControl} {code : UInt16} (hcode : code.toNat < 128) :
    control.raw = some (.key code) ↔ control = .key code := by
  cases control with
  | button number => simp [CGControl.raw]
  | key code' =>
    rw [CGControl.raw, mapKeyCode_eq]
    by_cases hcode' : code'.toNat < 128
    · have hne : code' ≠ MacEventFieldExtractor.UNKNOWN_KEYCODE := by
        rintro rfl
        exact absurd hcode' (by decide)
      simp [hcode', hne]
    · have hne : code' ≠ code := by
        rintro rfl
        exact hcode' hcode
      simp [hcode', hne]

/-- The first three buttons keep their number, and among themselves they are told apart. -/
theorem raw_button {number : UInt32} (hnumber : number < 3) :
    (CGControl.button number).raw = some (.button number.toUInt8) := by
  have hall : ∀ n < 3, MacEventFieldExtractor.mapMouseButton (UInt32.ofNat n).toUInt8 =
      (UInt32.ofNat n).toUInt8 := by
    decide
  have h := hall number.toNat hnumber
  rw [UInt32.ofNat_toNat] at h
  rw [CGControl.raw, h]

/-- The state events popped are those of the first events that the callback saw, and of all of them
once the callback has returned and the state ring is empty. -/
theorem popped_seen {acts : List CallbackAction}
    (hrejected : (callbackMachine.run acts).tap.dualChannel.rejected = []) :
    let s := callbackMachine.run acts
    let ring := s.tap.dualChannel.stateChannel.ring
    ∃ seen, seen <+: s.seen ∧ (s.callbackPc = .idle → ring.head = ring.tail → seen = s.seen) ∧
      s.tap.dualChannel.poppedStates = seen.filterMap CGEventRef.stateFlat := by
  intro s ring
  have hs : CallbackInv s := callbackInv_run acts
  have hview : s.tap.dualChannel = dualMachine.run
      ((dualChannelView.comp tapView).trace callbackMachine.init acts) :=
    (dualChannelView.comp tapView).view_run acts
  have hlossless := stateChannel_losslessInv
    ((dualChannelView.comp tapView).trace callbackMachine.init acts)
  have henqueue : EnqueueInv (dualMachine.run
      ((dualChannelView.comp tapView).trace callbackMachine.init acts)) := enqueueInv_run _
  have hpopped := stateChannel_popped_initial
    ((dualChannelView.comp tapView).trace callbackMachine.init acts)
  rw [← hview] at hlossless henqueue hpopped
  obtain ⟨hfirst, hall⟩ := hs.accepted hrejected
  -- With the ring empty and the callback returned, all that was accepted has been popped.
  by_cases hdone : s.callbackPc = .idle ∧ ring.head = ring.tail
  · refine ⟨s.seen, List.prefix_rfl, fun _ _ => rfl, ?_⟩
    have hlength : s.tap.dualChannel.stateChannel.pushed.length = ring.tail :=
      hlossless.1.writer.length_pushed.trans hdone.2
    have htake := hlossless.2.popped
    rw [List.take_of_length_le (Nat.le_of_eq hlength)] at htake
    rw [← hall hdone.1, henqueue.accepted, ← htake, List.map_map]
    rfl
  · -- Before that, the events popped are the first of those that were accepted.
    obtain ⟨seen, hseen, heq⟩ := List.prefix_filterMap_iff.mp (hpopped.trans hfirst)
    exact ⟨seen, hseen, fun hidle hempty => absurd ⟨hidle, hempty⟩ hdone, heq⟩

/-- **The handler knows what is held.** In every run of the callback against the capture thread in
which the state ring has refused no event, what the handler has been told about the buttons and keys
is what the first of the events that the callback saw did to them, under the extractor's names; and
once the callback has returned and the state ring is empty, it has been told about all of them. So
it holds down the keys of the table that these events hold down, and the buttons, if only the first
three were used. -/
theorem captured_controls {acts : List CallbackAction}
    (hrejected : (callbackMachine.run acts).tap.dualChannel.rejected = [])
    {normalizer : CGEventNormalizer} (honEvent : normalizer.onEvent = true) :
    let s := callbackMachine.run acts
    let ring := s.tap.dualChannel.stateChannel.ring
    let told := (normalizer.processEvents s.tap.processed).2.filterMap RawInputEvent.change
    ∃ seen, seen <+: s.seen ∧ (s.callbackPc = .idle → ring.head = ring.tail → seen = s.seen) ∧
      let changes := seen.filterMap CGEventRef.change
      told = changes.filterMap (Change.rename CGControl.raw) ∧
      (∀ code : UInt16, code.toNat < 128 →
        heldAfter (fun _ => false) told (.key code) =
          heldAfter (fun _ => false) changes (.key code)) ∧
      ((∀ c ∈ changes, ∀ number, c.control = .button number → number < 3) →
        ∀ number : UInt32, number < 3 → heldAfter (fun _ => false) told (.button number.toUInt8) =
          heldAfter (fun _ => false) changes (.button number)) := by
  intro s ring told
  obtain ⟨seen, hseen, hall, hpopped⟩ := popped_seen hrejected
  have htold : told =
      (seen.filterMap CGEventRef.change).filterMap (Change.rename CGControl.raw) := by
    show (normalizer.processEvents (callbackMachine.run acts).tap.processed).2.filterMap _ = _
    rw [told_eq hrejected honEvent, hpopped, List.filterMap_filterMap, List.filterMap_filterMap]
    exact List.filterMap_congr fun event _ => change_stateFlat event
  refine ⟨seen, hseen, hall, htold, ?_, ?_⟩
  · intro code hcode
    rw [htold]
    exact Lib.heldAfter_rename ((raw_eq_key_iff hcode).mpr rfl) rfl fun c _ hc =>
      (raw_eq_key_iff hcode).mp hc
  · intro hbuttons number hnumber
    rw [htold]
    refine Lib.heldAfter_rename (raw_button hnumber) rfl ?_
    intro c hc hraw
    cases hcontrol : c.control with
    | key code =>
      rw [hcontrol, CGControl.raw] at hraw
      split at hraw <;> exact absurd hraw (by simp)
    | button number' =>
      -- Two of the first three buttons with the same byte are the same.
      have hnumber' := hbuttons c hc number' hcontrol
      rw [hcontrol, raw_button hnumber'] at hraw
      have hbyte : number'.toUInt8 = number.toUInt8 := by simpa using hraw
      have hnat := congrArg UInt8.toNat hbyte
      simp only [UInt32.toNat_toUInt8] at hnat
      have h3 : number.toNat < 3 := hnumber
      have h3' : number'.toNat < 3 := hnumber'
      rw [UInt32.toNat_inj.mp (show number'.toNat = number.toNat by omega)]

/-- The key of the code 5 goes down, and the callback and the capture thread make `n` and `m`
accesses. -/
def pressThenCapture (n m : Nat) : List CallbackAction :=
  .cgEventCallback (some
    { type := kCGEventKeyDown
      timestamp := 1
      flags := 0
      mouseEventDeltaX := 0
      mouseEventDeltaY := 0
      mouseEventButtonNumber := 0
      scrollWheelEventDeltaAxis1 := 0
      scrollWheelEventDeltaAxis2 := 0
      keyboardEventKeycode := 5 }) :: List.replicate n .stepCallback ++
    List.replicate m (.stepCapture AuthoritativeResync.init.groundTruthModifiers)

/-- A key that was pressed, and captured, is down. -/
theorem captured_controls_pressThenCapture :
    let s := callbackMachine.run (pressThenCapture 14 14)
    let told := ({ CGEventNormalizer.init with onEvent := true }.processEvents
      s.tap.processed).2.filterMap RawInputEvent.change
    heldAfter (fun _ => false) told (.key 5) = true := by
  intro s told
  have hrejected : s.tap.dualChannel.rejected = [] := by decide +kernel
  have honEvent : ({ CGEventNormalizer.init with onEvent := true }).onEvent = true := rfl
  obtain ⟨seen, -, hall, -, hkeys, -⟩ := captured_controls hrejected honEvent
  have hidle : s.callbackPc = .idle := by
    have hpc : s.callbackPc.event = [] ∧ s.callbackPc.uncounted = 0 := by decide +kernel
    cases h : s.callbackPc with
    | idle => rfl
    | _ => simp [h, CallbackPc.event, CallbackPc.uncounted] at hpc
  rw [hkeys 5 (by decide), hall hidle (by decide +kernel)]
  decide +kernel

end CrossFlow
