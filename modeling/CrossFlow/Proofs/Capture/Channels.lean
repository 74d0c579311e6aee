import CrossFlow.Platform.Mac.MacEventTap
import CrossFlow.Proofs.Spsc.Alone
import CrossFlow.Proofs.Spsc.StateChannel

/-!
# `CrossFlow.Proofs.Capture.Channels`: the channels under the capture thread's loop

`dualChannelView` sees a tap as its `DualChannelSpsc`, so the results about the channels hold under
the capture thread's loop: `tap_stateChannel_lossless` is the lossless state channel there.

The rest is about one side running alone.

* `enqueue_alone`, `enqueue_alone_full`: an `enqueue` of a state event with room and without.
* `fill_alone`: `n` state events into a ring with room for them.
* `drainState_alone`: the draining loop empties the state ring.
-/

set_option autoImplicit false

namespace CrossFlow

open Lib (Machine Refinement Pending Completes)

/-! ### The channels under the capture thread -/

/-- The channel actions of a `tryPop` call that may have returned. -/
def popActs (step : DualAction) (ret : Option (Option RawInputEventFlat))
    (onFalse onTrue : List DualAction) : List DualAction :=
  match ret with
  | none => [step]
  | some none => step :: onFalse
  | some (some _) => step :: onTrue

/-- The channel actions of a step of the capture thread. -/
def captureActs (t : MacEventTap) (osModifiers : ModifierState) : List DualAction :=
  match t.capturePc with
  | .checkRunning => [.callPopState]
  | .popState =>
    popActs .stepPopState t.dualChannel.stepPopState.2 [.callPopData] [.callPopData]
  | .popData => popActs .stepPopData t.dualChannel.stepPopData.2 [] []
  | .checkRecovered => if t.resync.state = .Recovered then [] else [.callPopState]
  | .resynchronize pc =>
    match t.resync.stepResync osModifiers pc with
    | (_, .inl _) => []
    | (_, .inr _) => [.callPopState]
  | .drainState => popActs .stepPopState t.dualChannel.stepPopState.2 [] [.callPopState]
  | .clear => [.clearStateChannelSaturated]
  | .finalState =>
    popActs .stepPopState t.dualChannel.stepPopState.2 [.callPopData] [.callPopState]
  | .finalData => popActs .stepPopData t.dualChannel.stepPopData.2 [] [.callPopData]
  | .poll | .checkIdle | .loadEmptyHead | .loadEmptyTail _ | .checkPending | .confirmRecovery _
  | .done => []

/-- The capture thread does to the rings what a pop does, and what it does after it. -/
theorem afterPop_dualChannel {t : MacEventTap} {step : DualAction}
    {popped : DualChannelSpsc × Option (Option RawInputEventFlat)}
    {onFalse onTrue : MacEventTap → MacEventTap} {falseActs trueActs : List DualAction}
    (hstep : popped.1 = dualMachine.step t.dualChannel step)
    (hfalse : ∀ t : MacEventTap,
      (onFalse t).dualChannel = dualMachine.runFrom t.dualChannel falseActs)
    (htrue : ∀ t : MacEventTap,
      (onTrue t).dualChannel = dualMachine.runFrom t.dualChannel trueActs) :
    (t.afterPop popped onFalse onTrue).dualChannel =
      dualMachine.runFrom t.dualChannel (popActs step popped.2 falseActs trueActs) := by
  unfold MacEventTap.afterPop popActs
  cases popped.2 with
  | none => exact hstep
  | some ret =>
    cases ret with
    | none => simp only [hfalse, Machine.runFrom_cons, hstep]
    | some flat => simp only [htrue, Machine.runFrom_cons, hstep, MacEventTap.processEvent]

/-- The `DualChannelSpsc` of a tap. -/
def dualChannelView : Refinement tapMachine dualMachine where
  view t := t.dualChannel
  acts t a :=
    match a with
    | .callEnqueue event => [.callEnqueue event]
    | .stepEnqueue => [.stepEnqueue]
    | .stepCapture osModifiers => captureActs t osModifiers
    | .stop => []
  view_init := rfl
  view_step t a := by
    cases a with
    | callEnqueue event => rfl
    | stepEnqueue => rfl
    | stop => rfl
    | stepCapture osModifiers =>
      simp only [tapMachine, MacEventTap.stepCapture, captureActs]
      cases hpc : t.capturePc with
      | checkRunning =>
        simp only
        split <;> rfl
      -- A pop access, and the next call's first when the pop has returned.
      | popState => exact afterPop_dualChannel rfl (fun _ => rfl) (fun _ => rfl)
      | popData => exact afterPop_dualChannel rfl (fun _ => rfl) (fun _ => rfl)
      | poll =>
        simp only
        split <;> rfl
      | checkIdle =>
        simp only
        split <;> rfl
      | checkRecovered =>
        simp only
        split <;> rfl
      | resynchronize pc =>
        cases pc <;> rfl
      | drainState => exact afterPop_dualChannel rfl (fun _ => rfl) (fun _ => rfl)
      | loadEmptyHead => rfl
      | loadEmptyTail head =>
        simp only
        split <;> rfl
      | checkPending =>
        simp only
        split <;> rfl
      -- `resync_` is not part of the channels.
      | confirmRecovery pc =>
        simp only
        split <;> rfl
      | clear => rfl
      | finalState => exact afterPop_dualChannel rfl (fun _ => rfl) (fun _ => rfl)
      | finalData => exact afterPop_dualChannel rfl (fun _ => rfl) (fun _ => rfl)
      | done => rfl

/-- The state channel of a started tap loses nothing: what the loop has popped from it is a prefix
of the state events whose `enqueue` returned `Success`. -/
theorem tap_stateChannel_lossless (acts : List TapAction) :
    (tapMachine.run acts).dualChannel.poppedStates <+:
      (tapMachine.run acts).dualChannel.accepted := by
  have hview : (tapMachine.run acts).dualChannel =
      dualMachine.run (dualChannelView.trace tapMachine.init acts) := dualChannelView.view_run acts
  rw [hview]
  exact stateChannel_popped_initial _

/-- The state ring of a tap keeps its invariant at every step. -/
theorem tap_seqlockInv_step (t : MacEventTap) (a : TapAction)
    (ht : SeqlockInv t.dualChannel.stateChannel) :
    SeqlockInv (tapMachine.step t a).dualChannel.stateChannel :=
  dualChannelView.view_preserves (P := fun d => SeqlockInv d.stateChannel)
    (fun _ b hd => stateChannelView.view_preserves seqlockInv_step b hd) a ht

/-! ### One side alone -/

/-- Any actions lead from `t` to `t'`. -/
abbrev Leads (t t' : MacEventTap) : Prop := tapMachine.Reaches (fun _ => True) t t'

/-- The invariant of the state ring is kept on the way. -/
theorem Leads.seqlockInv {t t' : MacEventTap} (h : Leads t t')
    (ht : SeqlockInv t.dualChannel.stateChannel) : SeqlockInv t'.dualChannel.stateChannel :=
  h.invariant (fun t a _ => tap_seqlockInv_step t a) ht

/-- A step of the callback leads on. -/
theorem Leads.stepEnqueue (t : MacEventTap) : Leads t t.stepEnqueue :=
  .single (a := .stepEnqueue) trivial rfl

/-- A step of the capture thread leads on. -/
theorem Leads.stepCapture (t : MacEventTap) (osModifiers : ModifierState) :
    Leads t (t.stepCapture osModifiers) :=
  .single (a := .stepCapture osModifiers) trivial rfl

/-- A tap whose `enqueue` is inside `tryPush(event)`, with the state ring `c`. -/
def MacEventTap.inTryPush (t : MacEventTap) (event : StateEvent)
    (c : Channel RawInputEventFlat spscStateCapacity) : MacEventTap :=
  { t with dualChannel := { t.dualChannel with stateChannel := c, enqueuePc := .tryPush event } }

/-- A call with a state event begins with `tryPush` of the state ring. -/
theorem callEnqueue_inTryPush {t : MacEventTap} (hidle : t.dualChannel.enqueuePc = .idle)
    (hproducer : t.dualChannel.stateChannel.producer = .idle) (event : StateEvent) :
    t.callEnqueue event.val = t.inTryPush event
      { t.dualChannel.stateChannel with producer := .loadHead .tryPush event.val } := by
  have hstate : DualChannelSpsc.isStateEvent event.val = true := event.property
  simp [MacEventTap.callEnqueue, DualChannelSpsc.callEnqueue, hidle, hstate,
    MacEventTap.inTryPush, Channel.callPush, hproducer]

/-- The accesses of `tryPush` before its last are accesses of `enqueue`. -/
theorem inTryPush_leads (t : MacEventTap) (event : StateEvent)
    {c c' : Channel RawInputEventFlat spscStateCapacity} (h : Pending Channel.stepPush c c') :
    Leads (t.inTryPush event c) (t.inTryPush event c') := by
  refine h.reaches (a := .stepEnqueue) (t.inTryPush event) trivial ?_
  intro c hret
  simp [tapMachine, MacEventTap.stepEnqueue, DualChannelSpsc.stepEnqueue, MacEventTap.inTryPush,
    hret]

/-- `enqueue` of a state event alone, with room in the state ring. -/
theorem enqueue_alone {t : MacEventTap} (hidle : t.dualChannel.enqueuePc = .idle)
    (hproducer : t.dualChannel.stateChannel.producer = .idle) (event : StateEvent)
    (hroom : subU64 t.dualChannel.stateChannel.ring.head t.dualChannel.stateChannel.ring.tail ≠
      spscStateCapacity.val) :
    ∃ c, Leads t
        { t with
          dualChannel := { t.dualChannel with
            stateChannel := c
            returned := t.dualChannel.returned ++ [(event.val, .Success)] } } ∧
      PushDone .tryPush event.val t.dualChannel.stateChannel.ring.head
        t.dualChannel.stateChannel c := by
  obtain ⟨c, ⟨last, hpending, hlast⟩, hdone⟩ := tryPush_alone
    { t.dualChannel.stateChannel with producer := .loadHead .tryPush event.val } rfl hroom
  refine ⟨c, ?_, ⟨hdone.producer, hdone.head, hdone.tail, hdone.drops, hdone.pushed,
    hdone.consumer, hdone.popped⟩⟩
  -- The call, the accesses of `tryPush` but the last, and the last, which returns.
  refine .trans (.single (a := .callEnqueue event.val) trivial
    (callEnqueue_inTryPush hidle hproducer event)) ?_
  refine (inTryPush_leads t event hpending).trans (.single (a := .stepEnqueue) trivial ?_)
  simp only [tapMachine, MacEventTap.stepEnqueue, DualChannelSpsc.stepEnqueue,
    MacEventTap.inTryPush, hlast, DualChannelSpsc.returnEnqueue, hidle]

/-- `enqueue` of a state event alone, with the state ring full: the event is rejected. -/
theorem enqueue_alone_full {t : MacEventTap} (hidle : t.dualChannel.enqueuePc = .idle)
    (hproducer : t.dualChannel.stateChannel.producer = .idle) (event : StateEvent)
    (hfull : subU64 t.dualChannel.stateChannel.ring.head t.dualChannel.stateChannel.ring.tail =
      spscStateCapacity.val) :
    Leads t
      { t with
        dualChannel := { t.dualChannel with
          stateChannelSaturated := true
          stateChannelSaturatedCount := t.dualChannel.stateChannelSaturatedCount + 1
          returned := t.dualChannel.returned ++ [(event.val, .StateSaturated)] }
        rejectedAt := t.resyncsBegun
        rejections := t.rejections ++ [t.resyncsBegun] } := by
  obtain ⟨last, hpending, hlast⟩ := tryPush_alone_full
    { t.dualChannel.stateChannel with producer := .loadHead .tryPush event.val } rfl hfull
  refine .trans (.single (a := .callEnqueue event.val) trivial
    (callEnqueue_inTryPush hidle hproducer event)) ?_
  refine (inTryPush_leads t event hpending).trans ?_
  -- The refusing access, the flag store, and the count.
  refine .trans (Leads.stepEnqueue _) (.trans (Leads.stepEnqueue _)
    (.single (a := .stepEnqueue) trivial ?_))
  simp only [tapMachine, MacEventTap.stepEnqueue, DualChannelSpsc.stepEnqueue,
    MacEventTap.inTryPush, hlast, DualChannelSpsc.returnEnqueue, hidle]
  rw [← hproducer]

/-- `n` state events alone, with room for all of them in the state ring. -/
theorem fill_alone (t : MacEventTap) (hidle : t.dualChannel.enqueuePc = .idle)
    (hproducer : t.dualChannel.stateChannel.producer = .idle) (event : StateEvent) {n : Nat}
    (hle : t.dualChannel.stateChannel.ring.tail ≤ t.dualChannel.stateChannel.ring.head)
    (hroom : t.dualChannel.stateChannel.ring.head + n ≤
      t.dualChannel.stateChannel.ring.tail + spscStateCapacity.val) :
    ∃ c returned, Leads t
        { t with dualChannel := { t.dualChannel with stateChannel := c, returned := returned } } ∧
      c.producer = .idle ∧ c.consumer = t.dualChannel.stateChannel.consumer ∧
      c.ring.head = t.dualChannel.stateChannel.ring.head + n ∧
      c.ring.tail = t.dualChannel.stateChannel.ring.tail := by
  induction n with
  | zero => exact ⟨_, _, .refl t, hproducer, rfl, rfl, rfl⟩
  | succ n ih =>
    obtain ⟨c, returned, hreach, hproducer', hconsumer, hhead, htail⟩ := ih (by omega)
    -- `n` events are in; there is room for one more.
    have hfree : subU64 c.ring.head c.ring.tail ≠ spscStateCapacity.val := by
      have hle' : c.ring.tail ≤ c.ring.head := by omega
      rw [subU64, if_pos hle']
      omega
    obtain ⟨c', hreach', hdone⟩ := enqueue_alone
      (t := { t with dualChannel := { t.dualChannel with
        stateChannel := c, returned := returned } }) hidle hproducer' event hfree
    refine ⟨c', _, hreach.trans hreach', hdone.producer, hdone.consumer.trans hconsumer, ?_,
      hdone.tail.trans htail⟩
    rw [hdone.head]
    show c.ring.head + 1 = _
    omega

/-- A tap in the `tryPopState` of the draining loop, with the state ring `c`. -/
def MacEventTap.inDrain (t : MacEventTap) (c : Channel RawInputEventFlat spscStateCapacity) :
    MacEventTap :=
  { t with dualChannel := { t.dualChannel with stateChannel := c }, capturePc := .drainState }

/-- The accesses of `tryPop` before its last are accesses of the draining loop. -/
theorem inDrain_leads (t : MacEventTap) {c c' : Channel RawInputEventFlat spscStateCapacity}
    (h : Pending Channel.stepPop c c') : Leads (t.inDrain c) (t.inDrain c') := by
  refine h.reaches (a := .stepCapture t.resync.groundTruthModifiers) t.inDrain trivial ?_
  intro c hret
  simp [tapMachine, MacEventTap.stepCapture, MacEventTap.afterPop, MacEventTap.inDrain,
    DualChannelSpsc.stepPopState, hret]

/-- The draining loop alone takes every item, by induction on how many there are. -/
theorem drainState_alone (t : MacEventTap) {c : Channel RawInputEventFlat spscStateCapacity}
    (hs : SeqlockInv c) (hproducer : c.producer = .idle) (hconsumer : c.consumer = .loadTail)
    (hfull : c.ring.head ≤ c.ring.tail + spscStateCapacity.val) :
    ∃ c' processed, Leads (t.inDrain c)
        { t with
          dualChannel := { t.dualChannel with stateChannel := c' }
          capturePc := .loadEmptyHead
          processed := processed } ∧
      c'.ring.head = c'.ring.tail := by
  induction hn : c.ring.head - c.ring.tail generalizing t c with
  | zero =>
    -- An empty ring: `tryPopState` returns false and the loop ends.
    have hempty : c.ring.head = c.ring.tail := by
      have := hs.reader.tail_le
      omega
    obtain ⟨c', ⟨last, hpending, hlast⟩, hframe, -⟩ := tryPop_alone_empty hconsumer hempty
    refine ⟨c', t.processed, (inDrain_leads t hpending).trans
      (.single (a := .stepCapture t.resync.groundTruthModifiers) trivial ?_), ?_⟩
    · simp only [tapMachine, MacEventTap.stepCapture, MacEventTap.afterPop, MacEventTap.inDrain,
        DualChannelSpsc.stepPopState, hlast]
    · rw [hframe.ring]
      exact hempty
  | succ n ih =>
    obtain ⟨c₁, item, ⟨last, hpending, hlast⟩, hdone⟩ :=
      tryPop_alone hs hproducer hconsumer (by omega) hfull
    -- The loop hands the item to `processEvent` and calls `tryPopState` again.
    have hnext : Leads (t.inDrain last) ((t.processEvent item).inDrain
        { c₁ with consumer := .loadTail }) := by
      refine .single (a := .stepCapture t.resync.groundTruthModifiers) trivial ?_
      simp only [tapMachine, MacEventTap.stepCapture, MacEventTap.afterPop, MacEventTap.inDrain,
        DualChannelSpsc.stepPopState, hlast, MacEventTap.callPopState,
        DualChannelSpsc.callPopState, Channel.callPop, hdone.consumer, MacEventTap.processEvent]
    have hreach := (inDrain_leads t hpending).trans hnext
    have hs₁ : SeqlockInv { c₁ with consumer := .loadTail } :=
      Leads.seqlockInv (t := t.inDrain c) hreach hs
    have hring := hdone.ring
    -- The other `n` items, from the ring with one item less.
    obtain ⟨c', processed, hrest, hempty⟩ := ih (t.processEvent item) hs₁
      (hdone.producer.trans hproducer) rfl (by simp only [hring]; omega)
      (by simp only [hring]; omega)
    exact ⟨c', processed, hreach.trans hrest, hempty⟩

end CrossFlow
