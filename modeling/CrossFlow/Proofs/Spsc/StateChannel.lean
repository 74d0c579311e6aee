import CrossFlow.Platform.Mac.DualChannelSpsc
import CrossFlow.Proofs.Spsc.Lossless

/-!
# `CrossFlow.Proofs.Spsc.StateChannel`: the state channel loses nothing

`stateChannelView` sees a `DualChannelSpsc` as its state ring. Only `tryPush` is ever called on
it, so `LosslessInv` holds in every reachable state. `EnqueueInv` relates the ring to the results
of the finished `enqueue` calls.

`stateTrafficView` sees a `DualChannelSpsc` as itself with the data traffic erased: the data ring
stays empty, and an `enqueue` of a data event does not happen. That this is a refinement says
that no step of the data traffic changes what becomes of a state event.

* `stateChannel_lossless`: the guarantees of the state channel in every reachable state.
-/

set_option autoImplicit false

namespace CrossFlow

open DualChannelSpsc

/-! ### The state ring by itself -/

/-- The state ring of a `DualChannelSpsc`, under the calls `enqueue` and `tryPopState` make. -/
def stateChannelView :
    Lib.Refinement dualMachine (spscMachine RawInputEventFlat spscStateCapacity) where
  view d := d.stateChannel
  acts d a :=
    match a, d.enqueuePc with
    | .callEnqueue event, .idle =>
      if isStateEvent event then [.callPush .tryPush event] else []
    | .stepEnqueue, .tryPush _ => [.stepPush]
    | .callPopState, _ => [.callPop]
    | .stepPopState, _ => [.stepPop]
    | _, _ => []
  view_init := rfl
  view_step d a := by
    cases a with
    | callEnqueue event =>
      cases hpc : d.enqueuePc with
      | idle =>
        by_cases hstate : isStateEvent event
        · simp [dualMachine, callEnqueue, hpc, hstate, spscMachine]
        · simp [dualMachine, callEnqueue, hpc, hstate]
      | _ => simp [dualMachine, callEnqueue, hpc]
    | stepEnqueue =>
      cases hpc : d.enqueuePc with
      | tryPush event =>
        simp only [dualMachine, stepEnqueue, hpc, spscMachine, Lib.Machine.runFrom_cons,
          Lib.Machine.runFrom_nil]
        split <;> rfl
      -- A step of the data ring is no step of the state ring.
      | tryPushDropOldest event =>
        simp only [dualMachine, stepEnqueue, hpc]
        split <;> rfl
      | loadDropCount event =>
        simp only [dualMachine, stepEnqueue, hpc]
        split <;> rfl
      | _ => simp [dualMachine, stepEnqueue, hpc, returnEnqueue]
    | callPopState => rfl
    | stepPopState => rfl
    | callPopData => rfl
    | stepPopData => rfl
    | clearStateChannelSaturated => rfl

/-- The state ring only ever sees `tryPush`. -/
theorem stateChannelView_onlyTryPush (d : DualChannelSpsc) (a : DualAction) :
    ∀ b ∈ stateChannelView.acts d a, b.OnlyTryPush := by
  intro b hb
  simp only [stateChannelView] at hb
  split at hb
  · split at hb
    · rw [List.mem_singleton.mp hb]
      exact rfl
    · exact absurd hb List.not_mem_nil
  · rw [List.mem_singleton.mp hb]
    trivial
  · rw [List.mem_singleton.mp hb]
    trivial
  · rw [List.mem_singleton.mp hb]
    trivial
  · exact absurd hb List.not_mem_nil

/-- The state ring satisfies the lossless invariant in every reachable state. -/
theorem stateChannel_losslessInv (acts : List DualAction) :
    SeqlockInv (dualMachine.run acts).stateChannel ∧
      LosslessInv (dualMachine.run acts).stateChannel := by
  have hview : (dualMachine.run acts).stateChannel =
      (spscMachine _ _).run (stateChannelView.trace dualMachine.init acts) :=
    stateChannelView.view_run acts
  rw [hview]
  refine losslessInv_run (Lib.Machine.meets_of_forall ?_)
  intro b hb _
  obtain ⟨d, a, -, hmem⟩ := stateChannelView.mem_trace hb
  exact stateChannelView_onlyTryPush d a b hmem

/-! ### The results of `enqueue` -/

/-- The push call is a `tryPush(item)` in progress. -/
def ProducerPc.TryPushOf {T : Type} (item : T) : ProducerPc T → Prop
  | .loadHead kind x | .beginWrite kind x _ | .storeWord kind x _ _ | .endWrite kind x _
  | .storeHead kind x _ => kind = .tryPush ∧ x = item
  | .loadTail x _ => x = item
  | .idle | .checkDrop _ | .countDrop => False

/-- What one step of a `tryPush(item)` comes to: the call goes on, or it publishes `item` and
returns true, or it returns false. -/
theorem ProducerPc.TryPushOf.step_cases {T : Type} [TriviallyCopyable T] {cap : Capacity}
    {item : T} {pc : ProducerPc T} (hpc : pc.TryPushOf item) (r : SpscRingBuffer T cap) :
    ((pc.step r).ret = none ∧ (pc.step r).pc.TryPushOf item ∧ pc.publishes = []) ∨
      ((pc.step r).ret = some true ∧ (pc.step r).pc = .idle ∧
        pc.publishes.map Prod.snd = [item]) ∨
      ((pc.step r).ret = some false ∧ (pc.step r).pc = .idle ∧ pc.publishes = []) := by
  cases pc with
  | idle => exact hpc.elim
  | loadHead kind x =>
    obtain ⟨rfl, rfl⟩ := hpc
    exact Or.inl ⟨rfl, rfl, rfl⟩
  | loadTail x h =>
    simp only [step]
    split
    · exact Or.inr (Or.inr ⟨rfl, rfl, rfl⟩)
    · exact Or.inl ⟨rfl, ⟨rfl, hpc⟩, rfl⟩
  | beginWrite kind x h => exact Or.inl ⟨rfl, hpc, rfl⟩
  | storeWord kind x h k =>
    simp only [step]
    split
    all_goals exact Or.inl ⟨rfl, hpc, rfl⟩
  | endWrite kind x h => exact Or.inl ⟨rfl, hpc, rfl⟩
  | storeHead kind x h =>
    -- `head_.store` publishes the item and returns.
    obtain ⟨rfl, rfl⟩ := hpc
    exact Or.inr (Or.inl ⟨rfl, rfl, rfl⟩)
  | checkDrop h => exact hpc.elim
  | countDrop => exact hpc.elim

/-- The state ring's push call, as `enqueue` stands. -/
def EnqueuePc.Drives (producer : ProducerPc RawInputEventFlat) : EnqueuePc → Prop
  | .tryPush event => producer.TryPushOf event.val
  | _ => producer = .idle

/-- The invariant that relates the state ring to the results of `enqueue`. -/
structure EnqueueInv (d : DualChannelSpsc) : Prop where
  pc : d.enqueuePc.Drives d.stateChannel.producer
  accepted : d.accepted = d.stateChannel.pushed.map Prod.snd
  count : d.stateChannelSaturatedCount = d.rejected.length

/-- A state event that succeeds is accepted. -/
theorem accepted_returnEnqueue (d : DualChannelSpsc) (event : RawInputEventFlat)
    (result : ChannelResult) :
    (d.returnEnqueue event result).accepted =
      d.accepted ++ (if isStateEvent event ∧ result = .Success then [event] else []) := by
  by_cases hstate : isStateEvent event <;> by_cases hres : result = .Success <;>
    simp [accepted, returnEnqueue, List.filter_append, hstate, hres]

/-- A state event that finds no room is rejected. -/
theorem rejected_returnEnqueue (d : DualChannelSpsc) (event : RawInputEventFlat)
    (result : ChannelResult) :
    (d.returnEnqueue event result).rejected =
      d.rejected ++ (if isStateEvent event ∧ result = .StateSaturated then [event] else []) := by
  by_cases hstate : isStateEvent event <;> by_cases hres : result = .StateSaturated <;>
    simp [rejected, returnEnqueue, List.filter_append, hstate, hres]

/-- A step of an enqueue keeps the invariant. -/
theorem EnqueueInv.stepEnqueue {d : DualChannelSpsc} (hd : EnqueueInv d) :
    EnqueueInv d.stepEnqueue := by
  obtain ⟨hdrives, hacc, hcount⟩ := hd
  unfold DualChannelSpsc.stepEnqueue
  cases hpc : d.enqueuePc with
  | idle => exact ⟨hdrives, hacc, hcount⟩
  | tryPush event =>
    rw [hpc] at hdrives
    have hstep := hdrives.step_cases d.stateChannel.ring
    have hret : d.stateChannel.stepPush.2 =
        (d.stateChannel.producer.step d.stateChannel.ring).ret := rfl
    have hpushed : d.stateChannel.stepPush.1.pushed =
        d.stateChannel.pushed ++ d.stateChannel.producer.publishes := rfl
    rcases hstep with ⟨hnone, hgoes, hpub⟩ | ⟨htrue, hidle, hpub⟩ | ⟨hfalse, hidle, hpub⟩
    -- The `tryPush` goes on.
    · simp only [hret, hnone]
      refine ⟨hgoes, ?_, hcount⟩
      show d.accepted = d.stateChannel.stepPush.1.pushed.map Prod.snd
      rw [hpushed, hpub, List.append_nil]
      exact hacc
    -- It returns true: the event is accepted, and it is the push just published.
    · simp only [hret, htrue]
      refine ⟨hidle, ?_, ?_⟩
      · rw [accepted_returnEnqueue]
        show d.accepted ++ _ = d.stateChannel.stepPush.1.pushed.map Prod.snd
        rw [hpushed, List.map_append, hpub, hacc, if_pos ⟨event.property, rfl⟩]
      · rw [rejected_returnEnqueue, if_neg (by simp), List.append_nil]
        exact hcount
    -- It returns false: nothing is published, and the rejection is still to be counted.
    · simp only [hret, hfalse]
      refine ⟨hidle, ?_, hcount⟩
      show d.accepted = d.stateChannel.stepPush.1.pushed.map Prod.snd
      rw [hpushed, hpub, List.append_nil]
      exact hacc
  | storeSaturated event =>
    rw [hpc] at hdrives
    exact ⟨hdrives, hacc, hcount⟩
  | countSaturated event =>
    rw [hpc] at hdrives
    refine ⟨hdrives, ?_, ?_⟩
    · rw [accepted_returnEnqueue, if_neg (by simp), List.append_nil]
      exact hacc
    · rw [rejected_returnEnqueue, if_pos ⟨event.property, rfl⟩, List.length_append]
      show d.stateChannelSaturatedCount + 1 = d.rejected.length + 1
      rw [hcount]
  | tryPushDropOldest event =>
    rw [hpc] at hdrives
    simp only
    split
    · exact ⟨hdrives, hacc, hcount⟩
    · exact ⟨hdrives, hacc, hcount⟩
  | loadDropCount event =>
    rw [hpc] at hdrives
    -- The result of a data event is neither in `accepted` nor in `rejected`.
    have hdata : ¬ isStateEvent event.val = true := event.property
    simp only
    split
    all_goals
      refine ⟨hdrives, ?_, ?_⟩
      · rw [accepted_returnEnqueue, if_neg (fun h => hdata h.1), List.append_nil]
        exact hacc
      · rw [rejected_returnEnqueue, if_neg (fun h => hdata h.1), List.append_nil]
        exact hcount

/-- The call of an enqueue keeps the invariant. -/
theorem EnqueueInv.callEnqueue {d : DualChannelSpsc} (hd : EnqueueInv d)
    (event : RawInputEventFlat) : EnqueueInv (d.callEnqueue event) := by
  obtain ⟨hdrives, hacc, hcount⟩ := hd
  unfold DualChannelSpsc.callEnqueue
  cases hpc : d.enqueuePc with
  | idle =>
    rw [hpc] at hdrives
    have hidle : d.stateChannel.producer = .idle := hdrives
    simp only
    split
    · refine ⟨?_, ?_, hcount⟩
      · simp [EnqueuePc.Drives, Channel.callPush, hidle, ProducerPc.TryPushOf]
      · simp only [Channel.callPush, hidle]
        exact hacc
    · exact ⟨hdrives, hacc, hcount⟩
  | _ => exact ⟨hdrives, hacc, hcount⟩

/-- The invariant holds after every run. -/
theorem enqueueInv_run : dualMachine.Invariant EnqueueInv := by
  refine Lib.Machine.Invariant.of_step ⟨rfl, rfl, rfl⟩ ?_
  intro d a hd
  obtain ⟨hdrives, hacc, hcount⟩ := hd
  cases a with
  | callEnqueue event => exact EnqueueInv.callEnqueue ⟨hdrives, hacc, hcount⟩ event
  | stepEnqueue => exact EnqueueInv.stepEnqueue ⟨hdrives, hacc, hcount⟩
  -- The call of a pop leaves the producer and what it has pushed.
  | callPopState =>
    have hcall : d.stateChannel.callPop.producer = d.stateChannel.producer ∧
        d.stateChannel.callPop.pushed = d.stateChannel.pushed := by
      unfold Channel.callPop
      split <;> exact ⟨rfl, rfl⟩
    refine ⟨?_, ?_, hcount⟩
    · show d.enqueuePc.Drives d.stateChannel.callPop.producer
      rw [hcall.1]
      exact hdrives
    · show d.accepted = d.stateChannel.callPop.pushed.map Prod.snd
      rw [hcall.2]
      exact hacc
  | stepPopState => exact ⟨hdrives, hacc, hcount⟩
  | callPopData => exact ⟨hdrives, hacc, hcount⟩
  | stepPopData => exact ⟨hdrives, hacc, hcount⟩
  | clearStateChannelSaturated => exact ⟨hdrives, hacc, hcount⟩

/-! ### The data traffic erased -/

/-- The action is none of the data traffic's calls. -/
def DualAction.OnState : DualAction → Prop
  | .callEnqueue event => isStateEvent event = true
  | .callPopData | .stepPopData => False
  | _ => True

/-- An `enqueue` of a data event does not happen. -/
def EnqueuePc.eraseData : EnqueuePc → EnqueuePc
  | .tryPushDropOldest _ | .loadDropCount _ => .idle
  | pc => pc

/-- The `DualChannelSpsc` as it would be without its data traffic. -/
def DualChannelSpsc.eraseData (d : DualChannelSpsc) : DualChannelSpsc :=
  { d with
    dataChannel := .init
    enqueuePc := d.enqueuePc.eraseData
    returned := d.returned.filter fun r => isStateEvent r.1 }

/-- A step is kept unless it belongs to the data traffic. -/
def DualAction.eraseData (a : DualAction) (d : DualChannelSpsc) : List DualAction :=
  match a, d.enqueuePc with
  | .callEnqueue event, .idle => if isStateEvent event then [.callEnqueue event] else []
  | .callEnqueue _, _ => []
  | .stepEnqueue, .tryPushDropOldest _ | .stepEnqueue, .loadDropCount _ => []
  | .callPopData, _ | .stepPopData, _ => []
  | a, _ => [a]

/-- The return of a data event leaves the state channel. -/
theorem eraseData_returnEnqueue_data (d : DualChannelSpsc) (event : DataEvent)
    (result : ChannelResult) :
    (d.returnEnqueue event.val result).eraseData =
      { d.eraseData with enqueuePc := .idle } := by
  have hdata : ¬ isStateEvent event.val = true := event.property
  simp [DualChannelSpsc.eraseData, returnEnqueue, List.filter_append, hdata, EnqueuePc.eraseData]

/-- The return of a state event is that of the state channel. -/
theorem eraseData_returnEnqueue_state (d : DualChannelSpsc) (event : StateEvent)
    (result : ChannelResult) :
    (d.returnEnqueue event.val result).eraseData = d.eraseData.returnEnqueue event.val result := by
  have hstate : isStateEvent event.val = true := event.property
  simp [DualChannelSpsc.eraseData, returnEnqueue, List.filter_append, hstate, EnqueuePc.eraseData]

/-- The machine seen without its data traffic. -/
def stateTrafficView : Lib.Refinement dualMachine dualMachine where
  view := DualChannelSpsc.eraseData
  acts d a := a.eraseData d
  view_init := rfl
  view_step d a := by
    cases a with
    | callEnqueue event =>
      cases hpc : d.enqueuePc with
      | idle =>
        by_cases hstate : isStateEvent event
        · simp [dualMachine, callEnqueue, DualAction.eraseData, DualChannelSpsc.eraseData,
            EnqueuePc.eraseData, hpc, hstate]
        · simp [dualMachine, callEnqueue, DualAction.eraseData, DualChannelSpsc.eraseData,
            EnqueuePc.eraseData, hpc, hstate]
      | _ =>
        simp [dualMachine, callEnqueue, DualAction.eraseData, DualChannelSpsc.eraseData, hpc]
    | stepEnqueue =>
      cases hpc : d.enqueuePc with
      | idle =>
        simp [dualMachine, stepEnqueue, DualAction.eraseData, DualChannelSpsc.eraseData,
          EnqueuePc.eraseData, hpc]
      | tryPush event =>
        have hpc' : d.eraseData.enqueuePc = .tryPush event := by
          simp [DualChannelSpsc.eraseData, EnqueuePc.eraseData, hpc]
        have hacts : DualAction.stepEnqueue.eraseData d = [.stepEnqueue] := by
          simp [DualAction.eraseData, hpc]
        rw [hacts]
        simp only [dualMachine, stepEnqueue, hpc, hpc', Lib.Machine.runFrom_cons,
          Lib.Machine.runFrom_nil]
        -- The erased machine makes the same access on the same ring, so it returns the same.
        have hring : d.eraseData.stateChannel = d.stateChannel := rfl
        rw [hring]
        cases hret : d.stateChannel.stepPush.2 with
        | none => simp [DualChannelSpsc.eraseData, EnqueuePc.eraseData]
        | some accepted =>
          cases accepted with
          | true =>
            rw [eraseData_returnEnqueue_state]
            simp [DualChannelSpsc.eraseData, EnqueuePc.eraseData]
          | false => simp [DualChannelSpsc.eraseData, EnqueuePc.eraseData]
      | storeSaturated event =>
        simp [dualMachine, stepEnqueue, DualAction.eraseData, DualChannelSpsc.eraseData,
          EnqueuePc.eraseData, hpc]
      | countSaturated event =>
        have hpc' : d.eraseData.enqueuePc = .countSaturated event := by
          simp [DualChannelSpsc.eraseData, EnqueuePc.eraseData, hpc]
        have hacts : DualAction.stepEnqueue.eraseData d = [.stepEnqueue] := by
          simp [DualAction.eraseData, hpc]
        rw [hacts]
        simp only [dualMachine, stepEnqueue, hpc, hpc', Lib.Machine.runFrom_cons,
          Lib.Machine.runFrom_nil]
        exact eraseData_returnEnqueue_state _ _ _
      -- The data ring is erased and the call is seen as idle before and after.
      | tryPushDropOldest event =>
        simp only [dualMachine, stepEnqueue, DualAction.eraseData, hpc, Lib.Machine.runFrom_nil]
        split
        all_goals simp [DualChannelSpsc.eraseData, EnqueuePc.eraseData, hpc]
      | loadDropCount event =>
        simp only [dualMachine, stepEnqueue, DualAction.eraseData, hpc, Lib.Machine.runFrom_nil]
        split
        all_goals
          rw [eraseData_returnEnqueue_data]
          simp [DualChannelSpsc.eraseData, EnqueuePc.eraseData, hpc]
    | callPopState => cases hpc : d.enqueuePc <;> simp [DualAction.eraseData] <;> rfl
    | stepPopState => cases hpc : d.enqueuePc <;> simp [DualAction.eraseData] <;> rfl
    | callPopData => cases hpc : d.enqueuePc <;> simp [DualAction.eraseData] <;> rfl
    | stepPopData => cases hpc : d.enqueuePc <;> simp [DualAction.eraseData] <;> rfl
    | clearStateChannelSaturated =>
      cases hpc : d.enqueuePc <;> simp [DualAction.eraseData] <;> rfl

/-- What is left of a schedule once the data traffic's steps are taken out. -/
def stateTraffic (acts : List DualAction) : List DualAction :=
  stateTrafficView.trace dualMachine.init acts

/-- A step is dropped, or it is kept and is not a call of the data traffic. -/
theorem DualAction.eraseData_cases (d : DualChannelSpsc) (a : DualAction) :
    a.eraseData d = [] ∨ (a.eraseData d = [a] ∧ a.OnState) := by
  cases a with
  -- Without the data channel only the calls and steps of the state channel are left.
  | callEnqueue event =>
    cases hpc : d.enqueuePc with
    | idle =>
      by_cases hstate : isStateEvent event
      · exact Or.inr ⟨by simp [eraseData, hpc, hstate], hstate⟩
      · exact Or.inl (by simp [eraseData, hpc, hstate])
    | _ => exact Or.inl (by simp [eraseData, hpc])
  | stepEnqueue =>
    cases hpc : d.enqueuePc with
    | tryPushDropOldest event => exact Or.inl (by simp [eraseData, hpc])
    | loadDropCount event => exact Or.inl (by simp [eraseData, hpc])
    | _ => exact Or.inr ⟨by simp [eraseData, hpc], trivial⟩
  | callPopData => exact Or.inl (by cases hpc : d.enqueuePc <;> simp [eraseData])
  | stepPopData => exact Or.inl (by cases hpc : d.enqueuePc <;> simp [eraseData])
  | _ => exact Or.inr ⟨by cases hpc : d.enqueuePc <;> simp [eraseData], trivial⟩

/-- The traffic of the state channel is part of the run. -/
theorem stateTraffic_sublist (acts : List DualAction) : (stateTraffic acts).Sublist acts := by
  refine stateTrafficView.trace_sublist ?_ _ acts
  intro d a
  show (a.eraseData d).Sublist [a]
  rcases a.eraseData_cases d with hdrop | ⟨hkeep, -⟩
  · rw [hdrop]
    exact List.nil_sublist _
  · rw [hkeep]

/-- Every action of that traffic is on the state channel. -/
theorem stateTraffic_onState (acts : List DualAction) : ∀ a ∈ stateTraffic acts, a.OnState := by
  intro b hb
  obtain ⟨d, a, -, hmem⟩ := stateTrafficView.mem_trace hb
  change b ∈ a.eraseData d at hmem
  rcases a.eraseData_cases d with hdrop | ⟨hkeep, hstate⟩
  · rw [hdrop] at hmem
    exact absurd hmem List.not_mem_nil
  · rw [hkeep] at hmem
    rw [List.mem_singleton.mp hmem]
    exact hstate

/-- Erasing the data traffic keeps the results of the state events. -/
theorem results_eraseData (d : DualChannelSpsc) :
    d.eraseData.accepted = d.accepted ∧ d.eraseData.rejected = d.rejected := by
  constructor
  -- The filter of the erasure is part of the filter of `accepted`.
  · simp only [accepted, DualChannelSpsc.eraseData, List.filter_filter]
    congr 2
    funext r
    cases isStateEvent r.1 <;> simp
  · simp only [rejected, DualChannelSpsc.eraseData, List.filter_filter]
    congr 2
    funext r
    cases isStateEvent r.1 <;> simp

/-! ### Every run -/

/-- The `tryPop` call is in one of its two skip branches. -/
def ConsumerPc.Skipping {T : Type} [TriviallyCopyable T] : ConsumerPc T → Prop
  | .storeBoundary _ _ | .skipSlot _ => True
  | _ => False

/-- The state events popped are a prefix of the accepted ones. -/
theorem stateChannel_popped_initial (acts : List DualAction) :
    (dualMachine.run acts).poppedStates <+: (dualMachine.run acts).accepted := by
  obtain ⟨-, hlossless⟩ := stateChannel_losslessInv acts
  have henq : EnqueueInv (dualMachine.run acts) := enqueueInv_run acts
  rw [henq.accepted]
  exact hlossless.popped_initial

/-- **The state channel is lossless.** In every state that any interleaving reaches:

1. the state events popped are a prefix of those whose `enqueue` returned `Success`, and at most
   `SPSC_STATE_CAPACITY` accepted ones are not popped yet;
2. every `tryPopState` that returned false had read `head_` with no accepted push outstanding;
3. `tryPopState` is in neither skip branch;
4. with no `enqueue` in progress, `stateChannelSaturatedCount` is the number of rejected state
   events;
5. the same schedule without its data traffic accepts and rejects the same state events. -/
theorem stateChannel_lossless (acts : List DualAction) :
    let d := dualMachine.run acts
    let d' := dualMachine.run (stateTraffic acts)
    (d.poppedStates <+: d.accepted ∧
        d.accepted.length ≤ d.poppedStates.length + spscStateCapacity.val) ∧
      (∀ k ∈ d.stateChannel.refused, k = 0) ∧
      ¬ d.stateChannel.consumer.Skipping ∧
      (d.enqueuePc = .idle → d.stateChannelSaturatedCount = d.rejected.length) ∧
      ((stateTraffic acts).Sublist acts ∧ (∀ a ∈ stateTraffic acts, a.OnState) ∧
        d'.accepted = d.accepted ∧ d'.rejected = d.rejected) := by
  obtain ⟨hseq, hlossless⟩ := stateChannel_losslessInv acts
  have henq : EnqueueInv (dualMachine.run acts) := enqueueInv_run acts
  have herase : (dualMachine.run acts).eraseData = dualMachine.run (stateTraffic acts) :=
    stateTrafficView.view_run acts
  obtain ⟨hacc, hrej⟩ := results_eraseData (dualMachine.run acts)
  refine ⟨⟨stateChannel_popped_initial acts, ?_⟩, hlossless.refused, ?_, fun _ => henq.count,
    stateTraffic_sublist acts, stateTraffic_onState acts, ?_, ?_⟩
  · rw [henq.accepted, poppedStates, List.length_map, List.length_map]
    exact hlossless.pushed_length_le hseq
  · -- A lossless channel never skips, so the two steps of skipping are out.
    have hcon := hlossless.consumer
    cases hp : (dualMachine.run acts).stateChannel.consumer with
    | storeBoundary h boundary => rw [hp] at hcon; exact hcon.elim
    | skipSlot ct => rw [hp] at hcon; exact hcon.elim
    | _ => exact not_false
  · rw [← herase, hacc]
  · rw [← herase, hrej]

end CrossFlow
