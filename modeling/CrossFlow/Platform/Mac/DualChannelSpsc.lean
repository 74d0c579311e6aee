import CrossFlow.Platform.Common.SpscRingBuffer

/-!
# `CrossFlow.Platform.Mac.DualChannelSpsc`: the state channel and the data channel

The model of `platform/mac/dual_channel_spsc.hpp` and `.cpp`. `enqueue` runs on the tap callback's
thread and calls one of the two rings. It is modelled access by access, like the rings: while it
is inside a ring call, its next access is the ring call's next access.

`dualMachine` interleaves one `enqueue` thread with the pops. The pops of the two rings are not
tied to one thread here, so the schedules of one thread that pops both rings are among the runs.
`clearStateChannelSaturated` may come at any time.

`returned` is a history variable: each finished `enqueue` with its result.
-/

set_option autoImplicit false

namespace CrossFlow

/-- `RawEventKind` (`platform/common/platform_ports.hpp`). -/
inductive RawEventKind where
  | MouseMove
  | MouseButtonPress
  | MouseButtonRelease
  | Wheel
  | KeyPress
  | KeyRelease
  deriving DecidableEq

/-- The enumerator's value. -/
def RawEventKind.toU8 : RawEventKind → UInt8
  | .MouseMove => 0
  | .MouseButtonPress => 1
  | .MouseButtonRelease => 2
  | .Wheel => 3
  | .KeyPress => 4
  | .KeyRelease => 5

/-- `RawInputEventFlat` (`platform/mac/mac_event_field_extractor.hpp`). -/
structure RawInputEventFlat where
  platformTime : UInt64
  modifierFlags : UInt64
  kind : UInt8
  deltaX : Int32
  deltaY : Int32
  button : UInt8
  wheelDelta : Int32
  wheelAxis : UInt8
  keyCode : UInt16
  valid : UInt8
  deriving DecidableEq

namespace RawInputEventFlat

/-- The words of the object's 48 bytes, little-endian, with zero padding. -/
def toWords (e : RawInputEventFlat) : Vector UInt64 6 :=
  #v[e.platformTime,
    e.modifierFlags,
    .ofNat (e.kind.toNat + e.deltaX.toUInt32.toNat * 2 ^ 32),
    .ofNat (e.deltaY.toUInt32.toNat + e.button.toNat * 2 ^ 32),
    .ofNat (e.wheelDelta.toUInt32.toNat + e.wheelAxis.toNat * 2 ^ 32 + e.keyCode.toNat * 2 ^ 48),
    .ofNat e.valid.toNat]

/-- The object at 48 bytes, its padding ignored. -/
def ofWords (w : Vector UInt64 6) : RawInputEventFlat where
  platformTime := w[0]
  modifierFlags := w[1]
  kind := .ofNat (w[2].toNat % 2 ^ 8)
  deltaX := (UInt32.ofNat (w[2].toNat / 2 ^ 32)).toInt32
  deltaY := (UInt32.ofNat (w[3].toNat % 2 ^ 32)).toInt32
  button := .ofNat (w[3].toNat / 2 ^ 32 % 2 ^ 8)
  wheelDelta := (UInt32.ofNat (w[4].toNat % 2 ^ 32)).toInt32
  wheelAxis := .ofNat (w[4].toNat / 2 ^ 32 % 2 ^ 8)
  keyCode := .ofNat (w[4].toNat / 2 ^ 48)
  valid := .ofNat (w[5].toNat % 2 ^ 8)

/-- An event is read back from its words. -/
theorem ofWords_toWords (e : RawInputEventFlat) : ofWords (toWords e) = e := by
  have hkind := e.kind.toNat_lt
  have hdx := e.deltaX.toUInt32.toNat_lt
  have hdy := e.deltaY.toUInt32.toNat_lt
  have hbutton := e.button.toNat_lt
  have hwheel := e.wheelDelta.toUInt32.toNat_lt
  have haxis := e.wheelAxis.toNat_lt
  have hkey := e.keyCode.toNat_lt
  have hvalid := e.valid.toNat_lt
  obtain ⟨time, flags, kind, dx, dy, button, wheel, axis, key, valid⟩ := e
  simp only [ofWords, toWords, mk.injEq] at *
  -- Each field has bits of its own in its word, as it is below the next one's place.
  refine ⟨rfl, rfl, ?kind, ?deltaX, ?deltaY, ?button, ?wheelDelta, ?wheelAxis, ?keyCode, ?valid⟩
  case deltaX =>
    rw [← Int32.toInt32_toUInt32 dx]
    congr 1
    exact UInt32.toNat_inj.mp (by simp; omega)
  case deltaY =>
    rw [← Int32.toInt32_toUInt32 dy]
    congr 1
    exact UInt32.toNat_inj.mp (by simp)
  case wheelDelta =>
    rw [← Int32.toInt32_toUInt32 wheel]
    congr 1
    exact UInt32.toNat_inj.mp (by simp; omega)
  case keyCode => exact UInt16.toNat_inj.mp (by simp; omega)
  case kind => exact UInt8.toNat_inj.mp (by simp; omega)
  case valid => exact UInt8.toNat_inj.mp (by simp)
  all_goals exact UInt8.toNat_inj.mp (by simp; omega)

end RawInputEventFlat

/-- An event is six words. -/
instance : TriviallyCopyable RawInputEventFlat where
  wordCount := 6
  toWords := RawInputEventFlat.toWords
  ofWords := RawInputEventFlat.ofWords
  ofWords_toWords := RawInputEventFlat.ofWords_toWords

/-- `SPSC_DATA_CAPACITY`. -/
def spscDataCapacity : Capacity := ⟨256, by decide, by decide, by decide⟩

/-- `SPSC_STATE_CAPACITY`. -/
def spscStateCapacity : Capacity := ⟨64, by decide, by decide, by decide⟩

/-- `DualChannelSpsc::ChannelResult`. -/
inductive ChannelResult where
  | Success
  | DataDroppedOldest
  | StateSaturated
  deriving DecidableEq

/-- `DualChannelSpsc::isStateEvent`. -/
def DualChannelSpsc.isStateEvent (event : RawInputEventFlat) : Bool :=
  event.kind == RawEventKind.KeyPress.toU8 ||
  event.kind == RawEventKind.KeyRelease.toU8 ||
  event.kind == RawEventKind.MouseButtonPress.toU8 ||
  event.kind == RawEventKind.MouseButtonRelease.toU8

/-- An event on the first branch of `enqueue`. -/
abbrev StateEvent : Type := { event // DualChannelSpsc.isStateEvent event = true }

/-- An event on the second branch of `enqueue`. -/
abbrev DataEvent : Type := { event // ¬ DualChannelSpsc.isStateEvent event = true }

/-- Where an `enqueue` call stands. -/
inductive EnqueuePc where
  | idle
  /-- inside `stateChannel_.tryPush(event)` -/
  | tryPush (event : StateEvent)
  /-- `stateChannelSaturated_.store(true)` -/
  | storeSaturated (event : StateEvent)
  /-- `stateChannelSaturatedCount_.fetch_add(1)` -/
  | countSaturated (event : StateEvent)
  /-- inside `dataChannel_.tryPushDropOldest(event)` -/
  | tryPushDropOldest (event : DataEvent)
  /-- `dataChannel_.cumulativeDropCount()` -/
  | loadDropCount (event : DataEvent)

/-- `DualChannelSpsc`, with the `enqueue` call in progress and the history of finished ones. -/
structure DualChannelSpsc where
  dataChannel : Channel RawInputEventFlat spscDataCapacity
  stateChannel : Channel RawInputEventFlat spscStateCapacity
  stateChannelSaturated : Bool
  stateChannelSaturatedCount : Nat
  enqueuePc : EnqueuePc
  /-- History: the finished `enqueue` calls with their results. -/
  returned : List (RawInputEventFlat × ChannelResult)

namespace DualChannelSpsc

/-- Two empty rings, and no call. -/
def init : DualChannelSpsc where
  dataChannel := .init
  stateChannel := .init
  stateChannelSaturated := false
  stateChannelSaturatedCount := 0
  enqueuePc := .idle
  returned := []

/-- The tap thread calls `enqueue`, unless it is inside it. -/
def callEnqueue (d : DualChannelSpsc) (event : RawInputEventFlat) : DualChannelSpsc :=
  match d.enqueuePc with
  | .idle =>
    if h : isStateEvent event then
      { d with
        stateChannel := d.stateChannel.callPush .tryPush event
        enqueuePc := .tryPush ⟨event, h⟩ }
    else
      { d with
        dataChannel := d.dataChannel.callPush .tryPushDropOldest event
        enqueuePc := .tryPushDropOldest ⟨event, h⟩ }
  | _ => d

/-- `return result`. -/
def returnEnqueue (d : DualChannelSpsc) (event : RawInputEventFlat) (result : ChannelResult) :
    DualChannelSpsc :=
  { d with enqueuePc := .idle, returned := d.returned ++ [(event, result)] }

/-- The `enqueue` call in progress makes its next access. -/
def stepEnqueue (d : DualChannelSpsc) : DualChannelSpsc :=
  match d.enqueuePc with
  | .idle => d
  | .tryPush event =>
    let pushed := d.stateChannel.stepPush
    let d := { d with stateChannel := pushed.1 }
    match pushed.2 with
    | none => d
    | some true => d.returnEnqueue event .Success
    | some false => { d with enqueuePc := .storeSaturated event }
  | .storeSaturated event =>
    { d with stateChannelSaturated := true, enqueuePc := .countSaturated event }
  | .countSaturated event =>
    { d with stateChannelSaturatedCount := d.stateChannelSaturatedCount + 1 }.returnEnqueue
      event .StateSaturated
  | .tryPushDropOldest event =>
    let pushed := d.dataChannel.stepPush
    let d := { d with dataChannel := pushed.1 }
    match pushed.2 with
    | none => d
    | some _ => { d with enqueuePc := .loadDropCount event }
  | .loadDropCount event =>
    if 0 < d.dataChannel.ring.cumulativeDropCount then d.returnEnqueue event .DataDroppedOldest
    else d.returnEnqueue event .Success

/-- A call of `tryPopState`. -/
def callPopState (d : DualChannelSpsc) : DualChannelSpsc :=
  { d with stateChannel := d.stateChannel.callPop }

/-- The `tryPopState` call in progress makes its next access. The second component is its return
value, as for `ConsumerPc.step`. -/
def stepPopState (d : DualChannelSpsc) : DualChannelSpsc × Option (Option RawInputEventFlat) :=
  let popped := d.stateChannel.stepPop
  ({ d with stateChannel := popped.1 }, popped.2)

/-- A call of `tryPopData`. -/
def callPopData (d : DualChannelSpsc) : DualChannelSpsc :=
  { d with dataChannel := d.dataChannel.callPop }

/-- The `tryPopData` call in progress makes its next access. -/
def stepPopData (d : DualChannelSpsc) : DualChannelSpsc × Option (Option RawInputEventFlat) :=
  let popped := d.dataChannel.stepPop
  ({ d with dataChannel := popped.1 }, popped.2)

/-- `clearStateChannelSaturated`. -/
def clearStateChannelSaturated (d : DualChannelSpsc) : DualChannelSpsc :=
  { d with stateChannelSaturated := false }

/-- The state events whose `enqueue` returned `Success`, in that order. -/
def accepted (d : DualChannelSpsc) : List RawInputEventFlat :=
  (d.returned.filter fun r => isStateEvent r.1 && r.2 == .Success).map Prod.fst

/-- The state events whose `enqueue` returned `StateSaturated`, in that order. -/
def rejected (d : DualChannelSpsc) : List RawInputEventFlat :=
  (d.returned.filter fun r => isStateEvent r.1 && r.2 == .StateSaturated).map Prod.fst

/-- The state events popped, in that order. -/
def poppedStates (d : DualChannelSpsc) : List RawInputEventFlat :=
  d.stateChannel.popped.map PopRecord.item

end DualChannelSpsc

/-- The actions of the threads on a `DualChannelSpsc`. -/
inductive DualAction where
  | callEnqueue (event : RawInputEventFlat)
  | stepEnqueue
  | callPopState
  | stepPopState
  | callPopData
  | stepPopData
  | clearStateChannelSaturated

/-- One `enqueue` thread and the pops of both rings, in every interleaving. -/
def dualMachine : Lib.Machine DualChannelSpsc DualAction where
  init := .init
  step d
    | .callEnqueue event => d.callEnqueue event
    | .stepEnqueue => d.stepEnqueue
    | .callPopState => d.callPopState
    | .stepPopState => d.stepPopState.1
    | .callPopData => d.callPopData
    | .stepPopData => d.stepPopData.1
    | .clearStateChannelSaturated => d.clearStateChannelSaturated

end CrossFlow
