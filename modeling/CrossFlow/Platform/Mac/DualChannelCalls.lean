import CrossFlow.Platform.Common.SpscCalls
import CrossFlow.Platform.Mac.DualChannelSpsc

/-!
# `CrossFlow.Platform.Mac.DualChannelCalls`: whole calls of the two channels

The member functions of `platform/mac/dual_channel_spsc.cpp`, each as one step, for calls that do
not overlap.
-/

set_option autoImplicit false

namespace CrossFlow

/-- `DualChannelSpsc` between calls. -/
structure DualRings where
  dataChannel : SpscRingBuffer RawInputEventFlat spscDataCapacity
  stateChannel : SpscRingBuffer RawInputEventFlat spscStateCapacity
  stateChannelSaturated : Bool
  stateChannelSaturatedCount : Nat

namespace DualRings

/-- Two empty rings. -/
def init : DualRings where
  dataChannel := .init
  stateChannel := .init
  stateChannelSaturated := false
  stateChannelSaturatedCount := 0

/-- Events of buttons and keys go to the state channel, the others to the data channel. -/
def enqueue (d : DualRings) (event : RawInputEventFlat) : DualRings × ChannelResult :=
  if DualChannelSpsc.isStateEvent event then
    let pushed := d.stateChannel.tryPush event
    let d := { d with stateChannel := pushed.1 }
    if pushed.2 then (d, .Success)
    else
      ({ d with
          stateChannelSaturated := true
          stateChannelSaturatedCount := d.stateChannelSaturatedCount + 1 },
        .StateSaturated)
  else
    let d := { d with dataChannel := (d.dataChannel.tryPushDropOldest event).1 }
    if 0 < d.dataChannel.cumulativeDropCount then (d, .DataDroppedOldest) else (d, .Success)

/-- The oldest event of the data channel. -/
def tryPopData (d : DualRings) : DualRings × Option RawInputEventFlat :=
  let popped := d.dataChannel.tryPop
  ({ d with dataChannel := popped.1 }, popped.2)

/-- The oldest event of the state channel. -/
def tryPopState (d : DualRings) : DualRings × Option RawInputEventFlat :=
  let popped := d.stateChannel.tryPop
  ({ d with stateChannel := popped.1 }, popped.2)

/-- The flag is cleared. Its count stays. -/
def clearStateChannelSaturated (d : DualRings) : DualRings :=
  { d with stateChannelSaturated := false }

end DualRings

/-- A call on the channels. -/
inductive DualCall where
  | enqueue (event : RawInputEventFlat)
  | tryPopData
  | tryPopState
  | clearStateChannelSaturated

/-- Calls on the channels, none of which overlap. -/
def dualCallMachine : Lib.Machine DualRings DualCall where
  init := .init
  step d
    | .enqueue event => (d.enqueue event).1
    | .tryPopData => d.tryPopData.1
    | .tryPopState => d.tryPopState.1
    | .clearStateChannelSaturated => d.clearStateChannelSaturated

end CrossFlow
