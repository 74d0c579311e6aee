import CrossFlow.Core.Transport.EventImage
import CrossFlow.Integration.E2EPipelineOrchestrator
import CrossFlow.Platform.Win.WinInputPlaneReceiver

/-!
# `CrossFlow.Integration.EndToEnd`: from one machine to the other

The pipeline of one machine, the input connection, and the transport and the receiver of the other:
`processEvent` for each event, `inputReceiveLoop` on the bytes that were written, and an event
handler that calls `handleReceivedEvent`.
-/

set_option autoImplicit false

namespace CrossFlow

/-- `processEvent` for each event, with the bytes that are written on the input connection. -/
def E2EPipelineOrchestrator.processEvents (bytes : ObjectBytes) (o : E2EPipelineOrchestrator) :
    List (CanonicalInputEvent × UInt64 × (Nat → Int)) → E2EPipelineOrchestrator × List UInt8
  | [] => (o, [])
  | (event, nowUs, ret) :: inputs =>
    let (o, written) := o.processEvent bytes event nowUs ret
    let (o, later) := o.processEvents bytes inputs
    (o, written ++ later)

/-- `handleReceivedEvent` for each event. The results of `SendInput` and of the clock in the `k`th
call are `calls k`. -/
def WinInputPlaneReceiver.handleReceivedEvents (calls : Nat → UInt32 × UInt64)
    (r : WinInputPlaneReceiver) (k : Nat) :
    List ReceivedEvent → Option (WinInputPlaneReceiver × List ReceivedEvent × List WinInput)
  | [] => some (r, [], [])
  | event :: events => do
    let (r, handled, posted) ← r.handleReceivedEvent event (calls k).1 (calls k).2
    let (r, handled', posted') ← r.handleReceivedEvents calls (k + 1) events
    return (r, handled ++ handled', posted ++ posted')

/-! ### What an event means -/

/-- The flag of a button that goes down or up. -/
def MouseButton.flag : MouseButton → Bool → MouseEventF
  | .Left, true => .LEFTDOWN
  | .Left, false => .LEFTUP
  | .Right, true => .RIGHTDOWN
  | .Right, false => .RIGHTUP
  | .Middle, true => .MIDDLEDOWN
  | .Middle, false => .MIDDLEUP

/-- The input that an event stands for, when its payload is one of its type. -/
def CanonicalInputEvent.winInput (event : CanonicalInputEvent) : Option WinInput :=
  match event.eventType, event.payload with
  | .MouseMove, .mouseMove payload => some (.mouse payload.deltaX payload.deltaY 0 .MOVE)
  | .MouseButtonPress, .mouseButton payload => some (.mouse 0 0 0 (payload.button.flag true))
  | .MouseButtonRelease, .mouseButton payload => some (.mouse 0 0 0 (payload.button.flag false))
  | .Wheel, .wheel payload =>
    some (.mouse 0 0 payload.delta.toUInt32
      (match payload.axis with
        | .Vertical => .WHEEL
        | .Horizontal => .HWHEEL))
  | .KeyPress, .key payload => some (.keyboard payload.keyCode false)
  | .KeyRelease, .key payload => some (.keyboard payload.keyCode true)
  | _, _ => none

end CrossFlow
