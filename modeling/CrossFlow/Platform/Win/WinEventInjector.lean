import CrossFlow.Core.Common.ReceivedEvent
import CrossFlow.Platform.Common.PlatformPorts

/-!
# `CrossFlow.Platform.Win.WinEventInjector`: injection with `SendInput`

The model of `platform/win/win_event_injector.hpp` and `.cpp`, as built for Windows. A function that
calls `SendInput` returns the inputs it calls it with. The results of `SendInput` and of the clock
are arguments. The functions are `noexcept`: `none` is for a `std::get` that throws in one of them.
-/

set_option autoImplicit false

namespace CrossFlow

/-- The values of `dwFlags` of a `MOUSEINPUT`. -/
inductive MouseEventF where
  | MOVE
  | LEFTDOWN
  | LEFTUP
  | RIGHTDOWN
  | RIGHTUP
  | MIDDLEDOWN
  | MIDDLEUP
  | WHEEL
  | HWHEEL
  deriving DecidableEq

/-- `keyUp` is the flag `KEYEVENTF_KEYUP`. -/
inductive WinInput where
  | mouse (dx dy : Int32) (mouseData : UInt32) (dwFlags : MouseEventF)
  | keyboard (wVk : UInt16) (keyUp : Bool)
  deriving DecidableEq

/-- The injector with its counts and the modifiers that it has recorded. -/
structure WinEventInjector where
  sourceNodeId : NodeId
  localModifierState : ModifierState
  totalInjected : UInt64
  totalRejected : UInt64
  deriving DecidableEq

namespace WinEventInjector

/-- No modifier is recorded as pressed. -/
def noModifiers : ModifierState :=
  { shift := false, ctrl := false, alt := false, cmd := false, fn := false }

/-- An injector that was just made, for events of one node. -/
def init (sourceNodeId : NodeId) : WinEventInjector where
  sourceNodeId := sourceNodeId
  localModifierState := noModifiers
  totalInjected := 0
  totalRejected := 0

/-- The injector is for another node. -/
def setSourceNodeId (injector : WinEventInjector) (id : NodeId) : WinEventInjector :=
  { injector with sourceNodeId := id }

/-- The event is of the node that the injector is for. -/
def validateSource (injector : WinEventInjector) (event : ReceivedEvent) : Bool :=
  if event.sourceNodeId ≠ injector.sourceNodeId then false else true

/-! ### Injection -/

/-- The result of an event that was not injected. -/
def failed : InjectResult := { ok := false, failedCount := 1, latencyUs := 0 }

/-- A call of `SendInput`, and the result for what it returns. -/
def sendInput (sent : UInt32) (input : WinInput) : InjectResult × List WinInput :=
  ({ ok := sent = 1, failedCount := if sent = 1 then 0 else 1, latencyUs := 0 }, [input])

/-- A relative movement. -/
def injectMouseEvent (event : ReceivedEvent) (sent : UInt32) :
    Option (InjectResult × List WinInput) := do
  let payload ← event.payload.getMouseMove
  return sendInput sent (.mouse payload.deltaX payload.deltaY 0 .MOVE)

/-- A button goes down or up. Those after the third are not posted. -/
def injectMouseButtonEvent (event : ReceivedEvent) (sent : UInt32) :
    Option (InjectResult × List WinInput) := do
  let button ← event.payload.getMouseButton
  let isPress := EventType.ofByte event.eventType = some .MouseButtonPress
  if button = 0 then
    return sendInput sent (.mouse 0 0 0 (if isPress then .LEFTDOWN else .LEFTUP))
  else if button = 1 then
    return sendInput sent (.mouse 0 0 0 (if isPress then .RIGHTDOWN else .RIGHTUP))
  else if button = 2 then
    return sendInput sent (.mouse 0 0 0 (if isPress then .MIDDLEDOWN else .MIDDLEUP))
  else return (failed, [])

/-- A turn of the wheel, by its axis. -/
def injectWheelEvent (event : ReceivedEvent) (sent : UInt32) :
    Option (InjectResult × List WinInput) := do
  let (delta, axis) ← event.payload.getWheel
  return sendInput sent (.mouse 0 0 delta.toUInt32 (if axis = 0 then .WHEEL else .HWHEEL))

/-- A key goes down or up. -/
def injectKeyEvent (event : ReceivedEvent) (sent : UInt32) :
    Option (InjectResult × List WinInput) := do
  let payload ← event.payload.getKey
  let keyUp := EventType.ofByte event.eventType = some .KeyRelease
  return sendInput sent (.keyboard payload.keyCode keyUp)

/-- The `switch` of `inject`. -/
def dispatch (event : ReceivedEvent) (sent : UInt32) : Option (InjectResult × List WinInput) :=
  match EventType.ofByte event.eventType with
  | some .MouseMove => injectMouseEvent event sent
  | some .MouseButtonPress | some .MouseButtonRelease => injectMouseButtonEvent event sent
  | some .Wheel => injectWheelEvent event sent
  | some .KeyPress | some .KeyRelease => injectKeyEvent event sent
  | none => some (failed, [])

/-- An event of the right source is posted and counted. A payload of another type ends the
process. -/
def inject (injector : WinEventInjector) (event : ReceivedEvent) (sent : UInt32)
    (latencyUs : UInt64) : Option (WinEventInjector × InjectResult × List WinInput) := do
  if !injector.validateSource event then
    return ({ injector with totalRejected := injector.totalRejected + 1 }, failed, [])
  else
    let (result, posted) ← dispatch event sent
    let result := { result with latencyUs }
    if result.ok then
      return ({ injector with totalInjected := injector.totalInjected + 1 }, result, posted)
    else return ({ injector with totalRejected := injector.totalRejected + 1 }, result, posted)

/-- The loop of `injectBatch`, with the inputs. The results of `SendInput` and of the clock in the
`k`th call of `inject` are `calls k`. -/
def injectEach (calls : Nat → UInt32 × UInt64) (injector : WinEventInjector) (failedCount : UInt32)
    (totalLatency : UInt64) (k : Nat) :
    List ReceivedEvent → Option (WinEventInjector × InjectResult × List WinInput)
  | [] => some (injector, { ok := failedCount = 0, failedCount, latencyUs := totalLatency }, [])
  | event :: events => do
    let (injector, result, posted) ← injector.inject event (calls k).1 (calls k).2
    let failedCount := if !result.ok then failedCount + 1 else failedCount
    let (injector, total, later) ←
      injector.injectEach calls failedCount (totalLatency + result.latencyUs) (k + 1) events
    return (injector, total, posted ++ later)

/-- The events one after the other. -/
def injectBatch (calls : Nat → UInt32 × UInt64) (injector : WinEventInjector)
    (events : List ReceivedEvent) : Option (WinEventInjector × InjectResult × List WinInput) :=
  injector.injectEach calls 0 0 0 events

/-! ### Modifiers -/

/-- The table `mods`: the keys, each with what the source says. -/
def mods (sourceState : ModifierState) : List (UInt16 × Bool) :=
  [(0x10, sourceState.shift), (0x11, sourceState.ctrl), (0x12, sourceState.alt),
    (0x5B, sourceState.cmd)]

/-- `syncModifiers`, with the inputs it calls `SendInput` with. `asyncKeyState` says which keys are
down when they are asked for. What `SendInput` returns is not read. -/
def syncModifiers (injector : WinEventInjector) (asyncKeyState : UInt16 → Bool)
    (sourceState : ModifierState) : WinEventInjector × List WinInput :=
  let posted := (mods sourceState).filterMap fun (vk, sourcePressed) =>
    let localPressed := asyncKeyState vk
    if sourcePressed && !localPressed then some (.keyboard vk false)
    else if !sourcePressed && localPressed then some (.keyboard vk true)
    else none
  ({ injector with localModifierState := sourceState }, posted)

/-! ### Release -/

/-- One of the blocks of `releaseAllPressed`, on `releasedCount` and the inputs so far. What
`SendInput` returns is not read. -/
def release (isPressed : Bool) (up : WinInput) (s : UInt32 × List WinInput) :
    UInt32 × List WinInput :=
  if isPressed then (s.1 + 1, s.2 ++ [up]) else s

/-- `releaseAllPressed`, with the inputs it calls `SendInput` with. -/
def releaseAllPressed (injector : WinEventInjector) (pressed : PressedStateSnapshot)
    (latencyMs : UInt32) : WinEventInjector × ReleaseResult × List WinInput :=
  let buttons := pressed.pressedMouseButtons
  let s := release (buttons.isPressed 0) (.mouse 0 0 0 .LEFTUP) (0, [])
  let s := release (buttons.isPressed 1) (.mouse 0 0 0 .RIGHTUP) s
  let s := release (buttons.isPressed 2) (.mouse 0 0 0 .MIDDLEUP) s
  let (releasedCount, posted) := (List.range 256).foldl (fun s code =>
    release (pressed.pressedKeys.isPressed (UInt16.ofNat code))
      (.keyboard (UInt16.ofNat code) true) s) s
  ({ injector with localModifierState := noModifiers }, { releasedCount, latencyMs }, posted)

end WinEventInjector

end CrossFlow
