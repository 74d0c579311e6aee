import CrossFlow.Core.Common.ReceivedEvent
import CrossFlow.Platform.Common.PlatformPorts

/-!
# `CrossFlow.Platform.Mac.MacEventInjector`: injection with CoreGraphics

The model of `platform/mac/mac_event_injector.hpp` and `.cpp`, as built for macOS. A function that
posts events returns them. `create` says which of the calls that create an event succeed. The
functions are `noexcept`: `none` is for a `std::get` that throws in one of them.
-/

set_option autoImplicit false

namespace CrossFlow

/-- The types of the mouse events that are posted. -/
inductive CGEventType where
  | mouseMoved
  | leftMouseDown
  | leftMouseUp
  | rightMouseDown
  | rightMouseUp
  | otherMouseDown
  | otherMouseUp
  deriving DecidableEq

/-- The buttons that the system has a name for. -/
inductive CGMouseButton where
  | left
  | right
  | center
  deriving DecidableEq

/-- A point, or one that is so far from where the cursor is. -/
inductive CGLocation where
  | point (x y : Int32)
  | fromCursor (deltaX deltaY : Int32)
  deriving DecidableEq

/-- `delta` is for the fields `kCGMouseEventDeltaX` and `kCGMouseEventDeltaY`, when they are set. -/
inductive CGEvent where
  | mouse (type : CGEventType) (location : CGLocation) (button : CGMouseButton)
      (delta : Option (Int32 × Int32))
  | scrollWheel (lines : Int32)
  | keyboard (keyCode : UInt16) (keyDown : Bool)
  deriving DecidableEq

/-- How a movement is injected. -/
inductive InjectionMethod where
  | RelativeDelta
  | AbsolutePosition
  | LocationCompute
  deriving DecidableEq

/-- The injector with its counts. -/
structure MacEventInjector where
  sourceNodeId : NodeId
  isController : Bool
  injectionMethod : InjectionMethod
  screenBoundary : ScreenBoundary
  totalInjected : UInt64
  totalRejected : UInt64
  deriving DecidableEq

namespace MacEventInjector

/-- An injector that was just made, for events of one node. -/
def init (sourceNodeId : NodeId) : MacEventInjector where
  sourceNodeId := sourceNodeId
  isController := false
  injectionMethod := .RelativeDelta
  screenBoundary := { width := 0, height := 0, originX := 0, originY := 0 }
  totalInjected := 0
  totalRejected := 0

/-! ### Validation -/

/-- The event is of the node that the injector is for, which does not control itself. -/
def validateSource (injector : MacEventInjector) (event : ReceivedEvent) : Bool :=
  if injector.isController then false
  else if event.sourceNodeId ≠ injector.sourceNodeId then false
  else true

/-- The check of the key code in `validateParams`. -/
def validateKeyCode (event : ReceivedEvent) : Option Bool :=
  match EventType.ofByte event.eventType with
  | some .KeyPress | some .KeyRelease => do
    let payload ← event.payload.getKey
    return !(payload.keyCode ≥ 256)
  | _ => some true

/-- The check of the button in `validateParams`. -/
def validateButton (event : ReceivedEvent) : Option Bool :=
  match EventType.ofByte event.eventType with
  | some .MouseButtonPress | some .MouseButtonRelease => do
    let button ← event.payload.getMouseButton
    return !(button > 2)
  | _ => some true

/-- The check of an absolute position in `validateParams`. -/
def validatePosition (injector : MacEventInjector) (event : ReceivedEvent) : Option Bool :=
  match EventType.ofByte event.eventType, injector.injectionMethod with
  | some .MouseMove, .AbsolutePosition => do
    let payload ← event.payload.getMouseMove
    let screen := injector.screenBoundary
    if screen.isValid then
      if payload.deltaX < 0 ∨ payload.deltaY < 0 then return false
      else if payload.deltaX.toUInt32 > screen.originX + screen.width ∨
          payload.deltaY.toUInt32 > screen.originY + screen.height then return false
      else return true
    else return true
  | _, _ => some true

/-- The checks of an event. `std::get` may throw in them. -/
def validateParams (injector : MacEventInjector) (event : ReceivedEvent) : Option Bool :=
  if !event.validate then some false
  else do
    if !(← validateKeyCode event) then return false
    else if !(← validateButton event) then return false
    else injector.validatePosition event

/-! ### Injection -/

/-- The result of an event that was not injected. -/
def failed : InjectResult := { ok := false, failedCount := 1, latencyUs := 0 }

/-- The result of an event that was injected. -/
def injected : InjectResult := { ok := true, failedCount := 0, latencyUs := 0 }

/-- `CGEventPost` of an event, if it could be created. -/
def postCreated (created : Bool) (event : CGEvent) : InjectResult × List CGEvent :=
  if !created then (failed, []) else (injected, [event])

/-- A movement, by the method of the injector. -/
def injectMouseEvent (injector : MacEventInjector) (event : ReceivedEvent)
    (create : Nat → Bool) : Option (InjectResult × List CGEvent) := do
  let payload ← event.payload.getMouseMove
  match injector.injectionMethod with
  | .AbsolutePosition =>
    return postCreated (create 0)
      (.mouse .mouseMoved (.point payload.deltaX payload.deltaY) .left none)
  | .LocationCompute =>
    if !create 0 then return (failed, [])
    else
      return postCreated (create 1)
        (.mouse .mouseMoved (.fromCursor payload.deltaX payload.deltaY) .left none)
  | .RelativeDelta =>
    return postCreated (create 0)
      (.mouse .mouseMoved (.point 0 0) .left (some (payload.deltaX, payload.deltaY)))

/-- A button goes down or up. Those after the third are not posted. -/
def injectMouseButtonEvent (event : ReceivedEvent) (create : Nat → Bool) :
    Option (InjectResult × List CGEvent) := do
  let button ← event.payload.getMouseButton
  let isPress := EventType.ofByte event.eventType = some .MouseButtonPress
  match button with
  | 0 =>
    return postCreated (create 0)
      (.mouse (if isPress then .leftMouseDown else .leftMouseUp) (.point 0 0) .left none)
  | 1 =>
    return postCreated (create 0)
      (.mouse (if isPress then .rightMouseDown else .rightMouseUp) (.point 0 0) .right none)
  | 2 =>
    return postCreated (create 0)
      (.mouse (if isPress then .otherMouseDown else .otherMouseUp) (.point 0 0) .center none)
  | _ => return (failed, [])

/-- A turn of the wheel. The axis is not looked at. -/
def injectWheelEvent (event : ReceivedEvent) (create : Nat → Bool) :
    Option (InjectResult × List CGEvent) := do
  let (delta, _) ← event.payload.getWheel
  return postCreated (create 0) (.scrollWheel delta)

/-- A key goes down or up. -/
def injectKeyEvent (event : ReceivedEvent) (create : Nat → Bool) :
    Option (InjectResult × List CGEvent) := do
  let payload ← event.payload.getKey
  let keyDown := EventType.ofByte event.eventType = some .KeyPress
  return postCreated (create 0) (.keyboard payload.keyCode keyDown)

/-- The `switch` of `inject`. -/
def dispatch (injector : MacEventInjector) (event : ReceivedEvent) (create : Nat → Bool) :
    Option (InjectResult × List CGEvent) :=
  match EventType.ofByte event.eventType with
  | some .MouseMove => injector.injectMouseEvent event create
  | some .MouseButtonPress | some .MouseButtonRelease => injectMouseButtonEvent event create
  | some .Wheel => injectWheelEvent event create
  | some .KeyPress | some .KeyRelease => injectKeyEvent event create
  | none => some (failed, [])

/-- An event is checked, then injected and counted. A payload of another type ends the process. -/
def inject (injector : MacEventInjector) (event : ReceivedEvent) (create : Nat → Bool) :
    Option (MacEventInjector × InjectResult × List CGEvent) := do
  let valid ←
    (if injector.validateSource event then injector.validateParams event else some false)
  if !valid then
    return ({ injector with totalRejected := injector.totalRejected + 1 }, failed, [])
  else
    let (result, posted) ← injector.dispatch event create
    if result.ok then
      return ({ injector with totalInjected := injector.totalInjected + 1 }, result, posted)
    else return ({ injector with totalRejected := injector.totalRejected + 1 }, result, posted)

/-- The loop of `injectBatch`, with the events. In the `k`th call of `inject` the calls that create
an event succeed as `creates k` says. -/
def injectEach (creates : Nat → Nat → Bool) (injector : MacEventInjector) (failedCount : UInt32)
    (k : Nat) : List ReceivedEvent → Option (MacEventInjector × InjectResult × List CGEvent)
  | [] => some (injector, { ok := failedCount = 0, failedCount, latencyUs := 0 }, [])
  | event :: events => do
    let (injector, result, posted) ← injector.inject event (creates k)
    let failedCount := if !result.ok then failedCount + 1 else failedCount
    let (injector, total, later) ← injector.injectEach creates failedCount (k + 1) events
    return (injector, total, posted ++ later)

/-- The events one after the other. -/
def injectBatch (creates : Nat → Nat → Bool) (injector : MacEventInjector)
    (events : List ReceivedEvent) : Option (MacEventInjector × InjectResult × List CGEvent) :=
  injector.injectEach creates 0 0 events

/-! ### Release -/

/-- `releaseAllPressed`, with the events it posts. -/
def releaseAllPressed (pressed : PressedStateSnapshot) : ReleaseResult × List CGEvent :=
  let releasedCount : UInt32 := (List.range 8).foldl (fun n btn =>
    if pressed.pressedMouseButtons.isPressed (UInt8.ofNat btn) then n + 1 else n) 0
  let releasedCount := (List.range 256).foldl (fun n code =>
    if pressed.pressedKeys.isPressed (UInt16.ofNat code) then n + 1 else n) releasedCount
  ({ releasedCount, latencyMs := 0 }, [])

end MacEventInjector

end CrossFlow
