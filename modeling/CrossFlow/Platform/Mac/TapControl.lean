import CrossFlow.Lib.Machine
import CrossFlow.Platform.Common.PlatformPorts

/-!
# `CrossFlow.Platform.Mac.TapControl`: starting and stopping a capture

`CaptureHandleManager` (`platform/mac/capture_handle.hpp`), and what `MacEventTap::start` and
`MacEventTap::stop` (`platform/mac/mac_event_tap.cpp`) do to it and to the state of the tap. Whether
the permissions are given and whether the event tap can be installed are arguments.
-/

set_option autoImplicit false

namespace CrossFlow

/-- The next id, and how many handles are active. -/
structure CaptureHandleManager where
  nextId : UInt32
  activeCount : UInt32

namespace CaptureHandleManager

/-- A manager that was just made. The first id is 1. -/
def init : CaptureHandleManager where
  nextId := 1
  activeCount := 0

/-- A handle with the next id, modulo 2^32. -/
def acquire (m : CaptureHandleManager) : CaptureHandle × CaptureHandleManager :=
  ( { id := m.nextId, active := true },
    { nextId := m.nextId + 1, activeCount := m.activeCount + 1 } )

/-- With the handle as the caller has it afterwards. -/
def release (m : CaptureHandleManager) (handle : CaptureHandle) :
    CaptureHandle × CaptureHandleManager :=
  if handle.id = 0 ∨ handle.active = false then (handle, m)
  else ({ handle with active := false }, { m with activeCount := m.activeCount - 1 })

/-- The handle is active, and its id not 0. -/
def isValid (handle : CaptureHandle) : Bool := handle.id ≠ 0 && handle.active

end CaptureHandleManager

/-- The states of a tap. -/
inductive TapState where
  | Inactive
  | Active
  | Degraded
  deriving DecidableEq

/-- `state_` and `handleManager_` of a `MacEventTap`. -/
structure TapControl where
  state : TapState
  handleManager : CaptureHandleManager
  /-- History: the handle that the last successful `start` has returned. -/
  session : Option CaptureHandle

namespace TapControl

/-- A tap that was just made. -/
def init : TapControl where
  state := .Inactive
  handleManager := .init
  session := none

/-- The handle of a `start` that fails. -/
def noHandle : CaptureHandle where
  id := 0
  active := false

/-- The tap could not be started. -/
def enterDegradedState (t : TapControl) : TapControl := { t with state := .Degraded }

/-- `state_.store(Active)` and `return handleManager_.acquire()`, the end of `start`. -/
def activate (t : TapControl) : CaptureHandle × TapControl :=
  let (handle, handleManager) := t.handleManager.acquire
  (handle, { state := .Active, handleManager, session := some handle })

/-- The permissions, then the event tap; then the tap is active. -/
def start (t : TapControl) (permitted installed : Bool) : CaptureHandle × TapControl :=
  if t.state ≠ .Inactive then (noHandle, t)
  else if !permitted then (noHandle, t.enterDegradedState)
  else if !installed then (noHandle, t.enterDegradedState)
  else t.activate

/-- The beginning of `stop`. The handle is passed by value: what `release` writes to it does not
reach the caller. -/
def releaseHandle (t : TapControl) (handle : CaptureHandle) : TapControl :=
  if handle.id ≠ 0 ∧ handle.active then
    { t with handleManager := (t.handleManager.release handle).2 }
  else t

/-- `state_.store(Inactive)`, the end of `stop`. -/
def deactivate (t : TapControl) : TapControl := { t with state := .Inactive }

/-- The handle is released in any state, and an active or degraded tap becomes inactive. -/
def stop (t : TapControl) (handle : CaptureHandle) : TapControl :=
  let t := t.releaseHandle handle
  if t.state = .Inactive then t else t.deactivate

end TapControl

/-- The calls of a tap. -/
inductive TapCall where
  | start (permitted installed : Bool)
  | stop (handle : CaptureHandle)

/-- The calls that start and stop a tap, one after the other. -/
def tapControlMachine : Lib.Machine TapControl TapCall where
  init := .init
  step t
    | .start permitted installed => (t.start permitted installed).2
    | .stop handle => t.stop handle

end CrossFlow
