import CrossFlow.Core.Common.ErrorCode
import CrossFlow.Lib.Machine
import CrossFlow.Platform.Mac.TapControl

/-!
# `CrossFlow.Platform.Mac.TapResources`: what a capture asks of the system

`A11yPermissionGuard` (`platform/mac/a11y_permission_guard.cpp`), and `MacEventTap::start`,
`MacEventTap::stop` and the destructor (`platform/mac/mac_event_tap.cpp`), with the functions of the
system that they call. What these return is an argument: the pointers, the permissions, and whether
a thread can be started. Nothing is said of what the functions do. The capture thread itself, the
handler and the screen boundary are not part of this model.
-/

set_option autoImplicit false

namespace CrossFlow

open Lib (Machine)

/-- A call of a function of the system, with the pointers that it was given and what it returned.
A null pointer is `none`. The run loop is always the main one. -/
inductive SystemCall where
  | CFDictionaryCreate (options : Option Nat)
  | AXIsProcessTrustedWithOptions (options : Option Nat) (trusted : Bool)
  | CGPreflightListenEventAccess (listens : Bool)
  | CGRequestListenEventAccess
  | CGEventTapCreate (tap : Option Nat)
  | CFMachPortCreateRunLoopSource (tap : Nat) (src : Option Nat)
  | CFRunLoopAddSource (src : Nat)
  | CFRunLoopRemoveSource (src : Nat)
  | CGEventTapEnable (tap : Nat)
  | CFRelease (o : Nat)

/-- Which permissions are given. -/
inductive A11yPermissionStatus where
  | Granted
  | AccessibilityDenied
  | InputMonitoringDenied
  | BothDenied
  deriving DecidableEq

/-- What the system answers to `ensurePermissions`: the dictionary of options and whether the
process is trusted, in `checkAccessibility` and again in `promptAccessibility`, and whether it may
listen to events. -/
structure PermissionAnswers where
  options : Option Nat
  trusted : Bool
  listens : Bool
  promptOptions : Option Nat
  promptTrusted : Bool

/-- An `A11yPermissionGuard`, which keeps its last error. -/
structure A11yPermissionGuard where
  lastError : ErrorCode
  deriving DecidableEq

namespace A11yPermissionGuard

/-- A guard that was just made. -/
def init : A11yPermissionGuard where
  lastError := .CapA11yDenied

/-- The calls of `checkAccessibility`, which are those of `promptAccessibility`, too. -/
def askTrusted (options : Option Nat) (trusted : Bool) : List SystemCall :=
  [.CFDictionaryCreate options, .AXIsProcessTrustedWithOptions options trusted] ++
    match options with
    | some o => [.CFRelease o]
    | none => []

/-- `checkAccessibility`, with its calls. -/
def checkAccessibility (answers : PermissionAnswers) : Bool × List SystemCall :=
  (answers.trusted, askTrusted answers.options answers.trusted)

/-- `checkInputMonitoring`, with its call. -/
def checkInputMonitoring (answers : PermissionAnswers) : Bool × List SystemCall :=
  (answers.listens, [.CGPreflightListenEventAccess answers.listens])

/-- The calls of `promptAccessibility`. The answer is not read. -/
def promptAccessibility (answers : PermissionAnswers) : List SystemCall :=
  askTrusted answers.promptOptions answers.promptTrusted

/-- The call of `promptInputMonitoring`. -/
def promptInputMonitoring : List SystemCall := [.CGRequestListenEventAccess]

/-- `check`, with its calls. -/
def check (answers : PermissionAnswers) : A11yPermissionStatus × List SystemCall :=
  let (a11y, asked) := checkAccessibility answers
  let (inputMon, preflight) := checkInputMonitoring answers
  let calls := asked ++ preflight
  if a11y && inputMon then (.Granted, calls)
  else if !a11y && !inputMon then (.BothDenied, calls)
  else if !a11y then (.AccessibilityDenied, calls)
  else (.InputMonitoringDenied, calls)

/-- The `ErrorCode{}` that is stored when all is granted is the first of the codes. -/
def ensurePermissions (guard : A11yPermissionGuard) (answers : PermissionAnswers) :
    Bool × A11yPermissionGuard × List SystemCall :=
  let (status, calls) := check answers
  if status = .Granted then (true, { guard with lastError := .CapPerm }, calls)
  else
    let guard := { guard with lastError := .CapA11yDenied }
    let calls := if status = .AccessibilityDenied ∨ status = .BothDenied then
      calls ++ promptAccessibility answers else calls
    let calls := if status = .InputMonitoringDenied ∨ status = .BothDenied then
      calls ++ promptInputMonitoring else calls
    (false, guard, calls)

end A11yPermissionGuard

/-- What the system answers to `start`. -/
structure StartAnswers where
  permissions : PermissionAnswers
  tap : Option Nat
  source : Option Nat
  /-- The constructor of `std::thread` does not throw. -/
  threadStarts : Bool

/-- A `MacEventTap` with the pointers that it keeps. -/
structure TapResources where
  control : TapControl
  permissionGuard : A11yPermissionGuard
  eventTap : Option Nat
  runLoopSource : Option Nat
  /-- History: the calls of the system. -/
  calls : List SystemCall
  /-- History: the taps and sources whose pointers were overwritten. -/
  overwritten : List (Nat × Nat)

namespace TapResources

/-- A tap that was just made. -/
def init : TapResources where
  control := .init
  permissionGuard := .init
  eventTap := none
  runLoopSource := none
  calls := []
  overwritten := []

/-- A function of the system is called. -/
def call (t : TapResources) (c : SystemCall) : TapResources := { t with calls := t.calls ++ [c] }

/-- The tap and the source that there are pointers to. -/
def installed (t : TapResources) : List (Nat × Nat) :=
  t.eventTap.toList.zip t.runLoopSource.toList

/-- `installEventTap`. What the pointers were is overwritten without a look at them. -/
def installEventTap (t : TapResources) (answers : StartAnswers) : Bool × TapResources :=
  let t := t.call (.CGEventTapCreate answers.tap)
  match answers.tap with
  | none => (false, t)
  | some tap =>
    let t := t.call (.CFMachPortCreateRunLoopSource tap answers.source)
    match answers.source with
    | none => (false, t.call (.CFRelease tap))
    | some src =>
      let t := (t.call (.CFRunLoopAddSource src)).call (.CGEventTapEnable tap)
      (true,
        { t with
          eventTap := some tap
          runLoopSource := some src
          overwritten := t.overwritten ++ t.installed })

/-- `uninstallEventTap` -/
def uninstallEventTap (t : TapResources) : TapResources :=
  let t :=
    match t.runLoopSource with
    | some src =>
      { (t.call (.CFRunLoopRemoveSource src)).call (.CFRelease src) with runLoopSource := none }
    | none => t
  match t.eventTap with
  | some tap => { t.call (.CFRelease tap) with eventTap := none }
  | none => t

/-- `start` returns a handle unless it throws. -/
def start (t : TapResources) (answers : StartAnswers) : Option CaptureHandle × TapResources :=
  if t.control.state ≠ .Inactive then (some TapControl.noHandle, t)
  else
    let (permitted, permissionGuard, asked) :=
      t.permissionGuard.ensurePermissions answers.permissions
    let t := { t with permissionGuard, calls := t.calls ++ asked }
    if !permitted then
      (some TapControl.noHandle, { t with control := t.control.enterDegradedState })
    else
      let (installs, t) := t.installEventTap answers
      if !installs then
        (some TapControl.noHandle, { t with control := t.control.enterDegradedState })
      else if !answers.threadStarts then (none, t)
      else
        let (handle, control) := t.control.activate
        (some handle, { t with control })

/-- `stop`: in the state `Inactive` nothing is taken out. -/
def stop (t : TapResources) (handle : CaptureHandle) : TapResources :=
  let t := { t with control := t.control.releaseHandle handle }
  if t.control.state = .Inactive then t
  else
    let t := t.uninstallEventTap
    { t with control := t.control.deactivate }

/-- `~MacEventTap()` -/
def destroy (t : TapResources) : TapResources := t.stop TapControl.noHandle

end TapResources

/-- The calls of a `MacEventTap` that this model is about. -/
inductive TapResourceCall where
  | start (answers : StartAnswers)
  | stop (handle : CaptureHandle)

/-- The calls that start and stop a tap, one after the other. -/
def tapResourcesMachine : Machine TapResources TapResourceCall where
  init := .init
  step t
    | .start answers => (t.start answers).2
    | .stop handle => t.stop handle

end CrossFlow
