import CrossFlow.Platform.Mac.TapControl
import Mathlib.Logic.Function.Basic

/-!
# `CrossFlow.Platform.Mac.ScopedCaptureHandle`: handles that are given back at the end of a scope

`ScopedCaptureHandle` (`platform/mac/capture_handle.hpp`). The variables of this type are places of
the type `ι`, and the managers that they point to are of the type `μ` and outlive them. A run is any
sequence of the constructors, the move assignment and the destructor; a step that C++ does not allow
(a constructor where there is an object, a destructor where there is none) does nothing.
-/

set_option autoImplicit false

namespace CrossFlow

variable {ι μ : Type}

/-- A handle with the manager that it is to be released to. -/
structure ScopedCaptureHandle (μ : Type) where
  /-- `mgr_`, where a null pointer is `none`. -/
  mgr : Option μ
  handle : CaptureHandle

namespace ScopedCaptureHandle

/-- The default constructor, and what a move leaves of its source. -/
def empty : ScopedCaptureHandle μ where
  mgr := none
  handle := { id := 0, active := false }

/-- There is a manager, and the handle is active. -/
def isValid (h : ScopedCaptureHandle μ) : Bool := h.mgr.isSome && h.handle.active

variable [DecidableEq μ]

/-- `release()`, with the handle as `CaptureHandleManager::release` leaves it. -/
def release (h : ScopedCaptureHandle μ) (managers : μ → CaptureHandleManager) :
    ScopedCaptureHandle μ × (μ → CaptureHandleManager) :=
  match h.mgr with
  | some m =>
    if h.handle.active then
      let (handle, manager) := (managers m).release h.handle
      ({ h with handle }, Function.update managers m manager)
    else (h, managers)
  | none => (h, managers)

end ScopedCaptureHandle

/-- The objects in their places, and the managers. -/
structure HandleScopes (ι μ : Type) where
  objects : ι → Option (ScopedCaptureHandle μ)
  managers : μ → CaptureHandleManager
  /-- History: how many handles were acquired of each manager. -/
  acquired : μ → Nat
  /-- History: how many active handles with the id 0, which no manager takes back, were to be
  released. -/
  lost : μ → Nat

namespace HandleScopes

/-- No handle was acquired. -/
def init : HandleScopes ι μ where
  objects _ := none
  managers _ := .init
  acquired _ := 0
  lost _ := 0

variable [DecidableEq ι] [DecidableEq μ]

/-- `release()` of an object. -/
def release (s : HandleScopes ι μ) (h : ScopedCaptureHandle μ) : HandleScopes ι μ :=
  { s with
    managers := (h.release s.managers).2
    lost :=
      match h.mgr with
      | some m => if h.handle.active ∧ h.handle.id = 0 then
          Function.update s.lost m (s.lost m + 1) else s.lost
      | none => s.lost }

/-- `ScopedCaptureHandle()` -/
def defaultConstruct (s : HandleScopes ι μ) (i : ι) : HandleScopes ι μ :=
  match s.objects i with
  | none => { s with objects := Function.update s.objects i (some .empty) }
  | some _ => s

/-- `ScopedCaptureHandle(CaptureHandleManager&)` -/
def acquire (s : HandleScopes ι μ) (i : ι) (m : μ) : HandleScopes ι μ :=
  match s.objects i with
  | none =>
    let (handle, manager) := (s.managers m).acquire
    { s with
      objects := Function.update s.objects i (some { mgr := some m, handle })
      managers := Function.update s.managers m manager
      acquired := Function.update s.acquired m (s.acquired m + 1) }
  | some _ => s

/-- `mgr_` and `handle_` of one object are copied to another one, and then reset. -/
def move (s : HandleScopes ι μ) (i other : ι) (h : ScopedCaptureHandle μ) : HandleScopes ι μ :=
  { s with
    objects := Function.update (Function.update s.objects i (some h)) other (some .empty) }

/-- `ScopedCaptureHandle(ScopedCaptureHandle&&)`, from the object in the place `other`. -/
def moveConstruct (s : HandleScopes ι μ) (i other : ι) : HandleScopes ι μ :=
  match s.objects i, s.objects other with
  | none, some h => s.move i other h
  | _, _ => s

/-- `operator=(ScopedCaptureHandle&&)` -/
def moveAssign (s : HandleScopes ι μ) (i other : ι) : HandleScopes ι μ :=
  match s.objects i, s.objects other with
  | some old, some h => if i ≠ other then (s.release old).move i other h else s
  | _, _ => s

/-- `~ScopedCaptureHandle()` -/
def destroy (s : HandleScopes ι μ) (i : ι) : HandleScopes ι μ :=
  match s.objects i with
  | some h => { s.release h with objects := Function.update s.objects i none }
  | none => s

end HandleScopes

/-- What a program does with its objects. -/
inductive ScopeAction (ι μ : Type) where
  | defaultConstruct (i : ι)
  | acquire (i : ι) (m : μ)
  | moveConstruct (i other : ι)
  | moveAssign (i other : ι)
  | destroy (i : ι)

/-- Any number of objects and managers, in any order. -/
def scopeMachine (ι μ : Type) [DecidableEq ι] [DecidableEq μ] :
    Lib.Machine (HandleScopes ι μ) (ScopeAction ι μ) where
  init := .init
  step s
    | .defaultConstruct i => s.defaultConstruct i
    | .acquire i m => s.acquire i m
    | .moveConstruct i other => s.moveConstruct i other
    | .moveAssign i other => s.moveAssign i other
    | .destroy i => s.destroy i

end CrossFlow
