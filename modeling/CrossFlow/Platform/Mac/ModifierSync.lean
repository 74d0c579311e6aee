import CrossFlow.Lib.Machine
import CrossFlow.Platform.Mac.MacEventInjector

/-!
# `CrossFlow.Platform.Mac.ModifierSync`: the modifiers of the source, pressed and released here

`MacEventInjector::syncModifiers` (`platform/mac/mac_event_injector.cpp`), as built for macOS.
`create` says which of the calls of one `syncModifiers` that create an event succeed.
-/

set_option autoImplicit false

namespace CrossFlow

/-- A `MacEventInjector` with all its members. -/
structure ModifierInjector extends MacEventInjector where
  localModifierState : ModifierState
  deriving DecidableEq

/-- The struct of `syncModifiers`, without the name that is for the log. -/
structure ModifierEntry where
  source : Bool
  held : Bool
  keyCode : UInt16
  deriving DecidableEq

namespace ModifierInjector

/-- An injector that was just made, with no modifier held. -/
def init (sourceNodeId : NodeId) : ModifierInjector where
  toMacEventInjector := .init sourceNodeId
  localModifierState := { shift := false, ctrl := false, alt := false, cmd := false, fn := false }

/-- The modifiers with their key codes, in the order of the source. -/
def entries (injector : ModifierInjector) (sourceState : ModifierState) : List ModifierEntry :=
  let localState := injector.localModifierState
  [{ source := sourceState.shift, held := localState.shift, keyCode := 56 },
    { source := sourceState.ctrl, held := localState.ctrl, keyCode := 59 },
    { source := sourceState.alt, held := localState.alt, keyCode := 58 },
    { source := sourceState.cmd, held := localState.cmd, keyCode := 55 },
    { source := sourceState.fn, held := localState.fn, keyCode := 63 }]

/-- The loop over the entries, after `n` events were to be created: `allOk`, and the events that are
posted. -/
def syncEntries (create : Nat → Bool) : Nat → List ModifierEntry → Bool × List CGEvent
  | _, [] => (true, [])
  | n, e :: entries =>
    if e.source = e.held then syncEntries create n entries
    else
      let (allOk, posted) := syncEntries create (n + 1) entries
      if !create n then (false, posted) else (allOk, .keyboard e.keyCode e.source :: posted)

/-- `syncModifiers`, with the events that are posted. -/
def syncModifiers (injector : ModifierInjector) (sourceState : ModifierState)
    (create : Nat → Bool) : ModifierInjector × Bool × List CGEvent :=
  let (allOk, posted) := syncEntries create 0 (injector.entries sourceState)
  ({ injector with localModifierState := sourceState }, allOk, posted)

end ModifierInjector

/-! ### Runs -/

/-- A call of `syncModifiers`. -/
structure SyncCall where
  sourceState : ModifierState
  create : Nat → Bool

/-- An injector, and all that it has posted. -/
structure SyncRun where
  injector : ModifierInjector
  posted : List CGEvent

/-- An injector, in any order of its syncs, with the events that it posts. -/
def syncMachine (sourceNodeId : NodeId) : Lib.Machine SyncRun SyncCall where
  init := { injector := .init sourceNodeId, posted := [] }
  step s c :=
    let (injector, _, posted) := s.injector.syncModifiers c.sourceState c.create
    { injector, posted := s.posted ++ posted }

end CrossFlow
