import CrossFlow.Platform.Win.WinEventInjector

/-!
# `CrossFlow.Platform.Win.WinInputPlaneReceiver`: received events for an injector

The model of `platform/win/win_input_plane_receiver.hpp` and `.cpp`.
-/

set_option autoImplicit false

namespace CrossFlow

/-- `hasHandler` says whether `onEvent` was given a handler. -/
structure WinInputPlaneReceiver where
  injector : WinEventInjector
  expectedSourceNodeId : NodeId
  hasHandler : Bool
  totalReceived : UInt64
  totalRejected : UInt64
  totalInjected : UInt64
  deriving DecidableEq

namespace WinInputPlaneReceiver

/-- A receiver that was just made, for events of one node. -/
def init (injector : WinEventInjector) (expectedSourceNodeId : NodeId) :
    WinInputPlaneReceiver where
  injector := injector
  expectedSourceNodeId := expectedSourceNodeId
  hasHandler := false
  totalReceived := 0
  totalRejected := 0
  totalInjected := 0

/-- The handler is set. -/
def onEvent (r : WinInputPlaneReceiver) : WinInputPlaneReceiver := { r with hasHandler := true }

/-- `handleReceivedEvent`, with the events the handler is called with and the inputs that are
posted. -/
def handleReceivedEvent (r : WinInputPlaneReceiver) (event : ReceivedEvent) (sent : UInt32)
    (latencyUs : UInt64) :
    Option (WinInputPlaneReceiver × List ReceivedEvent × List WinInput) := do
  let r := { r with totalReceived := r.totalReceived + 1 }
  if event.sourceNodeId ≠ r.expectedSourceNodeId then
    return ({ r with totalRejected := r.totalRejected + 1 }, [], [])
  else
    let handled := if r.hasHandler then [event] else []
    let (injector, result, posted) ← r.injector.inject event sent latencyUs
    let r := { r with injector }
    if result.ok then return ({ r with totalInjected := r.totalInjected + 1 }, handled, posted)
    else return ({ r with totalRejected := r.totalRejected + 1 }, handled, posted)

end WinInputPlaneReceiver

end CrossFlow
