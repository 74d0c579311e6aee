import CrossFlow.Lib.Machine
import CrossFlow.Platform.Common.PlatformPorts

/-!
# `CrossFlow.Integration.DisconnectResyncCoordinator`: the input gate

The model of `integration/disconnect_resync_coordinator.hpp` and `.cpp`. What `getPressedStateFn_`
and `confirmRecoveryFn_` return is an argument. A handler returns the callbacks it makes, in order.
-/

set_option autoImplicit false

namespace CrossFlow

/-- The states of the recovery after a loss. -/
inductive DisconnectResyncState where
  | Connected
  | Disconnected
  | Reconnecting
  | Resync
  | Recovery
  deriving DecidableEq

/-- A call of a callback. -/
inductive CoordinatorCallback where
  | releaseAllPressed (snapshot : PressedStateSnapshot)
  | triggerResync
  | confirmRecovery
  | onStateChange (newState : DisconnectResyncState)
  deriving DecidableEq

/-- The callbacks that are set have `true`. -/
structure DisconnectResyncCoordinator where
  releaseAllPressedFn : Bool
  getPressedStateFn : Bool
  triggerResyncFn : Bool
  confirmRecoveryFn : Bool
  onStateChange : Bool
  state : DisconnectResyncState
  started : Bool
  disconnectCount : UInt32
  resyncCount : UInt32
  recoveryCount : UInt32
  deriving DecidableEq

namespace DisconnectResyncCoordinator

/-- Input goes through in the state `Connected` only. -/
def isInputAllowed (c : DisconnectResyncCoordinator) : Bool := c.state = .Connected

/-- The state is replaced, and a change reported. -/
def transitionTo (c : DisconnectResyncCoordinator) (newState : DisconnectResyncState) :
    DisconnectResyncCoordinator × List CoordinatorCallback :=
  ({ c with state := newState },
    if c.state ≠ newState ∧ c.onStateChange then [.onStateChange newState] else [])

/-- All that is pressed is released, and the disconnect counted. -/
def onDisconnected (c : DisconnectResyncCoordinator) (pressed : PressedStateSnapshot) :
    DisconnectResyncCoordinator × List CoordinatorCallback :=
  let (c, disconnected) := c.transitionTo .Disconnected
  let c := { c with disconnectCount := c.disconnectCount + 1 }
  let released :=
    if c.getPressedStateFn ∧ c.releaseAllPressedFn then [.releaseAllPressed pressed] else []
  let triggered := if c.triggerResyncFn then [.triggerResync] else []
  let (c, reconnecting) := c.transitionTo .Reconnecting
  (c, disconnected ++ released ++ triggered ++ reconnecting)

/-- From `Disconnected` only. -/
def onReconnecting (c : DisconnectResyncCoordinator) :
    DisconnectResyncCoordinator × List CoordinatorCallback :=
  if c.state = .Disconnected then c.transitionTo .Reconnecting else (c, [])

/-- The capture is synchronised again, and the link is `Connected` when that is confirmed. -/
def onConnected (c : DisconnectResyncCoordinator) (confirmed : Bool) :
    DisconnectResyncCoordinator × List CoordinatorCallback :=
  if c.state = .Connected then (c, [])
  else
    let (c, resync) := c.transitionTo .Resync
    let c := { c with resyncCount := c.resyncCount + 1 }
    let triggered := if c.triggerResyncFn then [.triggerResync] else []
    let recoveryConfirmed := if c.confirmRecoveryFn then confirmed else true
    let confirmation := if c.confirmRecoveryFn then [.confirmRecovery] else []
    if recoveryConfirmed then
      let (c, connected) := c.transitionTo .Connected
      (c, resync ++ triggered ++ confirmation ++ connected)
    else
      let (c, recovery) := c.transitionTo .Recovery
      ({ c with recoveryCount := c.recoveryCount + 1 },
        resync ++ triggered ++ confirmation ++ recovery)

/-- What the transport reports, once the coordinator has started. -/
def handleLinkState (c : DisconnectResyncCoordinator) (state : LinkState)
    (pressed : PressedStateSnapshot) (confirmed : Bool) :
    DisconnectResyncCoordinator × List CoordinatorCallback :=
  if !c.started then (c, [])
  else
    match state with
    | .Connected => c.onConnected confirmed
    | .Disconnected => c.onDisconnected pressed
    | .Lost => c.onDisconnected pressed
    | .Connecting => c.onReconnecting
    | .Pairing => (c, [])
    | .Paired => (c, [])

/-- The coordinator after `start`, with every callback set. -/
def init : DisconnectResyncCoordinator where
  releaseAllPressedFn := true
  getPressedStateFn := true
  triggerResyncFn := true
  confirmRecoveryFn := true
  onStateChange := true
  state := .Connected
  started := true
  disconnectCount := 0
  resyncCount := 0
  recoveryCount := 0

end DisconnectResyncCoordinator

/-- An event of the link, with what `getPressedStateFn_` and `confirmRecoveryFn_` return at it. -/
structure LinkStateEvent where
  state : LinkState
  pressed : PressedStateSnapshot
  confirmed : Bool
  deriving DecidableEq

/-- A coordinator that is handed one event after another. -/
def coordinatorMachine : Lib.Machine DisconnectResyncCoordinator LinkStateEvent where
  init := .init
  step c e := (c.handleLinkState e.state e.pressed e.confirmed).1

/-- The callbacks that it makes at an event. -/
def eventCallbacks (c : DisconnectResyncCoordinator) (e : LinkStateEvent) :
    List CoordinatorCallback := (c.handleLinkState e.state e.pressed e.confirmed).2

end CrossFlow
