import CrossFlow.Core.Transport.TransportThreads
import CrossFlow.Integration.DisconnectResyncCoordinator

/-!
# `CrossFlow.Integration.CoordinatedTransport`: a coordinator on a transport

`DisconnectResyncCoordinator::start` sets the link-state handler of the transport.
`TransportImpl::notifyLinkState` calls it under `handlerMutex_`, so a step of a thread that notifies
is one with what the coordinator does.
-/

set_option autoImplicit false

namespace CrossFlow

/-- A transport whose link-state handler is the coordinator's. -/
structure CoordinatedTransport where
  threads : TransportThreads
  coordinator : DisconnectResyncCoordinator
  deriving DecidableEq

/-- A step of a thread, with what the coordinator's callbacks return in it. -/
structure CoordinatedAction where
  action : ThreadAction
  pressed : PressedStateSnapshot
  confirmed : Bool

/-- The handler that `start` sets. -/
def DisconnectResyncCoordinator.observe (c : DisconnectResyncCoordinator)
    (pressed : PressedStateSnapshot) (confirmed : Bool) :
    LinkObservation → DisconnectResyncCoordinator
  | .notified state _ => (c.handleLinkState state pressed confirmed).1
  | _ => c

namespace CoordinatedTransport

/-- What is seen of the link at a step, newest first. -/
def seen (t : TransportThreads) (a : ThreadAction) : List LinkObservation :=
  (t.step a).trace.take ((t.step a).trace.length - t.trace.length)

/-- A step of the transport, and what the coordinator does about what it was told in it. -/
def step (s : CoordinatedTransport) (a : CoordinatedAction) : CoordinatedTransport where
  threads := s.threads.step a.action
  coordinator := (seen s.threads a.action).foldr
    (fun o c => c.observe a.pressed a.confirmed o) s.coordinator

end CoordinatedTransport

/-- The two components together, in every interleaving of the transport's threads. -/
def coordinatedMachine (config : TransportConfig) :
    Lib.Machine CoordinatedTransport CoordinatedAction where
  init := { threads := .init config, coordinator := .init }
  step := CoordinatedTransport.step

end CrossFlow
