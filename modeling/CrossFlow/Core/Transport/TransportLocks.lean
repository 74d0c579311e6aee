import CrossFlow.Lib.LockOrder

/-!
# `CrossFlow.Core.Transport.TransportLocks`: what the functions of a transport lock

The mutexes and the joins of `s05_transport/transport_impl.cpp`, in the order in which each function
locks, unlocks and waits. The results of the tests on the way are arguments. All the rest is
`LockOp.other`: system calls among it, which return when the peer or the system lets them.

A handler that was set is the list of the calls that it makes on the transport.
-/

set_option autoImplicit false

namespace CrossFlow

open Lib (LockOp LockOrder)

/-- The mutexes of a transport. -/
inductive TransportMutex where
  | sendMutex
  | handlerMutex
  | socketMutex
  deriving DecidableEq

/-- The threads that run a receive loop, and the ones that call the transport. -/
inductive TransportThread where
  | receive (n : Nat)
  | caller (n : Nat)
  deriving DecidableEq

/-- What a thread does with mutexes and other threads. -/
abbrev TransportOps : Type := List (LockOp TransportMutex TransportThread)

/-- A block with a `std::lock_guard` at its start. -/
def lockGuard (m : TransportMutex) (block : TransportOps) : TransportOps :=
  .acquire m :: (block ++ [.release m])

/-- The calls of the public functions of a transport. `linkState` is what the link-state handler
does when it is called. -/
inductive TransportCall where
  /-- `backlog`, `isConnected`, `totalSent`, `totalReceived` -/
  | read
  /-- the two functions `send` -/
  | send (connected : Bool)
  /-- `onEvent`, `onMessage`, `onLinkState` -/
  | setHandler
  | connect (connected : Bool) (linkState : List TransportCall)
  /-- `joinable` are the receive threads that are joined. -/
  | disconnect (connected : Bool) (joinable : List Nat) (linkState : List TransportCall)

mutual

/-- What a call locks and waits for, in order. -/
def TransportCall.ops : TransportCall → TransportOps
  | .read => [.other]
  | .send connected =>
    if !connected then [.other]
    else .other :: lockGuard .sendMutex (lockGuard .socketMutex [.other] ++ [.other])
  | .setHandler => lockGuard .handlerMutex [.other]
  | .connect connected linkState =>
    if connected then [.other]
    else .other :: lockGuard .handlerMutex (handlerOps linkState)
  | .disconnect connected joinable linkState =>
    if !connected then [.other]
    else
      .other :: (lockGuard .socketMutex [.other] ++ joinable.map (fun n => .join (.receive n)) ++
        lockGuard .handlerMutex (handlerOps linkState))

/-- What a handler does. -/
def handlerOps : List TransportCall → TransportOps
  | [] => []
  | call :: calls => call.ops ++ handlerOps calls

end

/-- `notifyLinkState`, with a handler that is set -/
def notifyLinkStateOps (linkState : List TransportCall) : TransportOps :=
  lockGuard .handlerMutex (handlerOps linkState)

/-- How a pass of a receive loop goes. -/
inductive ReceivePass where
  /-- A frame is read, and its handler called. -/
  | deliver (handler : List TransportCall)
  /-- The connection is lost, and `reacceptInput` does not get another one. -/
  | lost (disconnected : List TransportCall)
  /-- The connection is lost, and `reacceptInput` gets another one. -/
  | reaccept (disconnected connected : List TransportCall)
  /-- The same for `reacceptControl`, which calls no handler. -/
  | lostControl
  | reacceptControl
  /-- The loop ends without `reacceptInput` or `reacceptControl`. -/
  | stop

/-- The reads of a pass: `fd` is loaded, and `recvRaw` called. -/
def readOps : TransportOps := .other :: (lockGuard .socketMutex [.other] ++ [.other])

/-- What a pass of a receive loop locks, in order. -/
def ReceivePass.ops : ReceivePass → TransportOps
  | deliver handler => readOps ++ lockGuard .handlerMutex (handlerOps handler)
  | lost disconnected =>
    readOps ++ lockGuard .socketMutex [.other] ++ .other :: notifyLinkStateOps disconnected ++
      lockGuard .socketMutex [.other] ++ [.other]
  | reaccept disconnected connected =>
    readOps ++ lockGuard .socketMutex [.other] ++ .other :: notifyLinkStateOps disconnected ++
      lockGuard .socketMutex [.other] ++ .other :: lockGuard .socketMutex [.other] ++
      .other :: notifyLinkStateOps connected
  | lostControl =>
    readOps ++ lockGuard .socketMutex [.other] ++ lockGuard .socketMutex [.other] ++ [.other]
  | reacceptControl =>
    readOps ++ lockGuard .socketMutex [.other] ++ lockGuard .socketMutex [.other] ++
      .other :: lockGuard .socketMutex [.other]
  | stop => readOps

/-- What a thread is started with: a call, or the passes of a receive loop. -/
inductive TransportProgram : TransportThread → Type where
  | call (n : Nat) (c : TransportCall) : TransportProgram (.caller n)
  | loop (n : Nat) (passes : List ReceivePass) : TransportProgram (.receive n)

/-- What a thread does from its start to its end. -/
def TransportProgram.ops {t : TransportThread} : TransportProgram t → TransportOps
  | call _ c => c.ops
  | loop _ passes => passes.flatMap ReceivePass.ops ++ [.other]

/-! ### Handlers -/

/-- The call can be made in a handler: it does not come to lock `handlerMutex_`. -/
def TransportCall.allowed : TransportCall → Bool
  | read | send _ => true
  | setHandler => false
  | connect connected _ => connected
  | disconnect connected _ _ => !connected

/-- The handlers that the call comes to call make calls that are allowed. -/
def TransportCall.HandlersAllowed : TransportCall → Prop
  | read | send _ | setHandler => True
  | connect connected linkState => connected = false → ∀ c ∈ linkState, c.allowed = true
  | disconnect connected _ linkState => connected = true → ∀ c ∈ linkState, c.allowed = true

/-- The handlers that the pass comes to call make calls that are allowed. -/
def ReceivePass.HandlersAllowed : ReceivePass → Prop
  | deliver handler => ∀ c ∈ handler, c.allowed = true
  | lost disconnected => ∀ c ∈ disconnected, c.allowed = true
  | reaccept disconnected connected =>
    (∀ c ∈ disconnected, c.allowed = true) ∧ ∀ c ∈ connected, c.allowed = true
  | lostControl | reacceptControl | stop => True

/-- All handlers that the thread comes to call make calls that are allowed. -/
def TransportProgram.HandlersAllowed {t : TransportThread} : TransportProgram t → Prop
  | call _ c => c.HandlersAllowed
  | loop _ passes => ∀ pass ∈ passes, pass.HandlersAllowed

end CrossFlow
