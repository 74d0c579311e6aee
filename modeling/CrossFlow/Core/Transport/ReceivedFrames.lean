import CrossFlow.Core.Common.ReceivedEvent
import CrossFlow.Core.Transport.ReceiveLoop

/-!
# `CrossFlow.Core.Transport.ReceivedFrames`: what is done with a frame

`deserializeEvent` and the rest of a pass of `inputReceiveLoop` in `s05_transport/transport_impl.cpp`.
The reads of the loop do not depend on what is done with the frames, so the passes are a list of
them.
-/

set_option autoImplicit false

namespace CrossFlow

/-- `CanonicalInputEvent event{}` -/
def ReceivedEvent.empty : ReceivedEvent where
  eventId := 0
  sourceNodeId := { high := 0, low := 0 }
  timestamp := 0
  eventType := 0
  payload := .mouseMove { deltaX := 0, deltaY := 0 }

namespace TransportImpl

/-- `image` is what `std::memcpy` makes of the bytes of an object. -/
def deserializeEvent (image : List UInt8 → ReceivedEvent) (data : List UInt8) : ReceivedEvent :=
  if sizeofEvent ≤ data.length then image (data.take sizeofEvent) else .empty

/-- A pass of the loop after its reads, with the calls of `eventHandler_`, which `handler` says is
set. -/
def receiveEvent (t : TransportImpl) (image : List UInt8 → ReceivedEvent) (handler : Bool)
    (data : List UInt8) : TransportImpl × List ReceivedEvent :=
  let event := deserializeEvent image data
  let t := { t with totalReceived := t.totalReceived + 1 }
  (t, if handler then [event] else [])

/-- The passes, one for each frame that is read. -/
def receiveEvents (image : List UInt8 → ReceivedEvent) (handler : Bool) (t : TransportImpl) :
    List (List UInt8) → TransportImpl × List ReceivedEvent
  | [] => (t, [])
  | data :: frames =>
    let (t, calls) := t.receiveEvent image handler data
    let (t, later) := t.receiveEvents image handler frames
    (t, calls ++ later)

/-- `inputReceiveLoop` on the bytes of one connection. -/
def receiveConnection (t : TransportImpl) (image : List UInt8 → ReceivedEvent) (handler : Bool)
    (socket : Nat) (ret : Nat → Int) (stream : List UInt8) : TransportImpl × List ReceivedEvent :=
  t.receiveEvents image handler (inputReceiveLoop id (some socket) ret stream).1

end TransportImpl

end CrossFlow
