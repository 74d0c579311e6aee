import CrossFlow.Core.Common.Domain
import CrossFlow.Platform.Mac.DualChannelSpsc

/-!
# `CrossFlow.Platform.Mac.CGEventNormalizer`: the events of the capture thread

The model of `platform/mac/cg_event_normalizer.hpp` and `.cpp`, without the modifier flags. A
function that calls `onEvent_` returns what it is called with.
-/

set_option autoImplicit false

namespace CrossFlow

/-- `RawPayload` (`platform/common/platform_ports.hpp`), with the bytes of its enumerations. -/
inductive RawPayload where
  | mouseMove (deltaX deltaY : Int32)
  | mouseButton (button : UInt8)
  | wheel (delta : Int32) (axis : UInt8)
  | key (keyCode : KeyCode)
  deriving DecidableEq

/-- `RawInputEvent`, with the byte of its kind, which need not be an enumerator's. -/
structure RawInputEvent where
  platformTime : UInt64
  kind : UInt8
  payload : RawPayload
  deriving DecidableEq

/-- The normalizer with its counts. -/
structure CGEventNormalizer where
  /-- There is an `onEvent_`. -/
  onEvent : Bool
  boundary : ScreenBoundary
  normalizedCount : UInt64
  edgeOverflowCount : UInt64
  unknownEventCount : UInt64
  deriving DecidableEq

namespace CGEventNormalizer

/-- A normalizer that was just made, without a handler. -/
def init : CGEventNormalizer where
  onEvent := false
  boundary := { width := 0, height := 0, originX := 0, originY := 0 }
  normalizedCount := 0
  edgeOverflowCount := 0
  unknownEventCount := 0

/-- Without a `case` the payload is the first alternative, of zeros. -/
def toRawInputEvent (flat : RawInputEventFlat) : RawInputEvent where
  platformTime := flat.platformTime
  kind := flat.kind
  payload :=
    if flat.kind = RawEventKind.MouseMove.toU8 then .mouseMove flat.deltaX flat.deltaY
    else if flat.kind = RawEventKind.MouseButtonPress.toU8 ∨
        flat.kind = RawEventKind.MouseButtonRelease.toU8 then .mouseButton flat.button
    else if flat.kind = RawEventKind.Wheel.toU8 then .wheel flat.wheelDelta flat.wheelAxis
    else if flat.kind = RawEventKind.KeyPress.toU8 ∨
        flat.kind = RawEventKind.KeyRelease.toU8 then .key flat.keyCode
    else .mouseMove 0 0

/-- The sums are of 64 bits, so they are taken as integers. -/
def detectEdgeOverflow (normalizer : CGEventNormalizer) (flat : RawInputEventFlat) : Bool :=
  let boundary := normalizer.boundary
  if flat.kind ≠ RawEventKind.MouseMove.toU8 then false
  else if !boundary.isValid then false
  else
    let newX : Int := boundary.originX.toNat + flat.deltaX.toInt
    let newY : Int := boundary.originY.toNat + flat.deltaY.toInt
    if newX < 0 ∨ newX ≥ (boundary.originX + boundary.width).toNat then true
    else if newY < 0 ∨ newY ≥ (boundary.originY + boundary.height).toNat then true
    else false

/-- `normalize`, with the events that `onEvent_` gets. -/
def normalize (normalizer : CGEventNormalizer) (flat : RawInputEventFlat) :
    CGEventNormalizer × List RawInputEvent :=
  if flat.valid = 0 then
    ({ normalizer with unknownEventCount := normalizer.unknownEventCount + 1 }, [])
  else
    let edgeOverflowCount :=
      if normalizer.detectEdgeOverflow flat then normalizer.edgeOverflowCount + 1
      else normalizer.edgeOverflowCount
    ({ normalizer with edgeOverflowCount, normalizedCount := normalizer.normalizedCount + 1 },
      if normalizer.onEvent then [toRawInputEvent flat] else [])

end CGEventNormalizer

end CrossFlow
