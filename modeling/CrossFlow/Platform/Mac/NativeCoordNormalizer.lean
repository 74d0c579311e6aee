import CrossFlow.Core.Common.Domain
import CrossFlow.Lib.SignedWord

/-!
# `CrossFlow.Platform.Mac.NativeCoordNormalizer`: native coordinates

The model of `platform/mac/native_coord_normalizer.hpp` and `.cpp`, without the scale factor. `none`
is for arithmetic of signed words that overflows, which is undefined.
-/

set_option autoImplicit false

namespace CrossFlow

open Lib (SignedWord.add SignedWord.sub SignedWord.widen SignedWord.lowBits)

/-- A position in the coordinates of the system. -/
structure NativeCoord where
  x : Int64
  y : Int64
  deriving DecidableEq

/-- A position in the coordinates of a screen, with the origin at the top left. -/
structure NormalizedCoord where
  x : Int32
  y : Int32
  deriving DecidableEq

/-- Which of the two coordinate systems a geometry is in. -/
inductive ApiSource where
  | NSScreen
  | CGDisplay
  deriving DecidableEq

/-- A display as the system tells of it. -/
structure NativeScreenGeometry where
  originX : Int64
  originY : Int64
  width : UInt32
  height : UInt32
  apiSource : ApiSource
  deriving DecidableEq

/-- The edges of the box around some displays. -/
structure DisplayBoundingBox where
  left : Int64
  top : Int64
  right : Int64
  bottom : Int64
  deriving DecidableEq

namespace NativeCoordNormalizer

/-- The position on one display. An overflow has no value. -/
def normalizeSingleDisplay (native : NativeCoord) (geometry : NativeScreenGeometry) :
    Option NormalizedCoord := do
  let x ← SignedWord.sub native.x geometry.originX
  match geometry.apiSource with
  | .NSScreen =>
    let bottom ← SignedWord.add (SignedWord.widen geometry.height) geometry.originY
    let y ← SignedWord.sub bottom native.y
    return { x := x.toInt32, y := y.toInt32 }
  | .CGDisplay =>
    let y ← SignedWord.sub native.y geometry.originY
    return { x := x.toInt32, y := y.toInt32 }

/-- The box of one display. -/
def boxOf (display : NativeScreenGeometry) : Option DisplayBoundingBox := do
  let right ← SignedWord.add display.originX (SignedWord.widen display.width)
  let bottom ← SignedWord.add display.originY (SignedWord.widen display.height)
  return { left := display.originX, top := display.originY, right, bottom }

/-- A turn of the loop in `computeBoundingBox`. -/
def extendBox (bbox : DisplayBoundingBox) (display : NativeScreenGeometry) :
    Option DisplayBoundingBox := do
  let box ← boxOf display
  some
    { left := min bbox.left box.left
      top := min bbox.top box.top
      right := max bbox.right box.right
      bottom := max bbox.bottom box.bottom }

/-- The box around the displays. An overflow has no value. -/
def computeBoundingBox : List NativeScreenGeometry → Option DisplayBoundingBox
  | [] => some { left := 0, top := 0, right := 0, bottom := 0 }
  | display :: allDisplays => do
    let bbox ← boxOf display
    allDisplays.foldlM extendBox bbox

/-- The position in the box, from its top left corner. -/
def normalizeMultiDisplay (native : NativeCoord) (bbox : DisplayBoundingBox) :
    Option NormalizedCoord := do
  let x ← SignedWord.sub native.x bbox.left
  let y ← SignedWord.sub native.y bbox.top
  return { x := x.toInt32, y := y.toInt32 }

/-- The size of a display, with the origin at 0. -/
def toScreenBoundary (geometry : NativeScreenGeometry) : ScreenBoundary where
  width := geometry.width
  height := geometry.height
  originX := 0
  originY := 0

/-- The size of the box, with the origin at 0. -/
def toScreenBoundaryMerged (bbox : DisplayBoundingBox) : Option ScreenBoundary := do
  let width ← SignedWord.sub bbox.right bbox.left
  let height ← SignedWord.sub bbox.bottom bbox.top
  some
    { width := SignedWord.lowBits width
      height := SignedWord.lowBits height
      originX := 0
      originY := 0 }

end NativeCoordNormalizer

end CrossFlow
