import CrossFlow.Core.Common.Domain
import CrossFlow.Lib.SignedWord

/-!
# `CrossFlow.Platform.Mac.EdgeDetector`: the cursor beyond a side of the screen

The model of `platform/mac/edge_detector.hpp` and `.cpp`. `none` is for arithmetic of signed words
that overflows, which is undefined.
-/

set_option autoImplicit false

namespace CrossFlow

open Lib (SignedWord.neg SignedWord.sub)

/-- `EdgeDetector::detect` -/
def EdgeDetector.detect (cursorX cursorY : Int32) (boundary : ScreenBoundary) :
    Option (Option EdgeOverflowEvent) :=
  if !boundary.isValid then some none
  else
    let width := boundary.width.toInt32
    let height := boundary.height.toInt32
    if cursorY < 0 ∨ cursorY > height then some none
    else if cursorX < 0 then do
      let overflow ← SignedWord.neg cursorX
      return some
        { direction := .Left, overflow := overflow.toUInt32, cursorY := cursorY.toUInt32 }
    else if cursorX > width then do
      let overflow ← SignedWord.sub cursorX width
      return some
        { direction := .Right, overflow := overflow.toUInt32, cursorY := cursorY.toUInt32 }
    else some none

end CrossFlow
