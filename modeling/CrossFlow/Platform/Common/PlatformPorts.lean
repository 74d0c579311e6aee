import CrossFlow.Core.Common.Domain

/-!
# `CrossFlow.Platform.Common.PlatformPorts`: what is pressed

The handle of a capture, the snapshot of what is pressed and the results of an injector, in
`platform/common/platform_ports.hpp`.
-/

set_option autoImplicit false

namespace CrossFlow

/-- The handle of a capture. The id 0 is that of none. -/
structure CaptureHandle where
  id : UInt32
  active : Bool
  deriving DecidableEq

/-- What an injector returns. -/
structure InjectResult where
  ok : Bool
  failedCount : UInt32
  latencyUs : UInt64
  deriving DecidableEq

/-- The loop of both `count` functions, on a word of `width` bits. -/
def countBits : Nat → Nat → Nat
  | 0, _ => 0
  | width + 1, v => if v = 0 then 0 else v % 2 + countBits width (v / 2)

/-- A bit for each of the first eight buttons. -/
structure MouseButtonBitmap where
  bits : UInt8
  deriving DecidableEq

/-- `btn` is the byte of a `MouseButton`, which is not always an enumerator's. The code asks for
buttons below 8 only; a shift by 32 or more would be undefined. -/
def MouseButtonBitmap.isPressed (b : MouseButtonBitmap) (btn : UInt8) : Bool :=
  b.bits.toNat.testBit btn.toNat

/-- The bytes that `1u` can be shifted by. A shift by 32 or more is undefined. -/
abbrev ShiftableButton : Type := { btn : UInt8 // btn.toNat < 32 }

/-- The bit of a button from 8 on is cut off when the word is stored in the byte. -/
def MouseButtonBitmap.setPressed (b : MouseButtonBitmap) (btn : ShiftableButton) :
    MouseButtonBitmap where
  bits := b.bits ||| .ofNat (2 ^ btn.val.toNat)

/-- The bit of the button is cleared, if it has one. -/
def MouseButtonBitmap.clearPressed (b : MouseButtonBitmap) (btn : ShiftableButton) :
    MouseButtonBitmap where
  bits := b.bits &&& ~~~ .ofNat (2 ^ btn.val.toNat)

/-- A bit is set. -/
def MouseButtonBitmap.anyPressed (b : MouseButtonBitmap) : Bool := b.bits != 0

/-- How many bits are set. -/
def MouseButtonBitmap.count (b : MouseButtonBitmap) : UInt8 := .ofNat (countBits 8 b.bits.toNat)

/-- A bit for each of the first 256 key codes. -/
structure KeyCodeBitmap where
  words : Vector UInt64 4
  deriving DecidableEq

/-- The bit of the key, if it has one. -/
def KeyCodeBitmap.isPressed (b : KeyCodeBitmap) (code : KeyCode) : Bool :=
  if h : code.toNat < 256 then
    (b.words.get ⟨code.toNat / 64, by omega⟩).toNat.testBit (code.toNat % 64)
  else false

/-- `words[wordIdx]` changed by `f` with `1ull << bitIdx`, unless the code is too large. -/
def KeyCodeBitmap.modify (b : KeyCodeBitmap) (code : KeyCode) (f : UInt64 → UInt64 → UInt64) :
    KeyCodeBitmap :=
  if h : code.toNat < 256 then
    { words := b.words.set (code.toNat / 64)
        (f (b.words.get ⟨code.toNat / 64, by omega⟩) (.ofNat (2 ^ (code.toNat % 64)))) (by omega) }
  else b

/-- The bit of the key is set, if it has one. -/
def KeyCodeBitmap.setPressed (b : KeyCodeBitmap) (code : KeyCode) : KeyCodeBitmap :=
  b.modify code fun word bit => word ||| bit

/-- The bit of the key is cleared, if it has one. -/
def KeyCodeBitmap.clearPressed (b : KeyCodeBitmap) (code : KeyCode) : KeyCodeBitmap :=
  b.modify code fun word bit => word &&& ~~~ bit

/-- A word is not 0. -/
def KeyCodeBitmap.anyPressed (b : KeyCodeBitmap) : Bool := b.words.toList.any (· != 0)

/-- How many bits are set, over all words. -/
def KeyCodeBitmap.count (b : KeyCodeBitmap) : UInt16 :=
  b.words.toList.foldl (fun c w => c + .ofNat (countBits 64 w.toNat)) 0

/-- What is held down, as far as there are bits for it. -/
structure PressedStateSnapshot where
  modifiers : ModifierState
  pressedMouseButtons : MouseButtonBitmap
  pressedKeys : KeyCodeBitmap
  stale : Bool
  deriving DecidableEq

/-- Nothing is pressed. -/
def PressedStateSnapshot.init : PressedStateSnapshot where
  modifiers := { shift := false, ctrl := false, alt := false, cmd := false, fn := false }
  pressedMouseButtons := { bits := 0 }
  pressedKeys := { words := .replicate 4 0 }
  stale := false

/-- What `releaseAllPressed` returns. -/
structure ReleaseResult where
  releasedCount : UInt32
  latencyMs : UInt32
  deriving DecidableEq

end CrossFlow
