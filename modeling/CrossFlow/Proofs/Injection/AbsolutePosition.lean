import CrossFlow.Lib.SignedWord
import CrossFlow.Platform.Mac.MacEventInjector

/-!
# `CrossFlow.Proofs.Injection.AbsolutePosition`: the range of an absolute position

`validateParams` compares a position with 0 on the left and above, and on the right and below with
sums of unsigned words, which wrap around.

* `validateParams_iff`: the positions that are accepted.
* `rangeChecked_iff`: an answer is the right one exactly when the origin does not lie behind an
  accepted position, and no edge that wraps around lies behind a position on the screen.
* `rangeMeets_of_origin`: with the origin at (0, 0) every answer is right.
-/

set_option autoImplicit false

namespace CrossFlow

/-- The position is on the screen, its edges included. -/
def OnScreen (screen : ScreenBoundary) (p : MouseMovePayload) : Prop :=
  (screen.originX.toNat ≤ p.deltaX.toInt ∧
      p.deltaX.toInt ≤ screen.originX.toNat + screen.width.toNat) ∧
    screen.originY.toNat ≤ p.deltaY.toInt ∧
      p.deltaY.toInt ≤ screen.originY.toNat + screen.height.toNat

/-- The position is neither negative nor beyond the right or lower edge, in 32 bits. -/
def InsideEdges (screen : ScreenBoundary) (p : MouseMovePayload) : Prop :=
  (0 ≤ p.deltaX.toInt ∧
      p.deltaX.toInt ≤ (screen.originX.toNat + screen.width.toNat) % 2 ^ 32) ∧
    0 ≤ p.deltaY.toInt ∧
      p.deltaY.toInt ≤ (screen.originY.toNat + screen.height.toNat) % 2 ^ 32

/-- Whether a position is on the screen can be looked up. -/
instance (screen : ScreenBoundary) (p : MouseMovePayload) : Decidable (OnScreen screen p) :=
  inferInstanceAs (Decidable ((_ ∧ _) ∧ _ ∧ _))

/-- Whether a position is inside the edges can be looked up. -/
instance (screen : ScreenBoundary) (p : MouseMovePayload) : Decidable (InsideEdges screen p) :=
  inferInstanceAs (Decidable ((_ ∧ _) ∧ _ ∧ _))

/-- The origin does not lie behind a position inside the edges, and neither edge wraps around for a
position on the screen. -/
def RangeMeets (screen : ScreenBoundary) (p : MouseMovePayload) : Prop :=
  (InsideEdges screen p →
      screen.originX.toNat ≤ p.deltaX.toInt ∧ screen.originY.toNat ≤ p.deltaY.toInt) ∧
    (OnScreen screen p →
      screen.originX.toNat + screen.width.toNat < 2 ^ 32 ∧
        screen.originY.toNat + screen.height.toNat < 2 ^ 32)

namespace MacEventInjector

/-- The comparisons of one coordinate. -/
theorem compare_iff (a : Int32) (origin size : UInt32) :
    (¬ a < 0 ∧ ¬ a.toUInt32 > origin + size) ↔
      0 ≤ a.toInt ∧ a.toInt ≤ (origin.toNat + size.toNat) % 2 ^ 32 := by
  have hunsigned := Lib.SignedWord.toNat_toUInt32 a
  have hlt := a.toInt_lt
  rw [Int32.lt_iff_toInt_lt, gt_iff_lt, UInt32.lt_iff_toNat_lt, UInt32.toNat_add]
  change ¬ a.toInt < 0 ∧ _ ↔ _
  omega

variable {injector : MacEventInjector} {event : ReceivedEvent} {p : MouseMovePayload}

/-- A mouse movement is accepted where it is inside the edges. -/
theorem validateParams_iff (hvalid : event.validate = true)
    (htype : EventType.ofByte event.eventType = some .MouseMove)
    (hpayload : event.payload.getMouseMove = some p)
    (hmethod : injector.injectionMethod = .AbsolutePosition)
    (hscreen : injector.screenBoundary.isValid = true) :
    injector.validateParams event = some true ↔ InsideEdges injector.screenBoundary p := by
  -- The other checks pass for a movement of the cursor.
  have hposition : injector.validateParams event = injector.validatePosition event := by
    simp [validateParams, hvalid, validateKeyCode, validateButton, htype]
  rw [hposition]
  simp only [validatePosition, htype, hmethod, hpayload, Option.bind_eq_bind, Option.bind_some,
    hscreen, if_true]
  rw [InsideEdges, ← compare_iff, ← compare_iff]
  -- The code looks at the lower edges first and then at the upper ones.
  split
  · next h =>
    refine iff_of_false (by simp) ?_
    rintro ⟨⟨hx, -⟩, hy, -⟩
    exact h.elim hx hy
  · next h =>
    rw [not_or] at h
    split
    · next h' =>
      refine iff_of_false (by simp) ?_
      rintro ⟨⟨-, hx⟩, -, hy⟩
      exact h'.elim hx hy
    · next h' =>
      rw [not_or] at h'
      exact iff_of_true rfl ⟨⟨h.1, h'.1⟩, h.2, h'.2⟩

/-- A position is accepted if and only if it is on the screen. -/
def RangeChecked (injector : MacEventInjector) (event : ReceivedEvent)
    (p : MouseMovePayload) : Prop :=
  injector.validateParams event = some true ↔ OnScreen injector.screenBoundary p

/-- A position that is accepted is on the screen when the origin is not behind it, and one on the
screen is accepted when no edge wraps around. -/
theorem insideEdges_iff_onScreen_iff (screen : ScreenBoundary) (p : MouseMovePayload) :
    (InsideEdges screen p ↔ OnScreen screen p) ↔ RangeMeets screen p := by
  have hx := p.deltaX.toInt_lt
  have hy := p.deltaY.toInt_lt
  have hwidth := screen.width.toNat_lt
  have hheight := screen.height.toNat_lt
  unfold RangeMeets InsideEdges OnScreen
  omega

/-- An absolute position is checked against the screen exactly when the origin does not lie behind a
position that is accepted, and no edge wraps around for one that is on the screen. -/
theorem rangeChecked_iff (hvalid : event.validate = true)
    (htype : EventType.ofByte event.eventType = some .MouseMove)
    (hpayload : event.payload.getMouseMove = some p)
    (hmethod : injector.injectionMethod = .AbsolutePosition)
    (hscreen : injector.screenBoundary.isValid = true) :
    RangeChecked injector event p ↔ RangeMeets injector.screenBoundary p := by
  rw [RangeChecked, validateParams_iff hvalid htype hpayload hmethod hscreen]
  exact insideEdges_iff_onScreen_iff injector.screenBoundary p

/-- An injector of absolute positions on a screen of 100 by 100 points with the origin (10, 10). -/
def absoluteInjector : MacEventInjector where
  sourceNodeId := { high := 1, low := 100 }
  isController := false
  injectionMethod := .AbsolutePosition
  screenBoundary := { width := 100, height := 100, originX := 10, originY := 10 }
  totalInjected := 0
  totalRejected := 0

/-- A movement to the position. -/
def moveTo (p : MouseMovePayload) : ReceivedEvent where
  eventId := 1
  sourceNodeId := { high := 1, low := 100 }
  timestamp := 1
  eventType := 0
  payload := .mouseMove p

/-- The check of a position on the screen. -/
theorem rangeChecked_iff_inside :
    RangeChecked absoluteInjector (moveTo { deltaX := 20, deltaY := 20 })
        { deltaX := 20, deltaY := 20 } ↔
      RangeMeets absoluteInjector.screenBoundary { deltaX := 20, deltaY := 20 } :=
  rangeChecked_iff (by decide) (by decide) (by decide) (by decide) (by decide)

/-- A position to the left of the screen is accepted. -/
theorem left_of_origin_accepted :
    ¬ ∀ (injector : MacEventInjector) (event : ReceivedEvent) (p : MouseMovePayload),
      event.validate = true → EventType.ofByte event.eventType = some .MouseMove →
        event.payload.getMouseMove = some p → injector.injectionMethod = .AbsolutePosition →
          injector.screenBoundary.isValid = true → RangeChecked injector event p := by
  intro hclaim
  let p : MouseMovePayload := { deltaX := 5, deltaY := 20 }
  have hchecked := hclaim absoluteInjector (moveTo p) p (by decide) (by decide) (by decide)
    (by decide) (by decide)
  exact absurd (hchecked.mp (by decide)) (by decide)

/-- Every position is checked against a screen with the origin (0, 0). -/
theorem rangeMeets_of_origin {screen : ScreenBoundary} (hx : screen.originX = 0)
    (hy : screen.originY = 0) (p : MouseMovePayload) : RangeMeets screen p := by
  have hwidth := screen.width.toNat_lt
  have hheight := screen.height.toNat_lt
  unfold RangeMeets InsideEdges OnScreen
  rw [hx, hy]
  simp only [UInt32.toNat_zero]
  omega

end MacEventInjector

end CrossFlow
