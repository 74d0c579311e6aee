import CrossFlow.Lib.Holding
import CrossFlow.Lib.Machine
import CrossFlow.Proofs.Injection.Bitmaps
import CrossFlow.Proofs.Injection.Inject

/-!
# `CrossFlow.Proofs.Injection.PostedInputs`: what the posted inputs leave down

The calls of a `WinEventInjector` in any order: events are injected, the modifiers are synchronised,
and what a snapshot says is pressed is released. `injectBatch` is calls of `inject`. What
`SendInput`, `GetAsyncKeyState` and the clock return is an argument of the call, and so is the
snapshot. The inputs that `SendInput` was called with leave a control down when the last of them
that is about it is a press.

* `release_lifts_iff`: what a release leaves down, after any calls.
* `synced_modifier_sticks`: a modifier that `syncModifiers` has pressed stays down until it is
  named by a release of its own, a sync or a snapshot.
-/

set_option autoImplicit false

namespace CrossFlow

open Lib (Change Machine heldAfter)

/-- What an input does to a button or a key. -/
def WinInput.change : WinInput → Option (Change Held)
  | .mouse _ _ _ .LEFTDOWN => some { control := .button 0, down := true }
  | .mouse _ _ _ .LEFTUP => some { control := .button 0, down := false }
  | .mouse _ _ _ .RIGHTDOWN => some { control := .button 1, down := true }
  | .mouse _ _ _ .RIGHTUP => some { control := .button 1, down := false }
  | .mouse _ _ _ .MIDDLEDOWN => some { control := .button 2, down := true }
  | .mouse _ _ _ .MIDDLEUP => some { control := .button 2, down := false }
  | .mouse _ _ _ _ => none
  | .keyboard wVk keyUp => some { control := .key wVk, down := !keyUp }

/-- What an event does to a button or a key, by its payload. -/
def ReceivedEvent.change (event : ReceivedEvent) : Option (Change Held) :=
  let button (down : Bool) : Option (Change Held) :=
    event.payload.getMouseButton.map fun btn => { control := .button btn, down }
  let key (down : Bool) : Option (Change Held) :=
    event.payload.getKey.map fun payload => { control := .key payload.keyCode, down }
  match EventType.ofByte event.eventType with
  | some .MouseButtonPress => button true
  | some .MouseButtonRelease => button false
  | some .KeyPress => key true
  | some .KeyRelease => key false
  | _ => none

/-- The controls that the inputs leave down. -/
def leavesDown (posted : List WinInput) : Held → Bool :=
  heldAfter (fun _ => false) (posted.filterMap WinInput.change)

/-- Later inputs change what earlier ones leave down. -/
theorem leavesDown_append (before later : List WinInput) :
    leavesDown (before ++ later) =
      heldAfter (leavesDown before) (later.filterMap WinInput.change) := by
  rw [leavesDown, List.filterMap_append, Lib.heldAfter_append]
  rfl

/-- The calls of an injector, with what they are told by the system. -/
inductive InjectorCall where
  | setSourceNodeId (id : NodeId)
  | inject (event : ReceivedEvent) (sent : UInt32) (latencyUs : UInt64)
  | syncModifiers (asyncKeyState : UInt16 → Bool) (sourceState : ModifierState)
  | releaseAllPressed (pressed : PressedStateSnapshot) (latencyMs : UInt32)

/-- An injector, and the inputs that it has called `SendInput` with. -/
structure PostingInjector where
  injector : WinEventInjector
  /-- An exception has left a function that is `noexcept`. -/
  terminated : Bool
  /-- History: the inputs. -/
  posted : List WinInput

namespace PostingInjector

/-- An injector that was just made. -/
def init (sourceNodeId : NodeId) : PostingInjector where
  injector := .init sourceNodeId
  terminated := false
  posted := []

/-- A call, unless the process has ended. -/
def step (s : PostingInjector) (call : InjectorCall) : PostingInjector :=
  if s.terminated then s
  else
    match call with
    | .setSourceNodeId id => { s with injector := s.injector.setSourceNodeId id }
    | .inject event sent latencyUs =>
      match s.injector.inject event sent latencyUs with
      | none => { s with terminated := true }
      | some (injector, _, posted) => { s with injector, posted := s.posted ++ posted }
    | .syncModifiers asyncKeyState sourceState =>
      let (injector, posted) := s.injector.syncModifiers asyncKeyState sourceState
      { s with injector, posted := s.posted ++ posted }
    | .releaseAllPressed pressed latencyMs =>
      let (injector, _, posted) := s.injector.releaseAllPressed pressed latencyMs
      { s with injector, posted := s.posted ++ posted }

end PostingInjector

/-- One injector, in every order of its calls. -/
def postingMachine (sourceNodeId : NodeId) : Machine PostingInjector InjectorCall where
  init := .init sourceNodeId
  step := PostingInjector.step

/-! ### The inputs -/

/-- The inputs are for the first three buttons. -/
theorem WinInput.change_button {input : WinInput} {c : Change Held} {btn : UInt8}
    (h : input.change = some c) (hbtn : c.control = .button btn) : btn < 3 := by
  cases input with
  | mouse dx dy mouseData dwFlags =>
    cases dwFlags <;> simp only [WinInput.change, Option.some.injEq, reduceCtorEq] at h <;>
      subst h <;> rw [← Held.button.inj hbtn] <;> decide
  | keyboard wVk keyUp =>
    simp only [WinInput.change, Option.some.injEq] at h
    subst h
    exact absurd hbtn (by simp)

/-- Of a pair of flags for a button, one presses it and the other releases it. -/
theorem WinInput.change_flag {press release : MouseEventF} {btn : UInt8}
    (hpress : (WinInput.mouse 0 0 0 press).change = some ⟨.button btn, true⟩)
    (hrelease : (WinInput.mouse 0 0 0 release).change = some ⟨.button btn, false⟩) (isPress : Prop)
    [Decidable isPress] :
    [WinInput.mouse 0 0 0 (if isPress then press else release)].filterMap WinInput.change =
      [⟨.button btn, decide isPress⟩] := by
  by_cases h : isPress
  · simp [h, hpress]
  · simp [h, hrelease]

/-- An input that releases a control lifts it. -/
theorem WinInput.change_of_released {input : WinInput} {k : Held} (h : input.released = some k) :
    input.change = some (Change.up k) := by
  cases input with
  | mouse dx dy mouseData dwFlags =>
    cases dwFlags <;> simp only [WinInput.released, Option.some.injEq, reduceCtorEq] at h <;>
      subst h <;> rfl
  | keyboard wVk keyUp =>
    cases keyUp <;> simp only [WinInput.released, Option.some.injEq, reduceCtorEq] at h
    subst h
    rfl

namespace WinEventInjector

/-- A button event is injected as what it does, but for the buttons after the third. -/
theorem injectMouseButtonEvent_change {event : ReceivedEvent} {sent : UInt32} {down : Bool}
    {result : InjectResult} {posted : List WinInput}
    (hdown : decide (EventType.ofByte event.eventType = some .MouseButtonPress) = down)
    (h : injectMouseButtonEvent event sent = some (result, posted)) :
    ∃ btn, event.payload.getMouseButton = some btn ∧
      (posted.filterMap WinInput.change = [⟨.button btn, down⟩] ∨ posted = [] ∧ ¬ btn < 3) := by
  cases hbtn : event.payload.getMouseButton with
  | none =>
    rw [injectMouseButtonEvent, hbtn] at h
    exact absurd h (by simp)
  | some btn =>
    refine ⟨btn, rfl, ?_⟩
    simp only [injectMouseButtonEvent, hbtn, Option.bind_eq_bind, Option.bind_some] at h
    -- One `if` of the source for each of the three buttons that have a flag.
    split at h
    · next h0 =>
      obtain ⟨-, rfl⟩ := Prod.mk.inj (Option.some.inj h)
      rw [h0, ← hdown]
      exact .inl (WinInput.change_flag rfl rfl _)
    split at h
    · next h1 =>
      obtain ⟨-, rfl⟩ := Prod.mk.inj (Option.some.inj h)
      rw [h1, ← hdown]
      exact .inl (WinInput.change_flag rfl rfl _)
    split at h
    · next h2 =>
      obtain ⟨-, rfl⟩ := Prod.mk.inj (Option.some.inj h)
      rw [h2, ← hdown]
      exact .inl (WinInput.change_flag rfl rfl _)
    · -- A button without a flag posts nothing.
      next h0 h1 h2 =>
      obtain ⟨-, rfl⟩ := Prod.mk.inj (Option.some.inj h)
      refine .inr ⟨rfl, ?_⟩
      rw [lt_three_iff]
      simp [h0, h1, h2]

/-- An event is injected as what it does to its control, but for the buttons after the third. -/
theorem dispatch_change {event : ReceivedEvent} {sent : UInt32} {result : InjectResult}
    {posted : List WinInput} (h : dispatch event sent = some (result, posted)) :
    posted.filterMap WinInput.change = event.change.toList ∨
      posted = [] ∧ ∀ c, event.change = some c → ∃ btn, c.control = .button btn ∧ ¬ btn < 3 := by
  unfold dispatch at h
  cases htype : EventType.ofByte event.eventType with
  | none =>
    rw [htype] at h
    obtain ⟨-, rfl⟩ := Prod.mk.inj (Option.some.inj h)
    simp [ReceivedEvent.change, htype]
  | some type =>
    rw [htype] at h
    cases type with
    -- Moves and wheel turns hold nothing down and lift nothing.
    | MouseMove =>
      obtain ⟨payload, -, hsent⟩ := Option.bind_eq_some_iff.mp h
      obtain ⟨-, rfl⟩ := Prod.mk.inj (Option.some.inj hsent)
      simp [ReceivedEvent.change, htype, WinInput.change]
    | Wheel =>
      obtain ⟨payload, -, hsent⟩ := Option.bind_eq_some_iff.mp h
      obtain ⟨-, rfl⟩ := Prod.mk.inj (Option.some.inj hsent)
      by_cases haxis : payload.2 = 0 <;>
        simp [ReceivedEvent.change, htype, WinInput.change, haxis]
    -- Both types share one handler, which asks for the type again.
    | MouseButtonPress =>
      obtain ⟨btn, hbtn, hposted⟩ := injectMouseButtonEvent_change
        (show decide (_ = some EventType.MouseButtonPress) = true by rw [htype]; rfl) h
      simpa [ReceivedEvent.change, htype, hbtn] using hposted
    | MouseButtonRelease =>
      obtain ⟨btn, hbtn, hposted⟩ := injectMouseButtonEvent_change
        (show decide (_ = some EventType.MouseButtonPress) = false by rw [htype]; rfl) h
      simpa [ReceivedEvent.change, htype, hbtn] using hposted
    | KeyPress =>
      obtain ⟨payload, hpayload, hsent⟩ := Option.bind_eq_some_iff.mp h
      obtain ⟨-, rfl⟩ := Prod.mk.inj (Option.some.inj hsent)
      simp [ReceivedEvent.change, htype, WinInput.change, hpayload]
    | KeyRelease =>
      obtain ⟨payload, hpayload, hsent⟩ := Option.bind_eq_some_iff.mp h
      obtain ⟨-, rfl⟩ := Prod.mk.inj (Option.some.inj hsent)
      simp [ReceivedEvent.change, htype, WinInput.change, hpayload]

end WinEventInjector

/-! ### Every call -/

/-- `inject` posts nothing, or what the `switch` posts. -/
theorem WinEventInjector.inject_posted {injector injector' : WinEventInjector}
    {event : ReceivedEvent} {sent : UInt32} {latencyUs : UInt64} {result : InjectResult}
    {posted : List WinInput}
    (h : injector.inject event sent latencyUs = some (injector', result, posted)) :
    posted = [] ∨ ∃ result, dispatch event sent = some (result, posted) := by
  unfold inject at h
  split at h
  · -- The event is from another source.
    obtain ⟨-, hposted⟩ := Prod.mk.inj (Option.some.inj h)
    exact .inl (Prod.mk.inj hposted).2.symm
  · -- The counters are written after the dispatch, and post nothing.
    obtain ⟨⟨result', posted'⟩, hdispatch, hrest⟩ := Option.bind_eq_some_iff.mp h
    right
    dsimp only at hrest
    split at hrest
    · obtain ⟨-, hposted⟩ := Prod.mk.inj (Option.some.inj hrest)
      obtain ⟨-, rfl⟩ := Prod.mk.inj hposted
      exact ⟨result', hdispatch⟩
    · obtain ⟨-, hposted⟩ := Prod.mk.inj (Option.some.inj hrest)
      obtain ⟨-, rfl⟩ := Prod.mk.inj hposted
      exact ⟨result', hdispatch⟩

/-- A call that was not the end of the process found the process running. -/
theorem alive_before {s : PostingInjector} {call : InjectorCall}
    (h : (s.step call).terminated = false) : s.terminated = false := by
  unfold PostingInjector.step at h
  split at h
  · exact h
  · next hterminated => exact Bool.eq_false_iff.mpr hterminated

/-- A run that has not ended the process had not ended it before. -/
theorem alive_runFrom {node : NodeId} {s : PostingInjector} {calls : List InjectorCall}
    (h : ((postingMachine node).runFrom s calls).terminated = false) : s.terminated = false := by
  induction calls generalizing s with
  | nil => exact h
  | cons call calls ih => exact alive_before (ih h)

/-- A release after a run that has not ended the process. -/
theorem run_release {node : NodeId} {calls : List InjectorCall}
    (halive : ((postingMachine node).run calls).terminated = false)
    (pressed : PressedStateSnapshot) (latencyMs : UInt32) :
    let s := (postingMachine node).run calls
    (postingMachine node).run (calls ++ [.releaseAllPressed pressed latencyMs]) =
      { s with
        injector := (s.injector.releaseAllPressed pressed latencyMs).1
        posted := s.posted ++ (s.injector.releaseAllPressed pressed latencyMs).2.2 } := by
  dsimp only
  rw [Machine.run_append_singleton]
  show ((postingMachine node).run calls).step (.releaseAllPressed pressed latencyMs) = _
  rw [PostingInjector.step, halive, if_neg Bool.false_ne_true]

/-! ### A release -/

/-- The inputs of a release lift what they are for, one after the other. -/
theorem WinEventInjector.releaseAllPressed_changes (injector : WinEventInjector)
    (pressed : PressedStateSnapshot) (latencyMs : UInt32) :
    (injector.releaseAllPressed pressed latencyMs).2.2.filterMap WinInput.change =
      (releasedBy pressed).map Change.up := by
  obtain ⟨-, hposted⟩ := injector.releaseAllPressed_posted pressed latencyMs
  generalize (injector.releaseAllPressed pressed latencyMs).2.2 = posted at hposted
  generalize releasedBy pressed = ks at hposted
  -- The releases of the controls match the inputs one by one.
  induction posted generalizing ks with
  | nil =>
    cases ks with
    | nil => rfl
    | cons k ks => exact absurd hposted (by simp)
  | cons input posted ih =>
    cases ks with
    | nil => exact absurd hposted (by simp)
    | cons k ks =>
      obtain ⟨hinput, hrest⟩ := List.cons.inj hposted
      rw [List.filterMap_cons_some (WinInput.change_of_released hinput), ih ks hrest]
      rfl

/-- No input is for a button after the third, so none of these is left down. -/
theorem button_of_leavesDown {posted : List WinInput} {btn : UInt8}
    (h : leavesDown posted (.button btn) = true) : btn < 3 := by
  rcases Lib.held_of_heldAfter h with hnone | ⟨c, hc, hbtn, -⟩
  · exact absurd hnone Bool.false_ne_true
  · obtain ⟨input, -, hchange⟩ := List.mem_filterMap.mp hc
    exact WinInput.change_button hchange hbtn

/-- A release lifts what is down and in the snapshot. -/
theorem leavesDown_release (posted : List WinInput) (injector : WinEventInjector)
    (pressed : PressedStateSnapshot) (latencyMs : UInt32) (k : Held) :
    leavesDown (posted ++ (injector.releaseAllPressed pressed latencyMs).2.2) k = true ↔
      leavesDown posted k = true ∧ pressed.holds k = false := by
  rw [leavesDown_append, WinEventInjector.releaseAllPressed_changes, Lib.heldAfter_ups,
    Bool.and_eq_true, Bool.not_eq_true', decide_eq_false_iff_not]
  refine and_congr_right fun hdown => ?_
  cases k with
  | button btn =>
    -- A button that is down is one of the three that a release is posted for.
    rw [WinEventInjector.button_mem_releasedBy, Bool.eq_false_iff]
    exact not_congr (and_iff_right (button_of_leavesDown hdown))
  | key code =>
    rw [WinEventInjector.key_mem_releasedBy, Bool.eq_false_iff]
    exact Iff.rfl

/-- **What a release leaves down.** After any calls, a release leaves a control down just when it
was down and the snapshot does not hold it. So it leaves nothing down just when the snapshot holds
all that was, and a key with a code from 256 on, which no snapshot holds, it never lifts. -/
theorem release_lifts_iff {node : NodeId} {calls : List InjectorCall}
    (halive : ((postingMachine node).run calls).terminated = false)
    (pressed : PressedStateSnapshot) (latencyMs : UInt32) :
    let before := leavesDown ((postingMachine node).run calls).posted
    let after := leavesDown
      ((postingMachine node).run (calls ++ [.releaseAllPressed pressed latencyMs])).posted
    (∀ k, after k = true ↔ before k = true ∧ pressed.holds k = false) ∧
      ((∀ k, after k = false) ↔ ∀ k, before k = true → pressed.holds k = true) ∧
      ∀ code : KeyCode, 256 ≤ code.toNat → before (.key code) = true →
        after (.key code) = true := by
  intro before after
  have hafter (k : Held) : after k = true ↔ before k = true ∧ pressed.holds k = false := by
    show leavesDown _ k = true ↔ _
    rw [run_release halive]
    exact leavesDown_release _ _ pressed latencyMs k
  refine ⟨hafter, forall_congr' fun k => ?_, ?_⟩
  · -- After the release a control is down only if the snapshot does not have it.
    rw [Bool.eq_false_iff, ne_eq, hafter, not_and, Bool.not_eq_false]
  · intro code hlarge hdown
    have hbit : ¬ Held.HasBit (.key code) := Nat.not_lt.mpr hlarge
    exact (hafter _).mpr ⟨hdown, pressed.holds_of_not_hasBit hbit⟩

/-- A key and a button go down, the source changes, and a key with the code 300 goes down. -/
def keyButtonKey (node other : NodeId) : List InjectorCall :=
  [.inject ⟨1, node, 5, 4, .key ⟨65⟩⟩ 1 9, .inject ⟨2, node, 6, 1, .mouseButton 0⟩ 0 9,
    .setSourceNodeId other, .inject ⟨3, node, 7, 4, .key ⟨66⟩⟩ 1 9,
    .inject ⟨4, other, 8, 4, .key ⟨300⟩⟩ 1 9]

/-- A snapshot with the key 65 and the left button has them lifted, and the key 300 is left. -/
theorem release_lifts_iff_two :
    let node : NodeId := { high := 1, low := 1 }
    let other : NodeId := { high := 2, low := 2 }
    let pressed : PressedStateSnapshot :=
      { PressedStateSnapshot.init with
        pressedMouseButtons := { bits := 1 }
        pressedKeys := PressedStateSnapshot.init.pressedKeys.setPressed 65 }
    let after := leavesDown ((postingMachine node).run
      (keyButtonKey node other ++ [.releaseAllPressed pressed 0])).posted
    after (.key 65) = false ∧ after (.button 0) = false ∧ after (.key 300) = true := by
  intro node other pressed after
  have halive : ((postingMachine node).run (keyButtonKey node other)).terminated = false := by
    decide +kernel
  obtain ⟨hafter, -, hlarge⟩ := release_lifts_iff halive pressed 0
  have hheld : pressed.holds (.key 65) = true ∧ pressed.holds (.button 0) = true := by
    decide +kernel
  refine ⟨Bool.eq_false_iff.mpr fun h => ?_, Bool.eq_false_iff.mpr fun h => ?_, ?_⟩
  · exact absurd (hheld.1.symm.trans ((hafter _).mp h).2) (by decide)
  · exact absurd (hheld.2.symm.trans ((hafter _).mp h).2) (by decide)
  · exact hlarge 300 (by decide) (by decide +kernel)

/-! ### A modifier that was synchronised -/

/-- The call does not lift the key: it is not about it, it says that it is pressed at the source, or
its snapshot does not hold it. -/
def InjectorCall.LeavesAlone (vk : UInt16) : InjectorCall → Prop
  | .setSourceNodeId _ => True
  | .inject event _ _ => ∀ c, event.change = some c → c.control ≠ .key vk
  | .syncModifiers _ sourceState => (vk, false) ∉ WinEventInjector.mods sourceState
  | .releaseAllPressed pressed _ => pressed.holds (.key vk) = false

/-- What a sync posts for a key presses it, or lifts it when the source says that it is up. -/
theorem syncModifiers_change {injector : WinEventInjector} {asyncKeyState : UInt16 → Bool}
    {sourceState : ModifierState} {vk : UInt16} {c : Change Held}
    (hc : c ∈ (injector.syncModifiers asyncKeyState sourceState).2.filterMap WinInput.change)
    (hvk : c.control = .key vk) :
    c.down = true ∨ asyncKeyState vk = true ∧ (vk, false) ∈ WinEventInjector.mods sourceState := by
  obtain ⟨input, hinput, hchange⟩ := List.mem_filterMap.mp hc
  obtain ⟨⟨vk', sourcePressed⟩, hmem, hposted⟩ := List.mem_filterMap.mp hinput
  dsimp only at hposted
  split at hposted
  · -- A modifier of the source is pressed.
    rw [← Option.some.inj hposted] at hchange
    rw [← Option.some.inj hchange]
    exact .inl rfl
  · split at hposted
    · -- A modifier is lifted that the system has as pressed and the source has not.
      next hlift =>
      rw [← Option.some.inj hposted] at hchange
      rw [← Option.some.inj hchange] at hvk
      obtain rfl : vk' = vk := Held.key.inj hvk
      rw [Bool.and_eq_true, Bool.not_eq_true'] at hlift
      rw [hlift.1] at hmem
      exact .inr ⟨hlift.2, hmem⟩
    · exact absurd hposted (by simp)

/-- A key that is down is left down by a call that leaves it alone. -/
theorem leavesDown_step {s : PostingInjector} {vk : UInt16} {call : InjectorCall}
    (hdown : leavesDown s.posted (.key vk) = true) (hcall : call.LeavesAlone vk) :
    leavesDown (s.step call).posted (.key vk) = true := by
  unfold PostingInjector.step
  split
  · exact hdown
  · cases call with
    | setSourceNodeId id => exact hdown
    | inject event sent latencyUs =>
      cases hinject : s.injector.inject event sent latencyUs with
      | none =>
        simp only [hinject]
        exact hdown
      | some outcome =>
        obtain ⟨injector, result, posted⟩ := outcome
        simp only [hinject, leavesDown_append]
        refine (Lib.heldAfter_of_forall_ne ?_).trans hdown
        intro c hc
        -- What is posted for an event is what the event does.
        rcases WinEventInjector.inject_posted hinject with rfl | ⟨result', hdispatch⟩
        · exact absurd hc List.not_mem_nil
        · rcases WinEventInjector.dispatch_change hdispatch with hposted | ⟨rfl, -⟩
          · rw [hposted] at hc
            exact hcall c (Option.mem_toList.mp hc)
          · exact absurd hc List.not_mem_nil
    | syncModifiers asyncKeyState sourceState =>
      show leavesDown (s.posted ++ _) (.key vk) = true
      rw [leavesDown_append]
      refine Lib.heldAfter_eq_of_forall ?_ (.inl hdown)
      intro c hc hvk
      exact (syncModifiers_change hc hvk).resolve_right fun h => hcall h.2
    | releaseAllPressed pressed latencyMs =>
      exact (leavesDown_release _ s.injector pressed latencyMs _).mpr ⟨hdown, hcall⟩

/-- A sync presses a modifier that the source says is pressed and the system says is not. -/
theorem leavesDown_sync {s : PostingInjector} {asyncKeyState : UInt16 → Bool}
    {sourceState : ModifierState} {vk : UInt16} (halive : s.terminated = false)
    (hmod : (vk, true) ∈ WinEventInjector.mods sourceState) (hup : asyncKeyState vk = false) :
    leavesDown (s.step (.syncModifiers asyncKeyState sourceState)).posted (.key vk) = true := by
  rw [PostingInjector.step, halive, if_neg Bool.false_ne_true]
  show leavesDown (s.posted ++ (s.injector.syncModifiers asyncKeyState sourceState).2) _ = true
  rw [leavesDown_append]
  refine Lib.heldAfter_eq_of_forall ?_ (.inr ⟨⟨.key vk, true⟩, ?_, rfl⟩)
  · intro c hc hvk
    exact (syncModifiers_change hc hvk).resolve_right (by simp [hup])
  · refine List.mem_filterMap.mpr
      ⟨.keyboard vk false, List.mem_filterMap.mpr ⟨(vk, true), hmod, ?_⟩, rfl⟩
    simp [hup]

/-- **A modifier that was synchronised sticks.** In every run: when a sync has pressed a modifier,
the inputs posted leave it down through all later events of other keys, syncs that do not say that
it is up and releases whose snapshots do not hold it, also the last one, after which the injector
has no modifier recorded as pressed. -/
theorem synced_modifier_sticks {node : NodeId} {before later : List InjectorCall}
    {asyncKeyState : UInt16 → Bool} {sourceState : ModifierState} {vk : UInt16}
    (hmod : (vk, true) ∈ WinEventInjector.mods sourceState) (hup : asyncKeyState vk = false)
    (hlater : ∀ call ∈ later, call.LeavesAlone vk)
    (halive : ((postingMachine node).run
      (before ++ .syncModifiers asyncKeyState sourceState :: later)).terminated = false)
    {pressed : PressedStateSnapshot} (hpressed : pressed.holds (.key vk) = false)
    (latencyMs : UInt32) :
    let after := (postingMachine node).run
      (before ++ .syncModifiers asyncKeyState sourceState :: later ++
        [.releaseAllPressed pressed latencyMs])
    leavesDown after.posted (.key vk) = true ∧
      after.injector.localModifierState = WinEventInjector.noModifiers := by
  have hdown : leavesDown ((postingMachine node).run
      (before ++ .syncModifiers asyncKeyState sourceState :: later)).posted (.key vk) = true := by
    rw [Machine.run, Machine.runFrom_append, Machine.runFrom_cons] at halive ⊢
    have hsync : (((postingMachine node).runFrom (postingMachine node).init before).step
        (.syncModifiers asyncKeyState sourceState)).terminated = false := alive_runFrom halive
    have hbefore := alive_before hsync
    -- The sync presses the modifier, and the later calls leave it as it is.
    exact Machine.runFrom_of_meets (C := fun _ call => call.LeavesAlone vk)
      (P := fun s : PostingInjector => leavesDown s.posted (.key vk) = true)
      (fun _ _ hs hcall => leavesDown_step hs hcall) (leavesDown_sync hbefore hmod hup)
      (Machine.meets_of_forall fun call hcall _ => hlater call hcall)
  intro after
  have hafter := run_release halive pressed latencyMs
  refine ⟨?_, ?_⟩
  · show leavesDown after.posted _ = true
    rw [show after = _ from hafter]
    exact (leavesDown_release _ _ pressed latencyMs _).mpr ⟨hdown, hpressed⟩
  · rw [show after = _ from hafter]
    rfl

/-- The shift key, with a letter pressed and released meanwhile, and a release of the letter. -/
theorem synced_modifier_sticks_shift :
    let node : NodeId := { high := 1, low := 1 }
    let shift : ModifierState := { WinEventInjector.noModifiers with shift := true }
    let letter : PressedStateSnapshot :=
      { PressedStateSnapshot.init with
        pressedKeys := PressedStateSnapshot.init.pressedKeys.setPressed 65 }
    let after := (postingMachine node).run ([.inject ⟨1, node, 5, 1, .mouseButton 0⟩ 1 9] ++
      .syncModifiers (fun _ => false) shift ::
        [.inject ⟨2, node, 5, 4, .key ⟨65⟩⟩ 1 9, .syncModifiers (fun _ => true) shift,
          .releaseAllPressed letter 0] ++
      [.releaseAllPressed .init 0])
    leavesDown after.posted (.key 0x10) = true ∧
      after.injector.localModifierState = WinEventInjector.noModifiers := by
  intro node shift letter
  refine synced_modifier_sticks (by decide) rfl ?_ (by decide +kernel) (by decide +kernel) 0
  intro call hcall
  simp only [List.mem_cons, List.not_mem_nil, or_false] at hcall
  -- The three later calls: a key that is no modifier, a sync, and a release without shift.
  rcases hcall with rfl | rfl | rfl
  · intro c hc
    rw [← Option.some.inj (show some _ = some c from hc)]
    simp
  · exact (by decide : ((0x10 : UInt16), false) ∉ WinEventInjector.mods shift)
  · exact (by decide +kernel : letter.holds (.key 0x10) = false)

end CrossFlow
