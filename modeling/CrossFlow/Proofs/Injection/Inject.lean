import CrossFlow.Platform.Mac.MacEventInjector
import CrossFlow.Platform.Win.WinInputPlaneReceiver

/-!
# `CrossFlow.Proofs.Injection.Inject`: malformed events

* `dispatch_isSome_iff`: the handler that the event type selects finds its payload, or throws.
* `injectors_total`: the macOS injector returns for every event, and the Windows one for all but
  those whose payload is not the one of their type.
* `handleReceivedEvent_isSome_iff`: nothing before the Windows injector rejects these.
-/

set_option autoImplicit false

namespace CrossFlow

/-! ### The payload of a type -/

/-- The alternatives of a payload. -/
inductive PayloadAlternative where
  | mouseMove
  | mouseButton
  | wheel
  | key
  deriving DecidableEq

/-- The alternative that events of a type have. -/
def EventType.alternative : EventType → PayloadAlternative
  | .MouseMove => .mouseMove
  | .MouseButtonPress | .MouseButtonRelease => .mouseButton
  | .Wheel => .wheel
  | .KeyPress | .KeyRelease => .key

/-- The alternative that a payload holds, if its index is one. -/
def ReceivedPayload.alternative : ReceivedPayload → Option PayloadAlternative
  | mouseMove _ => some .mouseMove
  | mouseButton _ => some .mouseButton
  | wheel _ _ => some .wheel
  | key _ => some .key
  | noAlternative _ => none

/-- The payload is one of the event's type. There is none of an unknown type. -/
def ReceivedEvent.PayloadMatches (event : ReceivedEvent) : Prop :=
  ∃ t, EventType.ofByte event.eventType = some t ∧ event.payload.alternative = some t.alternative

namespace ReceivedPayload

/-- A movement is got from a movement only. -/
theorem isSome_getMouseMove (payload : ReceivedPayload) :
    payload.getMouseMove.isSome = true ↔ payload.alternative = some .mouseMove := by
  cases payload <;> simp [getMouseMove, alternative]

/-- A button is got from a button only. -/
theorem isSome_getMouseButton (payload : ReceivedPayload) :
    payload.getMouseButton.isSome = true ↔ payload.alternative = some .mouseButton := by
  cases payload <;> simp [getMouseButton, alternative]

/-- A turn of the wheel is got from one only. -/
theorem isSome_getWheel (payload : ReceivedPayload) :
    payload.getWheel.isSome = true ↔ payload.alternative = some .wheel := by
  cases payload <;> simp [getWheel, alternative]

/-- A key is got from a key only. -/
theorem isSome_getKey (payload : ReceivedPayload) :
    payload.getKey.isSome = true ↔ payload.alternative = some .key := by
  cases payload <;> simp [getKey, alternative]

end ReceivedPayload

/-- The payload of a known type is the alternative of the type. -/
theorem payloadMatches_of_some {event : ReceivedEvent} {t : EventType}
    (ht : EventType.ofByte event.eventType = some t) :
    event.PayloadMatches ↔ event.payload.alternative = some t.alternative := by
  constructor
  · rintro ⟨t', ht', h⟩
    rw [ht] at ht'
    cases ht'
    exact h
  · exact fun h => ⟨t, ht, h⟩

/-- A payload that matches is the alternative of the type. -/
theorem alternative_of_matches {event : ReceivedEvent}
    (h : EventType.ofByte event.eventType = none ∨ event.PayloadMatches) {t : EventType}
    (ht : EventType.ofByte event.eventType = some t) :
    event.payload.alternative = some t.alternative := by
  rcases h with h | h
  · rw [h] at ht
    exact absurd ht (by simp)
  · exact (payloadMatches_of_some ht).mp h

/-- `switch (eventType)`: each of the handlers finds what it gets, or throws. -/
theorem switch_isSome_iff {α : Type} {event : ReceivedEvent}
    {mouseMove mouseButton wheel key unknown : Option α}
    (hmouseMove : mouseMove.isSome = event.payload.getMouseMove.isSome)
    (hmouseButton : mouseButton.isSome = event.payload.getMouseButton.isSome)
    (hwheel : wheel.isSome = event.payload.getWheel.isSome)
    (hkey : key.isSome = event.payload.getKey.isSome) (hunknown : unknown.isSome = true) :
    (match EventType.ofByte event.eventType with
      | some .MouseMove => mouseMove
      | some .MouseButtonPress | some .MouseButtonRelease => mouseButton
      | some .Wheel => wheel
      | some .KeyPress | some .KeyRelease => key
      | none => unknown).isSome = true ↔
      EventType.ofByte event.eventType = none ∨ event.PayloadMatches := by
  cases ht : EventType.ofByte event.eventType with
  | none => exact iff_of_true hunknown (Or.inl rfl)
  | some t =>
    rw [payloadMatches_of_some ht, or_iff_right (by simp)]
    -- Each type has one alternative of the variant, and a payload of another throws.
    cases t with
    | MouseMove => exact hmouseMove ▸ event.payload.isSome_getMouseMove
    | MouseButtonPress => exact hmouseButton ▸ event.payload.isSome_getMouseButton
    | MouseButtonRelease => exact hmouseButton ▸ event.payload.isSome_getMouseButton
    | Wheel => exact hwheel ▸ event.payload.isSome_getWheel
    | KeyPress => exact hkey ▸ event.payload.isSome_getKey
    | KeyRelease => exact hkey ▸ event.payload.isSome_getKey

/-- An event that is validated has a payload of its type. -/
theorem validate_matches {event : ReceivedEvent} (h : event.validate = true) :
    EventType.ofByte event.eventType = none ∨ event.PayloadMatches := by
  unfold ReceivedEvent.validate at h
  split at h
  · exact absurd h Bool.false_ne_true
  · split at h
    · exact absurd h Bool.false_ne_true
    · split at h
      · exact absurd h Bool.false_ne_true
      · cases ht : EventType.ofByte event.eventType with
        | none => exact Or.inl rfl
        | some t =>
          rw [ht] at h
          rw [payloadMatches_of_some ht]
          -- The code's own check asks for the alternative of the type.
          cases t with
          | MouseMove => exact Or.inr (event.payload.isSome_getMouseMove.mp h)
          | MouseButtonPress => exact Or.inr (event.payload.isSome_getMouseButton.mp h)
          | MouseButtonRelease => exact Or.inr (event.payload.isSome_getMouseButton.mp h)
          | Wheel => exact Or.inr (event.payload.isSome_getWheel.mp h)
          | KeyPress => exact Or.inr (event.payload.isSome_getKey.mp h)
          | KeyRelease => exact Or.inr (event.payload.isSome_getKey.mp h)

/-- A handler that does not throw after its `std::get`. -/
theorem isSome_bind_of_isSome {α β : Type} {x : Option α} {f : α → Option β}
    (h : ∀ a, (f a).isSome = true) : (x >>= f).isSome = x.isSome := by
  cases x with
  | none => rfl
  | some a => exact h a

/-- What the two injectors have in common: `inject` returns, and it rejects an event with a payload
of another type and posts nothing. -/
def InjectsTotally {σ ε : Type} (event : ReceivedEvent)
    (outcome : Option (σ × InjectResult × List ε)) : Prop :=
  ∃ injector result posted, outcome = some (injector, result, posted) ∧
    (¬ event.PayloadMatches → result.ok = false ∧ posted = [])

/-! ### macOS -/

namespace MacEventInjector

variable (injector : MacEventInjector) (event : ReceivedEvent) (create : Nat → Bool)

/-- `dispatch` returns unless the payload is of another type. -/
theorem dispatch_isSome_iff :
    (injector.dispatch event create).isSome = true ↔
      EventType.ofByte event.eventType = none ∨ event.PayloadMatches := by
  refine switch_isSome_iff ?_ ?_ ?_ ?_ rfl
  · refine isSome_bind_of_isSome fun payload => ?_
    cases injector.injectionMethod with
    | RelativeDelta => rfl
    | AbsolutePosition => rfl
    | LocationCompute =>
      dsimp only
      split <;> rfl
  · refine isSome_bind_of_isSome fun button => ?_
    dsimp only
    split <;> rfl
  · exact isSome_bind_of_isSome fun _ => rfl
  · exact isSome_bind_of_isSome fun _ => rfl

/-- Nothing is posted for an unknown type. -/
theorem dispatch_of_unknown (h : EventType.ofByte event.eventType = none) :
    injector.dispatch event create = some (failed, []) := by
  rw [dispatch, h]

variable {event}

/-- The check of a key code does not throw for a payload of the type. -/
theorem validateKeyCode_isSome
    (h : EventType.ofByte event.eventType = none ∨ event.PayloadMatches) :
    (validateKeyCode event).isSome = true := by
  unfold validateKeyCode
  split
  · next ht =>
    rw [isSome_bind_of_isSome fun _ => rfl]
    exact event.payload.isSome_getKey.mpr (alternative_of_matches h ht)
  · next ht =>
    rw [isSome_bind_of_isSome fun _ => rfl]
    exact event.payload.isSome_getKey.mpr (alternative_of_matches h ht)
  · rfl

/-- The check of a button does not throw for a payload of the type. -/
theorem validateButton_isSome
    (h : EventType.ofByte event.eventType = none ∨ event.PayloadMatches) :
    (validateButton event).isSome = true := by
  unfold validateButton
  split
  · next ht =>
    rw [isSome_bind_of_isSome fun _ => rfl]
    exact event.payload.isSome_getMouseButton.mpr (alternative_of_matches h ht)
  · next ht =>
    rw [isSome_bind_of_isSome fun _ => rfl]
    exact event.payload.isSome_getMouseButton.mpr (alternative_of_matches h ht)
  · rfl

/-- The check of a position does not throw for a payload of the type. -/
theorem validatePosition_isSome
    (h : EventType.ofByte event.eventType = none ∨ event.PayloadMatches) :
    (injector.validatePosition event).isSome = true := by
  unfold validatePosition
  split
  · next ht _ =>
    refine (isSome_bind_of_isSome fun payload => ?_).trans
      (event.payload.isSome_getMouseMove.mpr (alternative_of_matches h ht))
    dsimp only
    split
    · split
      · rfl
      · split <;> rfl
    · rfl
  · rfl

variable (event)

/-- The checks get only what `validate` has found, and let no other event through. -/
theorem validateParams_total :
    ∃ valid, injector.validateParams event = some valid ∧
      (valid = true → event.validate = true) := by
  unfold validateParams
  by_cases hvalid : event.validate = true
  · have hmatches := validate_matches hvalid
    obtain ⟨key, hkey⟩ := Option.isSome_iff_exists.mp (validateKeyCode_isSome hmatches)
    obtain ⟨button, hbutton⟩ := Option.isSome_iff_exists.mp (validateButton_isSome hmatches)
    obtain ⟨position, hposition⟩ :=
      Option.isSome_iff_exists.mp (injector.validatePosition_isSome hmatches)
    rw [if_neg (by simp [hvalid]), hkey, hbutton, hposition]
    refine ⟨if !key then false else if !button then false else position, ?_, fun _ => hvalid⟩
    cases key with
    | false => rfl
    | true => cases button <;> rfl
  · rw [if_pos (by simpa using hvalid)]
    exact ⟨false, rfl, fun h => absurd h Bool.false_ne_true⟩

/-- The check of `inject`. -/
theorem valid_total :
    ∃ valid, (if injector.validateSource event then injector.validateParams event
        else some false) = some valid ∧ (valid = true → event.validate = true) := by
  split
  · exact injector.validateParams_total event
  · exact ⟨false, rfl, fun h => absurd h Bool.false_ne_true⟩

/-- The macOS injector returns for every event. -/
theorem inject_total : InjectsTotally event (injector.inject event create) := by
  obtain ⟨valid, hcheck, hvalid⟩ := injector.valid_total event
  unfold inject
  rw [hcheck]
  cases valid with
  | false => exact ⟨_, _, _, rfl, fun _ => ⟨rfl, rfl⟩⟩
  | true =>
    -- What passes the code's check has the payload of its type, or is of no type.
    have hmatches := validate_matches (hvalid rfl)
    obtain ⟨⟨result, posted⟩, hdispatch⟩ :=
      Option.isSome_iff_exists.mp ((injector.dispatch_isSome_iff event create).mpr hmatches)
    have hrejected : ¬ event.PayloadMatches → result.ok = false ∧ posted = [] := by
      intro hother
      rw [dispatch_of_unknown injector event create (hmatches.resolve_right hother)] at hdispatch
      cases hdispatch
      exact ⟨rfl, rfl⟩
    show InjectsTotally event (injector.dispatch event create >>= _)
    rw [hdispatch]
    dsimp only [Option.bind_eq_bind, Option.bind_some]
    -- The counters differ, but not what is returned and posted.
    split
    · exact ⟨_, _, _, rfl, hrejected⟩
    · exact ⟨_, _, _, rfl, hrejected⟩

end MacEventInjector

/-! ### Windows -/

namespace WinEventInjector

/-- `dispatch` returns unless the payload is of another type. -/
theorem dispatch_isSome_iff (event : ReceivedEvent) (sent : UInt32) :
    (dispatch event sent).isSome = true ↔
      EventType.ofByte event.eventType = none ∨ event.PayloadMatches := by
  refine switch_isSome_iff ?_ ?_ ?_ ?_ rfl
  · exact isSome_bind_of_isSome fun _ => rfl
  · refine isSome_bind_of_isSome fun button => ?_
    dsimp only
    split
    · rfl
    · split
      · rfl
      · split <;> rfl
  · exact isSome_bind_of_isSome fun _ => rfl
  · exact isSome_bind_of_isSome fun _ => rfl

/-- Nothing is posted for an unknown type. -/
theorem dispatch_of_unknown {event : ReceivedEvent} (sent : UInt32)
    (h : EventType.ofByte event.eventType = none) : dispatch event sent = some (failed, []) := by
  rw [dispatch, h]

/-- The source is looked at, and nothing else. -/
theorem validateSource_iff (injector : WinEventInjector) (event : ReceivedEvent) :
    injector.validateSource event = true ↔ event.sourceNodeId = injector.sourceNodeId := by
  unfold validateSource
  split
  · next h => exact iff_of_false Bool.false_ne_true h
  · next h => exact iff_of_true rfl (not_not.mp h)

/-- The condition under which `inject` returns. -/
theorem inject_isSome_iff (injector : WinEventInjector) (event : ReceivedEvent) (sent : UInt32)
    (latencyUs : UInt64) :
    (injector.inject event sent latencyUs).isSome = true ↔
      event.sourceNodeId ≠ injector.sourceNodeId ∨ EventType.ofByte event.eventType = none ∨
        event.PayloadMatches := by
  have hsource := injector.validateSource_iff event
  unfold inject
  by_cases hvalid : injector.validateSource event = true
  · rw [if_neg (by simp [hvalid]), or_iff_right (not_not.mpr (hsource.mp hvalid)),
      ← dispatch_isSome_iff event sent]
    refine Bool.coe_iff_coe.mpr (isSome_bind_of_isSome fun outcome => ?_)
    dsimp only
    split <;> rfl
  · rw [if_pos (by simpa using hvalid)]
    exact iff_of_true rfl (Or.inl fun h => hvalid (hsource.mpr h))

/-- The Windows injector returns unless an event of its source has a payload of another type. -/
theorem inject_total_iff (injector : WinEventInjector) (event : ReceivedEvent) (sent : UInt32)
    (latencyUs : UInt64) :
    InjectsTotally event (injector.inject event sent latencyUs) ↔
      event.sourceNodeId ≠ injector.sourceNodeId ∨ EventType.ofByte event.eventType = none ∨
        event.PayloadMatches := by
  rw [← inject_isSome_iff injector event sent latencyUs]
  constructor
  · rintro ⟨_, _, _, h, -⟩
    rw [h]
    rfl
  · intro hsome
    have hreturns := (inject_isSome_iff injector event sent latencyUs).mp hsome
    obtain ⟨⟨injector', result, posted⟩, houtcome⟩ := Option.isSome_iff_exists.mp hsome
    refine ⟨injector', result, posted, houtcome, fun hother => ?_⟩
    unfold inject at houtcome
    split at houtcome
    · cases houtcome
      exact ⟨rfl, rfl⟩
    · next hvalid =>
      -- The event is from the source, so its type is unknown, or it would not return.
      have hsource : event.sourceNodeId = injector.sourceNodeId :=
        (injector.validateSource_iff event).mp (by simpa using hvalid)
      have hunknown := (hreturns.resolve_left (not_not.mpr hsource)).resolve_right hother
      rw [dispatch_of_unknown sent hunknown] at houtcome
      cases houtcome
      exact ⟨rfl, rfl⟩

end WinEventInjector

/-! ### The main result -/

/-- The macOS injector rejects every event with a payload of another type. The Windows one does not
return from one that comes from its source and has a type. -/
theorem injectors_total (event : ReceivedEvent) :
    (∀ (injector : MacEventInjector) (create : Nat → Bool),
      InjectsTotally event (injector.inject event create)) ∧
    ∀ (injector : WinEventInjector) (sent : UInt32) (latencyUs : UInt64),
      InjectsTotally event (injector.inject event sent latencyUs) ↔
        event.sourceNodeId ≠ injector.sourceNodeId ∨ EventType.ofByte event.eventType = none ∨
          event.PayloadMatches :=
  ⟨fun injector create => injector.inject_total event create,
    fun injector sent latencyUs => injector.inject_total_iff event sent latencyUs⟩

/-- A key press that carries a mouse move. -/
def strayEvent : ReceivedEvent where
  eventId := 1
  sourceNodeId := { high := 1, low := 2 }
  timestamp := 1
  eventType := 4
  payload := .mouseMove { deltaX := 3, deltaY := 4 }

/-- An event with a payload of another type ends the process. -/
theorem stray_event_terminates :
    ¬ ∀ (event : ReceivedEvent) (injector : WinEventInjector) (sent : UInt32)
      (latencyUs : UInt64), InjectsTotally event (injector.inject event sent latencyUs) := by
  intro h
  obtain ⟨_, _, _, hreturns, -⟩ :=
    h strayEvent (WinEventInjector.init { high := 1, low := 2 }) 1 0
  have hterminates :
      (WinEventInjector.init { high := 1, low := 2 }).inject strayEvent 1 0 = none := by decide
  rw [hterminates] at hreturns
  exact absurd hreturns (by simp)

/-- A receiver passes an event on to its injector whatever its payload is. -/
theorem WinInputPlaneReceiver.handleReceivedEvent_isSome_iff (r : WinInputPlaneReceiver)
    (event : ReceivedEvent) (sent : UInt32) (latencyUs : UInt64) :
    (r.handleReceivedEvent event sent latencyUs).isSome = true ↔
      event.sourceNodeId ≠ r.expectedSourceNodeId ∨
        (r.injector.inject event sent latencyUs).isSome = true := by
  unfold handleReceivedEvent
  dsimp only
  by_cases hsource : event.sourceNodeId = r.expectedSourceNodeId
  · rw [if_neg (not_not.mpr hsource), or_iff_right (not_not.mpr hsource)]
    refine Bool.coe_iff_coe.mpr (isSome_bind_of_isSome fun outcome => ?_)
    split <;> rfl
  · rw [if_pos hsource]
    exact iff_of_true rfl (Or.inl hsource)

end CrossFlow
