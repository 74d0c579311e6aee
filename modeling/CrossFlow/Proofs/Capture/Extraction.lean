import CrossFlow.Platform.Mac.TapCallback

/-!
# `CrossFlow.Proofs.Capture.Extraction`: what the extractor keeps of an event

An extracted event tells the handler what the event itself does to a button or a key, under the
extractor's name for that control, and an event that is not extracted does nothing to a control that
has a name (`change_extract`). The tap listens to the types of events that the extractor knows
(`testBit_buildListenEventMask`).
-/

set_option autoImplicit false

namespace CrossFlow

open MacEventFieldExtractor

/-- What the handler is told about a button or a key, when the event comes to it. -/
def RawInputEventFlat.change (flat : RawInputEventFlat) : Option (Lib.Change RawControl) :=
  (CGEventNormalizer.toRawInputEvent flat).change

/-- The event that `cgEventCallback` calls `enqueue` with. -/
def CGEventRef.flat (event : CGEventRef) : Option RawInputEventFlat :=
  if (extract (some event)).valid = 0 then none else some (extract (some event))

/-- An event that can be extracted is valid. -/
theorem CGEventRef.valid_flat {event : CGEventRef} {flat : RawInputEventFlat}
    (h : event.flat = some flat) : flat.valid ≠ 0 := by
  rw [CGEventRef.flat] at h
  split at h
  · exact absurd h (by simp)
  · next hvalid => exact Option.some.inj h ▸ hvalid

/-- The table gives each code itself, but for those it does not have. -/
theorem mapKeyCode_eq (code : UInt16) :
    mapKeyCode code = if code.toNat < 128 then code else UNKNOWN_KEYCODE := by
  rw [mapKeyCode]
  split
  · simp [kVkMap]
  · rfl

/-- The event mask has the bits of the types that the extractor has a kind for, and no others. -/
theorem testBit_buildListenEventMask (type : UInt32) :
    MacEventTap.buildListenEventMask.toNat.testBit type.toNat = true ↔
      mapEventType type ≠ 0xFF := by
  have hmask : MacEventTap.buildListenEventMask.toNat = 0x6400C3E := by decide
  constructor
  · intro hbit htype
    -- The mask has no bit from 27 on, so there are few types to look at.
    have hlt : type.toNat < 27 := by
      refine Nat.lt_of_not_le fun hle => ?_
      have hpow := Nat.pow_le_pow_right (show 0 < 2 by decide) hle
      rw [hmask, Nat.testBit_lt_two_pow (by omega)] at hbit
      exact absurd hbit (by decide)
    have hall : ∀ n < 27, Nat.testBit 0x6400C3E n = true → mapEventType (.ofNat n) ≠ 0xFF := by
      decide
    refine hall type.toNat hlt (hmask ▸ hbit) ?_
    rw [UInt32.ofNat_toNat, htype]
  · intro htype
    have hmem : type ∈ MacEventTap.kListenEvents := by
      refine Decidable.byContradiction fun hmem => htype ?_
      simp only [MacEventTap.kListenEvents, List.mem_cons, List.not_mem_nil, or_false,
        not_or] at hmem
      simp [mapEventType, hmem]
    have hall : MacEventTap.kListenEvents.all (fun type => Nat.testBit 0x6400C3E type.toNat) =
        true := by
      decide
    rw [hmask]
    exact List.all_eq_true.mp hall type hmem

/-- Only a state event says something about a button or a key. -/
theorem change_of_not_isStateEvent {flat : RawInputEventFlat}
    (h : ¬ DualChannelSpsc.isStateEvent flat = true) : flat.change = none := by
  simp only [DualChannelSpsc.isStateEvent, Bool.or_eq_true, beq_iff_eq, not_or] at h
  obtain ⟨⟨⟨hkeyPress, hkeyRelease⟩, hpress⟩, hrelease⟩ := h
  unfold RawInputEventFlat.change RawInputEvent.change CGEventNormalizer.toRawInputEvent
  simp only [hkeyPress, hkeyRelease, hpress, hrelease, or_self, if_false]
  split
  · next heq =>
    split at heq
    · exact absurd heq (by simp)
    · split at heq <;> exact absurd heq (by simp)
  · next heq =>
    split at heq
    · exact absurd heq (by simp)
    · split at heq <;> exact absurd heq (by simp)
  · rfl

/-- The button keeps its number, up to a byte. -/
theorem toUInt8_buttonNumber (number : Int64) :
    number.toUInt64.toUInt32.toUInt8 = number.toUInt64.toUInt8 := by
  simp

/-- A button event. -/
theorem change_extract_button {event : CGEventRef} {down : Bool} {kind : RawEventKind}
    (htype : mapEventType event.type = kind.toU8)
    (hkind : kind = if down then .MouseButtonPress else .MouseButtonRelease) :
    event.flat.bind RawInputEventFlat.change =
      some ⟨.button (mapMouseButton event.mouseEventButtonNumber.toUInt64.toUInt8), down⟩ := by
  cases down <;> subst hkind <;>
    simp [CGEventRef.flat, extract, htype, RawEventKind.toU8, RawInputEventFlat.change,
      RawInputEvent.change, CGEventNormalizer.toRawInputEvent]

/-- A key event, which is not extracted when its key is not in the table. -/
theorem change_extract_key {event : CGEventRef} {down : Bool} {kind : RawEventKind}
    (htype : mapEventType event.type = kind.toU8)
    (hkind : kind = if down then .KeyPress else .KeyRelease) :
    event.flat.bind RawInputEventFlat.change =
      (CGControl.raw (.key event.keyboardEventKeycode.toUInt64.toUInt16)).map (⟨·, down⟩) := by
  by_cases hunknown :
      mapKeyCode event.keyboardEventKeycode.toUInt64.toUInt16 = UNKNOWN_KEYCODE
  · -- The key is not in the table: nothing is extracted, and the control has no name.
    cases down <;> subst hkind <;>
      simp [CGEventRef.flat, extract, htype, RawEventKind.toU8, CGControl.raw, hunknown,
        RawInputEventFlat.zero]
  · cases down <;> subst hkind <;>
      simp [CGEventRef.flat, extract, htype, RawEventKind.toU8, CGControl.raw, hunknown,
        RawInputEventFlat.change, RawInputEvent.change, CGEventNormalizer.toRawInputEvent]

/-- An event of another type says nothing about a control, extracted or not. -/
theorem change_extract_other {event : CGEventRef}
    (h : mapEventType event.type = RawEventKind.MouseMove.toU8 ∨
      mapEventType event.type = RawEventKind.Wheel.toU8 ∨ mapEventType event.type = 0xFF) :
    event.flat.bind RawInputEventFlat.change = none := by
  rw [CGEventRef.flat]
  split
  · rfl
  · -- A move, a wheel turn or an unknown kind: none of them is a state event.
    refine change_of_not_isStateEvent ?_
    rcases h with h | h | h
    · simp [extract, h, DualChannelSpsc.isStateEvent, RawEventKind.toU8]
    · simp only [extract, h]
      split <;> simp [DualChannelSpsc.isStateEvent, RawEventKind.toU8]
      split <;> simp
    · simp [extract, h, DualChannelSpsc.isStateEvent, RawEventKind.toU8]

/-- An event goes to the handler with what it does to a control that has a name there. -/
theorem change_extract (event : CGEventRef) :
    event.flat.bind RawInputEventFlat.change =
      event.change.bind (Lib.Change.rename CGControl.raw) := by
  unfold CGEventRef.change
  dsimp only
  -- The extractor looks at the types in this order: buttons, then keys, then what moves or turns.
  split
  · next h =>
    have hkind : mapEventType event.type = RawEventKind.MouseButtonPress.toU8 := by
      rcases h with h | h | h <;> rw [h] <;> rfl
    rw [change_extract_button hkind (if_pos rfl).symm, ← toUInt8_buttonNumber]
    rfl
  split
  · next h =>
    have hkind : mapEventType event.type = RawEventKind.MouseButtonRelease.toU8 := by
      rcases h with h | h | h <;> rw [h] <;> rfl
    rw [change_extract_button hkind (if_neg Bool.false_ne_true).symm, ← toUInt8_buttonNumber]
    rfl
  split
  · next h =>
    have hkind : mapEventType event.type = RawEventKind.KeyPress.toU8 := by
      rw [h]
      rfl
    exact change_extract_key hkind (if_pos rfl).symm
  split
  · next h =>
    have hkind : mapEventType event.type = RawEventKind.KeyRelease.toU8 := by
      rw [h]
      rfl
    exact change_extract_key hkind (if_neg Bool.false_ne_true).symm
  · next hpress hrelease hdown hup =>
    refine change_extract_other ?_
    simp only [mapEventType, hpress, hrelease, hdown, hup, if_false]
    split
    · exact .inl rfl
    split
    · exact .inr (.inl rfl)
    · exact .inr (.inr rfl)

end CrossFlow
