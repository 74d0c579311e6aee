import CrossFlow.Platform.Mac.MacEventInjector
import CrossFlow.Platform.Win.WinEventInjector
import Mathlib.Data.List.Nodup

/-!
# `CrossFlow.Proofs.Injection.Release`: what is released

* `mac_releasesAll_iff`: the macOS injector posts nothing.
* `win_releasesAll_iff`: the Windows one posts a release for each key and for three of the buttons,
  and counts what it posts.
* `releaseAllPressed_iff`: when each of them does what the coordinator needs it for.
-/

set_option autoImplicit false

namespace CrossFlow

/-! ### Release events -/

/-- A button, by the byte of its `MouseButton`, or a key. -/
inductive Held where
  | button (btn : UInt8)
  | key (code : KeyCode)
  deriving DecidableEq

/-- The bit of a control is set. -/
def PressedStateSnapshot.holds (pressed : PressedStateSnapshot) : Held → Bool
  | .button btn => pressed.pressedMouseButtons.isPressed btn
  | .key code => pressed.pressedKeys.isPressed code

/-- What a release event is for. -/
def CGEvent.released : CGEvent → Option Held
  | .mouse .leftMouseUp _ _ _ => some (.button 0)
  | .mouse .rightMouseUp _ _ _ => some (.button 1)
  | .mouse .otherMouseUp _ _ _ => some (.button 2)
  | .keyboard keyCode false => some (.key keyCode)
  | _ => none

/-- What an input releases. -/
def WinInput.released : WinInput → Option Held
  | .mouse _ _ _ .LEFTUP => some (.button 0)
  | .mouse _ _ _ .RIGHTUP => some (.button 1)
  | .mouse _ _ _ .MIDDLEUP => some (.button 2)
  | .keyboard wVk true => some (.key wVk)
  | _ => none

/-- One release event for everything that is pressed, no other event, and the number of those that
the system accepts. It accepts the `k`th one if `accepts k`. -/
structure ReleasesAll {ε : Type} (released : ε → Option Held) (pressed : PressedStateSnapshot)
    (accepts : Nat → Bool) (result : ReleaseResult) (posted : List ε) : Prop where
  once : ∀ held, (posted.map released).count (some held) = if pressed.holds held then 1 else 0
  only : none ∉ posted.map released
  counted : result.releasedCount.toNat = (List.range posted.length).countP accepts

/-! ### macOS -/

/-- Counting goes up once for each that is pressed. -/
theorem foldl_count (isPressed : Nat → Bool) (codes : List Nat) (n : UInt32) :
    codes.foldl (fun n code => if isPressed code then n + 1 else n) n =
      n + UInt32.ofNat (codes.countP isPressed) := by
  induction codes generalizing n with
  | nil => simp
  | cons code codes ih =>
    rw [List.foldl_cons, ih, List.countP_cons]
    cases isPressed code with
    | false => simp
    | true => simp [UInt32.ofNat_add, UInt32.add_assoc, UInt32.add_comm]

/-- On macOS all is released when nothing is held. -/
theorem mac_releasesAll_iff (pressed : PressedStateSnapshot) (accepts : Nat → Bool) :
    ReleasesAll CGEvent.released pressed accepts (MacEventInjector.releaseAllPressed pressed).1
        (MacEventInjector.releaseAllPressed pressed).2 ↔
      ∀ held, pressed.holds held = false := by
  constructor
  · intro h held
    have honce := h.once held
    -- Nothing is posted, so nothing can be held.
    change 0 = if pressed.holds held then 1 else 0 at honce
    cases hheld : pressed.holds held with
    | false => rfl
    | true =>
      rw [hheld] at honce
      exact absurd honce (by decide)
  · intro h
    constructor
    · intro held
      rw [h held]
      rfl
    · exact List.not_mem_nil
    · have hbuttons : (List.range 8).countP
          (fun btn => pressed.pressedMouseButtons.isPressed (UInt8.ofNat btn)) = 0 :=
        List.countP_eq_zero.mpr fun btn _ => by
          have := h (.button (UInt8.ofNat btn))
          simpa [PressedStateSnapshot.holds] using this
      have hkeys : (List.range 256).countP
          (fun code => pressed.pressedKeys.isPressed (UInt16.ofNat code)) = 0 :=
        List.countP_eq_zero.mpr fun code _ => by
          have := h (.key (UInt16.ofNat code))
          simpa [PressedStateSnapshot.holds] using this
      rw [MacEventInjector.releaseAllPressed]
      dsimp only
      rw [foldl_count, foldl_count, hbuttons, hkeys]
      rfl

/-! ### Windows -/

namespace WinEventInjector

/-- The releases of the keys from a list of codes. -/
theorem foldl_release (isPressed : Nat → Bool) (up : Nat → WinInput) (codes : List Nat)
    (s : UInt32 × List WinInput) :
    codes.foldl (fun s code => release (isPressed code) (up code) s) s =
      (s.1 + UInt32.ofNat (codes.countP isPressed), s.2 ++ (codes.filter isPressed).map up) := by
  induction codes generalizing s with
  | nil => simp
  | cons code codes ih =>
    rw [List.foldl_cons, ih, List.countP_cons, List.filter_cons]
    cases isPressed code with
    | false => simp [release]
    | true => simp [release, UInt32.ofNat_add, UInt32.add_assoc, UInt32.add_comm]

/-- The three blocks for the buttons. -/
theorem release_buttons (isPressed : UInt8 → Bool) :
    let s := release (isPressed 2) (.mouse 0 0 0 .MIDDLEUP)
      (release (isPressed 1) (.mouse 0 0 0 .RIGHTUP)
        (release (isPressed 0) (.mouse 0 0 0 .LEFTUP) (0, [])))
    s.1 = UInt32.ofNat ([0, 1, 2].filter isPressed).length ∧
      s.2.map WinInput.released =
        ([0, 1, 2].filter isPressed).map fun btn => some (.button btn) := by
  cases h0 : isPressed 0 <;> cases h1 : isPressed 1 <;> cases h2 : isPressed 2 <;>
    simp [release, WinInput.released, h0, h1, h2]

/-- What is released: the first three buttons and all keys, as far as they are pressed. -/
def releasedBy (pressed : PressedStateSnapshot) : List Held :=
  ([0, 1, 2].filter pressed.pressedMouseButtons.isPressed).map .button ++
    ((List.range 256).filter fun code => pressed.pressedKeys.isPressed (UInt16.ofNat code)).map
      fun code => .key (UInt16.ofNat code)

/-- What a release posts, and how many it counts. -/
theorem releaseAllPressed_posted (injector : WinEventInjector) (pressed : PressedStateSnapshot)
    (latencyMs : UInt32) :
    (injector.releaseAllPressed pressed latencyMs).2.1.releasedCount =
        UInt32.ofNat (releasedBy pressed).length ∧
      (injector.releaseAllPressed pressed latencyMs).2.2.map WinInput.released =
        (releasedBy pressed).map some := by
  obtain ⟨hcount, hposted⟩ := release_buttons pressed.pressedMouseButtons.isPressed
  rw [releaseAllPressed, releasedBy]
  dsimp only
  rw [foldl_release, hcount]
  dsimp only
  constructor
  · rw [← UInt32.ofNat_add, List.length_append, List.length_map, List.length_map,
      List.countP_eq_length_filter]
  · rw [List.map_append, hposted, List.map_append, List.map_map, List.map_map, List.map_map]
    rfl

/-- No control is released twice. -/
theorem nodup_releasedBy (pressed : PressedStateSnapshot) : (releasedBy pressed).Nodup := by
  refine List.nodup_append'.mpr ⟨?_, ?_, ?_⟩
  · have hbuttons : ([0, 1, 2] : List UInt8).Nodup := by decide
    exact (hbuttons.filter _).map fun _ _ h => Held.button.inj h
  · refine (List.nodup_range.filter _).map_on fun a ha b hb h => ?_
    have hcode := congrArg UInt16.toNat (Held.key.inj h)
    have ha := List.mem_range.mp (List.mem_of_mem_filter ha)
    have hb := List.mem_range.mp (List.mem_of_mem_filter hb)
    rw [UInt16.toNat_ofNat', UInt16.toNat_ofNat'] at hcode
    omega
  · intro held hbutton hkey
    obtain ⟨_, _, rfl⟩ := List.mem_map.mp hbutton
    obtain ⟨_, _, h⟩ := List.mem_map.mp hkey
    exact absurd h (by simp)

/-- The first three buttons. -/
theorem lt_three_iff (btn : UInt8) : btn < 3 ↔ btn ∈ ([0, 1, 2] : List UInt8) := by
  simp only [List.mem_cons, List.not_mem_nil, or_false, ← UInt8.toNat_inj,
    UInt8.lt_iff_toNat_lt]
  show btn.toNat < 3 ↔ btn.toNat = 0 ∨ btn.toNat = 1 ∨ btn.toNat = 2
  omega

/-- The first three buttons are released when they are held. -/
theorem button_mem_releasedBy (pressed : PressedStateSnapshot) (btn : UInt8) :
    Held.button btn ∈ releasedBy pressed ↔
      btn < 3 ∧ pressed.pressedMouseButtons.isPressed btn = true := by
  rw [releasedBy, List.mem_append, lt_three_iff, ← List.mem_filter]
  constructor
  · rintro (h | h)
    · obtain ⟨_, hmem, h⟩ := List.mem_map.mp h
      rw [← Held.button.inj h]
      exact hmem
    · obtain ⟨_, _, h⟩ := List.mem_map.mp h
      exact absurd h (by simp)
  · exact fun h => Or.inl (List.mem_map_of_mem h)

/-- Each key that is held is released. -/
theorem key_mem_releasedBy (pressed : PressedStateSnapshot) (code : KeyCode) :
    Held.key code ∈ releasedBy pressed ↔ pressed.pressedKeys.isPressed code = true := by
  rw [releasedBy, List.mem_append]
  constructor
  · rintro (h | h)
    · -- What is released as a button is no key.
      obtain ⟨_, _, h⟩ := List.mem_map.mp h
      exact absurd h (by simp)
    · obtain ⟨_, hmem, h⟩ := List.mem_map.mp h
      rw [← Held.key.inj h]
      exact (List.mem_filter.mp hmem).2
  · intro h
    -- A key without a bit is never pressed.
    have hcode : code.toNat < 256 := by
      by_contra hlarge
      rw [KeyCodeBitmap.isPressed, dif_neg hlarge] at h
      exact Bool.false_ne_true h
    refine Or.inr (List.mem_map.mpr ⟨code.toNat, List.mem_filter.mpr ⟨?_, ?_⟩, ?_⟩)
    · exact List.mem_range.mpr hcode
    · rw [UInt16.ofNat_toNat]
      exact h
    · rw [UInt16.ofNat_toNat]

end WinEventInjector

/-- The number of buttons and keys that are pressed. -/
def PressedStateSnapshot.heldCount (pressed : PressedStateSnapshot) : Nat :=
  (List.range 8).countP (fun btn => pressed.pressedMouseButtons.isPressed (UInt8.ofNat btn)) +
    (List.range 256).countP fun code => pressed.pressedKeys.isPressed (UInt16.ofNat code)

/-- No button but the first three is pressed. -/
def PressedStateSnapshot.NamedButtons (pressed : PressedStateSnapshot) : Prop :=
  ∀ btn, pressed.pressedMouseButtons.isPressed btn = true → btn < 3

namespace WinEventInjector

/-- There are at most 259 releases. -/
theorem length_releasedBy_le (pressed : PressedStateSnapshot) :
    (releasedBy pressed).length ≤ 259 := by
  have hbuttons := List.length_filter_le pressed.pressedMouseButtons.isPressed [0, 1, 2]
  have hkeys := List.length_filter_le
    (fun code => pressed.pressedKeys.isPressed (UInt16.ofNat code)) (List.range 256)
  rw [List.length_range] at hkeys
  rw [releasedBy, List.length_append, List.length_map, List.length_map]
  have : ([0, 1, 2] : List UInt8).length = 3 := rfl
  omega

/-- When only the first three buttons are held, all that is held is released. -/
theorem length_releasedBy {pressed : PressedStateSnapshot} (h : pressed.NamedButtons) :
    (releasedBy pressed).length = pressed.heldCount := by
  have hunnamed : ∀ btn : UInt8, ¬ btn < 3 →
      pressed.pressedMouseButtons.isPressed btn = false :=
    fun btn hbtn => Bool.eq_false_iff.mpr fun hpressed => hbtn (h btn hpressed)
  rw [releasedBy, List.length_append, List.length_map, List.length_map,
    PressedStateSnapshot.heldCount, ← List.countP_eq_length_filter, ← List.countP_eq_length_filter]
  congr 1
  have hrange : (List.range 8).countP
      (fun btn => pressed.pressedMouseButtons.isPressed (UInt8.ofNat btn)) =
      ([0, 1, 2, 3, 4, 5, 6, 7] : List UInt8).countP pressed.pressedMouseButtons.isPressed := rfl
  rw [hrange]
  simp [List.countP_cons, hunnamed 3 (by decide), hunnamed 4 (by decide), hunnamed 5 (by decide),
    hunnamed 6 (by decide), hunnamed 7 (by decide)]

/-- On Windows all is released when only named buttons are held and each input is accepted. -/
theorem win_releasesAll_iff (injector : WinEventInjector) (pressed : PressedStateSnapshot)
    (latencyMs : UInt32) (accepts : Nat → Bool) :
    ReleasesAll WinInput.released pressed accepts
        (injector.releaseAllPressed pressed latencyMs).2.1
        (injector.releaseAllPressed pressed latencyMs).2.2 ↔
      pressed.NamedButtons ∧ ∀ k < pressed.heldCount, accepts k = true := by
  obtain ⟨hcount, hposted⟩ := injector.releaseAllPressed_posted pressed latencyMs
  have hlength : (injector.releaseAllPressed pressed latencyMs).2.2.length =
      (releasedBy pressed).length := by
    have := congrArg List.length hposted
    rwa [List.length_map, List.length_map] at this
  have htoNat : (injector.releaseAllPressed pressed latencyMs).2.1.releasedCount.toNat =
      (releasedBy pressed).length := by
    have := length_releasedBy_le pressed
    rw [hcount, UInt32.toNat_ofNat']
    omega
  have honce : ∀ held, ((releasedBy pressed).map some).count (some held) =
      if held ∈ releasedBy pressed then 1 else 0 := by
    intro held
    rw [List.count_map_of_injective _ _ (Option.some_injective Held)]
    exact (nodup_releasedBy pressed).count
  -- Every release is counted when the system accepts them all.
  have haccepted : (releasedBy pressed).length =
        (List.range (releasedBy pressed).length).countP accepts ↔
      ∀ k < (releasedBy pressed).length, accepts k = true := by
    have hiff := List.countP_eq_length (p := accepts) (l := List.range (releasedBy pressed).length)
    rw [List.length_range] at hiff
    rw [eq_comm, hiff]
    exact forall_congr' fun k => by rw [List.mem_range]
  constructor
  · rintro ⟨hall, -, hcounted⟩
    have hnamed : pressed.NamedButtons := by
      intro btn hpressed
      have hbtn := hall (.button btn)
      rw [hposted, honce, if_pos (show pressed.holds (.button btn) = true from hpressed)] at hbtn
      -- A button past the third is in no list of releases.
      by_contra hlarge
      rw [if_neg fun hmem => hlarge ((button_mem_releasedBy pressed btn).mp hmem).1] at hbtn
      exact absurd hbtn (by decide)
    rw [hlength, htoNat, haccepted, length_releasedBy hnamed] at hcounted
    exact ⟨hnamed, hcounted⟩
  · rintro ⟨hnamed, haccepts⟩
    constructor
    · intro held
      rw [hposted, honce]
      refine if_congr ?_ rfl rfl
      cases held with
      | button btn =>
        exact (button_mem_releasedBy pressed btn).trans (and_iff_right_of_imp (hnamed btn))
      | key code => exact key_mem_releasedBy pressed code
    · rw [hposted]
      simp
    · rw [hlength, htoNat, haccepted, length_releasedBy hnamed]
      exact haccepts

end WinEventInjector

/-! ### The main result -/

/-- The macOS injector does it when there is nothing to do, and the Windows one when no button but
the first three is pressed and the system accepts every release. -/
theorem releaseAllPressed_iff (pressed : PressedStateSnapshot) (accepts : Nat → Bool) :
    (ReleasesAll CGEvent.released pressed accepts (MacEventInjector.releaseAllPressed pressed).1
        (MacEventInjector.releaseAllPressed pressed).2 ↔
      ∀ held, pressed.holds held = false) ∧
    ∀ (injector : WinEventInjector) (latencyMs : UInt32),
      ReleasesAll WinInput.released pressed accepts
          (injector.releaseAllPressed pressed latencyMs).2.1
          (injector.releaseAllPressed pressed latencyMs).2.2 ↔
        pressed.NamedButtons ∧ ∀ k < pressed.heldCount, accepts k = true :=
  ⟨mac_releasesAll_iff pressed accepts,
    fun injector latencyMs => injector.win_releasesAll_iff pressed latencyMs accepts⟩

/-- The key with the code 0 is held, and every release is accepted. -/
theorem held_key_not_released :
    ¬ ∀ (pressed : PressedStateSnapshot) (accepts : Nat → Bool),
      ReleasesAll CGEvent.released pressed accepts (MacEventInjector.releaseAllPressed pressed).1
        (MacEventInjector.releaseAllPressed pressed).2 := by
  intro h
  have hreleases := h
    { PressedStateSnapshot.init with pressedKeys := { words := #v[1, 0, 0, 0] } } fun _ => true
  have honce := hreleases.once (.key 0)
  exact absurd honce (by decide)

end CrossFlow
