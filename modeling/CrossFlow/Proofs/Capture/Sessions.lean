import CrossFlow.Platform.Mac.TapControl

/-!
# `CrossFlow.Proofs.Capture.Sessions`: one handle for each capture

`stop` gets its handle by value, so a handle stays active at the caller after it was released, and
`stop` releases it before it looks at the state of the tap. It also ends the capture whatever the
handle is.

* `accounted_start` and `accounted_stop_iff`: which calls leave the number of handles right.
* `sessions_accounted_iff`: the runs in which it is right all along, and each capture is ended by
  its own handle.
-/

set_option autoImplicit false

namespace CrossFlow

namespace TapControl

open CaptureHandleManager (isValid release)

/-- One handle is active while the tap is, and none otherwise. -/
def Accounted (t : TapControl) : Prop :=
  t.handleManager.activeCount = if t.state = .Active then 1 else 0

/-- If the call ends a capture, then with the handle of that capture. -/
def EndsOwn (t : TapControl) : TapCall → Prop
  | .start _ _ => True
  | .stop handle =>
    t.state = .Active → (t.stop handle).state ≠ .Active → t.session = some handle

/-- `stop` gets the handle of the capture that is running, or, when none is running, a handle that
counts as released. -/
def StopsOwn (t : TapControl) : TapCall → Prop
  | .start _ _ => True
  | .stop handle =>
    if t.state = .Active then t.session = some handle ∧ isValid handle = true
    else isValid handle = false

variable {t : TapControl} {handle : CaptureHandle}

/-- What a call of `start` does. -/
theorem start_cases (t : TapControl) (permitted installed : Bool) :
    (t.start permitted installed).2 = t ∨
      t.state = .Inactive ∧ (t.start permitted installed).2 = t.enterDegradedState ∨
      t.state = .Inactive ∧ (t.start permitted installed).2 =
        { state := .Active
          handleManager := t.handleManager.acquire.2
          session := some t.handleManager.acquire.1 } := by
  unfold start
  by_cases hstate : t.state = .Inactive
  · rw [if_neg (not_not_intro hstate)]
    cases permitted with
    | false => exact .inr (.inl ⟨hstate, rfl⟩)
    | true =>
      cases installed with
      | false => exact .inr (.inl ⟨hstate, rfl⟩)
      | true => exact .inr (.inr ⟨hstate, rfl⟩)
  · exact .inl (by rw [if_pos hstate])

/-- `stop` leaves the tap inactive. -/
@[simp] theorem stop_state (t : TapControl) (handle : CaptureHandle) :
    (t.stop handle).state = .Inactive := by
  unfold stop
  dsimp only
  split
  · assumption
  · rfl

/-- `stop` counts a valid handle as released. -/
theorem stop_activeCount (t : TapControl) (handle : CaptureHandle) :
    (t.stop handle).handleManager.activeCount =
      if isValid handle then t.handleManager.activeCount - 1
      else t.handleManager.activeCount := by
  have hrelease : (t.releaseHandle handle).handleManager.activeCount =
      if isValid handle then t.handleManager.activeCount - 1
      else t.handleManager.activeCount := by
    unfold releaseHandle release isValid
    by_cases hid : handle.id = 0 <;> cases handle.active <;> simp [hid]
  rw [← hrelease]
  unfold stop
  dsimp only
  split <;> rfl

/-- `start` keeps the account. -/
theorem accounted_start (h : t.Accounted) (permitted installed : Bool) :
    (t.start permitted installed).2.Accounted := by
  rcases t.start_cases permitted installed with hsame | ⟨hstate, hdegraded⟩ | ⟨hstate, hstarted⟩
  · rw [hsame]
    exact h
  · rw [hdegraded]
    rw [Accounted, hstate, if_neg TapState.noConfusion] at h
    exact h
  · rw [hstarted]
    rw [Accounted, hstate, if_neg TapState.noConfusion] at h
    show t.handleManager.activeCount + 1 = 1
    rw [h]
    rfl

/-- A call of `stop` leaves the number right when it releases the one handle there is, or none. -/
theorem accounted_stop_iff (h : t.Accounted) :
    (t.stop handle).Accounted ↔ (isValid handle = true ↔ t.state = .Active) := by
  unfold Accounted at *
  rw [stop_state, stop_activeCount, h]
  by_cases hstate : t.state = .Active <;> cases isValid handle <;> simp [hstate]

end TapControl

open TapControl

/-- The number of handles is right in every state of a run, and each capture is ended by its own
handle, exactly when `stop` gets that handle while a capture is running, and otherwise one that
counts as released. -/
theorem sessions_accounted_iff (calls : List TapCall) :
    tapControlMachine.Meets StopsOwn .init calls ↔
      (∀ pre, pre <+: calls → (tapControlMachine.run pre).Accounted) ∧
        tapControlMachine.Meets EndsOwn .init calls := by
  have hinit : TapControl.init.Accounted := rfl
  refine Lib.Machine.meets_iff_forall_run_and_meets hinit ?_
  intro t c h
  cases c with
  | start permitted installed => exact iff_of_true ⟨accounted_start h _ _, trivial⟩ trivial
  | stop handle =>
    show (t.stop handle).Accounted ∧ _ ↔ _
    rw [accounted_stop_iff h, EndsOwn, stop_state, StopsOwn]
    by_cases hstate : t.state = .Active
    · simp [hstate, and_comm]
    · simp [hstate]

/-- The handle of a capture is used twice: the second `stop` counts it as released once more. -/
theorem handle_released_twice :
    let handle := (TapControl.init.start true true).1
    ¬ (tapControlMachine.run [.start true true, .stop handle, .stop handle]).Accounted := by
  intro handle hcount
  have hzero : (4294967295 : UInt32) = 0 := hcount
  exact absurd hzero (by decide)

end CrossFlow
