import CrossFlow.Proofs.Capture.Channels

/-!
# `CrossFlow.Proofs.Capture.Saturation`: when a saturation is recovered from

A rejected state event sets `stateChannelSaturated`, and the capture thread answers the flag with
`resynchronize`, a drain, and `clearStateChannelSaturated`. The clear does not look whether a
rejection fell into the recovery it ends: `rejection_lost_in_recovery` is a run in which the flag
of such a rejection is cleared and no further `resynchronize` follows.

`SaturationInv` holds along the runs in which no rejection is flagged during the recovery it falls
into (`FlagsOutsideRecovery`). `saturated_until_resync` is what it says: a rejection since the last
`resynchronize` keeps the flag set.
-/

set_option autoImplicit false

namespace CrossFlow

open Lib (Machine)

/-! ### The invariant -/

/-- What the capture thread knows of `resync_.state()`, which no other thread stores. -/
def CapturePc.Knows (state : ResyncState) : CapturePc → Prop
  | .checkRecovered => state ≠ .Idle ∧ state ≠ .Resynchronizing
  | .resynchronize .storeResynchronizing => state ≠ .Resynchronizing
  | .resynchronize _ => state = .Resynchronizing
  | .drainState | .loadEmptyHead | .loadEmptyTail _ | .checkPending | .confirmRecovery _ =>
    state = .RecoveryPending
  | .clear => state = .Recovered
  | _ => state ≠ .Resynchronizing

/-- The next access of the capture thread clears the flag. -/
def CapturePc.AtClear : CapturePc → Prop
  | .clear => True
  | _ => False

/-- A `resynchronize` has begun and the clear that ends its recovery is still to come. -/
def MacEventTap.Recovering (t : MacEventTap) : Prop :=
  t.resync.state = .Resynchronizing ∨ t.resync.state = .RecoveryPending ∨ t.capturePc.AtClear

/-- The step does not flag a rejection during the recovery the rejection fell into. -/
def FlagsOutsideRecovery (t : MacEventTap) : TapAction → Prop
  | .stepEnqueue =>
    match t.dualChannel.enqueuePc with
    | .storeSaturated _ => t.rejectedAt = t.resyncsBegun → ¬ t.Recovering
    | _ => True
  | _ => True

/-- The flag is set and no recovery is about to clear it. -/
def MacEventTap.Flagged (t : MacEventTap) : Prop :=
  t.dualChannel.stateChannelSaturated = true ∧ ¬ t.Recovering

/-- The invariant: a rejection of the current epoch is flagged once its flag store is made. -/
structure SaturationInv (t : MacEventTap) : Prop where
  thread : t.capturePc.Knows t.resync.state
  rejectedAt_le : t.rejectedAt ≤ t.resyncsBegun
  rejections_le : ∀ e ∈ t.rejections, e ≤ t.resyncsBegun
  counting : ∀ event, t.dualChannel.enqueuePc = .countSaturated event →
    t.rejectedAt = t.resyncsBegun → t.Flagged
  flagged : ∀ e ∈ t.rejections, e = t.resyncsBegun → t.Flagged

/-- The invariant holds before the first event. -/
theorem saturationInv_init : SaturationInv MacEventTap.init where
  thread := by simp [CapturePc.Knows, MacEventTap.init, AuthoritativeResync.init]
  rejectedAt_le := Nat.le_refl 0
  rejections_le := by simp [MacEventTap.init]
  counting event h := by simp [MacEventTap.init, DualChannelSpsc.init] at h
  flagged := by simp [MacEventTap.init]

/-- A step that keeps the epoch, the rejections and the flag keeps the invariant. -/
theorem SaturationInv.of_quiet {t t' : MacEventTap} (ht : SaturationInv t)
    (hthread : t'.capturePc.Knows t'.resync.state) (hbegun : t'.resyncsBegun = t.resyncsBegun)
    (hat : t'.rejectedAt ≤ t.resyncsBegun) (hlist : t'.rejections = t.rejections)
    (hpc : ∀ event, t'.dualChannel.enqueuePc = .countSaturated event →
      t.dualChannel.enqueuePc = .countSaturated event ∧ t'.rejectedAt = t.rejectedAt)
    (hflagged : t.Flagged → t'.Flagged) : SaturationInv t' := by
  refine ⟨hthread, hbegun ▸ hat, ?_, ?_, ?_⟩
  · rw [hlist, hbegun]
    exact ht.rejections_le
  · intro event he hepoch
    obtain ⟨he', hat'⟩ := hpc event he
    exact hflagged (ht.counting event he' (by rw [← hat', ← hbegun, hepoch]))
  · intro e he hepoch
    rw [hlist] at he
    exact hflagged (ht.flagged e he (hepoch.trans hbegun))

/-! ### The steps of the tap callback -/

/-- A new event keeps the invariant. -/
theorem SaturationInv.callEnqueue {t : MacEventTap} (ht : SaturationInv t)
    (event : RawInputEventFlat) : SaturationInv (t.callEnqueue event) := by
  have hflag : (t.dualChannel.callEnqueue event).stateChannelSaturated =
      t.dualChannel.stateChannelSaturated := by
    unfold DualChannelSpsc.callEnqueue
    split
    · split <;> rfl
    · rfl
  have hpc : ∀ e, (t.dualChannel.callEnqueue event).enqueuePc = .countSaturated e →
      t.dualChannel.enqueuePc = .countSaturated e := by
    intro e
    unfold DualChannelSpsc.callEnqueue
    split
    · split <;> simp
    · exact id
  -- The call has set no flag and counted nothing yet.
  refine ht.of_quiet ht.thread rfl ht.rejectedAt_le rfl ?_ ?_
  · intro e he
    exact ⟨hpc e he, rfl⟩
  · intro hset
    exact ⟨hflag.trans hset.1, hset.2⟩

/-- The accesses of `enqueue` other than the two that report a rejection. -/
theorem stepEnqueue_quiet (d : DualChannelSpsc)
    (hstore : ∀ event, d.enqueuePc ≠ .storeSaturated event)
    (hcount : ∀ event, d.enqueuePc ≠ .countSaturated event) :
    d.stepEnqueue.stateChannelSaturated = d.stateChannelSaturated ∧
      ∀ event, d.stepEnqueue.enqueuePc ≠ .countSaturated event := by
  unfold DualChannelSpsc.stepEnqueue
  cases hpc : d.enqueuePc with
  | idle => exact ⟨rfl, by simp [hpc]⟩
  -- A refused push comes to `storeSaturated`, not to the count.
  | tryPush event =>
    simp only
    split <;> simp [DualChannelSpsc.returnEnqueue]
  | storeSaturated event => exact absurd hpc (hstore event)
  | countSaturated event => exact absurd hpc (hcount event)
  | tryPushDropOldest event =>
    simp only
    split <;> simp
  | loadDropCount event =>
    simp only
    split <;> simp [DualChannelSpsc.returnEnqueue]

/-- The flag store is made outside the recovery it could be lost in, and the count that follows
it dates the rejection. The other accesses touch neither the flag nor the history. -/
theorem SaturationInv.stepEnqueue {t : MacEventTap} (ht : SaturationInv t)
    (hflags : FlagsOutsideRecovery t .stepEnqueue) : SaturationInv t.stepEnqueue := by
  have hat : t.stepEnqueue.rejectedAt ≤ t.resyncsBegun := by
    unfold MacEventTap.stepEnqueue
    dsimp only
    split
    · exact Nat.le_refl _
    · exact ht.rejectedAt_le
  unfold FlagsOutsideRecovery at hflags
  cases hpc : t.dualChannel.enqueuePc with
  | storeSaturated event =>
    rw [hpc] at hflags
    have hstep : t.stepEnqueue = { t with dualChannel := { t.dualChannel with
        stateChannelSaturated := true, enqueuePc := .countSaturated event } } := by
      simp [MacEventTap.stepEnqueue, DualChannelSpsc.stepEnqueue, hpc]
    rw [hstep]
    -- The flag is set here, and by the condition no recovery is about to clear it.
    refine ⟨ht.thread, ht.rejectedAt_le, ht.rejections_le, ?_, ?_⟩
    · intro e _ hepoch
      exact ⟨rfl, hflags hepoch⟩
    · intro e he hepoch
      exact ⟨rfl, (ht.flagged e he hepoch).2⟩
  | countSaturated event =>
    have hlist : t.stepEnqueue.rejections = t.rejections ++ [t.rejectedAt] := by
      simp [MacEventTap.stepEnqueue, hpc]
    have hidle : t.stepEnqueue.dualChannel.enqueuePc = .idle := by
      simp [MacEventTap.stepEnqueue, DualChannelSpsc.stepEnqueue, DualChannelSpsc.returnEnqueue,
        hpc]
    have hflag : t.stepEnqueue.dualChannel.stateChannelSaturated =
        t.dualChannel.stateChannelSaturated := by
      simp [MacEventTap.stepEnqueue, DualChannelSpsc.stepEnqueue, DualChannelSpsc.returnEnqueue,
        hpc]
    refine ⟨ht.thread, hat, ?_, ?_, ?_⟩
    · intro e he
      rw [hlist, List.mem_append, List.mem_singleton] at he
      rcases he with he | rfl
      · exact ht.rejections_le e he
      · exact ht.rejectedAt_le
    · intro e he
      rw [hidle] at he
      cases he
    · intro e he hepoch
      rw [hlist, List.mem_append, List.mem_singleton] at he
      -- The rejection counted now was flagged by the access before.
      have hnow : t.Flagged := by
        rcases he with he | rfl
        · exact ht.flagged e he hepoch
        · exact ht.counting event hpc hepoch
      exact ⟨hflag.trans hnow.1, hnow.2⟩
  | _ =>
    obtain ⟨hflag, hnot⟩ := stepEnqueue_quiet t.dualChannel (by simp [hpc]) (by simp [hpc])
    -- Any other access of `enqueue`.
    refine ht.of_quiet ht.thread rfl hat (by simp [MacEventTap.stepEnqueue, hpc]) ?_ ?_
    · intro e he
      exact absurd he (hnot e)
    · intro hset
      exact ⟨hflag.trans hset.1, hset.2⟩

/-! ### The steps of the capture thread -/

/-- No step of the capture thread writes what `enqueue` and the rejections keep. -/
theorem stepCapture_frame (t : MacEventTap) (osModifiers : ModifierState) :
    (t.stepCapture osModifiers).dualChannel.enqueuePc = t.dualChannel.enqueuePc ∧
      (t.stepCapture osModifiers).rejectedAt = t.rejectedAt ∧
      (t.stepCapture osModifiers).rejections = t.rejections := by
  unfold MacEventTap.stepCapture
  cases t.capturePc with
  | resynchronize pc => cases pc <;> exact ⟨rfl, rfl, rfl⟩
  | popState | popData | drainState | finalState | finalData =>
    simp only [MacEventTap.afterPop]
    split <;> exact ⟨rfl, rfl, rfl⟩
  | checkRunning | poll | checkIdle | checkRecovered | loadEmptyTail _ | checkPending
  | confirmRecovery _ =>
    simp only
    split <;> exact ⟨rfl, rfl, rfl⟩
  | loadEmptyHead => exact ⟨rfl, rfl, rfl⟩
  | clear => exact ⟨rfl, rfl, rfl⟩
  | done => exact ⟨rfl, rfl, rfl⟩

/-- A step that keeps `resync_` and the flag and does not come to the clear keeps `Flagged`. -/
theorem Flagged.of_same {t t' : MacEventTap} (hresync : t'.resync.state = t.resync.state)
    (hclear : t'.capturePc.AtClear → t.capturePc.AtClear)
    (hflag : t'.dualChannel.stateChannelSaturated = t.dualChannel.stateChannelSaturated)
    (ht : t.Flagged) : t'.Flagged := by
  refine ⟨hflag.trans ht.1, ?_⟩
  rintro (hstate | hstate | hstate)
  · exact ht.2 (Or.inl (hresync ▸ hstate))
  · exact ht.2 (Or.inr (Or.inl (hresync ▸ hstate)))
  · exact ht.2 (Or.inr (Or.inr (hclear hstate)))

/-- A step of the capture thread keeps what the thread knows, and it begins a `resynchronize` or
keeps `Flagged`: the clear comes during a recovery only, and no other step enters one. -/
theorem stepCapture_cases {t : MacEventTap} (hthread : t.capturePc.Knows t.resync.state)
    (osModifiers : ModifierState) :
    (t.stepCapture osModifiers).capturePc.Knows (t.stepCapture osModifiers).resync.state ∧
      ((t.stepCapture osModifiers).resyncsBegun = t.resyncsBegun + 1 ∨
        (t.stepCapture osModifiers).resyncsBegun = t.resyncsBegun ∧
          (t.Flagged → (t.stepCapture osModifiers).Flagged)) := by
  unfold MacEventTap.stepCapture
  cases hpc : t.capturePc with
  | checkRunning =>
    rw [hpc] at hthread
    simp only
    split
    all_goals exact ⟨hthread, Or.inr ⟨rfl, Flagged.of_same rfl False.elim rfl⟩⟩
  | popState | popData | finalState | finalData | drainState =>
    rw [hpc] at hthread
    simp only [MacEventTap.afterPop]
    split
    · exact ⟨by rw [hpc]; exact hthread, Or.inr ⟨rfl, Flagged.of_same rfl id rfl⟩⟩
    all_goals exact ⟨hthread, Or.inr ⟨rfl, Flagged.of_same rfl False.elim rfl⟩⟩
  | poll =>
    rw [hpc] at hthread
    simp only
    split
    all_goals exact ⟨hthread, Or.inr ⟨rfl, Flagged.of_same rfl False.elim rfl⟩⟩
  | checkIdle =>
    rw [hpc] at hthread
    simp only
    split
    · exact ⟨hthread, Or.inr ⟨rfl, Flagged.of_same rfl False.elim rfl⟩⟩
    · rename_i hidle
      exact ⟨⟨hidle, hthread⟩, Or.inr ⟨rfl, Flagged.of_same rfl False.elim rfl⟩⟩
  | checkRecovered =>
    rw [hpc] at hthread
    obtain ⟨hidle, hresync⟩ := hthread
    simp only
    split
    · exact ⟨hresync, Or.inr ⟨rfl, Flagged.of_same rfl False.elim rfl⟩⟩
    · rename_i hrecovered
      -- Of the four states only `RecoveryPending` is left.
      have hpending : t.resync.state = .RecoveryPending := by
        cases hstate : t.resync.state <;> simp_all
      exact ⟨hpending, Or.inr ⟨rfl, Flagged.of_same rfl False.elim rfl⟩⟩
  | resynchronize pc =>
    rw [hpc] at hthread
    cases pc with
    -- The first store of `resynchronize` begins a new epoch.
    | storeResynchronizing => exact ⟨rfl, Or.inl rfl⟩
    | queryGroundTruth =>
      exact ⟨hthread, Or.inr ⟨rfl, Flagged.of_same rfl False.elim rfl⟩⟩
    | storeGroundTruth groundTruth =>
      exact ⟨hthread, Or.inr ⟨rfl, Flagged.of_same rfl False.elim rfl⟩⟩
    | storeBitmapStale groundTruth =>
      exact ⟨hthread, Or.inr ⟨rfl, Flagged.of_same rfl False.elim rfl⟩⟩
    | countResync groundTruth =>
      exact ⟨hthread, Or.inr ⟨rfl, Flagged.of_same rfl False.elim rfl⟩⟩
    | storeRecoveryPending groundTruth =>
      -- The recovery is under way before this store and after it.
      have hrecovering : t.Recovering := Or.inl hthread
      exact ⟨rfl, Or.inr ⟨rfl, fun hset => absurd hrecovering hset.2⟩⟩
  | loadEmptyHead =>
    rw [hpc] at hthread
    exact ⟨hthread, Or.inr ⟨rfl, Flagged.of_same rfl False.elim rfl⟩⟩
  | loadEmptyTail head =>
    rw [hpc] at hthread
    have hpending : t.resync.state = .RecoveryPending := hthread
    simp only
    split
    · exact ⟨hthread, Or.inr ⟨rfl, Flagged.of_same rfl False.elim rfl⟩⟩
    · refine ⟨?_, Or.inr ⟨rfl, Flagged.of_same rfl False.elim rfl⟩⟩
      show t.resync.state ≠ .Resynchronizing
      simp [hpending]
  | checkPending =>
    rw [hpc] at hthread
    have hpending : t.resync.state = .RecoveryPending := hthread
    simp only
    rw [if_pos hpending]
    exact ⟨hthread, Or.inr ⟨rfl, Flagged.of_same rfl False.elim rfl⟩⟩
  | confirmRecovery pc =>
    rw [hpc] at hthread
    have hpending : t.resync.state = .RecoveryPending := hthread
    have hrecovering : t.Recovering := Or.inr (Or.inl hpending)
    cases pc with
    | loadState =>
      simp only [AuthoritativeResync.stepConfirm]
      rw [if_neg (by simpa using hpending)]
      exact ⟨hthread, Or.inr ⟨rfl, fun hset => absurd hrecovering hset.2⟩⟩
    | storeBitmapFresh => exact ⟨hthread, Or.inr ⟨rfl, fun hset => absurd hrecovering hset.2⟩⟩
    | storeRecovered => exact ⟨rfl, Or.inr ⟨rfl, fun hset => absurd hrecovering hset.2⟩⟩
  | clear =>
    rw [hpc] at hthread
    -- The clear: a state with the flag kept is not one that comes here.
    have hrecovered : t.resync.state = .Recovered := hthread
    have hrecovering : t.Recovering := Or.inr (Or.inr (by rw [hpc]; trivial))
    refine ⟨?_, Or.inr ⟨rfl, fun hset => absurd hrecovering hset.2⟩⟩
    show t.resync.state ≠ .Resynchronizing
    simp [hrecovered]
  | done =>
    rw [hpc] at hthread
    exact ⟨by rw [hpc]; exact hthread, Or.inr ⟨rfl, id⟩⟩

/-- A step of the capture thread keeps the invariant. -/
theorem SaturationInv.stepCapture {t : MacEventTap} (ht : SaturationInv t)
    (osModifiers : ModifierState) : SaturationInv (t.stepCapture osModifiers) := by
  obtain ⟨hthread, hcases⟩ := stepCapture_cases ht.thread osModifiers
  obtain ⟨hpc, hat, hlist⟩ := stepCapture_frame t osModifiers
  have hle := ht.rejectedAt_le
  rcases hcases with hbegun | ⟨hbegun, hflagged⟩
  · -- A new epoch: every rejection so far is of an older one.
    refine ⟨hthread, by omega, ?_, ?_, ?_⟩
    · intro e he
      have := ht.rejections_le e (hlist ▸ he)
      omega
    · intro event _ hepoch
      omega
    · intro e he hepoch
      have := ht.rejections_le e (hlist ▸ he)
      omega
  · -- The step is of the epoch that there is already.
    refine ht.of_quiet hthread hbegun (by omega) hlist ?_ hflagged
    intro event he
    exact ⟨hpc ▸ he, hat⟩

/-! ### Every run that flags outside the recovery -/

/-- A step that does not flag inside a recovery keeps the invariant. -/
theorem saturationInv_step (t : MacEventTap) (a : TapAction) (ht : SaturationInv t)
    (ha : FlagsOutsideRecovery t a) : SaturationInv (tapMachine.step t a) := by
  cases a with
  | callEnqueue event => exact ht.callEnqueue event
  | stepEnqueue => exact ht.stepEnqueue ha
  | stepCapture osModifiers => exact ht.stepCapture osModifiers
  | stop =>
    exact ht.of_quiet ht.thread rfl ht.rejectedAt_le rfl (fun _ he => ⟨he, rfl⟩)
      (Flagged.of_same rfl id rfl)

/-- The flag is set when a state event was rejected since the last `resynchronize` began. -/
def MacEventTap.KeepsSaturation (t : MacEventTap) : Prop :=
  ∀ e ∈ t.rejections, e = t.resyncsBegun → t.dualChannel.stateChannelSaturated = true

/-- **A rejection is kept flagged until a further resynchronization.** In every state of every run
that makes no flag store during the recovery its rejection fell into, a rejection since the last
`resynchronize` began has the flag set, from the return of its `enqueue` on. -/
theorem saturated_until_resync (acts : List TapAction)
    (hacts : tapMachine.Meets FlagsOutsideRecovery tapMachine.init acts) :
    (tapMachine.run acts).KeepsSaturation := by
  have hinv : SaturationInv (tapMachine.run acts) :=
    Machine.invariant_of_meets saturationInv_init saturationInv_step hacts
  intro e he hepoch
  exact (hinv.flagged e he hepoch).1

/-- Whether the thread is about to clear the flag is decided by where it is. -/
instance (pc : CapturePc) : Decidable pc.AtClear :=
  match pc with
  | .clear => .isTrue trivial
  | .checkRunning | .popState | .popData | .poll | .checkIdle | .checkRecovered
  | .resynchronize _ | .drainState | .loadEmptyHead | .loadEmptyTail _ | .checkPending
  | .confirmRecovery _ | .finalState | .finalData | .done => .isFalse not_false

/-- Whether a recovery is under way is decided by where the thread is. -/
instance (t : MacEventTap) : Decidable t.Recovering :=
  inferInstanceAs (Decidable (_ ∨ _ ∨ _))

/-- The condition of `FlagsOutsideRecovery` on the access `enqueue` is about to make. -/
instance (t : MacEventTap) : ∀ a : TapAction, Decidable (FlagsOutsideRecovery t a)
  | .stepEnqueue =>
    match h : t.dualChannel.enqueuePc with
    | .storeSaturated _ =>
      decidable_of_iff (t.rejectedAt = t.resyncsBegun → ¬ t.Recovering)
        (by rw [FlagsOutsideRecovery, h])
    | .idle | .tryPush _ | .countSaturated _ | .tryPushDropOldest _ | .loadDropCount _ =>
      .isTrue (by rw [FlagsOutsideRecovery, h]; trivial)
  | .callEnqueue _ | .stepCapture _ | .stop => .isTrue trivial

/-- A key press as the tap callback enqueues it. -/
def keyPress : RawInputEventFlat where
  platformTime := 0
  modifierFlags := 0
  kind := RawEventKind.KeyPress.toU8
  deltaX := 0
  deltaY := 0
  button := 0
  wheelDelta := 0
  wheelAxis := 0
  keyCode := 0
  valid := 1

/-- One key press more than the state ring has room for, enqueued one after the other. -/
def saturate : List TapAction :=
  (List.replicate (spscStateCapacity.val + 1)
    (.callEnqueue keyPress :: List.replicate 12 .stepEnqueue)).flatten

/-- The capture thread comes to its poll, and a key press is rejected; the thread resynchronizes,
takes the 64 others and clears the flag; then a second one is rejected. -/
def saturateTwice : List TapAction :=
  List.replicate 5 (.stepCapture AuthoritativeResync.init.groundTruthModifiers) ++ saturate ++
    List.replicate 900 (.stepCapture AuthoritativeResync.init.groundTruthModifiers) ++ saturate

/-- The second rejection is flagged, after a recovery that cleared the flag of the first. -/
theorem saturated_until_resync_saturateTwice :
    (tapMachine.run saturateTwice).rejections = [0, 1] ∧
      (tapMachine.run saturateTwice).resyncsBegun = 1 ∧
      (tapMachine.run saturateTwice).dualChannel.stateChannelSaturated = true := by
  -- The bounds on the histories have them evaluated step by step, with the steps' conditions.
  have hrun : tapMachine.Meets (fun t a =>
        FlagsOutsideRecovery t a ∧ t.rejections.length ≤ 2 ∧ t.resyncsBegun ≤ 1)
        tapMachine.init saturateTwice ∧
      (tapMachine.run saturateTwice).rejections = [0, 1] ∧
      (tapMachine.run saturateTwice).resyncsBegun = 1 := by decide +kernel
  obtain ⟨hmeets, hrejections, hbegun⟩ := hrun
  have hkeeps := saturated_until_resync saturateTwice (Machine.meets_mono (fun _ _ h => h.1) hmeets)
  refine ⟨hrejections, hbegun, hkeeps 1 ?_ hbegun.symm⟩
  simp [hrejections]

/-! ### A rejection lost in the recovery -/

/-- The capture thread alone, from the poll of a set flag to the draining loop. -/
theorem resynchronize_alone {t : MacEventTap} (hpc : t.capturePc = .poll)
    (hflag : t.dualChannel.stateChannelSaturated = true) (hidle : t.resync.state = .Idle)
    (osModifiers : ModifierState) :
    Leads t
      ({ t with
        resync := {
          state := .RecoveryPending
          groundTruthModifiers := osModifiers
          bitmapStale := true
          resyncCount := t.resync.resyncCount + 1 }
        resyncsBegun := t.resyncsBegun + 1 }.callPopState .drainState) := by
  have hpoll : t.stepCapture osModifiers = { t with capturePc := .checkIdle } := by
    simp [MacEventTap.stepCapture, hpc, hflag]
  have hcheck : ({ t with capturePc := .checkIdle } : MacEventTap).stepCapture osModifiers =
      { t with capturePc := .resynchronize .storeResynchronizing } := by
    simp [MacEventTap.stepCapture, hidle]
  refine .trans (hpoll ▸ Leads.stepCapture t osModifiers)
    (.trans (hcheck ▸ Leads.stepCapture _ osModifiers) ?_)
  -- The six accesses of `resynchronize`.
  exact ⟨List.replicate 6 (.stepCapture osModifiers), fun _ _ => trivial, rfl⟩

/-- The capture thread alone, from an empty ring after the drain to the clear. -/
theorem clear_alone {t : MacEventTap} (hpc : t.capturePc = .loadEmptyHead)
    (hempty : t.dualChannel.stateChannel.ring.head = t.dualChannel.stateChannel.ring.tail)
    (hpending : t.resync.state = .RecoveryPending) :
    ∃ t', Leads t t' ∧ t'.dualChannel.stateChannelSaturated = false ∧
      t'.rejections = t.rejections ∧ t'.resyncsBegun = t.resyncsBegun := by
  have hrun : tapMachine.runFrom t
      (List.replicate 7 (.stepCapture t.resync.groundTruthModifiers)) =
      { t with
        dualChannel := t.dualChannel.clearStateChannelSaturated
        resync := { t.resync with bitmapStale := false, state := .Recovered }
        capturePc := .checkRunning } := by
    simp [List.replicate, tapMachine, MacEventTap.stepCapture, hpc, hempty, hpending,
      AuthoritativeResync.stepConfirm]
  exact ⟨_, ⟨_, fun _ _ => trivial, hrun⟩, rfl, rfl, rfl⟩

/-- A saturated tap before its first `resynchronize`: the state ring is full, one event has been
rejected, and the capture thread is at the poll. -/
structure Saturated (t : MacEventTap) : Prop where
  capturePc : t.capturePc = .poll
  enqueuePc : t.dualChannel.enqueuePc = .idle
  producer : t.dualChannel.stateChannel.producer = .idle
  consumer : t.dualChannel.stateChannel.consumer = .idle
  full : subU64 t.dualChannel.stateChannel.ring.head t.dualChannel.stateChannel.ring.tail =
    spscStateCapacity.val
  room : t.dualChannel.stateChannel.ring.head ≤
    t.dualChannel.stateChannel.ring.tail + spscStateCapacity.val
  flag : t.dualChannel.stateChannelSaturated = true
  state : t.resync.state = .Idle
  rejections : t.rejections = [0]
  resyncsBegun : t.resyncsBegun = 0

/-- The callback alone fills the state ring and is refused. -/
theorem saturate_alone (event : StateEvent) (osModifiers : ModifierState) :
    ∃ t, Leads MacEventTap.init t ∧ Saturated t := by
  -- The capture thread finds both rings empty and comes to the poll.
  obtain ⟨t, hlead, hpc, hidle, hstate, hrejections, hbegun, hproducer, hconsumer, hhead, htail⟩ :
      ∃ t, Leads MacEventTap.init t ∧ t.capturePc = .poll ∧ t.dualChannel.enqueuePc = .idle ∧
        t.resync.state = .Idle ∧ t.rejections = [] ∧ t.resyncsBegun = 0 ∧
        t.dualChannel.stateChannel.producer = .idle ∧
        t.dualChannel.stateChannel.consumer = .idle ∧
        t.dualChannel.stateChannel.ring.head = 0 ∧ t.dualChannel.stateChannel.ring.tail = 0 :=
    ⟨_, ⟨List.replicate 5 (.stepCapture osModifiers), fun _ _ => trivial, rfl⟩, rfl, rfl, rfl, rfl,
      rfl, rfl, rfl, rfl, rfl⟩
  -- The ring fills up and the next event is rejected.
  obtain ⟨c, returned, hfill, hproducer', hconsumer', hhead', htail'⟩ :=
    fill_alone t hidle hproducer event (n := spscStateCapacity.val) (by omega) (by omega)
  have hfull : subU64 c.ring.head c.ring.tail = spscStateCapacity.val := by
    rw [hhead', htail', hhead, htail]
    rfl
  have hreject := enqueue_alone_full (t := { t with dualChannel := { t.dualChannel with
    stateChannel := c, returned := returned } }) hidle hproducer' event hfull
  refine ⟨_, hlead.trans (hfill.trans hreject), ⟨hpc, hidle, hproducer', hconsumer'.trans hconsumer,
    hfull, ?_, rfl, hstate, ?_, hbegun⟩⟩
  · show c.ring.head ≤ c.ring.tail + _
    omega
  · show t.rejections ++ [t.resyncsBegun] = [0]
    rw [hrejections, hbegun]
    rfl

/-- From a saturated tap: the capture thread begins to resynchronize, a second event is rejected,
and the capture thread drains the ring and clears the flag. -/
theorem rejection_lost {t : MacEventTap} (ht : Saturated t)
    (hs : SeqlockInv t.dualChannel.stateChannel) (event : StateEvent)
    (osModifiers : ModifierState) :
    ∃ t', Leads t t' ∧ t'.dualChannel.stateChannelSaturated = false ∧
      t'.rejections = [0, 1] ∧ t'.resyncsBegun = 1 := by
  have hcall : t.dualChannel.stateChannel.callPop =
      { t.dualChannel.stateChannel with consumer := .loadTail } := by
    simp [Channel.callPop, ht.consumer]
  -- The capture thread has begun to resynchronize and calls `tryPopState`.
  obtain ⟨t₁, hlead₁, hpc₁, henqueue₁, hring₁, hstate₁, hrejections₁, hbegun₁⟩ :
      ∃ t₁, Leads t t₁ ∧ t₁.capturePc = .drainState ∧ t₁.dualChannel.enqueuePc = .idle ∧
        t₁.dualChannel.stateChannel =
          { t.dualChannel.stateChannel with consumer := .loadTail } ∧
        t₁.resync.state = .RecoveryPending ∧ t₁.rejections = [0] ∧ t₁.resyncsBegun = 1 :=
    ⟨_, resynchronize_alone ht.capturePc ht.flag ht.state osModifiers, rfl, ht.enqueuePc, hcall,
      rfl, ht.rejections, congrArg (· + 1) ht.resyncsBegun⟩
  -- The draining loop has taken nothing yet, so the ring is full and the second event is rejected.
  obtain ⟨t₂, hlead₂, hpc₂, hring₂, hstate₂, hrejections₂, hbegun₂⟩ :
      ∃ t₂, Leads t₁ t₂ ∧ t₂.capturePc = .drainState ∧
        t₂.dualChannel.stateChannel = t₁.dualChannel.stateChannel ∧
        t₂.resync.state = .RecoveryPending ∧ t₂.rejections = [0, 1] ∧ t₂.resyncsBegun = 1 := by
    refine ⟨_, enqueue_alone_full henqueue₁ (by rw [hring₁]; exact ht.producer) event
      (by rw [hring₁]; exact ht.full), hpc₁, rfl, hstate₁, ?_, hbegun₁⟩
    show t₁.rejections ++ [t₁.resyncsBegun] = [0, 1]
    rw [hrejections₁, hbegun₁]
    rfl
  rw [hring₁] at hring₂
  have hlead := hlead₁.trans hlead₂
  -- The drain and the clear.
  have hs₂ := Leads.seqlockInv hlead hs
  have hself : t₂.inDrain t₂.dualChannel.stateChannel = t₂ := by
    rw [MacEventTap.inDrain, ← hpc₂]
  obtain ⟨c, processed, hdrain, hempty⟩ := drainState_alone t₂ hs₂
    (by rw [hring₂]; exact ht.producer) (by rw [hring₂]) (by rw [hring₂]; exact ht.room)
  rw [hself] at hdrain
  obtain ⟨t', hclear, hflag, hrejections, hbegun⟩ := clear_alone
    (t := { t₂ with
      dualChannel := { t₂.dualChannel with stateChannel := c }
      capturePc := .loadEmptyHead
      processed := processed }) rfl hempty hstate₂
  exact ⟨t', hlead.trans (hdrain.trans hclear), hflag, hrejections.trans hrejections₂,
    hbegun.trans hbegun₂⟩

/-- Some run of the tap loses a rejection: the flag is cleared after a state event was rejected
since the last `resynchronize` began. -/
theorem rejection_lost_in_recovery : ¬ ∀ acts, (tapMachine.run acts).KeepsSaturation := by
  intro hclaim
  obtain ⟨t₀, hsaturate, hsaturated⟩ :=
    saturate_alone ⟨keyPress, by decide⟩ AuthoritativeResync.init.groundTruthModifiers
  obtain ⟨t, hlost, hflag, hrejections, hbegun⟩ :=
    rejection_lost hsaturated (Leads.seqlockInv hsaturate seqlockInv_init) ⟨keyPress, by decide⟩
      AuthoritativeResync.init.groundTruthModifiers
  -- In the last state the second rejection is of the current epoch and the flag is not set.
  obtain ⟨acts, -, hrun⟩ := hsaturate.trans hlost
  have hset := hclaim acts 1
  have ht : tapMachine.run acts = t := hrun
  rw [ht, hrejections, hbegun, hflag] at hset
  exact absurd (hset (by simp) rfl) (by simp)

end CrossFlow
