import CrossFlow.Platform.Mac.MacScreenQuery

/-!
# `CrossFlow.Proofs.Screen.StaleBoundary`: which displays a returned boundary is of

`primaryBoundary` returns the snapshot of the cache when there is one. The callback of the display
listener sets `reconfigPending`, which `primaryBoundary` does not read, and nothing takes the
snapshot out of the cache. So a call that starts after a change returns the boundary of the displays
before it.

* `StateInv`: the snapshot, and what a call has queried, are of the displays that the history gives.
* `step_reconfigPending`: the flag stays set.
* `fresh_step_iff`: the steps that return the boundary of the displays present.
* `fresh_iff_usesPresentDisplays`: the runs in which all calls that start with the flag set do.
-/

set_option autoImplicit false

namespace CrossFlow

open MacScreenQuery (requeryAndNormalize boundaryOf)

variable {policyConfig : MultiDisplayMergePolicyConfig}

/-- `requeryAndNormalize` publishes valid boundaries, and returns the others as they are. -/
theorem isValid_of_requeryAndNormalize {displays : List NativeScreenGeometry}
    {boundary : ScreenBoundary}
    (h : requeryAndNormalize policyConfig displays = some (.published boundary)) :
    boundary.isValid = true := by
  cases displays with
  | nil => simp [requeryAndNormalize] at h
  | cons display rest =>
    simp only [requeryAndNormalize, Option.bind_eq_bind] at h
    split at h
    · simp at h
    · obtain ⟨normalized, -, hpublished⟩ := Option.bind_eq_some_iff.mp h
      split at hpublished
      · rename_i hvalid
        simp only [Option.pure_def, Option.some.injEq, Requeried.published.injEq] at hpublished
        rwa [← hpublished]
      · simp at hpublished

namespace ScreenQueryState

/-- The snapshot in the cache is valid and of the displays that were published last, and an outcome
that a call holds is that of the displays it has queried. -/
structure StateInv (policyConfig : MultiDisplayMergePolicyConfig) (s : ScreenQueryState) :
    Prop where
  empty : s.published = none → s.cache.snapshot = none
  snapshot : ∀ displays, s.published = some displays → ∃ boundary,
    s.cache.snapshot = some boundary ∧
      requeryAndNormalize policyConfig displays = some (.published boundary)
  queried : ∀ caller call displays outcome, s.calls caller = some call →
    call.pc = .requeried displays outcome →
      requeryAndNormalize policyConfig displays = some outcome

/-- Each boundary that a call returned which started with the flag set is that of the displays
present at its start. -/
def Fresh (policyConfig : MultiDisplayMergePolicyConfig) (s : ScreenQueryState) : Prop :=
  ∀ r ∈ s.returned, r.call.reconfigPending = true →
    boundaryOf policyConfig r.call.displays = some r.boundary

/-- The displays that the next step of the call returns the boundary of. -/
def sourceOf (s : ScreenQueryState) (call : PrimaryBoundaryCall) :
    Option (List NativeScreenGeometry) :=
  match call.pc with
  | .getSnapshot => s.published
  | .query => none
  | .requeried displays _ => some displays

/-- A call that started with the flag set returns the boundary of displays that have the same one as
those present at its start: the displays of the snapshot, or the displays it has queried. -/
def UsesPresentDisplays (policyConfig : MultiDisplayMergePolicyConfig) (s : ScreenQueryState) :
    ScreenQueryAction → Prop
  | .step caller => ∀ call, s.calls caller = some call → call.reconfigPending = true →
      ∀ displays, s.sourceOf call = some displays →
        boundaryOf policyConfig displays = boundaryOf policyConfig call.displays
  | _ => True

/-- The invariant holds at the start. -/
theorem stateInv_init (displays : List NativeScreenGeometry) :
    StateInv policyConfig (screenQueryMachine policyConfig displays).init where
  empty _ := rfl
  snapshot _ h := by simp [screenQueryMachine] at h
  queried _ _ _ _ h := by simp [screenQueryMachine] at h

/-- A call that replaces another one, or ends, keeps the invariant when what it holds is queried. -/
theorem StateInv.setCall {s : ScreenQueryState} (hs : StateInv policyConfig s) {caller : Nat}
    {call : Option PrimaryBoundaryCall}
    (hcall : ∀ c displays outcome, call = some c → c.pc = .requeried displays outcome →
      requeryAndNormalize policyConfig displays = some outcome) :
    StateInv policyConfig (s.setCall caller call) := by
  refine ⟨hs.empty, hs.snapshot, ?_⟩
  intro id c displays outcome hc hpc
  simp only [ScreenQueryState.setCall] at hc
  split at hc
  · exact hcall c displays outcome hc hpc
  · exact hs.queried id c displays outcome hc hpc

/-- Returning from a call keeps the invariant. -/
theorem StateInv.return_ {s : ScreenQueryState} (hs : StateInv policyConfig s) (caller : Nat)
    (call : PrimaryBoundaryCall) (boundary : ScreenBoundary) :
    StateInv policyConfig (s.return_ caller call boundary) := by
  have hended : StateInv policyConfig (s.setCall caller none) :=
    hs.setCall fun _ _ _ h => absurd h (by simp)
  exact ⟨hended.empty, hended.snapshot, hended.queried⟩

/-- Publishing what was queried keeps the invariant. -/
theorem StateInv.publish {s : ScreenQueryState} (hs : StateInv policyConfig s)
    {displays : List NativeScreenGeometry} {outcome : Requeried}
    (h : requeryAndNormalize policyConfig displays = some outcome) :
    StateInv policyConfig (s.publish displays outcome) := by
  cases outcome with
  | unpublished boundary => exact hs
  | published boundary =>
    refine ⟨fun hnone => absurd hnone (by simp [ScreenQueryState.publish]), ?_, hs.queried⟩
    intro displays' hdisplays
    obtain rfl : displays = displays' := by simpa [ScreenQueryState.publish] using hdisplays
    exact ⟨boundary, rfl, h⟩

/-- A step of a call keeps the invariant. -/
theorem stateInv_stepCall {s : ScreenQueryState} (hs : StateInv policyConfig s) {caller : Nat}
    {call : PrimaryBoundaryCall} (hcall : s.calls caller = some call) :
    StateInv policyConfig (s.stepCall policyConfig caller call) := by
  -- A call that goes on to its query has no result yet.
  have hquery : StateInv policyConfig (s.setCall caller (some { call with pc := .query })) := by
    refine hs.setCall ?_
    intro c displays outcome hc hpc
    obtain rfl := Option.some.inj hc
    simp at hpc
  simp only [stepCall]
  split
  · split
    · split
      · exact hs.return_ _ _ _
      · exact hquery
    · exact hquery
  · split
    · rename_i outcome houtcome
      refine hs.setCall ?_
      intro c displays outcome' hc hpc
      obtain rfl := Option.some.inj hc
      obtain ⟨rfl, rfl⟩ := PrimaryBoundaryPc.requeried.inj hpc
      exact houtcome
    · exact hs
  · -- What was queried is published and returned.
    rename_i displays outcome hpc
    exact (hs.publish (hs.queried caller call displays outcome hcall hpc)).return_ _ _ _

/-- Every step keeps the invariant. -/
theorem stateInv_step {s : ScreenQueryState} (hs : StateInv policyConfig s)
    (a : ScreenQueryAction) : StateInv policyConfig (step policyConfig s a) := by
  cases a with
  -- A change of the displays changes nothing that was queried.
  | changeDisplays displays => exact ⟨hs.empty, hs.snapshot, hs.queried⟩
  | reconfigCallback => exact ⟨hs.empty, hs.snapshot, hs.queried⟩
  | primaryBoundary caller =>
    simp only [step]
    split
    · refine hs.setCall ?_
      intro c displays outcome hc hpc
      obtain rfl := Option.some.inj hc
      simp at hpc
    · exact hs
  | step caller =>
    simp only [step]
    split
    · exact hs
    · exact stateInv_stepCall hs ‹_›

/-- A step of a call returns the boundary of its source, or does not return. -/
theorem returned_stepCall {s : ScreenQueryState} (hs : StateInv policyConfig s) {caller : Nat}
    {call : PrimaryBoundaryCall} (hcall : s.calls caller = some call) :
    (s.sourceOf call = none ∧ (s.stepCall policyConfig caller call).returned = s.returned) ∨
      ∃ displays boundary, s.sourceOf call = some displays ∧
        boundaryOf policyConfig displays = some boundary ∧
        (s.stepCall policyConfig caller call).returned = { call, boundary } :: s.returned := by
  cases hpc : call.pc with
  | getSnapshot =>
    -- A snapshot is returned as it is, whatever the displays are now.
    cases hpublished : s.published with
    | none =>
      left
      have hempty := hs.empty hpublished
      simp [sourceOf, stepCall, hpc, hpublished, ScreenBoundaryCache.getSnapshot, hempty,
        ScreenQueryState.setCall]
    | some displays =>
      right
      obtain ⟨boundary, hsnapshot, houtcome⟩ := hs.snapshot displays hpublished
      have hvalid := isValid_of_requeryAndNormalize houtcome
      refine ⟨displays, boundary, ?_, ?_, ?_⟩
      · simp [sourceOf, hpc, hpublished]
      · simp [boundaryOf, houtcome, Requeried.boundary]
      · simp [stepCall, hpc, ScreenBoundaryCache.getSnapshot, hsnapshot, hvalid,
          ScreenQueryState.return_, ScreenQueryState.setCall]
  -- The query returns nothing yet.
  | query =>
    left
    refine ⟨by simp [sourceOf, hpc], ?_⟩
    simp only [stepCall, hpc]
    split
    · rfl
    · rfl
  | requeried displays outcome =>
    right
    have houtcome := hs.queried caller call displays outcome hcall hpc
    refine ⟨displays, outcome.boundary, ?_, ?_, ?_⟩
    · simp [sourceOf, hpc]
    · simp [boundaryOf, houtcome]
    · cases outcome with
      | unpublished boundary => simp [stepCall, hpc, return_, publish, setCall]
      | published boundary => simp [stepCall, hpc, return_, publish, setCall]

/-- The flag stays set: no step takes it back. -/
theorem step_reconfigPending {s : ScreenQueryState} (h : s.cache.reconfigPending = true)
    (a : ScreenQueryAction) : (step policyConfig s a).cache.reconfigPending = true := by
  cases a with
  -- Only the callback writes the flag, and it sets it.
  | changeDisplays displays => exact h
  | reconfigCallback => rfl
  | primaryBoundary caller =>
    simp only [step]
    split
    · exact h
    · exact h
  | step caller =>
    simp only [step, stepCall]
    split
    · exact h
    · split
      · split
        · split
          · exact h
          · exact h
        · exact h
      · split
        · exact h
        · exact h
      · rename_i displays outcome hpc
        cases outcome with
        | unpublished boundary => exact h
        | published boundary => exact h

/-- The steps that keep the returned boundaries fresh. -/
theorem fresh_step_iff {s : ScreenQueryState} (hs : StateInv policyConfig s)
    (hfresh : Fresh policyConfig s) (a : ScreenQueryAction) :
    Fresh policyConfig (step policyConfig s a) ↔ UsesPresentDisplays policyConfig s a := by
  cases a with
  | changeDisplays displays => exact iff_of_true hfresh trivial
  | reconfigCallback => exact iff_of_true hfresh trivial
  | primaryBoundary caller =>
    refine iff_of_true ?_ trivial
    simp only [step]
    split
    · exact hfresh
    · exact hfresh
  | step caller =>
    simp only [step, UsesPresentDisplays]
    cases hcall : s.calls caller with
    | none => exact iff_of_true hfresh fun _ h => absurd h (by simp)
    | some call =>
      simp only [Option.some.injEq, forall_eq']
      -- A step that returns something is fresh if the displays it is from are the present ones.
      rcases returned_stepCall hs hcall with ⟨hsource, hreturned⟩ | ⟨displays, boundary, hrest⟩
      · simp only [Fresh, hreturned, hsource, reduceCtorEq, false_imp_iff, implies_true, iff_true]
        exact hfresh
      · obtain ⟨hsource, hboundary, hreturned⟩ := hrest
        simp only [Fresh, hreturned, hsource, List.forall_mem_cons, Option.some.injEq, forall_eq',
          hboundary]
        constructor
        · intro h hpending
          exact (h.1 hpending).symm
        · intro h
          exact ⟨fun hpending => (h hpending).symm, hfresh⟩

end ScreenQueryState

open ScreenQueryState (StateInv Fresh UsesPresentDisplays)

/-- Take a run from any displays. Then each of its calls that starts with the flag set returns the
boundary of the displays present at its start when its steps all use the displays present, and
only then. -/
theorem fresh_iff_usesPresentDisplays (policyConfig : MultiDisplayMergePolicyConfig)
    (displays : List NativeScreenGeometry) (acts : List ScreenQueryAction) :
    (∀ pre, pre <+: acts →
        Fresh policyConfig ((screenQueryMachine policyConfig displays).run pre)) ↔
      (screenQueryMachine policyConfig displays).Meets (UsesPresentDisplays policyConfig)
        (screenQueryMachine policyConfig displays).init acts := by
  have hinv : (screenQueryMachine policyConfig displays).Invariant (StateInv policyConfig) :=
    .of_step (ScreenQueryState.stateInv_init displays) fun s a hs =>
      ScreenQueryState.stateInv_step hs a
  have hstep (s : ScreenQueryState) (a : ScreenQueryAction)
      (hs : StateInv policyConfig s ∧ Fresh policyConfig s) :
      StateInv policyConfig (s.step policyConfig a) ∧ Fresh policyConfig (s.step policyConfig a) ↔
        UsesPresentDisplays policyConfig s a := by
    -- The invariant is kept in any case, so that only the freshness is conditional.
    rw [ScreenQueryState.fresh_step_iff hs.1 hs.2 a]
    exact and_iff_right (ScreenQueryState.stateInv_step hs.1 a)
  rw [Lib.Machine.meets_iff_forall_run (m := screenQueryMachine policyConfig displays)
    ⟨hinv [], fun _ hr => absurd hr List.not_mem_nil⟩ hstep]
  constructor
  · intro h pre hpre
    exact ⟨hinv pre, h pre hpre⟩
  · intro h pre hpre
    exact (h pre hpre).2

/-- One display, queried by a first call. It changes, and the callback runs. A second call then
starts with the flag set, and returns the boundary of the display as it was. -/
theorem returns_boundary_from_before_the_change :
    let display (width height : UInt32) : NativeScreenGeometry :=
      { originX := 0, originY := 0, width, height, apiSource := .CGDisplay }
    let s := (screenQueryMachine .init [display 1920 1080]).run
      [.primaryBoundary 0, .step 0, .step 0, .step 0, .changeDisplays [display 1280 720],
        .reconfigCallback, .primaryBoundary 1, .step 1]
    s.returned.head? = some
        { call := { pc := .getSnapshot, reconfigPending := true, displays := [display 1280 720] }
          boundary := { width := 1920, height := 1080, originX := 0, originY := 0 } } ∧
      ¬ Fresh .init s := by
  intro display s
  have hreturned : s.returned.head? = some
      { call := { pc := .getSnapshot, reconfigPending := true, displays := [display 1280 720] }
        boundary := { width := 1920, height := 1080, originX := 0, originY := 0 } } := by decide
  refine ⟨hreturned, ?_⟩
  -- The callback came before the second call, and its boundary is of the first displays.
  intro hfresh
  have hboundary := hfresh _ (List.mem_of_head? hreturned) rfl
  exact absurd hboundary (by decide)

end CrossFlow
