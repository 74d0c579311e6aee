import CrossFlow.Lib.Machine
import CrossFlow.Platform.Mac.MacEventInjector
import CrossFlow.Platform.Win.WinInputPlaneReceiver
import Mathlib.Data.List.Count

/-!
# `CrossFlow.Proofs.Injection.Batches`: events injected one after the other

A batch is its events injected in turn, with the failures counted in 32 bits. So are the events that
a receiver hands on, between the batches of others who have the same injector.

* `batch_in_turn`: what `injectBatch` does and returns, on both systems.
* `injection_accounted`: the counters of a receiver and of its injector after every run.
-/

set_option autoImplicit false

namespace CrossFlow

/-! ### In turn -/

section InTurn

variable {σ ε : Type}

/-- What came of a call of `inject`: the result, and what was posted. -/
abbrev Outcome (ε : Type) : Type := InjectResult × List ε

/-- The calls of `inject`, from the `k`th on, with what came of each. -/
def inTurn (inject : Nat → σ → ReceivedEvent → Option (σ × Outcome ε)) :
    Nat → σ → List ReceivedEvent → Option (σ × List (Outcome ε))
  | _, s, [] => some (s, [])
  | k, s, event :: events => do
    let (s, outcome) ← inject k s event
    let (s, outcomes) ← inTurn inject (k + 1) s events
    return (s, outcome :: outcomes)

/-- How many of the calls have failed. -/
def failures (outcomes : List (Outcome ε)) : Nat := outcomes.countP fun outcome => !outcome.1.ok

/-- What `injectBatch` returns. -/
def batchResult (latencyUs : UInt64) (outcomes : List (Outcome ε)) : InjectResult where
  ok := failures outcomes % 2 ^ 32 = 0
  failedCount := .ofNat (failures outcomes)
  latencyUs := latencyUs

/-- The sum of the latencies, modulo 2^64. -/
def latency (outcomes : List (Outcome ε)) : UInt64 :=
  outcomes.foldr (fun outcome sum => outcome.1.latencyUs + sum) 0

/-- What the calls have posted, one after the other. -/
def allPosted (outcomes : List (Outcome ε)) : List ε := outcomes.flatMap fun outcome => outcome.2

/-- The failures are counted call by call. -/
theorem ofNat_failures_cons (outcome : Outcome ε) (outcomes : List (Outcome ε)) (n : UInt32) :
    (if !outcome.1.ok then n + 1 else n) + .ofNat (failures outcomes) =
      n + .ofNat (failures (outcome :: outcomes)) := by
  unfold failures
  cases hok : outcome.1.ok with
  | true => simp [hok]
  | false => simp [hok, UInt32.ofNat_add, UInt32.add_assoc, UInt32.add_comm]

/-- A count of 32 bits is 0 for each multiple of 2^32. -/
theorem ofNat_eq_zero_iff (n : Nat) : UInt32.ofNat n = 0 ↔ n % 2 ^ 32 = 0 := by
  rw [← UInt32.toNat_inj, UInt32.toNat_ofNat']
  rfl

/-- What holds of the outcome of every call holds of all outcomes. -/
theorem inTurn_forall {inject : Nat → σ → ReceivedEvent → Option (σ × Outcome ε)}
    {P : Outcome ε → Prop}
    (h : ∀ k s event s' outcome, inject k s event = some (s', outcome) → P outcome) {k : Nat}
    {s s' : σ} {events : List ReceivedEvent} {outcomes : List (Outcome ε)}
    (hturn : inTurn inject k s events = some (s', outcomes)) :
    outcomes.length = events.length ∧ ∀ outcome ∈ outcomes, P outcome := by
  induction events generalizing k s outcomes with
  | nil =>
    obtain ⟨-, rfl⟩ := Prod.mk.inj (Option.some.inj hturn)
    exact ⟨rfl, fun outcome hmem => absurd hmem List.not_mem_nil⟩
  | cons event events ih =>
    obtain ⟨⟨s₁, outcome⟩, hfirst, hrest⟩ := Option.bind_eq_some_iff.mp hturn
    obtain ⟨⟨s₂, later⟩, hlater, hend⟩ := Option.bind_eq_some_iff.mp hrest
    obtain ⟨rfl, rfl⟩ := Prod.mk.inj (Option.some.inj hend)
    obtain ⟨hlength, hall⟩ := ih hlater
    refine ⟨by rw [List.length_cons, hlength, List.length_cons], ?_⟩
    intro outcome' hmem
    -- The first outcome is that of the first call, the others are by the induction.
    rcases List.mem_cons.mp hmem with rfl | hmem
    · exact h k s event s₁ outcome' hfirst
    · exact hall outcome' hmem

/-- A counter that goes up by one in the calls that `counts` selects, and stays in the others. -/
theorem inTurn_counter {inject : Nat → σ → ReceivedEvent → Option (σ × Outcome ε)}
    (counter : σ → UInt64) (counts : Outcome ε → Bool)
    (h : ∀ k s event s' outcome, inject k s event = some (s', outcome) →
      counter s' = if counts outcome then counter s + 1 else counter s) {k : Nat} {s s' : σ}
    {events : List ReceivedEvent} {outcomes : List (Outcome ε)}
    (hturn : inTurn inject k s events = some (s', outcomes)) :
    counter s' = counter s + .ofNat (outcomes.countP counts) := by
  induction events generalizing k s outcomes with
  | nil =>
    obtain ⟨rfl, rfl⟩ := Prod.mk.inj (Option.some.inj hturn)
    simp
  | cons event events ih =>
    obtain ⟨⟨s₁, outcome⟩, hfirst, hrest⟩ := Option.bind_eq_some_iff.mp hturn
    obtain ⟨⟨s₂, later⟩, hlater, hend⟩ := Option.bind_eq_some_iff.mp hrest
    obtain ⟨rfl, rfl⟩ := Prod.mk.inj (Option.some.inj hend)
    rw [ih hlater, h k s event s₁ outcome hfirst, List.countP_cons]
    -- An outcome that counts adds one before the others are added.
    cases counts outcome with
    | true => simp [UInt64.ofNat_add, UInt64.add_assoc, UInt64.add_comm]
    | false => simp

end InTurn

/-! ### Batches -/

namespace WinEventInjector

/-- The `k`th call of `inject`. -/
def turn (calls : Nat → UInt32 × UInt64) (k : Nat) (injector : WinEventInjector)
    (event : ReceivedEvent) : Option (WinEventInjector × Outcome WinInput) :=
  injector.inject event (calls k).1 (calls k).2

/-- The loop is the calls of `inject` in turn. -/
theorem injectEach_eq (calls : Nat → UInt32 × UInt64) (injector : WinEventInjector)
    (failedCount : UInt32) (totalLatency : UInt64) (k : Nat) (events : List ReceivedEvent) :
    injector.injectEach calls failedCount totalLatency k events =
      (inTurn (turn calls) k injector events).map fun (injector, outcomes) =>
        (injector,
          { ok := failedCount + .ofNat (failures outcomes) = 0
            failedCount := failedCount + .ofNat (failures outcomes)
            latencyUs := totalLatency + latency outcomes },
          allPosted outcomes) := by
  -- The loop carries the failures and the latency so far, which are added to those still to come.
  induction events generalizing injector failedCount totalLatency k with
  | nil => simp [injectEach, inTurn, failures, latency, allPosted]
  | cons event events ih =>
    have hturn : turn calls k injector event =
      injector.inject event (calls k).1 (calls k).2 := rfl
    rw [injectEach, inTurn, hturn]
    cases hinject : injector.inject event (calls k).1 (calls k).2 with
    | none => rfl
    | some taken =>
      obtain ⟨injector', result, posted⟩ := taken
      simp only [Option.bind_eq_bind, Option.bind_some, ih]
      cases hlater : inTurn (turn calls) (k + 1) injector' events with
      | none => rfl
      | some later =>
        obtain ⟨injector'', outcomes⟩ := later
        have hfailures := ofNat_failures_cons (result, posted) outcomes failedCount
        dsimp only at hfailures
        simp only [Option.map_some, Option.bind_some, Option.pure_def, hfailures, latency,
          List.foldr_cons, UInt64.add_assoc, allPosted, List.flatMap_cons]

end WinEventInjector

namespace MacEventInjector

/-- The `k`th call of `inject`. -/
def turn (creates : Nat → Nat → Bool) (k : Nat) (injector : MacEventInjector)
    (event : ReceivedEvent) : Option (MacEventInjector × Outcome CGEvent) :=
  injector.inject event (creates k)

/-- The loop is the calls of `inject` in turn. -/
theorem injectEach_eq (creates : Nat → Nat → Bool) (injector : MacEventInjector)
    (failedCount : UInt32) (k : Nat) (events : List ReceivedEvent) :
    injector.injectEach creates failedCount k events =
      (inTurn (turn creates) k injector events).map fun (injector, outcomes) =>
        (injector,
          { ok := failedCount + .ofNat (failures outcomes) = 0
            failedCount := failedCount + .ofNat (failures outcomes)
            latencyUs := 0 },
          allPosted outcomes) := by
  induction events generalizing injector failedCount k with
  | nil => simp [injectEach, inTurn, failures, allPosted]
  | cons event events ih =>
    have hturn : turn creates k injector event = injector.inject event (creates k) := rfl
    rw [injectEach, inTurn, hturn]
    cases hinject : injector.inject event (creates k) with
    | none => rfl
    | some taken =>
      obtain ⟨injector', result, posted⟩ := taken
      simp only [Option.bind_eq_bind, Option.bind_some, ih]
      -- A call that does not return ends the batch in the middle, on both sides.
      cases hlater : inTurn (turn creates) (k + 1) injector' events with
      | none => rfl
      | some later =>
        obtain ⟨injector'', outcomes⟩ := later
        have hfailures := ofNat_failures_cons (result, posted) outcomes failedCount
        dsimp only at hfailures
        simp only [Option.map_some, Option.bind_some, Option.pure_def, hfailures, allPosted,
          List.flatMap_cons]

end MacEventInjector

/-- The result as the loop computes it. -/
theorem batchResult_eq {ε : Type} (latencyUs : UInt64) (outcomes : List (Outcome ε)) :
    batchResult latencyUs outcomes =
      { ok := (0 : UInt32) + .ofNat (failures outcomes) = 0
        failedCount := 0 + .ofNat (failures outcomes)
        latencyUs } := by
  simp only [batchResult, UInt32.zero_add, ofNat_eq_zero_iff]

/-- On both systems a batch is the calls of `inject` in turn: it ends the process when one of them
does, and otherwise leaves the injector and posts what they do. The failures are counted modulo
2^32, and a batch is ok when the count is zero: when there are none, or a multiple of 2^32. The
latency is the sum on Windows, and zero on macOS. -/
theorem batch_in_turn (events : List ReceivedEvent) :
    (∀ (calls : Nat → UInt32 × UInt64) (injector : WinEventInjector),
      injector.injectBatch calls events =
        (inTurn (WinEventInjector.turn calls) 0 injector events).map fun (injector, outcomes) =>
          (injector, batchResult (latency outcomes) outcomes, allPosted outcomes)) ∧
    ∀ (creates : Nat → Nat → Bool) (injector : MacEventInjector),
      injector.injectBatch creates events =
        (inTurn (MacEventInjector.turn creates) 0 injector events).map fun (injector, outcomes) =>
          (injector, batchResult 0 outcomes, allPosted outcomes) := by
  constructor
  · intro calls injector
    rw [WinEventInjector.injectBatch, WinEventInjector.injectEach_eq]
    simp only [batchResult_eq, UInt64.zero_add]
  · intro creates injector
    rw [MacEventInjector.injectBatch, MacEventInjector.injectEach_eq]
    simp only [batchResult_eq]

/-! ### One call -/

namespace WinEventInjector

/-- A handler that is ok has called `SendInput` once. -/
theorem length_of_dispatch {event : ReceivedEvent} {sent : UInt32} {result : InjectResult}
    {posted : List WinInput} (h : dispatch event sent = some (result, posted))
    (hok : result.ok = true) : posted.length = 1 := by
  have hsend (input : WinInput) (h : sendInput sent input = (result, posted)) :
      posted.length = 1 := by
    rw [← (Prod.mk.inj h).2]
    rfl
  have hfailed (h : (failed, []) = (result, posted)) : posted.length = 1 := by
    rw [← (Prod.mk.inj h).1] at hok
    exact absurd hok Bool.false_ne_true
  have hbutton (h : injectMouseButtonEvent event sent = some (result, posted)) :
      posted.length = 1 := by
    obtain ⟨btn, -, h⟩ := Option.bind_eq_some_iff.mp h
    dsimp only at h
    split at h
    · exact hsend _ (Option.some.inj h)
    split at h
    · exact hsend _ (Option.some.inj h)
    split at h
    · exact hsend _ (Option.some.inj h)
    · exact hfailed (Option.some.inj h)
  have hkey (h : injectKeyEvent event sent = some (result, posted)) : posted.length = 1 := by
    obtain ⟨payload, -, h⟩ := Option.bind_eq_some_iff.mp h
    exact hsend _ (Option.some.inj h)
  -- One handler for each type of event, in the order of `dispatch`.
  unfold dispatch at h
  split at h
  · obtain ⟨payload, -, h⟩ := Option.bind_eq_some_iff.mp h
    exact hsend _ (Option.some.inj h)
  · exact hbutton h
  · exact hbutton h
  · obtain ⟨payload, -, h⟩ := Option.bind_eq_some_iff.mp h
    exact hsend _ (Option.some.inj h)
  · exact hkey h
  · exact hkey h
  · exact hfailed (Option.some.inj h)

/-- What one call of `inject` does to the two counters. -/
theorem inject_counters {s s' : WinEventInjector} {event : ReceivedEvent} {sent : UInt32}
    {latencyUs : UInt64} {result : InjectResult} {posted : List WinInput}
    (h : s.inject event sent latencyUs = some (s', result, posted)) :
    s'.totalInjected = (if result.ok then s.totalInjected + 1 else s.totalInjected) ∧
      s'.totalRejected = (if !result.ok then s.totalRejected + 1 else s.totalRejected) ∧
      (result.ok = true → posted.length = 1) := by
  unfold inject at h
  split at h
  · -- An event of another source is rejected before anything is dispatched.
    obtain ⟨rfl, hpair⟩ := Prod.mk.inj (Option.some.inj h)
    obtain ⟨rfl, rfl⟩ := Prod.mk.inj hpair
    exact ⟨rfl, rfl, fun hok => absurd hok Bool.false_ne_true⟩
  · obtain ⟨⟨result', posted'⟩, hdispatch, h⟩ := Option.bind_eq_some_iff.mp h
    have hlength := length_of_dispatch hdispatch
    dsimp only at h
    split at h
    · -- An event that was posted is one input and one more injected.
      next hok =>
      obtain ⟨rfl, hpair⟩ := Prod.mk.inj (Option.some.inj h)
      obtain ⟨rfl, rfl⟩ := Prod.mk.inj hpair
      exact ⟨(if_pos hok).symm, (if_neg (by simp [hok])).symm, hlength⟩
    · -- One that was not is one more rejected.
      next hok =>
      obtain ⟨rfl, hpair⟩ := Prod.mk.inj (Option.some.inj h)
      obtain ⟨rfl, rfl⟩ := Prod.mk.inj hpair
      exact ⟨(if_neg hok).symm, (if_pos (by simpa using hok)).symm, hlength⟩

end WinEventInjector

/-! ### Runs -/

/-- What a receiver is called with, and what others do with its injector in between. -/
inductive InjectionCall where
  | handleReceivedEvent (event : ReceivedEvent) (sent : UInt32) (latencyUs : UInt64)
  | injectBatch (calls : Nat → UInt32 × UInt64) (events : List ReceivedEvent)
  | setSourceNodeId (id : NodeId)
  | syncModifiers (asyncKeyState : UInt16 → Bool) (sourceState : ModifierState)
  | releaseAllPressed (pressed : PressedStateSnapshot) (latencyMs : UInt32)

/-- A receiver whose injector others use as well, and what it was asked to do. -/
structure WinInjection where
  receiver : WinInputPlaneReceiver
  /-- An exception has left a function that is `noexcept`. -/
  terminated : Bool
  /-- History: the events that were received. -/
  received : Nat
  /-- History: those of another source than the one that is expected. -/
  unexpected : Nat
  /-- History: the events of the batches. -/
  batched : Nat
  /-- History: what came of the calls of `inject`. -/
  outcomes : List (Outcome WinInput)

namespace WinInjection

/-- Nothing was received or injected. -/
def init (injector : WinEventInjector) (expectedSourceNodeId : NodeId) : WinInjection where
  receiver := .init injector expectedSourceNodeId
  terminated := false
  received := 0
  unexpected := 0
  batched := 0
  outcomes := []

/-- The receiver handles an event. -/
def handleReceivedEvent (s : WinInjection) (event : ReceivedEvent) (sent : UInt32)
    (latencyUs : UInt64) : WinInjection :=
  match s.receiver.handleReceivedEvent event sent latencyUs with
  | none => { s with terminated := true }
  | some (receiver, _, _) =>
    if event.sourceNodeId ≠ s.receiver.expectedSourceNodeId then
      { s with receiver, received := s.received + 1, unexpected := s.unexpected + 1 }
    else
      { s with
        receiver
        received := s.received + 1
        outcomes := s.outcomes ++
          ((s.receiver.injector.inject event sent latencyUs).map fun taken => taken.2).toList }

/-- Somebody else injects a batch. -/
def injectBatch (s : WinInjection) (calls : Nat → UInt32 × UInt64) (events : List ReceivedEvent) :
    WinInjection :=
  match s.receiver.injector.injectBatch calls events with
  | none => { s with terminated := true }
  | some (injector, _, _) =>
    { s with
      receiver := { s.receiver with injector }
      batched := s.batched + events.length
      outcomes := s.outcomes ++
        ((inTurn (WinEventInjector.turn calls) 0 s.receiver.injector events).map
          fun taken => taken.2).getD [] }

/-- Somebody else has used the injector. -/
def withInjector (s : WinInjection) (injector : WinEventInjector) : WinInjection :=
  { s with receiver := { s.receiver with injector } }

/-- A call, unless the process has ended. -/
def step (s : WinInjection) (call : InjectionCall) : WinInjection :=
  if s.terminated then s
  else
    match call with
    | .handleReceivedEvent event sent latencyUs => s.handleReceivedEvent event sent latencyUs
    | .injectBatch calls events => s.injectBatch calls events
    | .setSourceNodeId id => s.withInjector (s.receiver.injector.setSourceNodeId id)
    | .syncModifiers asyncKeyState sourceState =>
      s.withInjector (s.receiver.injector.syncModifiers asyncKeyState sourceState).1
    | .releaseAllPressed pressed latencyMs =>
      s.withInjector (s.receiver.injector.releaseAllPressed pressed latencyMs).1

end WinInjection

/-- The receiver and its injector, in any order of the calls. -/
def injectionMachine (sourceNodeId expectedSourceNodeId : NodeId) :
    Lib.Machine WinInjection InjectionCall where
  init := .init (.init sourceNodeId) expectedSourceNodeId
  step := WinInjection.step

/-- The counters count what came of the calls. -/
structure Accounted (s : WinInjection) : Prop where
  received : s.receiver.totalReceived = .ofNat s.received
  receiver : s.receiver.totalInjected + s.receiver.totalRejected = s.receiver.totalReceived
  injected : s.receiver.injector.totalInjected =
    .ofNat (s.outcomes.countP fun outcome => outcome.1.ok)
  rejected : s.receiver.injector.totalRejected = .ofNat (failures s.outcomes)
  /-- An event that was injected was posted, as one input. -/
  posted : ∀ outcome ∈ s.outcomes, outcome.1.ok = true → outcome.2.length = 1
  calls : s.received + s.batched = s.unexpected + s.outcomes.length

/-- What the injector did in some calls of `inject`. -/
structure Outcomes (injector injector' : WinEventInjector) (outcomes : List (Outcome WinInput)) :
    Prop where
  injected : injector'.totalInjected =
    injector.totalInjected + .ofNat (outcomes.countP fun outcome => outcome.1.ok)
  rejected : injector'.totalRejected = injector.totalRejected + .ofNat (failures outcomes)
  posted : ∀ outcome ∈ outcomes, outcome.1.ok = true → outcome.2.length = 1

/-- Calls in turn have as many outcomes, which the injector has counted. -/
theorem outcomes_inTurn {calls : Nat → UInt32 × UInt64} {injector injector' : WinEventInjector}
    {events : List ReceivedEvent} {outcomes : List (Outcome WinInput)}
    (h : inTurn (WinEventInjector.turn calls) 0 injector events = some (injector', outcomes)) :
    outcomes.length = events.length ∧ Outcomes injector injector' outcomes := by
  have hcall := fun (k : Nat) (s : WinEventInjector) (event : ReceivedEvent)
    (s' : WinEventInjector) (outcome : Outcome WinInput)
    (h : WinEventInjector.turn calls k s event = some (s', outcome)) =>
      WinEventInjector.inject_counters h
  obtain ⟨hlength, hposted⟩ := inTurn_forall
    (fun k s event s' outcome h => (hcall k s event s' outcome h).2.2) h
  refine ⟨hlength, ?_, ?_, hposted⟩
  · exact inTurn_counter WinEventInjector.totalInjected (fun outcome => outcome.1.ok)
      (fun k s event s' outcome h => (hcall k s event s' outcome h).1) h
  · exact inTurn_counter WinEventInjector.totalRejected (fun outcome => !outcome.1.ok)
      (fun k s event s' outcome h => (hcall k s event s' outcome h).2.1) h

/-- What came of one call. -/
theorem outcomes_inject {injector injector' : WinEventInjector} {event : ReceivedEvent}
    {sent : UInt32} {latencyUs : UInt64} {outcome : Outcome WinInput}
    (h : injector.inject event sent latencyUs = some (injector', outcome)) :
    Outcomes injector injector' [outcome] := by
  obtain ⟨hinjected, hrejected, hposted⟩ := WinEventInjector.inject_counters h
  constructor
  · rw [hinjected, List.countP_singleton]
    cases outcome.1.ok <;> simp
  · rw [hrejected, failures, List.countP_singleton]
    cases outcome.1.ok <;> simp
  · intro outcome' hmem
    rw [List.mem_singleton.mp hmem]
    exact hposted

namespace Accounted

variable {s : WinInjection}

/-- More outcomes are counted after those there are. -/
theorem append (h : Accounted s) {injector : WinEventInjector}
    {outcomes : List (Outcome WinInput)}
    (houtcomes : Outcomes s.receiver.injector injector outcomes) :
    injector.totalInjected =
        .ofNat ((s.outcomes ++ outcomes).countP fun outcome => outcome.1.ok) ∧
      injector.totalRejected = .ofNat (failures (s.outcomes ++ outcomes)) ∧
      ∀ outcome ∈ s.outcomes ++ outcomes, outcome.1.ok = true → outcome.2.length = 1 := by
  refine ⟨?_, ?_, ?_⟩
  · rw [houtcomes.injected, h.injected, List.countP_append, UInt64.ofNat_add]
  · rw [houtcomes.rejected, h.rejected, failures, failures, failures, List.countP_append,
      UInt64.ofNat_add]
  · intro outcome hmem
    rcases List.mem_append.mp hmem with hmem | hmem
    · exact h.posted outcome hmem
    · exact houtcomes.posted outcome hmem

/-- What leaves the counters of the injector alone. -/
theorem withInjector (h : Accounted s) {injector : WinEventInjector}
    (hinjected : injector.totalInjected = s.receiver.injector.totalInjected)
    (hrejected : injector.totalRejected = s.receiver.injector.totalRejected) :
    Accounted (s.withInjector injector) where
  received := h.received
  receiver := h.receiver
  injected := hinjected.trans h.injected
  rejected := hrejected.trans h.rejected
  posted := h.posted
  calls := h.calls

/-- A call that ends the process counts nothing. -/
theorem terminate (h : Accounted s) : Accounted { s with terminated := true } where
  received := h.received
  receiver := h.receiver
  injected := h.injected
  rejected := h.rejected
  posted := h.posted
  calls := h.calls

/-- A batch keeps the account. -/
theorem injectBatch (h : Accounted s) (calls : Nat → UInt32 × UInt64)
    (events : List ReceivedEvent) : Accounted (s.injectBatch calls events) := by
  have hbatch : s.receiver.injector.injectBatch calls events = _ :=
    WinEventInjector.injectEach_eq calls s.receiver.injector 0 0 0 events
  unfold WinInjection.injectBatch
  rw [hbatch]
  cases hturn : inTurn (WinEventInjector.turn calls) 0 s.receiver.injector events with
  -- A call that does not return ends the process.
  | none => exact h.terminate
  | some taken =>
    obtain ⟨injector, outcomes⟩ := taken
    obtain ⟨hlength, houtcomes⟩ := outcomes_inTurn hturn
    -- What the batch counts is counted after what there was.
    obtain ⟨hinjected, hrejected, hposted⟩ := h.append houtcomes
    have hcalls := h.calls
    constructor
    case received => exact h.received
    case receiver => exact h.receiver
    case injected => exact hinjected
    case rejected => exact hrejected
    case posted => exact hposted
    case calls =>
      show s.received + (s.batched + events.length) =
        s.unexpected + (s.outcomes ++ outcomes).length
      rw [List.length_append, hlength]
      omega

/-- An event that is received keeps the account. -/
theorem handleReceivedEvent (h : Accounted s) (event : ReceivedEvent) (sent : UInt32)
    (latencyUs : UInt64) : Accounted (s.handleReceivedEvent event sent latencyUs) := by
  have hreceived : s.receiver.totalReceived + 1 = .ofNat (s.received + 1) := by
    rw [h.received, UInt64.ofNat_add]
    rfl
  have hcalls := h.calls
  unfold WinInjection.handleReceivedEvent WinInputPlaneReceiver.handleReceivedEvent
  dsimp only
  by_cases hsource : event.sourceNodeId ≠ s.receiver.expectedSourceNodeId
  · -- Refused by the receiver.
    rw [if_pos hsource]
    simp only [Option.pure_def, if_pos hsource]
    constructor
    case received => exact hreceived
    case receiver =>
      show s.receiver.totalInjected + (s.receiver.totalRejected + 1) = s.receiver.totalReceived + 1
      rw [← UInt64.add_assoc, h.receiver]
    case injected => exact h.injected
    case rejected => exact h.rejected
    case posted => exact h.posted
    case calls =>
      show s.received + 1 + s.batched = s.unexpected + 1 + s.outcomes.length
      omega
  · rw [if_neg hsource]
    cases hinject : s.receiver.injector.inject event sent latencyUs with
    | none => exact h.terminate
    | some taken =>
      obtain ⟨injector, result, posted⟩ := taken
      obtain ⟨hinjected, hrejected, hposted⟩ := h.append (outcomes_inject hinject)
      have hlength : s.received + 1 + s.batched =
          s.unexpected + (s.outcomes ++ [(result, posted)]).length := by
        rw [List.length_append, List.length_singleton]
        omega
      simp only [Option.bind_eq_bind, Option.bind_some, Option.pure_def]
      -- The receiver counts the event by what the injector says of it.
      cases hok : result.ok with
      | true =>
        simp only [if_true, if_neg hsource]
        constructor
        case received => exact hreceived
        case receiver =>
          show s.receiver.totalInjected + 1 + s.receiver.totalRejected =
            s.receiver.totalReceived + 1
          rw [← h.receiver, UInt64.add_assoc, UInt64.add_comm 1, ← UInt64.add_assoc]
        case injected => exact hinjected
        case rejected => exact hrejected
        case posted => exact hposted
        case calls => exact hlength
      | false =>
        simp only [Bool.false_eq_true, if_false, if_neg hsource]
        constructor
        case received => exact hreceived
        case receiver =>
          show s.receiver.totalInjected + (s.receiver.totalRejected + 1) =
            s.receiver.totalReceived + 1
          rw [← UInt64.add_assoc, h.receiver]
        case injected => exact hinjected
        case rejected => exact hrejected
        case posted => exact hposted
        case calls => exact hlength

end Accounted

/-- After every run of a receiver whose injector others use as well: the receiver has counted every
event it got, as injected or as rejected; its injector has counted every call of `inject`, and what
it counts as injected was posted, as one input; and the calls of `inject` are those for the events
that the receiver expected and for the events of the batches. The counters wrap at 2^64. -/
theorem injection_accounted (sourceNodeId expectedSourceNodeId : NodeId)
    (calls : List InjectionCall) :
    Accounted ((injectionMachine sourceNodeId expectedSourceNodeId).run calls) := by
  refine Lib.Machine.Invariant.of_step ?_ ?_ calls
  · constructor
    case posted => exact fun outcome hmem => absurd hmem List.not_mem_nil
    all_goals rfl
  · intro s call h
    show Accounted (s.step call)
    unfold WinInjection.step
    -- After the end of the process nothing is counted any more.
    split
    · exact h
    · cases call with
      | handleReceivedEvent event sent latencyUs => exact h.handleReceivedEvent event sent latencyUs
      | injectBatch calls events => exact h.injectBatch calls events
      -- The other calls use the injector and count nothing.
      | setSourceNodeId id => exact h.withInjector rfl rfl
      | syncModifiers asyncKeyState sourceState => exact h.withInjector rfl rfl
      | releaseAllPressed pressed latencyMs => exact h.withInjector rfl rfl

end CrossFlow
