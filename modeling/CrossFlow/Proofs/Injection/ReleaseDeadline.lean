import CrossFlow.Platform.Mac.ReleaseAllPressedExecutor
import Mathlib.Data.List.Basic

/-!
# `CrossFlow.Proofs.Injection.ReleaseDeadline`: what is released before the deadline

The two loops of `execute` are one loop over the releases that are due (`releaseLoops_eq`), which
stops at the first reading of the clock that is not below the deadline. `released_releaseEach` says
what it asks of `injectFn` and when, by induction on what is due.

* `count_buttons`, `count_keys`: the `count` functions count what `isPressed` says is pressed.
* `release_until_deadline`: a call on a fresh executor.
-/

set_option autoImplicit false

namespace CrossFlow

/-! ### Counting what is pressed -/

/-- The loop counts the bits that are set. -/
theorem countBits_eq (width v : Nat) : countBits width v = (List.range width).countP v.testBit := by
  induction width generalizing v with
  | zero => rfl
  | succ width ih =>
    have hbits : v.testBit ∘ Nat.succ = (v / 2).testBit := by
      funext k
      exact Nat.testBit_succ v k
    rw [countBits, List.range_succ_eq_map, List.countP_cons, List.countP_map, hbits, ← ih]
    -- The loop ends when no bit is left, and then there is none to count.
    by_cases hv : v = 0
    · have hzero : countBits width 0 = 0 := by
        cases width with
        | zero => rfl
        | succ width => simp [countBits]
      simp [hv, hzero]
    · have hfirst : v % 2 = if v.testBit 0 = true then 1 else 0 := by
        rw [Nat.testBit_zero]
        rcases Nat.mod_two_eq_zero_or_one v with h | h
        · simp [h]
        · simp [h]
      rw [if_neg hv, hfirst, Nat.add_comm]

/-- The count of the buttons that are pressed. -/
theorem count_buttons (b : MouseButtonBitmap) :
    b.count.toNat = (List.range 8).countP fun btn => b.isPressed (UInt8.ofNat btn) := by
  have hle := List.countP_le_length (p := b.bits.toNat.testBit) (l := List.range 8)
  rw [List.length_range] at hle
  rw [MouseButtonBitmap.count, countBits_eq, UInt8.toNat_ofNat', Nat.mod_eq_of_lt (by omega)]
  refine List.countP_congr ?_
  intro btn hbtn
  have hlt := List.mem_range.mp hbtn
  rw [MouseButtonBitmap.isPressed, UInt8.toNat_ofNat', Nat.mod_eq_of_lt (by omega)]

/-- The bit of a key, by its word. -/
theorem isPressed_word (b : KeyCodeBitmap) {i k : Nat} (hi : i < 4) (hk : k < 64) :
    b.isPressed (UInt16.ofNat (64 * i + k)) = (b.words.get ⟨i, hi⟩).toNat.testBit k := by
  have hcode : (UInt16.ofNat (64 * i + k)).toNat = 64 * i + k := by
    rw [UInt16.toNat_ofNat', Nat.mod_eq_of_lt (by omega)]
  have hdiv : (64 * i + k) / 64 = i := by omega
  have hmod : (64 * i + k) % 64 = k := by omega
  have hlt : 64 * i + k < 256 := by omega
  simp only [KeyCodeBitmap.isPressed, hcode, hdiv, hmod, hlt, dite_true]

/-- The numbers below `width * n`, `width` at a time. -/
theorem range_mul (width n : Nat) : List.range (width * n) =
    (List.range n).flatMap fun i => (List.range width).map (width * i + ·) := by
  induction n with
  | zero => rfl
  | succ n ih =>
    rw [Nat.mul_succ, List.range_add, ih, List.range_succ, List.flatMap_append,
      List.flatMap_singleton]

/-- The count of the keys that are pressed. -/
theorem count_keys (b : KeyCodeBitmap) :
    b.count.toNat = (List.range 256).countP fun code => b.isPressed (UInt16.ofNat code) := by
  have hword : ∀ i (hi : i < 4), ((List.range 64).map (64 * i + ·)).countP
      (fun code => b.isPressed (UInt16.ofNat code)) =
        countBits 64 (b.words.get ⟨i, hi⟩).toNat := by
    intro i hi
    rw [countBits_eq, List.countP_map]
    refine List.countP_congr ?_
    intro k hk
    simp only [Function.comp, isPressed_word b hi (List.mem_range.mp hk)]
  have hle : ∀ v, countBits 64 v ≤ 64 := by
    intro v
    have hle := List.countP_le_length (p := v.testBit) (l := List.range 64)
    rw [List.length_range] at hle
    rwa [countBits_eq]
  have hwords : b.words.toList = [b.words.get 0, b.words.get 1, b.words.get 2, b.words.get 3] := by
    obtain ⟨⟨words, hsize⟩⟩ := b
    match words, hsize with
    | ⟨[w0, w1, w2, w3]⟩, _ => rfl
  have hsum : ((List.range (64 * 4)).countP fun code => b.isPressed (UInt16.ofNat code)) =
      countBits 64 (b.words.get 0).toNat + countBits 64 (b.words.get 1).toNat +
        countBits 64 (b.words.get 2).toNat + countBits 64 (b.words.get 3).toNat := by
    have hfour : List.range 4 = [0, 1, 2, 3] := rfl
    rw [range_mul, List.countP_flatMap, hfour]
    simp only [List.map_cons, List.map_nil, List.sum_cons, List.sum_nil, Function.comp,
      hword 0 (by omega), hword 1 (by omega), hword 2 (by omega), hword 3 (by omega)]
    simp [Nat.add_assoc]
  -- Four words of at most 64 bits each, so the 16-bit sum of the code does not wrap.
  have hle0 := hle (b.words.get 0).toNat
  have hle1 := hle (b.words.get 1).toNat
  have hle2 := hle (b.words.get 2).toNat
  have hle3 := hle (b.words.get 3).toNat
  rw [KeyCodeBitmap.count, hwords, hsum]
  simp only [List.foldl_cons, List.foldl_nil, UInt16.zero_add, ← UInt16.ofNat_add,
    UInt16.toNat_ofNat']
  omega

/-! ### One loop over what is due -/

namespace ReleaseAllPressedExecutor

/-- The releases that are due: the pressed buttons in ascending order, then the pressed keys. -/
def dueReleases (snapshot : PressedStateSnapshot) (sourceNodeId : NodeId) (nowNs : UInt64) :
    List ReceivedEvent :=
  ((List.range 8).filter fun btn =>
      snapshot.pressedMouseButtons.isPressed (UInt8.ofNat btn)).map
    (buttonRelease sourceNodeId nowNs) ++
  ((List.range 256).filter fun code => snapshot.pressedKeys.isPressed (UInt16.ofNat code)).map
    (keyRelease sourceNodeId nowNs)

namespace Releasing

/-- The loop over the releases that are due. -/
def releaseEach (fns : ReleaseFns) (tDeadline : Int) :
    List ReceivedEvent → Releasing → Releasing × Bool
  | [], s => (s, false)
  | event :: events, s =>
    let (s, late) := s.releaseOne fns tDeadline event
    if late then (s, true) else releaseEach fns tDeadline events s

variable {fns : ReleaseFns} {tDeadline : Int}

/-- The loop releases what is pressed, in order. -/
theorem releaseLoop_eq (isPressed : Nat → Bool) (release : Nat → ReceivedEvent) (codes : List Nat)
    (s : Releasing) : releaseLoop fns tDeadline isPressed release codes s =
      releaseEach fns tDeadline ((codes.filter isPressed).map release) s := by
  induction codes generalizing s with
  | nil => rfl
  | cons code codes ih =>
    rw [releaseLoop, List.filter_cons]
    split
    · simp only [List.map_cons, releaseEach, ih]
    · exact ih s

/-- Releases are made one after the other, until one of them is late. -/
theorem releaseEach_append (events events' : List ReceivedEvent) (s : Releasing) :
    releaseEach fns tDeadline (events ++ events') s =
      if (releaseEach fns tDeadline events s).2 then releaseEach fns tDeadline events s
      else releaseEach fns tDeadline events' (releaseEach fns tDeadline events s).1 := by
  induction events generalizing s with
  | nil => simp [releaseEach]
  | cons event events ih =>
    simp only [List.cons_append, releaseEach]
    split
    · simp
    · exact ih _

/-- What one release does, and the two readings of the clock around it. -/
theorem releaseOne_cases (fns : ReleaseFns) (tDeadline : Int) (s : Releasing)
    (event : ReceivedEvent) :
    (tDeadline ≤ fns.clockFn s.readings ∧ s.releaseOne fns tDeadline event =
      ({ s with
          readings := s.readings + 1
          trace := s.trace ++ [.clock (fns.clockFn s.readings)] }, true)) ∨
    ∃ sent r, fns.clockFn s.readings < tDeadline ∧ sent = { event with eventId := s.eventId } ∧
      r = fns.injectFn s.injections sent ∧ s.releaseOne fns tDeadline event =
        ({ eventId := s.eventId + 1
           released := if r.ok then s.released + 1 else s.released
           readings := s.readings + 2
           injections := s.injections + 1
           trace := s.trace ++ [.clock (fns.clockFn s.readings), .inject sent r,
             .clock (fns.clockFn (s.readings + 1))] },
          decide (tDeadline ≤ fns.clockFn (s.readings + 1))) := by
  -- The clock is read before the release, and if it is not late once more after it.
  by_cases hlate : tDeadline ≤ fns.clockFn s.readings
  · refine .inl ⟨hlate, ?_⟩
    simp [releaseOne, readClock, hlate]
  · refine .inr ⟨_, _, Int.not_le.mp hlate, rfl, rfl, ?_⟩
    simp only [releaseOne, readClock, Releasing.inject, ge_iff_le, if_neg hlate, List.append_assoc,
      List.cons_append, List.nil_append]
    rfl

end Releasing

/-- The two loops are one over all that is due. -/
theorem releaseLoops_eq (snapshot : PressedStateSnapshot) (fns : ReleaseFns)
    (sourceNodeId : NodeId) (tStart : Int) (s : Releasing) :
    releaseLoops snapshot fns sourceNodeId tStart s =
      Releasing.releaseEach fns (tStart + kTotalDeadline)
        (dueReleases snapshot sourceNodeId (UInt64.ofInt tStart)) s := by
  rw [releaseLoops, dueReleases, Releasing.releaseEach_append]
  simp only [Releasing.releaseLoop_eq]
  generalize Releasing.releaseEach fns _ _ s = first
  obtain ⟨s', late⟩ := first
  cases late with
  | true => rfl
  | false => rfl

/-! ### What the loop asks for -/

/-- The events that `injectFn` is called with. -/
def injected (calls : List ReleaseCall) : List ReceivedEvent :=
  calls.filterMap fun
    | .clock _ => none
    | .inject event _ => some event

/-- How many of them were ok. -/
def okCount (calls : List ReleaseCall) : Nat :=
  calls.countP fun
    | .clock _ => false
    | .inject _ r => r.ok

/-- The events, each with its id. -/
def numbered (eventId : UInt64) : List ReceivedEvent → List ReceivedEvent
  | [] => []
  | event :: events => { event with eventId } :: numbered (eventId + 1) events

/-- Every call of `injectFn` comes right after a reading below the deadline, and no reading before
it was not below. -/
def Timed (tDeadline : Int) (calls : List ReleaseCall) : Prop :=
  ∀ before event r after, calls = before ++ .inject event r :: after →
    (∃ t, before.getLast? = some (.clock t) ∧ t < tDeadline) ∧
      ∀ t, .clock t ∈ before → t < tDeadline

/-- A reading at or past the deadline. -/
def Late (tDeadline : Int) (calls : List ReleaseCall) : Prop :=
  ∃ t, .clock t ∈ calls ∧ tDeadline ≤ t

variable {tDeadline : Int}

/-- No calls are in time. -/
theorem timed_nil : Timed tDeadline [] := by
  intro before event r after h
  simp at h

/-- A reading in front, below the deadline. -/
theorem Timed.cons_clock {calls : List ReleaseCall} (h : Timed tDeadline calls) {t : Int}
    (ht : t < tDeadline) : Timed tDeadline (.clock t :: calls) := by
  intro before event r after hsplit
  cases before with
  | nil => simp at hsplit
  | cons call before =>
    rw [List.cons_append, List.cons.injEq] at hsplit
    obtain ⟨rfl, hsplit⟩ := hsplit
    obtain ⟨⟨last, hlast, hbelow⟩, hall⟩ := h before event r after hsplit
    constructor
    · refine ⟨last, ?_, hbelow⟩
      rw [List.getLast?_cons, hlast, Option.getD_some]
    · intro t' ht'
      rcases List.mem_cons.mp ht' with ht' | ht'
      · rwa [ReleaseCall.clock.inj ht']
      · exact hall t' ht'

/-- A call of `injectFn` in front, after a reading below the deadline. -/
theorem Timed.cons_inject {calls : List ReleaseCall} (h : Timed tDeadline calls) {t : Int}
    (ht : t < tDeadline) (event : ReceivedEvent) (r : InjectResult) :
    Timed tDeadline (.clock t :: .inject event r :: calls) := by
  intro before event' r' after hsplit
  match before with
  | [] => simp at hsplit
  | [call] =>
    simp only [List.cons_append, List.nil_append, List.cons.injEq] at hsplit
    obtain ⟨rfl, -⟩ := hsplit
    refine ⟨⟨t, rfl, ht⟩, ?_⟩
    intro t' ht'
    rwa [ReleaseCall.clock.inj (List.mem_singleton.mp ht')]
  | call :: call' :: before =>
    simp only [List.cons_append, List.cons.injEq] at hsplit
    obtain ⟨rfl, rfl, hsplit⟩ := hsplit
    -- A later call of `injectFn`, which has its own reading in the rest.
    obtain ⟨⟨last, hlast, hbelow⟩, hall⟩ := h before event' r' after hsplit
    constructor
    · refine ⟨last, ?_, hbelow⟩
      rw [List.getLast?_cons, List.getLast?_cons, hlast, Option.getD_some, Option.getD_some]
    · intro t' ht'
      rcases List.mem_cons.mp ht' with ht' | ht'
      · rwa [ReleaseCall.clock.inj ht']
      · rcases List.mem_cons.mp ht' with ht' | ht'
        · exact absurd ht' (by simp)
        · exact hall t' ht'

/-- A reading at the end. -/
theorem Timed.append_clock {calls : List ReleaseCall} (h : Timed tDeadline calls) (t : Int) :
    Timed tDeadline (calls ++ [.clock t]) := by
  intro before event r after hsplit
  rcases List.eq_nil_or_concat after with rfl | ⟨after, call, rfl⟩
  · have hlast := (List.append_inj' hsplit rfl).2
    simp at hlast
  · rw [List.concat_eq_append, ← List.cons_append, ← List.append_assoc] at hsplit
    exact h before event r after (List.append_inj' hsplit rfl).1

/-- Two readings that are not late move the first late one on by two. -/
theorem exists_lt_add_two {P : Nat → Prop} (h0 : ¬ P 0) (h1 : ¬ P 1) {n : Nat} :
    (∃ k < n + 2, P k) ↔ ∃ k < n, P (k + 2) := by
  constructor
  · rintro ⟨k, hk, h⟩
    match k with
    | 0 => exact absurd h h0
    | 1 => exact absurd h h1
    | k + 2 => exact ⟨k, by omega, h⟩
  · rintro ⟨k, hk, h⟩
    exact ⟨k + 2, by omega, h⟩

/-- What a stretch of the loop from `s` to `s'` asked for, of the releases `events`. -/
structure Released (fns : ReleaseFns) (tDeadline : Int) (events : List ReceivedEvent)
    (s s' : Releasing) (late : Bool) (calls : List ReleaseCall) : Prop where
  trace : s'.trace = s.trace ++ calls
  sent : injected calls <+: numbered s.eventId events
  all : late = false → injected calls = numbered s.eventId events
  timed : Timed tDeadline calls
  late_iff : late = true ↔ Late tDeadline calls
  released : s'.released = s.released + UInt32.ofNat (okCount calls)
  /-- The readings are two for each release, up to the first late one. -/
  readings : late = true ↔
    ∃ k < 2 * events.length, tDeadline ≤ fns.clockFn (s.readings + k)

/-- What the loop does with the releases. -/
theorem released_releaseEach (fns : ReleaseFns) (tDeadline : Int) (events : List ReceivedEvent)
    (s : Releasing) :
    ∃ calls, Released fns tDeadline events s (Releasing.releaseEach fns tDeadline events s).1
      (Releasing.releaseEach fns tDeadline events s).2 calls := by
  induction events generalizing s with
  | nil =>
    refine ⟨[], ?_⟩
    constructor
    case timed => exact timed_nil
    all_goals simp [Releasing.releaseEach, injected, numbered, Late, okCount]
  | cons event events ih =>
    rcases Releasing.releaseOne_cases fns tDeadline s event with
      ⟨hlate, hone⟩ | ⟨sent, r, hbelow, hsent, hr, hone⟩
    · -- The deadline is reached before the release.
      refine ⟨[.clock (fns.clockFn s.readings)], ?_⟩
      rw [Releasing.releaseEach, hone]
      constructor
      case trace => rfl
      case sent => exact List.nil_prefix
      case all => simp
      case timed => exact timed_nil.append_clock _
      case late_iff => simp [Late, hlate]
      case released => simp [okCount]
      case readings => exact iff_of_true rfl ⟨0, by simp, hlate⟩
    · rw [Releasing.releaseEach, hone]
      have hnotLate : ¬ tDeadline ≤ fns.clockFn s.readings := Int.not_le.mpr hbelow
      by_cases hlate : tDeadline ≤ fns.clockFn (s.readings + 1)
      · -- It is reached after the release.
        refine ⟨[.clock (fns.clockFn s.readings), .inject sent r,
          .clock (fns.clockFn (s.readings + 1))], ?_⟩
        simp only [hlate, decide_true, if_true]
        constructor
        case trace => rfl
        case sent => simp [injected, numbered, hsent]
        case all => simp
        case timed => exact (timed_nil.append_clock _).cons_inject hbelow sent r
        case late_iff => simp [Late, hlate]
        case released => cases hok : r.ok <;> simp [okCount, hok]
        case readings => exact iff_of_true rfl ⟨1, by rw [List.length_cons]; omega, hlate⟩
      · -- It is not reached with this event, and the loop goes on.
        obtain ⟨calls, h⟩ := ih {
          eventId := s.eventId + 1
          released := if r.ok then s.released + 1 else s.released
          readings := s.readings + 2
          injections := s.injections + 1
          trace := s.trace ++ [.clock (fns.clockFn s.readings), .inject sent r,
            .clock (fns.clockFn (s.readings + 1))] }
        refine ⟨.clock (fns.clockFn s.readings) :: .inject sent r ::
          .clock (fns.clockFn (s.readings + 1)) :: calls, ?_⟩
        simp only [hlate, decide_false, Bool.false_eq_true, if_false]
        constructor
        case trace => simp [h.trace]
        case sent => simpa [injected, numbered, hsent] using h.sent
        case all => simpa [injected, numbered, hsent] using h.all
        case timed => exact (h.timed.cons_clock (Int.not_le.mp hlate)).cons_inject hbelow sent r
        case late_iff => simpa [Late, hlate, hnotLate] using h.late_iff
        case released =>
          rw [h.released]
          cases hok : r.ok with
          | false => simp [okCount, hok]
          | true => simp [okCount, hok, UInt32.ofNat_add, UInt32.add_assoc, UInt32.add_comm]
        case readings =>
          rw [h.readings, List.length_cons, Nat.mul_succ, exists_lt_add_two hnotLate hlate]
          simp only [Nat.add_assoc, Nat.add_comm 2]

/-! ### A whole call -/

/-- As many releases are due as the bitmaps count. -/
theorem length_dueReleases (snapshot : PressedStateSnapshot) (sourceNodeId : NodeId)
    (nowNs : UInt64) : (dueReleases snapshot sourceNodeId nowNs).length =
      snapshot.pressedMouseButtons.count.toNat + snapshot.pressedKeys.count.toNat := by
  rw [count_buttons, count_keys, dueReleases, List.length_append, List.length_map, List.length_map,
    List.countP_eq_length_filter, List.countP_eq_length_filter]

/-- They have room in 32 bits. -/
theorem length_dueReleases_lt (snapshot : PressedStateSnapshot) (sourceNodeId : NodeId)
    (nowNs : UInt64) : (dueReleases snapshot sourceNodeId nowNs).length < 2 ^ 32 := by
  have hbuttons := snapshot.pressedMouseButtons.count.toNat_lt
  have hkeys := snapshot.pressedKeys.count.toNat_lt
  rw [length_dueReleases]
  omega

/-- The classification by the number of releases that were ok and the number due. -/
theorem classify_eq {snapshot : PressedStateSnapshot} {sourceNodeId : NodeId} {nowNs : UInt64}
    {n due : Nat} (hdue : due = (dueReleases snapshot sourceNodeId nowNs).length) (hn : n ≤ due) :
    classify snapshot (UInt32.ofNat n) =
      if n = due then .Success else if 0 < n then .PartialRelease else .Degraded := by
  have hlt := length_dueReleases_lt snapshot sourceNodeId nowNs
  have htotal : snapshot.pressedMouseButtons.count.toUInt32 +
      snapshot.pressedKeys.count.toUInt32 = UInt32.ofNat due := by
    refine UInt32.toNat_inj.mp ?_
    rw [UInt32.toNat_add, UInt8.toNat_toUInt32, UInt16.toNat_toUInt32, UInt32.toNat_ofNat', hdue,
      length_dueReleases]
  -- At most 264 releases are due, so the counts are compared as they are.
  have heq : UInt32.ofNat n = UInt32.ofNat due ↔ n = due := by
    rw [← UInt32.toNat_inj, UInt32.toNat_ofNat', UInt32.toNat_ofNat',
      Nat.mod_eq_of_lt (by omega), Nat.mod_eq_of_lt (by omega)]
  have hpos : ∀ m ≤ due, UInt32.ofNat m > 0 ↔ 0 < m := by
    intro m hm
    rw [gt_iff_lt, UInt32.lt_iff_toNat_lt, UInt32.toNat_ofNat', Nat.mod_eq_of_lt (by omega)]
    rfl
  have hzero : UInt32.ofNat due = 0 ↔ due = 0 := by
    rw [← UInt32.toNat_inj, UInt32.toNat_ofNat', Nat.mod_eq_of_lt (by omega)]
    rfl
  simp only [classify, htotal, heq, hpos n hn, hpos due (Nat.le_refl due), hzero]
  by_cases hall : n = due
  · by_cases hnone : due = 0
    · simp [hall, hnone]
    · simp [hall, Nat.pos_of_ne_zero hnone]
  · have hdue : due ≠ 0 := by omega
    simp [hall, hdue]

/-- The three results of the classification exclude one another. -/
theorem classified_iff {result : Result} {n due : Nat} (hn : n ≤ due)
    (hresult : result = if n = due then .Success else if 0 < n then .PartialRelease
      else .Degraded) :
    result ≠ .DeadlineReached ∧ (result = .Success ↔ n = due) ∧
      (result = .PartialRelease ↔ 0 < n ∧ n < due) ∧
      (result = .Degraded ↔ n = 0 ∧ 0 < due) := by
  -- All are released, some of them, or none of one or more.
  by_cases hall : n = due
  · rw [if_pos hall] at hresult
    subst hresult
    refine ⟨by simp, iff_of_true rfl hall, iff_of_false (by simp) ?_, iff_of_false (by simp) ?_⟩
    · omega
    · omega
  rw [if_neg hall] at hresult
  by_cases hsome : 0 < n
  · rw [if_pos hsome] at hresult
    subst hresult
    refine ⟨by simp, iff_of_false (by simp) hall, iff_of_true rfl ?_, iff_of_false (by simp) ?_⟩
    · omega
    · omega
  · rw [if_neg hsome] at hresult
    subst hresult
    refine ⟨by simp, iff_of_false (by simp) hall, iff_of_false (by simp) ?_, iff_of_true rfl ?_⟩
    · omega
    · omega

/-- The deadline of a call. -/
def deadline (fns : ReleaseFns) : Int := fns.clockFn 0 + kTotalDeadline

/-- The releases that are due in a call, each with its id. -/
def due (eventId : UInt64) (snapshot : PressedStateSnapshot) (fns : ReleaseFns)
    (sourceNodeId : NodeId) : List ReceivedEvent :=
  numbered eventId (dueReleases snapshot sourceNodeId (UInt64.ofInt (fns.clockFn 0)))

/-- The loops between the first reading of the clock and the last one. -/
theorem execute_cases (e : ReleaseAllPressedExecutor) (eventId : UInt64)
    (snapshot : PressedStateSnapshot) (fns : ReleaseFns) (sourceNodeId : NodeId) :
    ∃ s s' late calls tEnd, s.eventId = eventId ∧ s.released = 0 ∧ s.readings = 1 ∧
      Released fns (deadline fns)
        (dueReleases snapshot sourceNodeId (UInt64.ofInt (fns.clockFn 0))) s s' late calls ∧
      (e.execute eventId snapshot fns sourceNodeId).trace =
        .clock (fns.clockFn 0) :: calls ++ [.clock tEnd] ∧
      (e.execute eventId snapshot fns sourceNodeId).executor.releasedCount =
        UInt32.ofNat (okCount calls) ∧
      (e.execute eventId snapshot fns sourceNodeId).executor.lastResult =
        (e.execute eventId snapshot fns sourceNodeId).result ∧
      (e.execute eventId snapshot fns sourceNodeId).result =
        if late ∨ e.lastResult = .DeadlineReached then .DeadlineReached
        else classify snapshot (UInt32.ofNat (okCount calls)) := by
  obtain ⟨calls, h⟩ := released_releaseEach fns (deadline fns)
    (dueReleases snapshot sourceNodeId (UInt64.ofInt (fns.clockFn 0)))
    { eventId, released := 0, readings := 1, injections := 0, trace := [.clock (fns.clockFn 0)] }
  simp only [execute, releaseLoops_eq, Releasing.readClock, List.nil_append, Nat.zero_add]
  rw [← deadline]
  generalize Releasing.releaseEach fns (deadline fns) _ _ = last at h
  obtain ⟨s', late⟩ := last
  refine ⟨_, s', late, calls, fns.clockFn s'.readings, rfl, rfl, rfl, h, ?_, ?_, trivial, ?_⟩
  · rw [h.trace]
    rfl
  · rw [h.released, UInt32.zero_add]
  · -- The count decides only if the deadline was not reached, now or in an earlier call.
    rw [h.released, UInt32.zero_add]
    cases late with
    | true => simp
    | false => by_cases hlast : e.lastResult = .DeadlineReached <;> simp [hlast]

/-- What a call asks for up to its deadline, and what it says of it. -/
structure ReleasesInTime (due : List ReceivedEvent) (tDeadline : Int) (done : Executed) :
    Prop where
  /-- The releases of the first ones that are due, in their order. -/
  sent : injected done.trace <+: due
  timed : Timed tDeadline done.trace
  counted : done.executor.releasedCount.toNat = okCount done.trace
  /-- The last reading is the one after the loops. -/
  deadline : done.result = .DeadlineReached ↔ Late tDeadline done.trace.dropLast
  all : ¬ Late tDeadline done.trace.dropLast → injected done.trace = due
  success : ¬ Late tDeadline done.trace.dropLast →
    (done.result = .Success ↔ okCount done.trace = due.length)
  partialRelease : ¬ Late tDeadline done.trace.dropLast →
    (done.result = .PartialRelease ↔ 0 < okCount done.trace ∧ okCount done.trace < due.length)
  degraded : ¬ Late tDeadline done.trace.dropLast →
    (done.result = .Degraded ↔ okCount done.trace = 0 ∧ due ≠ [])

/-- Numbering leaves out no event. -/
theorem length_numbered (eventId : UInt64) (events : List ReceivedEvent) :
    (numbered eventId events).length = events.length := by
  induction events generalizing eventId with
  | nil => rfl
  | cons event events ih => simp [numbered, ih]

/-- No more calls succeed than are made. -/
theorem okCount_le (calls : List ReleaseCall) : okCount calls ≤ (injected calls).length := by
  induction calls with
  | nil => rfl
  | cons call calls ih =>
    cases call with
    | clock reading => simpa [okCount, injected] using ih
    | inject event r =>
      simp only [okCount, injected, List.countP_cons, List.filterMap_cons, List.length_cons] at ih ⊢
      split <;> omega

/-- A call on a fresh executor releases what is due until the deadline, and says what came of it. -/
theorem release_until_deadline (eventId : UInt64) (snapshot : PressedStateSnapshot)
    (fns : ReleaseFns) (sourceNodeId : NodeId) :
    ReleasesInTime (due eventId snapshot fns sourceNodeId) (deadline fns)
      (ReleaseAllPressedExecutor.init.execute eventId snapshot fns sourceNodeId) := by
  obtain ⟨s, s', late, calls, tEnd, hid, -, -, h, htrace, hcount, -, hresult⟩ :=
    init.execute_cases eventId snapshot fns sourceNodeId
  generalize init.execute eventId snapshot fns sourceNodeId = done at htrace hcount hresult
  -- The readings before and after the loops change nothing but the trace.
  have hstart : fns.clockFn 0 < deadline fns := by
    rw [deadline, kTotalDeadline]
    omega
  have hinjected : injected done.trace = injected calls := by simp [htrace, injected]
  have hok : okCount done.trace = okCount calls := by simp [htrace, okCount]
  have hlate : Late (deadline fns) done.trace.dropLast ↔ late = true := by
    rw [htrace, List.dropLast_concat, h.late_iff]
    simp [Late, Int.not_le.mpr hstart]
  have hlength : (due eventId snapshot fns sourceNodeId).length =
      (dueReleases snapshot sourceNodeId (UInt64.ofInt (fns.clockFn 0))).length :=
    length_numbered _ _
  have hsent : injected calls <+: due eventId snapshot fns sourceNodeId := hid ▸ h.sent
  have hle : okCount calls ≤ (due eventId snapshot fns sourceNodeId).length :=
    (okCount_le calls).trans hsent.length_le
  have hlt := length_dueReleases_lt snapshot sourceNodeId (UInt64.ofInt (fns.clockFn 0))
  obtain ⟨hinTime, hsuccess, hpartial, hdegraded⟩ :=
    classified_iff hle (classify_eq hlength hle)
  constructor
  case sent => rwa [hinjected]
  case timed =>
    rw [htrace]
    exact (h.timed.cons_clock hstart).append_clock tEnd
  case counted =>
    rw [hcount, hok, UInt32.toNat_ofNat', Nat.mod_eq_of_lt (by omega)]
  case deadline =>
    rw [hlate, hresult]
    cases late with
    | true => simp
    | false => simpa [init] using hinTime
  all_goals
    rw [hlate, Bool.not_eq_true]
    rintro rfl
  case all =>
    rw [hinjected, h.all rfl, hid]
    rfl
  -- The rest is the classification.
  all_goals
    simp only [init, Bool.false_eq_true, reduceCtorEq, or_self, if_false] at hresult
    rw [hresult, hok]
  case success => exact hsuccess
  case partialRelease => exact hpartial
  case degraded => rwa [← List.length_pos_iff]

end ReleaseAllPressedExecutor

end CrossFlow
