import CrossFlow.Proofs.Injection.Inject
import CrossFlow.Proofs.Injection.Release
import CrossFlow.Proofs.Injection.ReleaseDeadline

/-!
# `CrossFlow.Proofs.Injection.ExecutedRelease`: the executor over an injector

`execute` is given the `inject` of an injector, which changes from call to call. `AnsweredBy` is for
the calls of a trace answered by an injector, one after the other, each by the injector that the
calls before it left. What an injector does with a release is one lemma for each of the two
(`lawful_win`, `lawful_mac`): a release of the control if the result is ok, and nothing if not. The
rest is about every injector of which this holds.

* `success_iff_released`: `Success` says that everything pressed was released, once each.
* `executed_as_released`: through the Windows injector the executor posts what `releaseAllPressed`
  posts, as far as its deadline lets it.
-/

set_option autoImplicit false

namespace CrossFlow

open ReleaseAllPressedExecutor (dueReleases numbered injected okCount Late Released deadline
  execute_cases)

/-! ### Releases -/

/-- The control that a release event is for, by its payload. -/
def ReceivedEvent.lifts (event : ReceivedEvent) : Option Held :=
  match EventType.ofByte event.eventType with
  | some .MouseButtonRelease => event.payload.getMouseButton.map .button
  | some .KeyRelease => event.payload.getKey.map fun payload => .key payload.keyCode
  | _ => none

/-- A release event is one of a button, or one of a key. -/
theorem ReceivedEvent.lifts_cases {event : ReceivedEvent} {k : Held} (h : event.lifts = some k) :
    (EventType.ofByte event.eventType = some .MouseButtonRelease ∧
      ∃ btn, event.payload.getMouseButton = some btn ∧ k = .button btn) ∨
    (EventType.ofByte event.eventType = some .KeyRelease ∧
      ∃ payload, event.payload.getKey = some payload ∧ k = .key payload.keyCode) := by
  unfold ReceivedEvent.lifts at h
  split at h
  · next htype =>
    obtain ⟨btn, hbtn, rfl⟩ := Option.map_eq_some_iff.mp h
    exact .inl ⟨htype, btn, hbtn, rfl⟩
  · next htype =>
    obtain ⟨payload, hpayload, rfl⟩ := Option.map_eq_some_iff.mp h
    exact .inr ⟨htype, payload, hpayload, rfl⟩
  · exact absurd h (by simp)

/-- What is pressed, in the order of the executor. -/
def PressedStateSnapshot.controls (pressed : PressedStateSnapshot) : List Held :=
  ((List.range 8).filter fun btn =>
      pressed.pressedMouseButtons.isPressed (UInt8.ofNat btn)).map
    (fun btn => .button (UInt8.ofNat btn)) ++
  ((List.range 256).filter fun code => pressed.pressedKeys.isPressed (UInt16.ofNat code)).map
    fun code => .key (UInt16.ofNat code)

/-- The releases lift what the snapshot holds, in order. -/
theorem lifts_dueReleases (pressed : PressedStateSnapshot) (sourceNodeId : NodeId)
    (nowNs : UInt64) :
    (dueReleases pressed sourceNodeId nowNs).map ReceivedEvent.lifts =
      pressed.controls.map some := by
  rw [dueReleases, PressedStateSnapshot.controls, List.map_append, List.map_append, List.map_map,
    List.map_map, List.map_map, List.map_map]
  rfl

/-- The number of an event does not matter. -/
theorem lifts_numbered (eventId : UInt64) (events : List ReceivedEvent) :
    (numbered eventId events).map ReceivedEvent.lifts = events.map ReceivedEvent.lifts := by
  induction events generalizing eventId with
  | nil => rfl
  | cons event events ih =>
    rw [numbered, List.map_cons, List.map_cons, ih]
    rfl

/-- The controls of a snapshot are those it holds. -/
theorem mem_controls (pressed : PressedStateSnapshot) (k : Held) :
    k ∈ pressed.controls ↔ pressed.holds k = true := by
  unfold PressedStateSnapshot.controls
  rw [List.mem_append, List.mem_map, List.mem_map]
  cases k with
  | button btn =>
    constructor
    · rintro (⟨n, hn, h⟩ | ⟨n, -, h⟩)
      · rw [← Held.button.inj h]
        exact (List.mem_filter.mp hn).2
      · exact absurd h (by simp)
    · intro h
      -- The bitmap is a byte, so a button that it holds is one of the first eight.
      have hlt : btn.toNat < 8 := by
        have hbits := pressed.pressedMouseButtons.bits.toNat_lt
        by_contra hlarge
        have hzero := Nat.testBit_lt_two_pow
          (hbits.trans_le (Nat.pow_le_pow_right (by decide) (Nat.not_lt.mp hlarge)))
        exact absurd (hzero.symm.trans h) (by decide)
      refine .inl ⟨btn.toNat, List.mem_filter.mpr ⟨List.mem_range.mpr hlt, ?_⟩, ?_⟩
      · rw [UInt8.ofNat_toNat]
        exact h
      · rw [UInt8.ofNat_toNat]
  | key code =>
    rw [show pressed.holds (.key code) = pressed.pressedKeys.isPressed code from rfl,
      ← WinEventInjector.key_mem_releasedBy, WinEventInjector.releasedBy, List.mem_append,
      List.mem_map, List.mem_map]
    simp

/-- No control is there twice. -/
theorem nodup_controls (pressed : PressedStateSnapshot) : pressed.controls.Nodup := by
  refine List.nodup_append'.mpr ⟨?_, ?_, ?_⟩
  · refine (List.nodup_range.filter _).map_on fun a ha b hb h => ?_
    have hbtn := congrArg UInt8.toNat (Held.button.inj h)
    have ha := List.mem_range.mp (List.mem_of_mem_filter ha)
    have hb := List.mem_range.mp (List.mem_of_mem_filter hb)
    rw [UInt8.toNat_ofNat', UInt8.toNat_ofNat'] at hbtn
    omega
  · have hkeys := WinEventInjector.nodup_releasedBy pressed
    exact (List.nodup_append'.mp hkeys).2.1
  · intro k hbutton hkey
    obtain ⟨_, _, rfl⟩ := List.mem_map.mp hbutton
    obtain ⟨_, _, h⟩ := List.mem_map.mp hkey
    exact absurd h (by simp)

/-! ### Calls that an injector answers -/

section AnsweredBy

variable {σ ε : Type}

/-- The calls of a trace, answered by an injector. `inject s event s' r out` is for a call of its
`inject` that leaves it as `s'`, returns `r` and gives `out` to the system. -/
inductive AnsweredBy (inject : σ → ReceivedEvent → σ → InjectResult → List ε → Prop) :
    σ → List ReleaseCall → σ → List ε → Prop where
  | nil (s : σ) : AnsweredBy inject s [] s []
  | clock {s s' : σ} {reading : Int} {calls : List ReleaseCall} {outs : List ε}
      (later : AnsweredBy inject s calls s' outs) :
      AnsweredBy inject s (.clock reading :: calls) s' outs
  | inject {s s₁ s' : σ} {event : ReceivedEvent} {r : InjectResult} {calls : List ReleaseCall}
      {out outs : List ε} (first : inject s event s₁ r out)
      (later : AnsweredBy inject s₁ calls s' outs) :
      AnsweredBy inject s (.inject event r :: calls) s' (out ++ outs)

/-- A release event releases its control if the result is ok, and does nothing if not. -/
def LawfulRelease (inject : σ → ReceivedEvent → σ → InjectResult → List ε → Prop)
    (released : ε → Option Held) : Prop :=
  ∀ s event s' r out k, inject s event s' r out → event.lifts = some k →
    out.map released = if r.ok then [some k] else []

/-- The controls of the releases that were ok. -/
def okReleases (calls : List ReleaseCall) : List Held :=
  calls.filterMap fun
    | .clock _ => none
    | .inject event r => if r.ok then event.lifts else none

variable {inject : σ → ReceivedEvent → σ → InjectResult → List ε → Prop}
  {released : ε → Option Held}

/-- What was posted lifts what was released. -/
theorem AnsweredBy.map_released (hlaw : LawfulRelease inject released) {s s' : σ}
    {calls : List ReleaseCall} {outs : List ε} (h : AnsweredBy inject s calls s' outs)
    (hlifts : ∀ event ∈ injected calls, event.lifts.isSome) :
    outs.map released = (okReleases calls).map some := by
  induction h with
  | nil s => rfl
  | clock later ih => exact ih hlifts
  | @inject s s₁ s' event r calls out outs first later ih =>
    have hevent : event.lifts.isSome := hlifts event (by simp [injected])
    obtain ⟨k, hk⟩ := Option.isSome_iff_exists.mp hevent
    have hrest := ih fun event' hmem => hlifts event' (List.mem_cons_of_mem event hmem)
    rw [List.map_append, hlaw _ _ _ _ _ _ first hk, hrest]
    cases hok : r.ok with
    | true => simp [okReleases, hok, hk]
    | false => simp [okReleases, hok]

/-- As many controls were released as calls have succeeded. -/
theorem length_okReleases {calls : List ReleaseCall}
    (hlifts : ∀ event ∈ injected calls, event.lifts.isSome) :
    (okReleases calls).length = okCount calls := by
  induction calls with
  | nil => rfl
  | cons call calls ih =>
    cases call with
    | clock reading => exact ih hlifts
    | inject event r =>
      obtain ⟨k, hk⟩ := Option.isSome_iff_exists.mp (hlifts event (by simp [injected]))
      have hrest := ih fun event' hmem => hlifts event' (List.mem_cons_of_mem event hmem)
      cases hok : r.ok with
      | true => simpa [okReleases, okCount, hok, hk] using hrest
      | false => simpa [okReleases, okCount, hok] using hrest

/-- What was released was asked for. -/
theorem okReleases_sublist (calls : List ReleaseCall) :
    (okReleases calls).Sublist ((injected calls).filterMap ReceivedEvent.lifts) := by
  induction calls with
  | nil => exact List.Sublist.refl _
  | cons call calls ih =>
    cases call with
    -- A reading of the clock injects nothing.
    | clock reading => exact ih
    | inject event r =>
      have hinjected : injected (.inject event r :: calls) = event :: injected calls := rfl
      rw [hinjected, List.filterMap_cons]
      cases hok : r.ok with
      | true =>
        cases hk : event.lifts with
        | none => simpa [okReleases, hok, hk] using ih
        | some k => simpa [okReleases, hok, hk] using ih
      -- A release that failed is injected all the same, and is left out.
      | false =>
        have hskip : okReleases (.inject event r :: calls) = okReleases calls := by
          simp [okReleases, hok]
        rw [hskip]
        cases hk : event.lifts with
        | none => exact ih
        | some k => exact ih.cons k

/-- One release for everything that is pressed, and nothing else. -/
structure ReleasedEach (released : ε → Option Held) (pressed : PressedStateSnapshot)
    (outs : List ε) : Prop where
  once : ∀ k, (outs.map released).count (some k) = if pressed.holds k then 1 else 0
  only : none ∉ outs.map released

/-- Releases of what is pressed, as far as they go, are one for each when they are as many. -/
theorem releasedEach_iff {pressed : PressedStateSnapshot} {outs : List ε} {ks : List Held}
    (houts : outs.map released = ks.map some) (hks : ks.Sublist pressed.controls) :
    ReleasedEach released pressed outs ↔ ks.length = pressed.controls.length := by
  have hcount (k : Held) : (outs.map released).count (some k) = ks.count k := by
    rw [houts, List.count_map_of_injective _ _ (Option.some_injective Held)]
  constructor
  · intro h
    -- Nothing is pressed twice, so one release for each is at least as many.
    refine Nat.le_antisymm hks.length_le ?_
    refine ((nodup_controls pressed).subperm fun k hk => ?_).length_le
    rw [← List.count_pos_iff, ← hcount, h.once, if_pos ((mem_controls pressed k).mp hk)]
    exact Nat.one_pos
  · intro hlength
    have hall : ks = pressed.controls := hks.eq_of_length hlength
    constructor
    · intro k
      rw [hcount, hall, (nodup_controls pressed).count]
      exact if_congr (mem_controls pressed k) rfl rfl
    · rw [houts]
      simp

end AnsweredBy

/-! ### A whole call -/

/-- Numbered events are of the source they were of. -/
theorem source_of_numbered {eventId : UInt64} {events : List ReceivedEvent} {source : NodeId}
    (h : ∀ event ∈ events, event.sourceNodeId = source) :
    ∀ event ∈ numbered eventId events, event.sourceNodeId = source := by
  induction events generalizing eventId with
  | nil => exact h
  | cons event events ih =>
    intro event' hmem
    rcases List.mem_cons.mp hmem with rfl | hmem
    · exact h event List.mem_cons_self
    · exact ih (fun event hevent => h event (List.mem_cons_of_mem _ hevent)) event' hmem

/-- The releases are of the source that is given. -/
theorem source_of_dueReleases (pressed : PressedStateSnapshot) (source : NodeId)
    (nowNs : UInt64) :
    ∀ event ∈ dueReleases pressed source nowNs, event.sourceNodeId = source := by
  intro event hmem
  rcases List.mem_append.mp hmem with hmem | hmem
  · obtain ⟨btn, -, rfl⟩ := List.mem_map.mp hmem
    rfl
  · obtain ⟨code, -, rfl⟩ := List.mem_map.mp hmem
    rfl

/-- What a call asks of `injectFn`, as releases of controls, and when it says `Success`. -/
structure ExecutedReleases (e : ReleaseAllPressedExecutor) (pressed : PressedStateSnapshot)
    (source : NodeId) (tDeadline : Int) (done : ReleaseAllPressedExecutor.Executed) : Prop where
  source : ∀ event ∈ injected done.trace, event.sourceNodeId = source
  sent : (injected done.trace).map ReceivedEvent.lifts <+: pressed.controls.map some
  all : ¬ Late tDeadline done.trace.dropLast →
    (injected done.trace).map ReceivedEvent.lifts = pressed.controls.map some
  success : done.result = .Success ↔ e.lastResult ≠ .DeadlineReached ∧
    ¬ Late tDeadline done.trace.dropLast ∧ okCount done.trace = pressed.controls.length

/-- What `execute` does, in terms of what it releases. -/
theorem execute_releases (e : ReleaseAllPressedExecutor) (eventId : UInt64)
    (pressed : PressedStateSnapshot) (fns : ReleaseFns) (sourceNodeId : NodeId) :
    ExecutedReleases e pressed sourceNodeId (deadline fns)
      (e.execute eventId pressed fns sourceNodeId) := by
  obtain ⟨s, s', late, calls, tEnd, -, -, -, hcalls, htrace, -, -, hresult⟩ :=
    e.execute_cases eventId pressed fns sourceNodeId
  generalize e.execute eventId pressed fns sourceNodeId = done at htrace hresult
  have hlifted := lifts_dueReleases pressed sourceNodeId (UInt64.ofInt (fns.clockFn 0))
  have hsource := source_of_dueReleases pressed sourceNodeId (UInt64.ofInt (fns.clockFn 0))
  have hlength := congrArg List.length hlifted
  rw [List.length_map, List.length_map] at hlength
  generalize hdue : dueReleases pressed sourceNodeId (UInt64.ofInt (fns.clockFn 0)) = due at *
  -- The readings around the loops change neither what is injected nor whether one was late.
  have hinjected : injected done.trace = injected calls := by simp [htrace, injected]
  have hok : okCount done.trace = okCount calls := by simp [htrace, okCount]
  have hlate : Late (deadline fns) done.trace.dropLast ↔ late = true := by
    have hstart : fns.clockFn 0 < deadline fns := by
      rw [deadline, ReleaseAllPressedExecutor.kTotalDeadline]
      omega
    rw [htrace, List.dropLast_concat, hcalls.late_iff]
    simp [Late, Int.not_le.mpr hstart]
  constructor
  case source =>
    intro event hmem
    exact source_of_numbered hsource event (hcalls.sent.subset (hinjected ▸ hmem))
  case sent =>
    have := hcalls.sent.map ReceivedEvent.lifts
    rwa [lifts_numbered, hlifted, ← hinjected] at this
  case all =>
    rw [hlate, Bool.not_eq_true, hinjected]
    intro hintime
    rw [hcalls.all hintime, lifts_numbered, hlifted]
  case success =>
    have hle : okCount calls ≤ due.length := by
      refine (ReleaseAllPressedExecutor.okCount_le calls).trans ?_
      rw [← ReleaseAllPressedExecutor.length_numbered s.eventId due]
      exact hcalls.sent.length_le
    rw [hlate, hok, hresult, ← hlength]
    -- Past the deadline, now or in an earlier call, the releases are not even counted.
    by_cases hstop : late = true ∨ e.lastResult = .DeadlineReached
    · rw [if_pos hstop]
      refine iff_of_false (by simp) ?_
      rintro ⟨hlast, hintime, -⟩
      exact hstop.elim hintime hlast
    · obtain ⟨hintime, hlast⟩ := not_or.mp hstop
      have hclass := ReleaseAllPressedExecutor.classify_eq (congrArg List.length hdue.symm) hle
      obtain ⟨-, hsuccess, -⟩ := ReleaseAllPressedExecutor.classified_iff hle hclass
      rw [if_neg hstop, hsuccess, and_iff_right hlast, and_iff_right hintime]

/-- All of them are releases of something that is pressed. -/
theorem ExecutedReleases.lifts {e : ReleaseAllPressedExecutor} {pressed : PressedStateSnapshot}
    {source : NodeId} {tDeadline : Int} {done : ReleaseAllPressedExecutor.Executed}
    (h : ExecutedReleases e pressed source tDeadline done) :
    ∀ event ∈ injected done.trace, event.lifts.isSome := by
  intro event hmem
  obtain ⟨k, -, hk⟩ := List.mem_map.mp (h.sent.subset (List.mem_map_of_mem hmem))
  rw [← hk]
  rfl

/-- Events that all lift something lift it in order. -/
theorem filterMap_lifts {events : List ReceivedEvent} {ks : List Held}
    (h : events.map ReceivedEvent.lifts = ks.map some) :
    events.filterMap ReceivedEvent.lifts = ks := by
  have := congrArg (List.filterMap id) h
  rwa [List.filterMap_map, List.filterMap_map, Function.id_comp, Function.id_comp,
    List.filterMap_some] at this

/-- The first of them lift the first of it. -/
theorem filterMap_lifts_of_sent {events : List ReceivedEvent} {ks : List Held}
    (h : events.map ReceivedEvent.lifts <+: ks.map some) :
    events.filterMap ReceivedEvent.lifts <+: ks := by
  have := h.filterMap id
  rwa [List.filterMap_map, List.filterMap_map, Function.id_comp, Function.id_comp,
    List.filterMap_some] at this

/-- `Success`, over every injector that releases what it says it does. -/
theorem success_iff {σ ε : Type}
    {inject : σ → ReceivedEvent → σ → InjectResult → List ε → Prop}
    {released : ε → Option Held} (hlaw : LawfulRelease inject released)
    (e : ReleaseAllPressedExecutor) (eventId : UInt64) (pressed : PressedStateSnapshot)
    (fns : ReleaseFns) (sourceNodeId : NodeId) {s s' : σ} {outs : List ε}
    (h : AnsweredBy inject s (e.execute eventId pressed fns sourceNodeId).trace s' outs) :
    (e.execute eventId pressed fns sourceNodeId).result = .Success ↔
      e.lastResult ≠ .DeadlineReached ∧
        ¬ Late (deadline fns) (e.execute eventId pressed fns sourceNodeId).trace.dropLast ∧
        ReleasedEach released pressed outs := by
  have hcall := execute_releases e eventId pressed fns sourceNodeId
  have hlifts := hcall.lifts
  have hcontrols := (okReleases_sublist _).trans (filterMap_lifts_of_sent hcall.sent).sublist
  rw [hcall.success, releasedEach_iff (h.map_released hlaw hlifts) hcontrols,
    length_okReleases hlifts]

/-! ### The Windows injector -/

/-- The input that releases a control. There is none for a button after the third. -/
def WinInput.up : Held → Option WinInput
  | .button btn =>
    if btn = 0 then some (.mouse 0 0 0 .LEFTUP)
    else if btn = 1 then some (.mouse 0 0 0 .RIGHTUP)
    else if btn = 2 then some (.mouse 0 0 0 .MIDDLEUP)
    else none
  | .key code => some (.keyboard code true)

/-- The input for a control releases it. -/
theorem WinInput.released_up {k : Held} {input : WinInput} (h : WinInput.up k = some input) :
    input.released = some k := by
  cases k with
  | button btn =>
    unfold WinInput.up at h
    dsimp only at h
    split at h
    · next h0 => rw [← Option.some.inj h, h0]; rfl
    split at h
    · next h1 => rw [← Option.some.inj h, h1]; rfl
    split at h
    · next h2 => rw [← Option.some.inj h, h2]; rfl
    · exact absurd h (by simp)
  | key code => rw [← Option.some.inj h]; rfl

namespace WinEventInjector

/-- An event that lifts a control posts the input for it, if there is one. -/
theorem dispatch_of_lifts {event : ReceivedEvent} {k : Held} (h : event.lifts = some k)
    (sent : UInt32) :
    dispatch event sent = some ((WinInput.up k).elim (failed, []) (sendInput sent)) := by
  unfold dispatch
  rcases event.lifts_cases h with ⟨htype, btn, hbtn, rfl⟩ | ⟨htype, payload, hpayload, rfl⟩
  · simp only [htype, injectMouseButtonEvent, hbtn, WinInput.up, Option.bind_eq_bind,
      Option.bind_some]
    split
    · rfl
    split
    · rfl
    split
    · rfl
    · rfl
  · simp only [htype, injectKeyEvent, hpayload, WinInput.up, Option.bind_eq_bind,
      Option.bind_some]
    rfl

/-- A call of `inject` with a release: a rejection, or what releases the control. -/
theorem inject_of_lifts {s s' : WinEventInjector} {event : ReceivedEvent} {sent : UInt32}
    {latencyUs : UInt64} {r : InjectResult} {posted : List WinInput} {k : Held}
    (hk : event.lifts = some k)
    (h : s.inject event sent latencyUs = some (s', r, posted)) :
    s'.sourceNodeId = s.sourceNodeId ∧
      (event.sourceNodeId ≠ s.sourceNodeId ∧ r.ok = false ∧ posted = [] ∨
        event.sourceNodeId = s.sourceNodeId ∧
          r.ok = ((WinInput.up k).isSome && decide (sent = 1)) ∧
          posted = (WinInput.up k).toList) := by
  unfold inject at h
  by_cases hsource : event.sourceNodeId = s.sourceNodeId
  · rw [if_neg (by simp [(s.validateSource_iff event).mpr hsource]), dispatch_of_lifts hk] at h
    -- A button without a name fails, and nothing is posted for it.
    cases hup : WinInput.up k with
    | none =>
      rw [hup] at h
      obtain ⟨rfl, hpair⟩ := Prod.mk.inj (Option.some.inj h)
      obtain ⟨rfl, rfl⟩ := Prod.mk.inj hpair
      exact ⟨rfl, .inr ⟨hsource, rfl, rfl⟩⟩
    | some input =>
      rw [hup] at h
      obtain ⟨rfl, hpair⟩ | ⟨rfl, hpair⟩ :
          s' = { s with totalInjected := s.totalInjected + 1 } ∧ (_, _) = (r, posted) ∨
            s' = { s with totalRejected := s.totalRejected + 1 } ∧ (_, _) = (r, posted) := by
        dsimp only [Option.elim, sendInput, Option.bind_eq_bind, Option.bind_some] at h
        split at h
        · exact .inl ⟨(Prod.mk.inj (Option.some.inj h)).1.symm, (Prod.mk.inj (Option.some.inj h)).2⟩
        · exact .inr ⟨(Prod.mk.inj (Option.some.inj h)).1.symm, (Prod.mk.inj (Option.some.inj h)).2⟩
      all_goals
        obtain ⟨rfl, rfl⟩ := Prod.mk.inj hpair
        exact ⟨rfl, .inr ⟨hsource, rfl, rfl⟩⟩
  · have hinvalid : s.validateSource event = false :=
      Bool.eq_false_iff.mpr fun h => hsource ((s.validateSource_iff event).mp h)
    rw [hinvalid] at h
    obtain ⟨rfl, hpair⟩ := Prod.mk.inj (Option.some.inj h)
    obtain ⟨rfl, rfl⟩ := Prod.mk.inj hpair
    exact ⟨rfl, .inl ⟨hsource, rfl, rfl⟩⟩

/-- A call of `inject`, with the inputs it posts. -/
def Posts (s : WinEventInjector) (event : ReceivedEvent) (s' : WinEventInjector)
    (r : InjectResult) (posted : List WinInput) : Prop :=
  ∃ sent latencyUs, s.inject event sent latencyUs = some (s', r, posted)

/-- A call of `inject`, with the inputs that the system accepts. -/
def Injects (s : WinEventInjector) (event : ReceivedEvent) (s' : WinEventInjector)
    (r : InjectResult) (accepted : List WinInput) : Prop :=
  ∃ sent latencyUs posted, s.inject event sent latencyUs = some (s', r, posted) ∧
    accepted = if sent = 1 then posted else []

/-- The Windows injector releases what it is asked to, or fails. -/
theorem lawful_win : LawfulRelease Injects WinInput.released := by
  rintro s event s' r out k ⟨sent, latencyUs, posted, hinject, rfl⟩ hk
  obtain ⟨-, ⟨-, hok, rfl⟩ | ⟨-, hok, rfl⟩⟩ := inject_of_lifts hk hinject
  · simp [hok]
  · cases hup : WinInput.up k with
    | none => simp [hok, hup]
    | some input =>
      by_cases hsent : sent = 1
      · simp [hok, hup, hsent, WinInput.released_up hup]
      · simp [hok, hup, hsent]

/-- What is posted for the calls of a trace. -/
theorem posted_of_answered {s s' : WinEventInjector} {calls : List ReleaseCall}
    {posted : List WinInput} (h : AnsweredBy Posts s calls s' posted) {source : NodeId}
    (hsource : ∀ event ∈ injected calls, event.sourceNodeId = source)
    (hlifts : ∀ event ∈ injected calls, event.lifts.isSome) :
    posted = if source = s.sourceNodeId then
        ((injected calls).filterMap ReceivedEvent.lifts).filterMap WinInput.up
      else [] := by
  induction h with
  | nil s => simp [injected]
  | clock later ih => exact ih hsource hlifts
  | @inject s s₁ s' event r calls out outs first later ih =>
    obtain ⟨sent, latencyUs, hinject⟩ := first
    have hevent := hsource event (by simp [injected])
    obtain ⟨k, hk⟩ := Option.isSome_iff_exists.mp (hlifts event (by simp [injected]))
    have hrest := ih (fun event' hmem => hsource event' (List.mem_cons_of_mem event hmem))
      fun event' hmem => hlifts event' (List.mem_cons_of_mem event hmem)
    obtain ⟨hsame, hcase⟩ := inject_of_lifts hk hinject
    have hinjected : injected (.inject event r :: calls) = event :: injected calls := rfl
    rw [hsame] at hrest
    rw [hinjected, List.filterMap_cons_some hk, hrest]
    rcases hcase with ⟨hne, -, rfl⟩ | ⟨heq, -, rfl⟩
    · rw [← hevent, if_neg hne, if_neg hne, List.append_nil]
    · rw [← hevent, if_pos heq, if_pos heq, List.filterMap_cons]
      -- What is posted for the first call, and then for the others.
      cases WinInput.up k with
      | none => rfl
      | some input => rfl

/-- The three blocks for the buttons post what releases the buttons that have a name. -/
theorem release_buttons_eq (isPressed : UInt8 → Bool) :
    (release (isPressed 2) (.mouse 0 0 0 .MIDDLEUP)
      (release (isPressed 1) (.mouse 0 0 0 .RIGHTUP)
        (release (isPressed 0) (.mouse 0 0 0 .LEFTUP) (0, [])))).2 =
      ((List.range 8).filter fun btn => isPressed (UInt8.ofNat btn)).filterMap
        (WinInput.up ∘ fun btn => .button (UInt8.ofNat btn)) := by
  have hrange : List.range 8 = [0, 1, 2] ++ [3, 4, 5, 6, 7] := rfl
  have hunnamed : ∀ btn ∈ [3, 4, 5, 6, 7], WinInput.up (.button (UInt8.ofNat btn)) = none := by
    decide
  -- The numbers from 3 on are of no button that can be released.
  have hrest : (([3, 4, 5, 6, 7] : List Nat).filter fun btn =>
      isPressed (UInt8.ofNat btn)).filterMap
        (WinInput.up ∘ fun btn => .button (UInt8.ofNat btn)) = [] :=
    List.filterMap_eq_nil_iff.mpr fun btn hbtn => hunnamed btn (List.mem_of_mem_filter hbtn)
  rw [hrange, List.filter_append, List.filterMap_append, hrest, List.append_nil]
  have h0 : WinInput.up (.button 0) = some (.mouse 0 0 0 .LEFTUP) := rfl
  have h1 : WinInput.up (.button 1) = some (.mouse 0 0 0 .RIGHTUP) := rfl
  have h2 : WinInput.up (.button 2) = some (.mouse 0 0 0 .MIDDLEUP) := rfl
  cases hp0 : isPressed 0 <;> cases hp1 : isPressed 1 <;> cases hp2 : isPressed 2 <;>
    simp [release, hp0, hp1, hp2, h0, h1, h2]

/-- `releaseAllPressed` posts what releases the controls, in the order of the executor. -/
theorem releaseAllPressed_eq (injector : WinEventInjector) (pressed : PressedStateSnapshot)
    (latencyMs : UInt32) :
    (injector.releaseAllPressed pressed latencyMs).2.2 =
      pressed.controls.filterMap WinInput.up := by
  have hkeys : (WinInput.up ∘ fun code : Nat => Held.key (UInt16.ofNat code)) =
      some ∘ fun code => .keyboard (UInt16.ofNat code) true := rfl
  rw [releaseAllPressed, PressedStateSnapshot.controls, List.filterMap_append, List.filterMap_map,
    List.filterMap_map, hkeys, List.filterMap_eq_map, ← release_buttons_eq]
  dsimp only
  rw [foldl_release]

end WinEventInjector

/-! ### The macOS injector -/

/-- The event that releases a control. There is none for a button after the third. -/
def CGEvent.up : Held → Option CGEvent
  | .button btn =>
    if btn = 0 then some (.mouse .leftMouseUp (.point 0 0) .left none)
    else if btn = 1 then some (.mouse .rightMouseUp (.point 0 0) .right none)
    else if btn = 2 then some (.mouse .otherMouseUp (.point 0 0) .center none)
    else none
  | .key code => some (.keyboard code false)

/-- The event for a control releases it. -/
theorem CGEvent.released_up {k : Held} {event : CGEvent} (h : CGEvent.up k = some event) :
    event.released = some k := by
  cases k with
  | button btn =>
    unfold CGEvent.up at h
    dsimp only at h
    split at h
    · next h0 => rw [← Option.some.inj h, h0]; rfl
    split at h
    · next h1 => rw [← Option.some.inj h, h1]; rfl
    split at h
    · next h2 => rw [← Option.some.inj h, h2]; rfl
    · exact absurd h (by simp)
  | key code => rw [← Option.some.inj h]; rfl

namespace MacEventInjector

/-- An event that lifts a control posts the event for it, if there is one. -/
theorem dispatch_of_lifts (injector : MacEventInjector) {event : ReceivedEvent} {k : Held}
    (h : event.lifts = some k) (create : Nat → Bool) :
    injector.dispatch event create =
      some ((CGEvent.up k).elim (failed, []) (postCreated (create 0))) := by
  unfold dispatch
  rcases event.lifts_cases h with ⟨htype, btn, hbtn, rfl⟩ | ⟨htype, payload, hpayload, rfl⟩
  · simp only [htype, injectMouseButtonEvent, hbtn, CGEvent.up, Option.bind_eq_bind,
      Option.bind_some]
    -- The buttons 0, 1 and 2 have an event of their own, and the others share one.
    split
    · rfl
    · rfl
    · rfl
    · next h0 h1 h2 =>
      rw [if_neg (fun h => h0 h), if_neg (fun h => h1 h), if_neg (fun h => h2 h)]
      rfl
  · simp only [htype, injectKeyEvent, hpayload, CGEvent.up, Option.bind_eq_bind,
      Option.bind_some]
    rfl

/-- A call of `inject`, with the events it posts. -/
def Injects (s : MacEventInjector) (event : ReceivedEvent) (s' : MacEventInjector)
    (r : InjectResult) (posted : List CGEvent) : Prop :=
  ∃ create, s.inject event create = some (s', r, posted)

/-- The macOS injector releases what it is asked to, or fails. -/
theorem lawful_mac : LawfulRelease Injects CGEvent.released := by
  rintro s event s' r out k ⟨create, h⟩ hk
  obtain ⟨valid, -, h⟩ := Option.bind_eq_some_iff.mp h
  cases valid with
  -- An event of another source, or with a bad payload, is rejected and not posted.
  | false =>
    obtain ⟨-, hpair⟩ := Prod.mk.inj (Option.some.inj h)
    obtain ⟨rfl, rfl⟩ := Prod.mk.inj hpair
    rfl
  | true =>
    rw [if_neg (by simp), s.dispatch_of_lifts hk] at h
    cases hup : CGEvent.up k with
    | none =>
      rw [hup] at h
      obtain ⟨-, hpair⟩ := Prod.mk.inj (Option.some.inj h)
      obtain ⟨rfl, rfl⟩ := Prod.mk.inj hpair
      rfl
    | some event =>
      rw [hup] at h
      cases hcreate : create 0 with
      | false =>
        rw [hcreate] at h
        obtain ⟨-, hpair⟩ := Prod.mk.inj (Option.some.inj h)
        obtain ⟨rfl, rfl⟩ := Prod.mk.inj hpair
        rfl
      | true =>
        rw [hcreate] at h
        obtain ⟨-, hpair⟩ := Prod.mk.inj (Option.some.inj h)
        obtain ⟨rfl, rfl⟩ := Prod.mk.inj hpair
        rw [List.map_singleton, CGEvent.released_up hup]
        rfl

end MacEventInjector

/-! ### The main results -/

/-- Over both injectors, from any state of them, `Success` says that no earlier call was late and
this one was not, and that everything pressed was released, once each, and nothing else. -/
theorem success_iff_released (e : ReleaseAllPressedExecutor) (eventId : UInt64)
    (pressed : PressedStateSnapshot) (fns : ReleaseFns) (sourceNodeId : NodeId) :
    let done := e.execute eventId pressed fns sourceNodeId
    (∀ injector injector' accepted,
      AnsweredBy WinEventInjector.Injects injector done.trace injector' accepted →
        (done.result = .Success ↔ e.lastResult ≠ .DeadlineReached ∧
          ¬ Late (deadline fns) done.trace.dropLast ∧
          ReleasedEach WinInput.released pressed accepted)) ∧
    ∀ injector injector' posted,
      AnsweredBy MacEventInjector.Injects injector done.trace injector' posted →
        (done.result = .Success ↔ e.lastResult ≠ .DeadlineReached ∧
          ¬ Late (deadline fns) done.trace.dropLast ∧
          ReleasedEach CGEvent.released pressed posted) := by
  constructor
  · intro injector injector' accepted h
    exact success_iff WinEventInjector.lawful_win e eventId pressed fns sourceNodeId h
  · intro injector injector' posted h
    exact success_iff MacEventInjector.lawful_mac e eventId pressed fns sourceNodeId h

/-! A controller, with the left button and the key 56 pressed, and a clock that stands still. -/

/-- The node that the injectors are for. -/
def controllerNode : NodeId := { high := 1, low := 100 }

/-- A snapshot with a button and a key. -/
def twoPressed : PressedStateSnapshot :=
  { PressedStateSnapshot.init with
    pressedMouseButtons := { bits := 1 }
    pressedKeys := { words := #v[0x0100000000000000, 0, 0, 0] } }

/-- A clock that does not move, and an injector that always succeeds. -/
def promptFns : ReleaseFns where
  clockFn _ := 1
  injectFn _ _ := { ok := true, failedCount := 0, latencyUs := 0 }

/-- The release of the button. -/
def leftRelease : ReceivedEvent :=
  { ReleaseAllPressedExecutor.buttonRelease controllerNode 1 0 with eventId := 1 }

/-- The release of the key. -/
def keyRelease56 : ReceivedEvent :=
  { ReleaseAllPressedExecutor.keyRelease controllerNode 1 56 with eventId := 2 }

/-- The calls of `execute` with this snapshot. -/
theorem execute_twoPressed :
    (ReleaseAllPressedExecutor.init.execute 1 twoPressed promptFns controllerNode).trace =
      [.clock 1, .clock 1, .inject leftRelease (promptFns.injectFn 0 leftRelease),
        .clock 1, .clock 1, .inject keyRelease56 (promptFns.injectFn 1 keyRelease56),
        .clock 1, .clock 1] := by
  decide +kernel

/-- The two events that the macOS injector posts. -/
theorem success_iff_released_twoPressed :
    ReleasedEach CGEvent.released twoPressed
      [.mouse .leftMouseUp (.point 0 0) .left none, .keyboard 56 false] := by
  have hanswered : AnsweredBy MacEventInjector.Injects (.init controllerNode)
      (ReleaseAllPressedExecutor.init.execute 1 twoPressed promptFns controllerNode).trace
      { MacEventInjector.init controllerNode with totalInjected := 2 }
      [.mouse .leftMouseUp (.point 0 0) .left none, .keyboard 56 false] := by
    -- The button first and the key after it, as the bitmaps are gone through.
    have hleft : MacEventInjector.Injects (.init controllerNode) leftRelease
        { MacEventInjector.init controllerNode with totalInjected := 1 }
        (promptFns.injectFn 0 leftRelease) [.mouse .leftMouseUp (.point 0 0) .left none] :=
      ⟨fun _ => true, rfl⟩
    have hkey : MacEventInjector.Injects
        { MacEventInjector.init controllerNode with totalInjected := 1 } keyRelease56
        { MacEventInjector.init controllerNode with totalInjected := 2 }
        (promptFns.injectFn 1 keyRelease56) [.keyboard 56 false] :=
      ⟨fun _ => true, rfl⟩
    rw [execute_twoPressed]
    exact .clock (.clock (.inject hleft (.clock (.clock (.inject hkey
      (.clock (.clock (.nil _))))))))
  have hsuccess := (success_iff_released .init 1 twoPressed promptFns controllerNode).2
    _ _ _ hanswered
  exact (hsuccess.mp (by decide +kernel)).2.2

/-- Through the Windows injector, whatever `SendInput` returns, a call posts the inputs that
`releaseAllPressed` posts, as far as the deadline lets it, or none at all when the injector is for
another source. -/
theorem executed_as_released (e : ReleaseAllPressedExecutor) (eventId : UInt64)
    (pressed : PressedStateSnapshot) (fns : ReleaseFns) (sourceNodeId : NodeId)
    {injector injector' : WinEventInjector} {posted : List WinInput}
    (h : AnsweredBy WinEventInjector.Posts injector
      (e.execute eventId pressed fns sourceNodeId).trace injector' posted) (latencyMs : UInt32) :
    let releases := (injector.releaseAllPressed pressed latencyMs).2.2
    (sourceNodeId ≠ injector.sourceNodeId → posted = []) ∧
      (sourceNodeId = injector.sourceNodeId → posted <+: releases) ∧
      (sourceNodeId = injector.sourceNodeId →
        ¬ Late (deadline fns) (e.execute eventId pressed fns sourceNodeId).trace.dropLast →
        posted = releases) := by
  have hcall := execute_releases e eventId pressed fns sourceNodeId
  have hposted := WinEventInjector.posted_of_answered h hcall.source hcall.lifts
  dsimp only
  rw [injector.releaseAllPressed_eq]
  constructor
  · -- An executor of another source has all its releases rejected.
    intro hne
    rw [hposted, if_neg hne]
  constructor
  · -- What was executed in time is the beginning of what would be released.
    intro heq
    rw [hposted, if_pos heq]
    exact (filterMap_lifts_of_sent hcall.sent).filterMap WinInput.up
  · intro heq hintime
    rw [hposted, if_pos heq, filterMap_lifts (hcall.all hintime)]

/-- The two inputs that the Windows injector posts. -/
theorem executed_as_released_twoPressed :
    ((WinEventInjector.init controllerNode).releaseAllPressed twoPressed 0).2.2 =
      [.mouse 0 0 0 .LEFTUP, .keyboard 56 true] := by
  have hanswered : AnsweredBy WinEventInjector.Posts (.init controllerNode)
      (ReleaseAllPressedExecutor.init.execute 1 twoPressed promptFns controllerNode).trace
      { WinEventInjector.init controllerNode with totalInjected := 2 }
      [.mouse 0 0 0 .LEFTUP, .keyboard 56 true] := by
    -- The button first and the key after it, as the bitmaps are gone through.
    have hleft : WinEventInjector.Posts (.init controllerNode) leftRelease
        { WinEventInjector.init controllerNode with totalInjected := 1 }
        (promptFns.injectFn 0 leftRelease) [.mouse 0 0 0 .LEFTUP] :=
      ⟨1, 0, rfl⟩
    have hkey : WinEventInjector.Posts
        { WinEventInjector.init controllerNode with totalInjected := 1 } keyRelease56
        { WinEventInjector.init controllerNode with totalInjected := 2 }
        (promptFns.injectFn 1 keyRelease56) [.keyboard 56 true] :=
      ⟨1, 0, rfl⟩
    rw [execute_twoPressed]
    exact .clock (.clock (.inject hleft (.clock (.clock (.inject hkey
      (.clock (.clock (.nil _))))))))
  refine ((executed_as_released .init 1 twoPressed promptFns controllerNode hanswered 0).2.2
    rfl ?_).symm
  rw [execute_twoPressed]
  -- No reading of the clock is late.
  rintro ⟨t, ht, hlate⟩
  have hone : t = 1 := by simpa using ht
  rw [hone] at hlate
  exact absurd hlate (by decide)

end CrossFlow
