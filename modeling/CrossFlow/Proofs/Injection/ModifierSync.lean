import CrossFlow.Platform.Mac.ModifierSync

/-!
# `CrossFlow.Proofs.Injection.ModifierSync`: the modifier state and the events that were posted

`syncModifiers` writes the state of the source down as its own when it ends, also when an event of
one of the modifiers could not be created.

* `syncEntries_iff`: the events of a loop bring the modifiers to the state of the source exactly when
  all of them are created.
* `bookkeepingFollows_iff`: the runs in which the state follows what was posted.
-/

set_option autoImplicit false

namespace CrossFlow

/-! ### The modifiers -/

/-- The five modifiers. -/
inductive Modifier where
  | shift
  | ctrl
  | alt
  | cmd
  | fn
  deriving DecidableEq

namespace Modifier

/-- The key code that a modifier is synchronised with. -/
def keyCode : Modifier → UInt16
  | .shift => 56
  | .ctrl => 59
  | .alt => 58
  | .cmd => 55
  | .fn => 63

/-- In the order of `syncModifiers`. -/
def all : List Modifier := [.shift, .ctrl, .alt, .cmd, .fn]

/-- No two modifiers have one code. -/
theorem keyCode_inj {m m' : Modifier} (h : m.keyCode = m'.keyCode) : m = m' := by
  revert h
  cases m <;> cases m' <;> decide

/-- `all` leaves out no modifier. -/
theorem mem_all (m : Modifier) : m ∈ all := by
  cases m <;> decide

/-- No modifier is in `all` twice. -/
theorem nodup_all : all.Nodup := by decide

end Modifier

/-- Whether a modifier is down. -/
def ModifierState.get (s : ModifierState) : Modifier → Bool
  | .shift => s.shift
  | .ctrl => s.ctrl
  | .alt => s.alt
  | .cmd => s.cmd
  | .fn => s.fn

/-- A state is known by its modifiers. -/
theorem ModifierState.ext_get {s s' : ModifierState} (h : ∀ m, s.get m = s'.get m) : s = s' := by
  obtain ⟨shift, ctrl, alt, cmd, fn⟩ := s
  obtain ⟨shift', ctrl', alt', cmd', fn'⟩ := s'
  have hshift : shift = shift' := h .shift
  have hctrl : ctrl = ctrl' := h .ctrl
  have halt : alt = alt' := h .alt
  have hcmd : cmd = cmd' := h .cmd
  have hfn : fn = fn' := h .fn
  rw [hshift, hctrl, halt, hcmd, hfn]

/-! ### What the events do -/

/-- Whether the modifier is down after the event. -/
def downAfter (m : Modifier) (down : Bool) : CGEvent → Bool
  | .keyboard keyCode keyDown => if keyCode = m.keyCode then keyDown else down
  | _ => down

/-- Whether the modifier is down after the events. -/
def downAfterAll (m : Modifier) (down : Bool) (posted : List CGEvent) : Bool :=
  posted.foldl (downAfter m) down

/-- The modifier state that the events produce, from one in which nothing is pressed. -/
def producedState (posted : List CGEvent) : ModifierState where
  shift := downAfterAll .shift false posted
  ctrl := downAfterAll .ctrl false posted
  alt := downAfterAll .alt false posted
  cmd := downAfterAll .cmd false posted
  fn := downAfterAll .fn false posted

/-- A modifier is down when the last event that is about it says so. -/
theorem get_producedState (posted : List CGEvent) (m : Modifier) :
    (producedState posted).get m = downAfterAll m false posted := by
  cases m <;> rfl

/-- An event about a modifier says whether it is down. -/
theorem downAfter_self (m : Modifier) (down keyDown : Bool) :
    downAfter m down (.keyboard m.keyCode keyDown) = keyDown := if_pos rfl

/-- An event about another modifier says nothing. -/
theorem downAfter_other {m m' : Modifier} (hne : m' ≠ m) (down keyDown : Bool) :
    downAfter m down (.keyboard m'.keyCode keyDown) = down :=
  if_neg fun h => hne (Modifier.keyCode_inj h)

namespace ModifierInjector

/-- The entry of a modifier. -/
def entry (injector : ModifierInjector) (sourceState : ModifierState) (m : Modifier) :
    ModifierEntry where
  source := sourceState.get m
  held := injector.localModifierState.get m
  keyCode := m.keyCode

/-- The entries are those of all modifiers, in order. -/
theorem entries_eq (injector : ModifierInjector) (sourceState : ModifierState) :
    injector.entries sourceState = Modifier.all.map (injector.entry sourceState) := rfl

/-- An event is to be created for the modifier. -/
def differs (injector : ModifierInjector) (sourceState : ModifierState) (m : Modifier) : Bool :=
  sourceState.get m ≠ injector.localModifierState.get m

section
variable {injector : ModifierInjector} {sourceState : ModifierState} {create : Nat → Bool} {n : Nat}
  {m : Modifier} {ms : List Modifier}

/-- What the loop does with a modifier, and with those after it. -/
theorem syncEntries_cons (m : Modifier) (ms : List Modifier) :
    (syncEntries create n ((m :: ms).map (injector.entry sourceState))).2 =
      if injector.differs sourceState m = true then
        (if create n = true then [.keyboard m.keyCode (sourceState.get m)] else []) ++
          (syncEntries create (n + 1) (ms.map (injector.entry sourceState))).2
      else (syncEntries create n (ms.map (injector.entry sourceState))).2 := by
  rw [List.map_cons, syncEntries]
  by_cases hsame : (injector.entry sourceState m).source = (injector.entry sourceState m).held
  · have hdiffers : ¬ injector.differs sourceState m = true :=
      fun h => of_decide_eq_true h hsame
    rw [if_pos hsame, if_neg hdiffers]
  · have hdiffers : injector.differs sourceState m = true := decide_eq_true hsame
    rw [if_neg hsame, if_pos hdiffers]
    cases create n <;> rfl

/-- The loop leaves a modifier that it does not come to. -/
theorem downAfterAll_syncEntries_of_notMem (hm : m ∉ ms) (down : Bool) :
    downAfterAll m down (syncEntries create n (ms.map (injector.entry sourceState))).2 = down := by
  induction ms generalizing n with
  | nil => rfl
  | cons m' ms ih =>
    rw [List.mem_cons, not_or] at hm
    rw [syncEntries_cons]
    split
    · split
      · rw [List.singleton_append, downAfterAll, List.foldl_cons, downAfter_other (Ne.symm hm.1)]
        exact ih hm.2
      · exact ih hm.2
    · exact ih hm.2

/-- The loop brings each modifier to the state of the source exactly when every event is created. -/
theorem syncEntries_iff (injector : ModifierInjector) (sourceState : ModifierState)
    (create : Nat → Bool) (n : Nat) (hnodup : ms.Nodup) :
    (∀ m ∈ ms, downAfterAll m (injector.localModifierState.get m)
        (syncEntries create n (ms.map (injector.entry sourceState))).2 = sourceState.get m) ↔
      ∀ k < (ms.filter (injector.differs sourceState)).length, create (n + k) = true := by
  induction ms generalizing n with
  | nil => simp
  | cons m ms ih =>
    obtain ⟨hm, hms⟩ := List.nodup_cons.mp hnodup
    rw [List.forall_mem_cons, List.filter_cons, syncEntries_cons]
    by_cases hdiffers : injector.differs sourceState m = true
    · rw [if_pos hdiffers, if_pos hdiffers, List.length_cons, Nat.forall_lt_succ_left, Nat.add_zero]
      cases hcreate : create n with
      | false =>
        -- The modifier stays as it was, which is not as in the source.
        have hne : sourceState.get m ≠ injector.localModifierState.get m :=
          of_decide_eq_true hdiffers
        rw [if_neg Bool.false_ne_true, List.nil_append, downAfterAll_syncEntries_of_notMem hm]
        refine iff_of_false ?_ ?_
        · exact fun h => hne h.1.symm
        · exact fun h => Bool.false_ne_true h.1
      | true =>
        -- The event is for this modifier, and for none of those after it.
        have hother : ∀ m' ∈ ms, ∀ down posted, downAfterAll m' down
            ([.keyboard m.keyCode (sourceState.get m)] ++ posted) =
              downAfterAll m' down posted := by
          intro m' hm' down posted
          have hne : m ≠ m' := fun h => hm (h ▸ hm')
          rw [List.singleton_append, downAfterAll, List.foldl_cons, downAfter_other hne]
          rfl
        have hself : downAfterAll m (injector.localModifierState.get m)
            ([.keyboard m.keyCode (sourceState.get m)] ++
              (syncEntries create (n + 1) (ms.map (injector.entry sourceState))).2) =
            sourceState.get m := by
          rw [List.singleton_append, downAfterAll, List.foldl_cons, downAfter_self]
          exact downAfterAll_syncEntries_of_notMem hm _
        rw [if_pos rfl, and_iff_right hself, and_iff_right rfl]
        have htail := ih (n + 1) hms
        calc
          _ ↔ _ := forall₂_congr fun m' hm' => by rw [hother m' hm']
          _ ↔ _ := htail
          _ ↔ _ := forall₂_congr fun k _ => by rw [Nat.add_right_comm, Nat.add_assoc]
    · -- Nothing is posted for this one.
      have hsame : injector.localModifierState.get m = sourceState.get m := by
        by_contra hne
        exact hdiffers (decide_eq_true (Ne.symm hne))
      rw [if_neg hdiffers, if_neg hdiffers, ih n hms, downAfterAll_syncEntries_of_notMem hm]
      exact and_iff_right hsame

end

end ModifierInjector

/-! ### Runs -/

open ModifierInjector

/-- The state is that which the posted events produce, and a sync whose events are all created brings
the modifiers to the state of the source. -/
structure BookkeepingFollows (sourceNodeId : NodeId) (s : SyncRun) : Prop where
  state : s.injector.localModifierState = producedState s.posted
  next : ∀ c : SyncCall, (∀ k, c.create k = true) →
    producedState ((syncMachine sourceNodeId).step s c).posted = c.sourceState

/-- Every event of the sync is created: there is one for each modifier that differs. -/
def CreatesAll (s : SyncRun) (c : SyncCall) : Prop :=
  ∀ k < (Modifier.all.filter (s.injector.differs c.sourceState)).length, c.create k = true

section
variable {sourceNodeId : NodeId} {s : SyncRun}

/-- What a sync produces, of modifiers that are as the state says. -/
theorem producedState_step_iff (sourceNodeId : NodeId)
    (hstate : s.injector.localModifierState = producedState s.posted) (c : SyncCall) :
    producedState ((syncMachine sourceNodeId).step s c).posted = c.sourceState ↔
      CreatesAll s c := by
  have hposted : ((syncMachine sourceNodeId).step s c).posted =
      s.posted ++ (syncEntries c.create 0 (Modifier.all.map
        (s.injector.entry c.sourceState))).2 := by
    rw [← entries_eq]
    rfl
  -- The state after the posted events is what the last of them for each modifier says.
  have hget : ∀ m, (producedState ((syncMachine sourceNodeId).step s c).posted).get m =
      downAfterAll m (s.injector.localModifierState.get m)
        (syncEntries c.create 0 (Modifier.all.map (s.injector.entry c.sourceState))).2 := by
    intro m
    rw [get_producedState, hposted, downAfterAll, List.foldl_append, hstate, get_producedState]
    rfl
  have hiff := syncEntries_iff s.injector c.sourceState c.create 0 Modifier.nodup_all
  simp only [Nat.zero_add] at hiff
  rw [CreatesAll, ← hiff]
  constructor
  · intro heq m _
    rw [← hget, heq]
  · intro hall
    refine ModifierState.ext_get fun m => ?_
    rw [hget]
    exact hall m m.mem_all

/-- It is enough that the state is followed now. -/
theorem BookkeepingFollows.of_state
    (hstate : s.injector.localModifierState = producedState s.posted) :
    BookkeepingFollows sourceNodeId s where
  state := hstate
  next c hc := (producedState_step_iff sourceNodeId hstate c).mpr fun k _ => hc k

/-- A sync is followed when all its events are created. -/
theorem bookkeepingFollows_step_iff (h : BookkeepingFollows sourceNodeId s) (c : SyncCall) :
    BookkeepingFollows sourceNodeId ((syncMachine sourceNodeId).step s c) ↔ CreatesAll s c := by
  rw [← producedState_step_iff sourceNodeId h.state c]
  constructor
  · intro hnext
    rw [← hnext.state]
    rfl
  · intro heq
    exact .of_state heq.symm

end

/-- The state follows what was posted, in every state of a run, exactly when every sync of it can
create all its events. -/
theorem bookkeepingFollows_iff (sourceNodeId : NodeId) (calls : List SyncCall) :
    (∀ pre, pre <+: calls → BookkeepingFollows sourceNodeId ((syncMachine sourceNodeId).run pre)) ↔
      (syncMachine sourceNodeId).Meets CreatesAll (syncMachine sourceNodeId).init calls :=
  (Lib.Machine.meets_iff_forall_run (P := BookkeepingFollows sourceNodeId) (.of_state rfl)
    fun _ c h => bookkeepingFollows_step_iff h c).symm

/-- A press that could not be posted is taken for one that was. -/
theorem failed_press_forgotten :
    ¬ ∀ (sourceNodeId : NodeId) (calls : List SyncCall),
      BookkeepingFollows sourceNodeId ((syncMachine sourceNodeId).run calls) := by
  intro hclaim
  let shift : ModifierState :=
    { shift := true, ctrl := false, alt := false, cmd := false, fn := false }
  have hfollows := hclaim { high := 1, low := 100 }
    [{ sourceState := shift, create := fun _ => false }]
  exact absurd hfollows.state (by decide)

end CrossFlow
