import CrossFlow.Platform.Mac.ScopedCaptureHandle
import Mathlib.Data.Fintype.Card
import Mathlib.Data.Finset.Card

/-!
# `CrossFlow.Proofs.Capture.ScopedHandles`: every handle has one owner

To one manager, the objects that hold its active handles are a ledger: which place holds which id. A
constructor enters an id, a move takes it to another place, and a destructor strikes it out.

* `ledgerView`: the objects and a manager, seen as the ledger of that manager.
* `LedgerInv`: what the manager counts, and who owns what.
* `active_accounted`: the count of a manager in any run, however many handles there were.
* `handles_owned_once`: the runs in which the ids do not wrap.
-/

set_option autoImplicit false

namespace CrossFlow

open Lib (Machine)

/-! ### The ledger of a manager -/

/-- Which place holds which id of the manager. -/
structure Ledger (ι : Type) where
  ids : ι → Option UInt32
  manager : CaptureHandleManager
  acquired : Nat
  lost : Nat

/-- An object gets an id, hands it on, or loses it. -/
inductive LedgerAction (ι : Type) where
  | enter (i : ι)
  | move (i other : ι)
  | strike (i : ι)

namespace Ledger

variable {ι : Type} [DecidableEq ι]

/-- No object has an id. -/
def init : Ledger ι where
  ids _ := none
  manager := .init
  acquired := 0
  lost := 0

/-- A new id for an object that has none. -/
def enter (l : Ledger ι) (i : ι) : Ledger ι :=
  match l.ids i with
  | none =>
    { l with
      ids := Function.update l.ids i (some l.manager.acquire.1.id)
      manager := l.manager.acquire.2
      acquired := l.acquired + 1 }
  | some _ => l

/-- The id goes from one object to another one that has none. -/
def move (l : Ledger ι) (i other : ι) : Ledger ι :=
  if l.ids i = none ∧ i ≠ other then
    { l with ids := Function.update (Function.update l.ids i (l.ids other)) other none }
  else l

/-- The manager takes back every id but 0. -/
def strike (l : Ledger ι) (i : ι) : Ledger ι :=
  match l.ids i with
  | some id =>
    { l with
      ids := Function.update l.ids i none
      manager := (l.manager.release { id, active := true }).2
      lost := if id = 0 then l.lost + 1 else l.lost }
  | none => l

end Ledger

/-- The ledger, in any order of its actions. -/
def ledgerMachine (ι : Type) [DecidableEq ι] : Machine (Ledger ι) (LedgerAction ι) where
  init := .init
  step l
    | .enter i => l.enter i
    | .move i other => l.move i other
    | .strike i => l.strike i

/-! ### The objects as a ledger -/

section
variable {ι μ : Type} [DecidableEq ι] [DecidableEq μ]

/-- The id of the manager `m` that an object holds. -/
def idOf (m : μ) : Option (ScopedCaptureHandle μ) → Option UInt32
  | some h => if h.mgr = some m ∧ h.handle.active then some h.handle.id else none
  | none => none

/-- What the objects hold of one manager. -/
def HandleScopes.ledger (m : μ) (s : HandleScopes ι μ) : Ledger ι where
  ids i := idOf m (s.objects i)
  manager := s.managers m
  acquired := s.acquired m
  lost := s.lost m

/-- What a step does in the ledger of `m`. -/
def ledgerActions (m : μ) (s : HandleScopes ι μ) : ScopeAction ι μ → List (LedgerAction ι)
  | .defaultConstruct _ => []
  | .acquire i m' => if m' = m ∧ (s.objects i).isNone then [.enter i] else []
  | .moveConstruct i other =>
    if (s.objects i).isNone ∧ (s.objects other).isSome then [.move i other] else []
  | .moveAssign i other =>
    if (s.objects i).isSome ∧ (s.objects other).isSome ∧ i ≠ other then [.strike i, .move i other]
    else []
  | .destroy i => [.strike i]

/-- The id of an object that has changed. -/
theorem idOf_update (m : μ) (objects : ι → Option (ScopedCaptureHandle μ)) (i : ι)
    (o : Option (ScopedCaptureHandle μ)) :
    (fun j => idOf m (Function.update objects i o j)) =
      Function.update (fun j => idOf m (objects j)) i (idOf m o) := by
  funext j
  by_cases hj : j = i
  · rw [hj, Function.update_self, Function.update_self]
  · rw [Function.update_of_ne hj, Function.update_of_ne hj]

omit [DecidableEq ι] in
/-- `release()` of an object strikes the id that it holds of the manager `m`. -/
theorem ledger_release (m : μ) (s : HandleScopes ι μ) (h : ScopedCaptureHandle μ) :
    (s.release h).ledger m =
      match idOf m (some h) with
      | some id =>
        { s.ledger m with
          manager := ((s.managers m).release { id, active := true }).2
          lost := if id = 0 then s.lost m + 1 else s.lost m }
      | none => s.ledger m := by
  obtain ⟨mgr, id, active⟩ := h
  unfold HandleScopes.release ScopedCaptureHandle.release HandleScopes.ledger idOf
  cases mgr with
  | none => rfl
  | some m' =>
    cases active with
    | false => simp
    | true =>
      -- A handle of another manager leaves this one as it is, whatever its id.
      by_cases hm : m' = m
      · subst hm
        by_cases hid : id = 0 <;> simp [hid]
      · by_cases hid : id = 0 <;> simp [hid, hm, Ne.symm hm]

/-- A place that holds no id of `m` gets the id of another one. -/
theorem ledger_move {m : μ} {s : HandleScopes ι μ} {i other : ι} {h : ScopedCaptureHandle μ}
    (hother : s.objects other = some h) :
    (s.move i other h).ledger m =
      { s.ledger m with
        ids := Function.update
          (Function.update (s.ledger m).ids i ((s.ledger m).ids other)) other none } := by
  unfold HandleScopes.ledger HandleScopes.move
  dsimp only
  rw [idOf_update, idOf_update, hother]
  rfl

/-- The ledger of a manager, struck where an object is released and replaced. -/
theorem ledger_strike {m : μ} {s : HandleScopes ι μ} {i : ι} {h : ScopedCaptureHandle μ}
    (hi : s.objects i = some h) :
    (s.ledger m).strike i =
      { (s.release h).ledger m with ids := Function.update (s.ledger m).ids i none } := by
  have hid : (s.ledger m).ids i = idOf m (some h) := congrArg (idOf m) hi
  rw [ledger_release, Ledger.strike, hid]
  cases hheld : idOf m (some h) with
  | some id => rfl
  | none =>
    have hsame : Function.update (s.ledger m).ids i none = (s.ledger m).ids :=
      Function.update_eq_self_iff.mpr (hheld ▸ hid.symm)
    dsimp only
    rw [hsame]

/-- A handle that is acquired is entered in the ledger of its manager, and in no other. -/
theorem ledger_acquire {m' m : μ} {s : HandleScopes ι μ} {i : ι} (hi : s.objects i = none) :
    (s.acquire i m').ledger m = if m' = m then (s.ledger m).enter i else s.ledger m := by
  have hnone : (s.ledger m).ids i = none := congrArg (idOf m) hi
  have hacquire : (s.acquire i m').ledger m =
      { ids := Function.update (s.ledger m).ids i
          (idOf m (some { mgr := some m', handle := (s.managers m').acquire.1 }))
        manager := Function.update s.managers m' (s.managers m').acquire.2 m
        acquired := Function.update s.acquired m' (s.acquired m' + 1) m
        lost := s.lost m } := by
    unfold HandleScopes.acquire
    rw [hi]
    unfold HandleScopes.ledger
    dsimp only
    rw [idOf_update]
  rw [hacquire]
  -- For the manager that is asked this is an entry; the others see no change.
  by_cases hm : m' = m
  · subst hm
    rw [if_pos rfl, Ledger.enter, hnone, Function.update_self, Function.update_self]
    simp [idOf, HandleScopes.ledger, CaptureHandleManager.acquire]
  · have hid : idOf m (some { mgr := some m', handle := (s.managers m').acquire.1 }) = none := by
      simp [idOf, hm]
    rw [if_neg hm, hid, Function.update_eq_self_iff.mpr hnone.symm,
      Function.update_of_ne (Ne.symm hm), Function.update_of_ne (Ne.symm hm)]
    rfl

/-- A move assignment strikes the id of its target, and hands on the other one. -/
theorem ledger_moveAssign {m : μ} {s : HandleScopes ι μ} {i other : ι}
    {old h : ScopedCaptureHandle μ} (hi : s.objects i = some old)
    (hother : s.objects other = some h) (hne : i ≠ other) :
    ((s.release old).move i other h).ledger m = ((s.ledger m).strike i).move i other := by
  have hother' : (s.release old).objects other = some h := hother
  have hfree : ((s.ledger m).strike i).ids i = none := by
    rw [ledger_strike hi]
    show Function.update (s.ledger m).ids i none i = none
    rw [Function.update_self]
  rw [ledger_move hother', Ledger.move, if_pos ⟨hfree, hne⟩, ledger_strike hi]
  dsimp only
  rw [Function.update_of_ne (Ne.symm hne), Function.update_idem]
  rfl

/-- The objects and a manager, seen as the ledger of the manager. -/
def ledgerView (ι : Type) {μ : Type} [DecidableEq ι] [DecidableEq μ] (m : μ) :
    Lib.Refinement (scopeMachine ι μ) (ledgerMachine ι) where
  view s := s.ledger m
  acts s a := ledgerActions m s a
  view_init := rfl
  view_step s a := by
    cases a with
    | defaultConstruct i =>
      show (s.defaultConstruct i).ledger m = s.ledger m
      unfold HandleScopes.defaultConstruct
      cases hi : s.objects i with
      | some h => rfl
      | none =>
        have hsame : idOf m (some .empty) = idOf m (s.objects i) := by rw [hi]; rfl
        unfold HandleScopes.ledger
        dsimp only
        rw [idOf_update, Function.update_eq_self_iff.mpr hsame]
    | acquire i m' =>
      show (s.acquire i m').ledger m = (ledgerMachine ι).runFrom (s.ledger m)
        (if m' = m ∧ (s.objects i).isNone then [.enter i] else [])
      cases hi : s.objects i with
      | some h =>
        rw [HandleScopes.acquire, hi, if_neg (by simp)]
        rfl
      | none =>
        rw [ledger_acquire hi]
        by_cases hm : m' = m <;> simp [hm, ledgerMachine]
    | moveConstruct i other =>
      show (s.moveConstruct i other).ledger m = (ledgerMachine ι).runFrom (s.ledger m)
        (if (s.objects i).isNone ∧ (s.objects other).isSome then [.move i other] else [])
      rw [HandleScopes.moveConstruct]
      cases hi : s.objects i with
      | some h => rfl
      | none =>
        cases hother : s.objects other with
        | none => rfl
        | some h =>
          have hne : i ≠ other := by
            rintro rfl
            exact absurd (hi.symm.trans hother) (Option.some_ne_none h).symm
          have hnone : (s.ledger m).ids i = none := congrArg (idOf m) hi
          show (s.move i other h).ledger m = (s.ledger m).move i other
          rw [ledger_move hother, Ledger.move, if_pos ⟨hnone, hne⟩]
    -- What the target held is released before the handle is taken over; to itself nothing is moved.
    | moveAssign i other =>
      show (s.moveAssign i other).ledger m = (ledgerMachine ι).runFrom (s.ledger m)
        (if (s.objects i).isSome ∧ (s.objects other).isSome ∧ i ≠ other then
          [.strike i, .move i other] else [])
      rw [HandleScopes.moveAssign]
      cases hi : s.objects i with
      | none => rfl
      | some old =>
        cases hother : s.objects other with
        | none => rfl
        | some h =>
          dsimp only
          by_cases hne : i = other
          · rw [if_neg (not_not_intro hne), if_neg (by simp [hne])]
            rfl
          · rw [if_pos hne, if_pos ⟨rfl, rfl, hne⟩, ledger_moveAssign hi hother hne]
            rfl
    | destroy i =>
      show (s.destroy i).ledger m = (s.ledger m).strike i
      rw [HandleScopes.destroy]
      cases hi : s.objects i with
      | none =>
        have hnone : (s.ledger m).ids i = none := congrArg (idOf m) hi
        rw [Ledger.strike, hnone]
      | some h =>
        rw [ledger_strike hi]
        unfold HandleScopes.ledger
        dsimp only
        rw [idOf_update]
        rfl

end

/-! ### What the manager counts -/

namespace Ledger

variable {ι : Type} [DecidableEq ι]

/-- How many places hold an id. -/
def held [Fintype ι] (l : Ledger ι) : Nat := (Finset.univ.filter fun i => (l.ids i).isSome).card

/-- One place is written: it counts as before, less what it held, and what it holds now. -/
theorem card_update [Fintype ι] (ids : ι → Option UInt32) (i : ι) (id : Option UInt32) :
    (Finset.univ.filter fun j => (Function.update ids i id j).isSome).card +
        (ids i).isSome.toNat =
      (Finset.univ.filter fun j => (ids j).isSome).card + id.isSome.toNat := by
  -- Away from `i` nothing changes.
  have hother : (Finset.univ.erase i).filter (fun j => (Function.update ids i id j).isSome) =
      (Finset.univ.erase i).filter fun j => (ids j).isSome := by
    refine Finset.filter_congr ?_
    intro j hj
    rw [Function.update_of_ne (Finset.ne_of_mem_erase hj)]
  have hsplit : ∀ f : ι → Option UInt32, (Finset.univ.filter fun j => (f j).isSome).card =
      ((Finset.univ.erase i).filter fun j => (f j).isSome).card + (f i).isSome.toNat := by
    intro f
    have hnot : i ∉ (Finset.univ.erase i).filter fun j => (f j).isSome := by simp
    rw [← Finset.insert_erase (Finset.mem_univ i), Finset.filter_insert]
    cases (f i).isSome with
    | true => simp [Finset.card_insert_of_notMem]
    | false => simp
  rw [hsplit, hsplit ids, hother, Function.update_self]
  omega

/-- The manager counts the ids that are held and those that it did not take back. -/
structure Accounted [Fintype ι] (l : Ledger ι) : Prop where
  counted : l.manager.activeCount = UInt32.ofNat (l.held + l.lost)
  bounded : l.held + l.lost ≤ l.acquired

/-- A new id is counted. -/
theorem accounted_enter [Fintype ι] {l : Ledger ι} (h : l.Accounted) (i : ι) :
    (l.enter i).Accounted := by
  cases hi : l.ids i with
  -- An object that has its handle already acquires none.
  | some id =>
    rw [enter, hi]
    exact h
  | none =>
    have hheld : (l.enter i).held = l.held + 1 := by
      have hcard := card_update l.ids i (some l.manager.acquire.1.id)
      rw [hi] at hcard
      rw [enter, hi]
      exact hcard
    have hlost : (l.enter i).lost = l.lost := by rw [enter, hi]
    have hacquired : (l.enter i).acquired = l.acquired + 1 := by rw [enter, hi]
    have hactive : (l.enter i).manager.activeCount = l.manager.activeCount + 1 := by
      rw [enter, hi]
      rfl
    -- One object more has an id, and one more is active.
    constructor
    · rw [hactive, hheld, hlost, Nat.add_right_comm, UInt32.ofNat_add, h.counted]
      rfl
    · have hbounded := h.bounded
      omega

/-- To hand on an id changes no count. -/
theorem accounted_move [Fintype ι] {l : Ledger ι} (h : l.Accounted) (i other : ι) :
    (l.move i other).Accounted := by
  by_cases hfree : l.ids i = none ∧ i ≠ other
  · have hheld : (l.move i other).held = l.held := by
      -- Two places are written: one gets what the other loses.
      have hto := card_update l.ids i (l.ids other)
      have hfrom := card_update (Function.update l.ids i (l.ids other)) other none
      rw [hfree.1] at hto
      rw [Function.update_of_ne (Ne.symm hfree.2)] at hfrom
      simp only [Option.isSome_none, Bool.toNat_false] at hto hfrom
      rw [move, if_pos hfree]
      unfold held
      dsimp only
      omega
    have hrest : (l.move i other).manager = l.manager ∧ (l.move i other).lost = l.lost ∧
        (l.move i other).acquired = l.acquired := by
      rw [move, if_pos hfree]
      exact ⟨rfl, rfl, rfl⟩
    constructor
    · rw [hrest.1, hheld, hrest.2.1]
      exact h.counted
    · rw [hheld, hrest.2.1, hrest.2.2]
      exact h.bounded
  · rw [move, if_neg hfree]
    exact h

/-- An id that is lost is taken off the count. -/
theorem accounted_strike [Fintype ι] {l : Ledger ι} (h : l.Accounted) (i : ι) :
    (l.strike i).Accounted := by
  cases hi : l.ids i with
  | none =>
    rw [strike, hi]
    exact h
  | some id =>
    -- The object had the id, so one less is left.
    have hheld : l.held = (l.strike i).held + 1 := by
      have hcard := card_update l.ids i none
      rw [hi] at hcard
      rw [strike, hi]
      exact hcard.symm
    have hlost : (l.strike i).lost = if id = 0 then l.lost + 1 else l.lost := by rw [strike, hi]
    have hacquired : (l.strike i).acquired = l.acquired := by rw [strike, hi]
    have hactive : (l.strike i).manager.activeCount =
        (l.manager.release { id, active := true }).2.activeCount := by rw [strike, hi]
    have hbounded := h.bounded
    have hcount := h.counted
    rw [hheld] at hcount
    by_cases hid : id = 0
    · -- The manager does not take the id 0 back.
      rw [if_pos hid] at hlost
      constructor
      · rw [hactive, CaptureHandleManager.release, if_pos (.inl hid), hcount, hlost,
          Nat.add_right_comm, Nat.add_assoc]
      · omega
    · -- Any other id is taken back, and there is one active less.
      rw [if_neg hid] at hlost
      constructor
      · rw [hactive, CaptureHandleManager.release, if_neg (by simp [hid]), hlost]
        show l.manager.activeCount - 1 = _
        rw [hcount, Nat.add_right_comm, UInt32.ofNat_add]
        exact UInt32.add_sub_cancel _ _
      · omega

/-! ### Who owns what -/

/-- No id is 0, and none is held in two places. -/
structure OwnedOnce (l : Ledger ι) : Prop where
  next : l.manager.nextId.toNat = l.acquired + 1
  lost : l.lost = 0
  issued : ∀ i id, l.ids i = some id → 0 < id.toNat ∧ id.toNat ≤ l.acquired
  once : ∀ i j id, l.ids i = some id → l.ids j = some id → i = j

/-- A new id is nobody else's while the ids have not wrapped around. -/
theorem OwnedOnce.enter {l : Ledger ι} (h : l.OwnedOnce) (hfew : l.acquired + 1 < 2 ^ 32 - 1)
    (i : ι) : (l.enter i).OwnedOnce := by
  unfold Ledger.enter
  cases hi : l.ids i with
  | some id => exact h
  | none =>
    have hnext := h.next
    constructor
    · show (l.manager.nextId + 1).toNat = l.acquired + 1 + 1
      rw [UInt32.toNat_add, hnext, show (1 : UInt32).toNat = 1 from rfl]
      exact Nat.mod_eq_of_lt (by omega)
    · exact h.lost
    · intro j id hj
      show 0 < id.toNat ∧ id.toNat ≤ l.acquired + 1
      replace hj : Function.update l.ids i (some l.manager.nextId) j = some id := hj
      by_cases hji : j = i
      · rw [hji, Function.update_self] at hj
        cases hj
        omega
      · rw [Function.update_of_ne hji] at hj
        -- An id that was issued before is below the new one.
        have hissued := h.issued j id hj
        omega
    · intro j k id hj hk
      replace hj : Function.update l.ids i (some l.manager.nextId) j = some id := hj
      replace hk : Function.update l.ids i (some l.manager.nextId) k = some id := hk
      -- The new id is above all that were issued.
      have hfresh : ∀ k, l.ids k ≠ some l.manager.nextId := by
        intro k hk
        have hissued := h.issued k _ hk
        omega
      by_cases hji : j = i
      · by_cases hki : k = i
        · rw [hji, hki]
        · rw [hji, Function.update_self] at hj
          rw [Function.update_of_ne hki, ← hj] at hk
          exact absurd hk (hfresh k)
      · rw [Function.update_of_ne hji] at hj
        by_cases hki : k = i
        · rw [hki, Function.update_self] at hk
          rw [← hk] at hj
          exact absurd hj (hfresh j)
        · rw [Function.update_of_ne hki] at hk
          exact h.once j k id hj hk

/-- An id that is handed on is nobody else's. -/
theorem OwnedOnce.move {l : Ledger ι} (h : l.OwnedOnce) (i other : ι) :
    (l.move i other).OwnedOnce := by
  unfold Ledger.move
  split
  next hfree =>
    -- An id is where it was before, or moves from `other` to `i`.
    have hfrom : ∀ j id, Function.update (Function.update l.ids i (l.ids other)) other none j =
        some id → l.ids (if j = i then other else j) = some id ∧ j ≠ other := by
      intro j id hj
      by_cases hjother : j = other
      · rw [hjother, Function.update_self] at hj
        exact absurd hj.symm (Option.some_ne_none id)
      · rw [Function.update_of_ne hjother] at hj
        refine ⟨?_, hjother⟩
        by_cases hji : j = i
        · rw [hji, Function.update_self] at hj
          rw [if_pos hji]
          exact hj
        · rw [Function.update_of_ne hji] at hj
          rw [if_neg hji]
          exact hj
    refine ⟨h.next, h.lost, ?_, ?_⟩
    · intro j id hj
      exact h.issued _ id (hfrom j id hj).1
    · intro j k id hj hk
      obtain ⟨hj', hjother⟩ := hfrom j id hj
      obtain ⟨hk', hkother⟩ := hfrom k id hk
      have hsame := h.once _ _ id hj' hk'
      by_cases hji : j = i
      · by_cases hki : k = i
        · rw [hji, hki]
        · rw [if_pos hji, if_neg hki] at hsame
          exact absurd hsame.symm hkother
      · by_cases hki : k = i
        · rw [if_neg hji, if_pos hki] at hsame
          exact absurd hsame hjother
        · rw [if_neg hji, if_neg hki] at hsame
          exact hsame
  next => exact h

/-- No id is held twice because one is lost. -/
theorem OwnedOnce.strike {l : Ledger ι} (h : l.OwnedOnce) (i : ι) : (l.strike i).OwnedOnce := by
  unfold Ledger.strike
  cases hi : l.ids i with
  | none => exact h
  | some id =>
    -- An id that was issued is not 0, so the manager takes it back.
    have hid : id ≠ 0 := by
      rintro rfl
      exact absurd (h.issued i 0 hi).1 (by decide)
    have hkept : ∀ j id', Function.update l.ids i none j = some id' → l.ids j = some id' := by
      intro j id' hj
      by_cases hji : j = i
      · rw [hji, Function.update_self] at hj
        exact absurd hj.symm (Option.some_ne_none id')
      · rwa [Function.update_of_ne hji] at hj
    refine ⟨?_, ?_, ?_, ?_⟩
    · show (l.manager.release { id, active := true }).2.nextId.toNat = l.acquired + 1
      rw [CaptureHandleManager.release, if_neg (by simp [hid])]
      exact h.next
    · show (if id = 0 then l.lost + 1 else l.lost) = 0
      rw [if_neg hid]
      exact h.lost
    · exact fun j id' hj => h.issued j id' (hkept j id' hj)
    · exact fun j k id' hj hk => h.once j k id' (hkept j id' hj) (hkept k id' hk)

/-- The account holds in every run of the ledger. -/
theorem accounted_run [Fintype ι] : (ledgerMachine ι).Invariant Accounted := by
  refine Machine.Invariant.of_step ?_ ?_
  · constructor
    · show 0 = UInt32.ofNat
        ((Finset.univ.filter fun _ : ι => (none : Option UInt32).isSome).card + 0)
      simp
    · show (Finset.univ.filter fun _ : ι => (none : Option UInt32).isSome).card + 0 ≤ 0
      simp
  · intro l a h
    cases a with
    | enter i => exact accounted_enter h i
    | move i other => exact accounted_move h i other
    | strike i => exact accounted_strike h i

/-- No id is held twice in any run with few enough ids. -/
theorem ownedOnce_run :
    (ledgerMachine ι).Invariant fun l => l.acquired < 2 ^ 32 - 1 → l.OwnedOnce := by
  refine Machine.Invariant.of_step ?_ ?_
  · intro _
    refine ⟨rfl, rfl, ?_, ?_⟩
    · exact fun i id hi => absurd hi.symm (Option.some_ne_none id)
    · exact fun i j id hi _ => absurd hi.symm (Option.some_ne_none id)
  · -- Few handles after a call were few before it, so that the ids so far have not wrapped.
    intro l a h hfew
    cases a with
    | enter i =>
      replace hfew : (l.enter i).acquired < 2 ^ 32 - 1 := hfew
      show (l.enter i).OwnedOnce
      cases hi : l.ids i with
      | some id =>
        rw [Ledger.enter, hi] at hfew ⊢
        exact h hfew
      | none =>
        have hacquired : (l.enter i).acquired = l.acquired + 1 := by rw [Ledger.enter, hi]
        rw [hacquired] at hfew
        exact (h (by omega)).enter hfew i
    | move i other =>
      have hacquired : (l.move i other).acquired = l.acquired := by
        unfold Ledger.move
        split <;> rfl
      replace hfew : (l.move i other).acquired < 2 ^ 32 - 1 := hfew
      rw [hacquired] at hfew
      exact (h hfew).move i other
    | strike i =>
      have hacquired : (l.strike i).acquired = l.acquired := by
        unfold Ledger.strike
        split <;> rfl
      replace hfew : (l.strike i).acquired < 2 ^ 32 - 1 := hfew
      rw [hacquired] at hfew
      exact (h hfew).strike i

end Ledger

/-! ### The objects -/

section
variable {ι μ : Type} [DecidableEq ι] [DecidableEq μ]

/-- How many objects hold an active handle of the manager. -/
def HandleScopes.activeObjects [Fintype ι] (s : HandleScopes ι μ) (m : μ) : Nat :=
  (Finset.univ.filter fun i => (idOf m (s.objects i)).isSome).card

/-- The account of one manager, in every run of the objects. -/
theorem ledger_accounted [Fintype ι] (acts : List (ScopeAction ι μ)) (m : μ) :
    (((scopeMachine ι μ).run acts).ledger m).Accounted := by
  have hview : ((scopeMachine ι μ).run acts).ledger m = (ledgerMachine ι).run _ :=
    (ledgerView ι m).view_run acts
  rw [hview]
  exact Ledger.accounted_run _

/-- In every run, however long and however the handles are moved: a manager counts the objects that
hold an active handle of it, and the handles with the id 0 that were to be released. -/
theorem active_accounted [Fintype ι] (acts : List (ScopeAction ι μ)) (m : μ) :
    let s := (scopeMachine ι μ).run acts
    (s.managers m).activeCount = UInt32.ofNat (s.activeObjects m + s.lost m) := by
  intro s
  have haccounted : (s.ledger m).Accounted := ledger_accounted acts m
  exact haccounted.counted

/-- As long as a manager has handed out fewer than `2 ^ 32 - 1` handles: it counts exactly the
objects that hold an active handle of it, every handle is one that it would take back, and no two
objects hold the same one. -/
theorem handles_owned_once [Fintype ι] (acts : List (ScopeAction ι μ)) (m : μ)
    (hfew : ((scopeMachine ι μ).run acts).acquired m < 2 ^ 32 - 1) :
    let s := (scopeMachine ι μ).run acts
    (s.managers m).activeCount.toNat = s.activeObjects m ∧
      (∀ i id, idOf m (s.objects i) = some id → id ≠ 0) ∧
      ∀ i j id, idOf m (s.objects i) = some id → idOf m (s.objects j) = some id → i = j := by
  intro s
  have hview : s.ledger m = (ledgerMachine ι).run _ := (ledgerView ι m).view_run acts
  have haccounted : (s.ledger m).Accounted := ledger_accounted acts m
  have howned : (s.ledger m).OwnedOnce := by
    have hrun := Ledger.ownedOnce_run ((ledgerView ι m).trace (scopeMachine ι μ).init acts)
    rw [← hview] at hrun
    exact hrun hfew
  refine ⟨?_, ?_, howned.once⟩
  · have hcounted : (s.managers m).activeCount = UInt32.ofNat ((s.ledger m).held + s.lost m) :=
      haccounted.counted
    have hbounded : (s.ledger m).held + s.lost m ≤ s.acquired m := haccounted.bounded
    have hlost : s.lost m = 0 := howned.lost
    replace hfew : s.acquired m < 2 ^ 32 - 1 := hfew
    -- With so few handles the count does not wrap.
    have hlt : (s.ledger m).held < UInt32.size := by
      show (s.ledger m).held < 2 ^ 32
      omega
    rw [hcounted, hlost, Nat.add_zero]
    exact UInt32.toNat_ofNat_of_lt' hlt
  · rintro i id hi rfl
    exact absurd (howned.issued i 0 hi).1 (by decide)

end

/-- A handle is acquired, moved to a second object, and that one moved to itself; the first object
goes away. -/
def movedTwice : List (ScopeAction (Fin 2) Unit) :=
  [.acquire 0 (), .moveConstruct 1 0, .moveAssign 1 1, .destroy 0]

/-- A handle that is moved twice is counted once. -/
theorem handles_owned_once_moved :
    (((scopeMachine (Fin 2) Unit).run movedTwice).managers ()).activeCount.toNat = 1 := by
  rw [(handles_owned_once movedTwice () (by decide)).1]
  decide

end CrossFlow
