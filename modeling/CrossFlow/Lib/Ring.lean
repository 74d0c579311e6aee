import Mathlib.Data.List.Cycle
import Mathlib.Dynamics.PeriodicPts.Lemmas

/-!
# `CrossFlow.Lib.Ring`: links that go around in a ring

Every node names at most one node on its right and one on its left. `IsRing` says that the names go
around the members in one cycle, and `isRing_iff` how to see it from the links: every right link is
answered by the left link of a member, and the right links lead from one member to all of them.
-/

set_option autoImplicit false

namespace CrossFlow.Lib.Ring

open Function Relation

variable {κ : Type} (right left : κ → Option κ)

/-- `y` is on the right of `x`, and both say so. -/
def Linked (x y : κ) : Prop := right x = some y ∧ left y = some x

/-- The members form a single ring, in which neighbours name each other. -/
def IsRing (members : Set κ) : Prop :=
  ∃ ring : Cycle κ, ring.Nodup ∧ (∀ x, x ∈ ring ↔ x ∈ members) ∧ ring.Chain (Linked right left)

/-- The right neighbour of every member is a member that has it on its left. -/
def Answered (members : Set κ) : Prop := ∀ x ∈ members, ∃ y ∈ members, Linked right left x y

/-- The right links lead from `x` to `y`. -/
def LeadsTo (x y : κ) : Prop := ReflTransGen (fun a b => right a = some b) x y

variable {right left} {members : Set κ}

/-- The links of a ring are links of members. -/
theorem IsRing.linked (h : IsRing right left members) {x : κ} (hx : x ∈ members) :
    (∃ y ∈ members, Linked right left x y) ∧ ∃ y ∈ members, Linked right left y x := by
  obtain ⟨ring, -, hmem, hchain⟩ := h
  have hinside : ring.Chain fun a b => a ∈ members ∧ b ∈ members ∧ Linked right left a b := by
    induction ring with
    | nil => trivial
    | cons a l =>
      -- The nodes of the chain are those of the ring, the first of them once more at its end.
      have hnodes : ∀ x ∈ a :: (l ++ [a]), x ∈ members := by
        intro x hx
        refine (hmem x).mp ?_
        rw [Cycle.mem_coe_iff]
        rcases List.mem_cons.mp hx with rfl | hx
        · exact List.mem_cons_self
        · rcases List.mem_append.mp hx with hx | hx
          · exact List.mem_cons_of_mem a hx
          · rw [List.mem_singleton.mp hx]
            exact List.mem_cons_self
      rw [Cycle.chain_coe_cons] at hchain ⊢
      exact hchain.imp_of_mem_imp fun x y hx hy hlink => ⟨hnodes x hx, hnodes y hy, hlink⟩
  have hround : ring.Chain
      (TransGen fun a b => a ∈ members ∧ b ∈ members ∧ Linked right left a b) :=
    hinside.imp fun _ _ => TransGen.single
  have hself := Cycle.chain_iff_pairwise.mp hround x ((hmem x).mpr hx) x ((hmem x).mpr hx)
  constructor
  · obtain ⟨y, ⟨-, hy, hlink⟩, -⟩ := TransGen.head'_iff.mp hself
    exact ⟨y, hy, hlink⟩
  · obtain ⟨y, -, hy, -, hlink⟩ := TransGen.tail'_iff.mp hself
    exact ⟨y, hy, hlink⟩

/-- In a ring each link is answered. -/
theorem IsRing.answered (h : IsRing right left members) : Answered right left members :=
  fun _ hx => (h.linked hx).1

/-- In a ring the right links lead from any member to any other. -/
theorem IsRing.leadsTo (h : IsRing right left members) {x y : κ} (hx : x ∈ members)
    (hy : y ∈ members) : LeadsTo right x y := by
  obtain ⟨ring, -, hmem, hchain⟩ := h
  have hround : ring.Chain (TransGen (Linked right left)) := hchain.imp fun _ _ => TransGen.single
  have hreaches := Cycle.chain_iff_pairwise.mp hround x ((hmem x).mpr hx) y ((hmem y).mpr hy)
  exact ReflTransGen.mono (fun _ _ hlink => hlink.1) x y hreaches.to_reflTransGen

/-- The right neighbour, or the node itself. -/
def next (right : κ → Option κ) (x : κ) : κ := (right x).getD x

/-- The neighbour of a member is a member, and linked to it. -/
theorem Answered.next (h : Answered right left members) {x : κ} (hx : x ∈ members) :
    next right x ∈ members ∧ Linked right left x (next right x) := by
  obtain ⟨y, hy, hlink⟩ := h x hx
  have hnext : Ring.next right x = y := by rw [Ring.next, hlink.1, Option.getD_some]
  rw [hnext]
  exact ⟨hy, hlink⟩

/-- Whoever is reached from a member is one. -/
theorem Answered.iterate (h : Answered right left members) {x : κ} (hx : x ∈ members) (n : ℕ) :
    (Ring.next right)^[n] x ∈ members := by
  induction n with
  | zero => exact hx
  | succ n ih =>
    rw [iterate_succ_apply']
    exact (h.next ih).1

/-- Where the right links lead is what taking the next one again and again comes to. -/
theorem exists_iterate {x y : κ} (hleads : LeadsTo right x y) : ∃ n, (next right)^[n] x = y := by
  induction hleads with
  | refl => exact ⟨0, rfl⟩
  | tail _ hlink ih =>
    obtain ⟨n, hn⟩ := ih
    refine ⟨n + 1, ?_⟩
    rw [iterate_succ_apply', hn, next, hlink, Option.getD_some]

/-- No two members have the same next one, so each comes back to itself. -/
theorem Answered.mem_periodicPts (h : Answered right left members) (hfinite : members.Finite)
    {x : κ} (hx : x ∈ members) : x ∈ periodicPts (Ring.next right) := by
  let step : members → members := fun m => ⟨Ring.next right m, (h.next m.2).1⟩
  have hinjective : Injective step := by
    intro a b hab
    have hsame : Ring.next right a = Ring.next right b := congrArg Subtype.val hab
    have ha := (h.next a.2).2.2
    have hb := (h.next b.2).2.2
    rw [hsame] at ha
    exact Subtype.ext (Option.some.inj (ha.symm.trans hb))
  have : Finite members := hfinite
  have hback : (⟨x, hx⟩ : members) ∈ periodicPts step := hinjective.mem_periodicPts _
  obtain ⟨n, hpos, hn⟩ := Function.mem_periodicPts.mp hback
  have hcommutes : Semiconj Subtype.val step (Ring.next right) := fun _ => rfl
  refine mk_mem_periodicPts hpos ?_
  exact hn.map hcommutes

/-- The links go around in a ring exactly when all right links are answered and those from one
member lead to every member. -/
theorem isRing_iff (hfinite : members.Finite) {x : κ} (hx : x ∈ members) :
    IsRing right left members ↔
      Answered right left members ∧ ∀ y ∈ members, LeadsTo right x y := by
  constructor
  · intro h
    exact ⟨h.answered, fun y hy => h.leadsTo hx hy⟩
  · -- The ring is the orbit of `x`, which is periodic as there are finitely many members.
    rintro ⟨h, hleads⟩
    have hperiodic := h.mem_periodicPts hfinite hx
    refine ⟨periodicOrbit (next right) x, nodup_periodicOrbit, ?_, ?_⟩
    · intro y
      rw [mem_periodicOrbit_iff hperiodic]
      constructor
      · rintro ⟨n, rfl⟩
        exact h.iterate hx n
      · intro hy
        exact exists_iterate (hleads y hy)
    · rw [periodicOrbit_chain' _ hperiodic]
      intro n
      rw [iterate_succ_apply']
      exact (h.next (h.iterate hx n)).2

end CrossFlow.Lib.Ring
