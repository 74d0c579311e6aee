import CrossFlow.Core.Membership.MembershipManager
import CrossFlow.Lib.Ring
import Mathlib.Data.Set.Finite.List

/-!
# `CrossFlow.Proofs.Membership.RingTopology`: when the members form a ring

`isCircular` asks whether there are three members and each names a left and a right neighbour. It
does not ask whom they name.

* `nodup_run`: no node is a member twice.
* `circular_iff_ring`: the exact memberships on which the answer is right.
* `broken_ring_is_circular`: one on which it is not.
-/

set_option autoImplicit false

namespace CrossFlow

open Lib.Ring (IsRing Answered LeadsTo isRing_iff)

namespace MembershipManager

/-- The node ids of the members. -/
def ids (m : MembershipManager) : List NodeId := m.members.map MembershipEntry.nodeId

/-- The neighbour that a member names on its right. -/
def rightNeighbor (m : MembershipManager) (nodeId : NodeId) : Option NodeId :=
  (m.getMember nodeId).bind fun entry => entry.topologyMembership.rightNeighbor

/-- The neighbour that a member names on its left. -/
def leftNeighbor (m : MembershipManager) (nodeId : NodeId) : Option NodeId :=
  (m.getMember nodeId).bind fun entry => entry.topologyMembership.leftNeighbor

/-- The right neighbours go around the members in a single ring, and the left neighbours back. -/
def FormsRing (m : MembershipManager) : Prop :=
  IsRing m.rightNeighbor m.leftNeighbor { nodeId | nodeId ∈ m.ids }

/-- The answer of `isCircular` is right. -/
def CircularRight (m : MembershipManager) : Prop :=
  m.isCircular = true ↔ 3 ≤ m.members.length ∧ m.FormsRing

/-- Some member names no neighbour on one of its sides. -/
def LinkMissing (m : MembershipManager) : Prop :=
  ∃ entry ∈ m.members, entry.topologyMembership.leftNeighbor = none ∨
    entry.topologyMembership.rightNeighbor = none

/-- The right neighbour of every member is a member whose left neighbour it is, and the right
neighbours lead from one member to all of them. -/
def LinksClosed (m : MembershipManager) : Prop :=
  Answered m.rightNeighbor m.leftNeighbor { nodeId | nodeId ∈ m.ids } ∧
    ∃ first ∈ m.ids, ∀ nodeId ∈ m.ids, LeadsTo m.rightNeighbor first nodeId

/-! ### No node is a member twice -/

/-- Each call leaves every member listed once. -/
theorem nodup_step {m : MembershipManager} (h : m.ids.Nodup) (c : MembershipCall) :
    (m.step c).ids.Nodup := by
  cases c with
  | addMember entry =>
    show (m.addMember entry).1.ids.Nodup
    unfold addMember
    -- A member with the id is replaced, and only a new id is added.
    cases hfind : m.getMember entry.nodeId with
    | some found =>
      exact Lib.KeyedList.nodup_modify MembershipEntry.nodeId (fun _ _ => rfl) h
    | none => exact Lib.KeyedList.nodup_append MembershipEntry.nodeId h hfind
  | removeMember nodeId => exact Lib.KeyedList.nodup_erase MembershipEntry.nodeId h
  | setMemberOnline nodeId online =>
    show (m.setMemberOnline nodeId online).1.ids.Nodup
    unfold setMemberOnline
    cases m.getMember nodeId with
    | some found =>
      exact Lib.KeyedList.nodup_modify MembershipEntry.nodeId
        (f := fun entry => { entry with isOnline := online }) (fun _ hid => hid) h
    | none => exact h

/-- Every member is listed once after any calls. -/
theorem nodup_run (calls : List MembershipCall) : (membershipMachine.run calls).ids.Nodup :=
  Lib.Machine.Invariant.of_step (m := membershipMachine)
    (P := fun m : MembershipManager => m.ids.Nodup) List.nodup_nil (fun _ c h => nodup_step h c)
    calls

/-! ### What `isCircular` asks -/

variable {m : MembershipManager}

/-- Three members or more, of which none lacks a neighbour. -/
theorem isCircular_iff : m.isCircular = true ↔ 3 ≤ m.members.length ∧ ¬ m.LinkMissing := by
  unfold isCircular LinkMissing
  by_cases hfew : m.members.length < 3
  · rw [if_pos hfew]
    exact iff_of_false Bool.false_ne_true fun h => Nat.not_lt.mpr h.1 hfew
  · rw [if_neg hfew, List.all_eq_true, and_iff_right (Nat.not_lt.mp hfew)]
    simp only [not_exists, not_and, not_or, decide_eq_true_eq, Option.isSome_iff_ne_none]

/-- A ring has no end. -/
theorem FormsRing.not_linkMissing (hnodup : m.ids.Nodup) (h : m.FormsRing) : ¬ m.LinkMissing := by
  rintro ⟨entry, hentry, hmissing⟩
  have hfind : m.getMember entry.nodeId = some entry :=
    Lib.KeyedList.find_of_mem MembershipEntry.nodeId hnodup hentry
  obtain ⟨⟨y, -, hright, -⟩, x, -, -, hleft⟩ := h.linked (List.mem_map_of_mem hentry)
  rw [rightNeighbor, hfind, Option.bind_some] at hright
  rw [leftNeighbor, hfind, Option.bind_some] at hleft
  rcases hmissing with hnone | hnone
  · exact Option.some_ne_none x (hleft.symm.trans hnone)
  · exact Option.some_ne_none y (hright.symm.trans hnone)

/-- Three members or more form a ring when their links are closed. -/
theorem formsRing_iff (hmembers : 3 ≤ m.members.length) : m.FormsRing ↔ m.LinksClosed := by
  have hfinite : { nodeId | nodeId ∈ m.ids }.Finite := List.finite_toSet m.ids
  constructor
  · intro h
    obtain ⟨first, hfirst⟩ : ∃ first, first ∈ m.ids := by
      refine List.exists_mem_of_length_pos ?_
      rw [ids, List.length_map]
      omega
    exact ⟨h.answered, first, hfirst, fun nodeId hid => h.leadsTo hfirst hid⟩
  · rintro ⟨hanswered, first, hfirst, hleads⟩
    exact (isRing_iff hfinite hfirst).mpr ⟨hanswered, hleads⟩

end MembershipManager

open MembershipManager

/-- After every run: `isCircular` tells a ring from what is none exactly when there are fewer than
three members, or a link is missing, or the links are those of a ring. -/
theorem circular_iff_ring (calls : List MembershipCall) :
    let m := membershipMachine.run calls
    m.CircularRight ↔ m.members.length < 3 ∨ m.LinkMissing ∨ m.LinksClosed := by
  intro m
  have hnodup : m.ids.Nodup := nodup_run calls
  rw [CircularRight, isCircular_iff]
  by_cases hfew : m.members.length < 3
  · have hnot : ¬ 3 ≤ m.members.length := Nat.not_le.mpr hfew
    exact iff_of_true (iff_of_false (fun h => hnot h.1) fun h => hnot h.1) (.inl hfew)
  rw [or_iff_right hfew]
  have hmembers : 3 ≤ m.members.length := Nat.not_lt.mp hfew
  rw [and_iff_right hmembers, and_iff_right hmembers]
  by_cases hmissing : m.LinkMissing
  · refine iff_of_true (iff_of_false (fun h => h hmissing) ?_) (.inl hmissing)
    exact fun hring => hring.not_linkMissing hnodup hmissing
  · rw [iff_true_left hmissing, or_iff_right hmissing]
    exact formsRing_iff hmembers

/-- A member of a ring of four, with its neighbours. -/
def ringMember (nodeId leftNeighbor rightNeighbor : NodeId) : MembershipEntry where
  nodeId
  topologyMembership :=
    { topologyId := [], leftNeighbor, rightNeighbor, segmentIndex := 0 }
  joinedAt := 0
  isOnline := true

/-- One of four members in a ring leaves, and the others still count as a ring. -/
theorem broken_ring_is_circular :
    ¬ ∀ calls : List MembershipCall, (membershipMachine.run calls).CircularRight := by
  intro hclaim
  let node : UInt64 → NodeId := fun low => { high := 0, low }
  let calls : List MembershipCall :=
    [ .addMember (ringMember (node 1) (node 4) (node 2)),
      .addMember (ringMember (node 2) (node 1) (node 3)),
      .addMember (ringMember (node 3) (node 2) (node 4)),
      .addMember (ringMember (node 4) (node 3) (node 1)),
      .removeMember (node 4) ]
  have hring := ((hclaim calls).mp (by decide)).2
  -- The right neighbour of the third has left.
  obtain ⟨gone, hmember, hright, -⟩ := hring.answered (node 3) (by decide)
  have hgone : gone = node 4 := Option.some.inj (hright.symm.trans (by decide))
  rw [hgone] at hmember
  exact absurd hmember (by decide)

end CrossFlow
