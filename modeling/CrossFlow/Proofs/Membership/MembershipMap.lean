import CrossFlow.Core.Membership.MembershipManager
import CrossFlow.Lib.OrderedMap
import CrossFlow.Proofs.Membership.RingTopology

/-!
# `CrossFlow.Proofs.Membership.MembershipMap`: the members as a map

The list of members is a map from node ids to members, in the order in which they joined, and each
call does to the map what its name says (`membersView`). What the manager says of the topology is
read off the map.

* `members_refine`: after every run.
-/

set_option autoImplicit false

namespace CrossFlow

open Lib (Machine OrderedMap)

/-- The members by their node ids, in the order in which they joined. -/
abbrev MembershipMap : Type := OrderedMap NodeId MembershipEntry

/-- The map, in any order of the calls. -/
def membershipMapMachine : Machine MembershipMap MembershipCall where
  init := .empty
  step m
    | .addMember entry => m.set entry.nodeId entry
    | .removeMember nodeId => m.remove nodeId
    | .setMemberOnline nodeId online =>
      m.modify nodeId fun entry => { entry with isOnline := online }

namespace MembershipMap

/-- The member names a neighbour on both sides. -/
def Linked (m : MembershipMap) (nodeId : NodeId) : Prop :=
  ∃ entry, m.entry nodeId = some entry ∧
    entry.topologyMembership.leftNeighbor ≠ none ∧ entry.topologyMembership.rightNeighbor ≠ none

/-- How many members are online. -/
def onlineCount (m : MembershipMap) : Nat := m.values.countP fun entry => entry.isOnline

end MembershipMap

namespace MembershipManager

/-- The members as a map by their ids. -/
def view (m : MembershipManager) : MembershipMap :=
  .ofList MembershipEntry.nodeId m.members

/-- Each call does to the map what it is to do. -/
theorem view_step (m : MembershipManager) (c : MembershipCall) :
    (m.step c).view = membershipMapMachine.step m.view c := by
  cases c with
  | addMember entry =>
    show (m.addMember entry).1.view = m.view.set entry.nodeId entry
    unfold addMember
    -- A member that joins again is replaced where it stands.
    cases hfind : m.getMember entry.nodeId with
    | some found => exact OrderedMap.ofList_replace rfl hfind
    | none => exact OrderedMap.ofList_append rfl hfind
  | removeMember nodeId => exact OrderedMap.ofList_erase m.members
  | setMemberOnline nodeId online =>
    let setOnline (entry : MembershipEntry) : MembershipEntry := { entry with isOnline := online }
    have hkept (entry : MembershipEntry) (hid : entry.nodeId = nodeId) :
        (setOnline entry).nodeId = nodeId := hid
    have hmodify : OrderedMap.ofList MembershipEntry.nodeId
        (Lib.KeyedList.modify MembershipEntry.nodeId nodeId setOnline m.members) =
          m.view.modify nodeId setOnline :=
      OrderedMap.ofList_modify hkept m.members
    show (m.setMemberOnline nodeId online).1.view =
      m.view.modify nodeId fun entry => { entry with isOnline := online }
    unfold setMemberOnline
    cases hfind : m.getMember nodeId with
    | some found => exact hmodify
    | none =>
      -- No member has the id, so that nothing is changed.
      have hnone := (Lib.KeyedList.find_eq_none_iff MembershipEntry.nodeId).mp hfind
      have hsame : Lib.KeyedList.modify MembershipEntry.nodeId nodeId setOnline m.members =
          m.members :=
        Lib.KeyedList.modify_of_not_mem MembershipEntry.nodeId fun x hx hid =>
          hnone (List.mem_map.mpr ⟨x, hx, hid⟩)
      rw [hsame] at hmodify
      exact hmodify

end MembershipManager

/-- The manager, seen as the map. -/
def membersView : Lib.Refinement membershipMachine membershipMapMachine where
  view := MembershipManager.view
  acts _ c := [c]
  view_init := rfl
  view_step m c := m.view_step c

/-- The calls are the same on both sides. -/
theorem trace_membersView (m : MembershipManager) (calls : List MembershipCall) :
    membersView.trace m calls = calls := by
  induction calls generalizing m with
  | nil => rfl
  | cons c calls ih => exact congrArg (c :: ·) (ih _)

/-! ### What is said of the topology -/

namespace MembershipManager

variable {m : MembershipManager}

/-- No link is missing when all members name both neighbours. -/
theorem linkMissing_iff (hnodup : m.ids.Nodup) :
    ¬ m.LinkMissing ↔ ∀ nodeId ∈ m.view.order, m.view.Linked nodeId := by
  have hentry : ∀ entry ∈ m.members, m.view.entry entry.nodeId = some entry :=
    fun entry hentry => Lib.KeyedList.find_of_mem MembershipEntry.nodeId hnodup hentry
  constructor
  · intro h nodeId hid
    obtain ⟨entry, hmem, rfl⟩ := List.mem_map.mp hid
    refine ⟨entry, hentry entry hmem, ?_, ?_⟩
    · exact fun hleft => h ⟨entry, hmem, .inl hleft⟩
    · exact fun hright => h ⟨entry, hmem, .inr hright⟩
  · rintro h ⟨entry, hmem, hmissing⟩
    -- No id is listed twice, so the member found by the id is the one that is listed.
    obtain ⟨entry', hfound, hleft, hright⟩ := h entry.nodeId (List.mem_map_of_mem hmem)
    obtain rfl := Option.some.inj ((hentry entry hmem).symm.trans hfound)
    exact hmissing.elim hleft hright

/-- The topology is circular when the map is large enough and all its members are linked. -/
theorem isCircular_view (hnodup : m.ids.Nodup) :
    m.isCircular = true ↔
      3 ≤ m.view.order.length ∧ ∀ nodeId ∈ m.view.order, m.view.Linked nodeId := by
  rw [isCircular_iff, linkMissing_iff hnodup]
  show 3 ≤ m.members.length ∧ _ ↔ 3 ≤ (m.members.map _).length ∧ _
  rw [List.length_map]

/-- The count of `isDegraded` is a 32-bit one. -/
theorem foldl_onlineCount (members : List MembershipEntry) (n : UInt32) :
    members.foldl
        (fun onlineCount entry => if entry.isOnline then onlineCount + 1 else onlineCount) n =
      n + .ofNat (members.countP fun entry => entry.isOnline) := by
  induction members generalizing n with
  | nil => simp
  | cons entry members ih =>
    rw [List.foldl_cons, ih, List.countP_cons]
    cases entry.isOnline with
    | false => simp
    | true => simp [UInt32.ofNat_add, UInt32.add_assoc, UInt32.add_comm]

/-- The topology is not degraded when it is circular and enough members are online. -/
theorem isDegraded_iff :
    m.isDegraded = false ↔
      m.isCircular = true ∧ 3 ≤ m.members.countP (fun entry => entry.isOnline) % 2 ^ 32 := by
  unfold isDegraded
  by_cases hempty : m.members = []
  · have hcircular : m.isCircular = false := by simp [isCircular, hempty]
    simp [hempty, hcircular]
  · have hnonempty : m.members.isEmpty = false := by simpa using hempty
    rw [hnonempty, if_neg Bool.false_ne_true]
    dsimp only
    rw [foldl_onlineCount, UInt32.zero_add, decide_eq_false_iff_not, not_or, Bool.not_eq_true',
      Bool.not_eq_false, and_comm, UInt32.lt_iff_toNat_lt, UInt32.toNat_ofNat', Nat.not_lt]
    rfl

end MembershipManager

/-- After every run: the members are found as in the map and are listed once each in the order in
which they joined. The topology is circular when there are three that all name both neighbours, and
not degraded when it is circular and three are online, counted in 32 bits. -/
theorem members_refine (calls : List MembershipCall) :
    let m := membershipMachine.run calls
    let a := membershipMapMachine.run calls
    (∀ nodeId, m.getMember nodeId = a.entry nodeId) ∧ m.members = a.values ∧ a.WellFormed ∧
      (m.isCircular = true ↔ 3 ≤ a.order.length ∧ ∀ nodeId ∈ a.order, a.Linked nodeId) ∧
      (m.isDegraded = false ↔ 3 ≤ a.order.length ∧ (∀ nodeId ∈ a.order, a.Linked nodeId) ∧
        3 ≤ a.onlineCount % 2 ^ 32) := by
  intro m a
  have hnodup : m.ids.Nodup := MembershipManager.nodup_run calls
  -- The calls are those of the map, one for one.
  have hview : m.view = a := by
    have hrun := membersView.view_run calls
    rwa [trace_membersView] at hrun
  have hvalues : m.view.values = m.members :=
    OrderedMap.values_ofList MembershipEntry.nodeId hnodup
  have hcircular := MembershipManager.isCircular_view hnodup
  rw [← hview]
  refine ⟨fun nodeId => rfl, hvalues.symm, OrderedMap.wellFormed_ofList _ hnodup, hcircular, ?_⟩
  rw [MembershipManager.isDegraded_iff, hcircular, and_assoc, MembershipMap.onlineCount, hvalues]

end CrossFlow
