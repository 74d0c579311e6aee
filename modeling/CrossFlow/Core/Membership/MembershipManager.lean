import CrossFlow.Core.Common.Domain
import CrossFlow.Lib.KeyedList
import CrossFlow.Lib.Machine

/-!
# `CrossFlow.Core.Membership.MembershipManager`: the members of the topology

The model of `s09_membership/membership_manager.hpp` and `.cpp`.
-/

set_option autoImplicit false

namespace CrossFlow

open Lib (Machine)

/-- The members, in the order in which they joined. -/
structure MembershipManager where
  members : List MembershipEntry
  deriving DecidableEq

namespace MembershipManager

/-- No members. -/
def init : MembershipManager where
  members := []

/-- The entry of a member. -/
def getMember (m : MembershipManager) (nodeId : NodeId) : Option MembershipEntry :=
  Lib.KeyedList.find MembershipEntry.nodeId nodeId m.members

/-- A member of the same node is replaced where it stands. -/
def addMember (m : MembershipManager) (entry : MembershipEntry) :
    MembershipManager × Option ErrorCode :=
  match m.getMember entry.nodeId with
  | some _ =>
    ({ members := Lib.KeyedList.modify MembershipEntry.nodeId entry.nodeId (fun _ => entry)
        m.members }, none)
  | none => ({ members := m.members ++ [entry] }, none)

/-- A node that is no member is removed without an error. -/
def removeMember (m : MembershipManager) (nodeId : NodeId) : MembershipManager × Option ErrorCode :=
  ({ members := Lib.KeyedList.erase MembershipEntry.nodeId nodeId m.members }, none)

/-- Whether the member can be reached. -/
def setMemberOnline (m : MembershipManager) (nodeId : NodeId) (online : Bool) :
    MembershipManager × Option ErrorCode :=
  match m.getMember nodeId with
  | some _ =>
    ({ members := Lib.KeyedList.modify MembershipEntry.nodeId nodeId
        (fun entry => { entry with isOnline := online }) m.members }, none)
  | none => (m, some .SessUnknownNode)

/-- Three members or more, all with a neighbour on both sides. -/
def isCircular (m : MembershipManager) : Bool :=
  if m.members.length < 3 then false
  else m.members.all fun entry =>
    entry.topologyMembership.leftNeighbor.isSome ∧ entry.topologyMembership.rightNeighbor.isSome

/-- Fewer than three members are online, or the topology is no circle. The count has 32 bits. -/
def isDegraded (m : MembershipManager) : Bool :=
  if m.members.isEmpty then true
  else
    let onlineCount : UInt32 := m.members.foldl
      (fun onlineCount entry => if entry.isOnline then onlineCount + 1 else onlineCount) 0
    onlineCount < 3 ∨ !m.isCircular

end MembershipManager

/-! ### Runs -/

/-- The calls that change the members. -/
inductive MembershipCall where
  | addMember (entry : MembershipEntry)
  | removeMember (nodeId : NodeId)
  | setMemberOnline (nodeId : NodeId) (online : Bool)

/-- One call. -/
def MembershipManager.step (m : MembershipManager) : MembershipCall → MembershipManager
  | .addMember entry => (m.addMember entry).1
  | .removeMember nodeId => (m.removeMember nodeId).1
  | .setMemberOnline nodeId online => (m.setMemberOnline nodeId online).1

/-- A manager, in any order of these calls. -/
def membershipMachine : Machine MembershipManager MembershipCall where
  init := MembershipManager.init
  step := MembershipManager.step

end CrossFlow
