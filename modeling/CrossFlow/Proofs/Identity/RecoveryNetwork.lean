import CrossFlow.Core.Identity.RecoveryNetwork
import CrossFlow.Proofs.Identity.RecoveryBinding

/-!
# `CrossFlow.Proofs.Identity.RecoveryNetwork`: whose identity a node recovers

A node answers a request with the identity that it has itself. So what a recovery returns is the
identity of a peer that the node asked for, and its own only if it asked for itself.

* `recovered_is_a_peers`: in every run of the network.
-/

set_option autoImplicit false

namespace CrossFlow

open IdentityRecoveryManager
open Lib (NetworkState Protocol)

/-! ### The calls -/

section Calls

variable {m : IdentityRecoveryManager} {peerNodeId nid : NodeId} {now : UInt64}

/-- To initiate a recovery changes no identity. -/
theorem initiateRecovery_identityMgr :
    (m.initiateRecovery peerNodeId now).1.identityMgr = m.identityMgr := by
  unfold initiateRecovery
  split
  · rfl
  split
  · rfl
  · rfl

/-- To handle a response changes no identity. -/
theorem handleRecoveryResponse_identityMgr (response : IdentityRecoveryResponse) :
    (m.handleRecoveryResponse response).1.identityMgr = m.identityMgr := by
  rw [handleRecoveryResponse_fst]
  split
  · rfl
  · rfl

/-- A recovery that is in progress was so before, or has been initiated without an error. -/
theorem inProgress_initiateRecovery
    (h : (m.initiateRecovery peerNodeId now).1.isRecoveryInProgress nid = true) :
    m.isRecoveryInProgress nid = true ∨
      nid = peerNodeId ∧ (m.initiateRecovery peerNodeId now).2 = none := by
  rw [isRecoveryInProgress_initiateRecovery, Bool.or_eq_true, Bool.and_eq_true] at h
  rcases h with ⟨hpeer, htrusted⟩ | h
  · right
    -- A trusted peer: a recovery that runs already is found again, with no error either.
    obtain rfl := of_decide_eq_true hpeer
    refine ⟨rfl, ?_⟩
    unfold initiateRecovery
    rw [htrusted, if_neg (by simp)]
    split
    · rfl
    · rfl
  · exact .inl h

/-- A response begins no recovery. -/
theorem inProgress_handleRecoveryResponse {response : IdentityRecoveryResponse}
    (h : (m.handleRecoveryResponse response).1.isRecoveryInProgress nid = true) :
    m.isRecoveryInProgress nid = true := by
  rw [handleRecoveryResponse_fst] at h
  split at h
  · rw [isRecoveryInProgress_cancelRecovery] at h
    split at h
    · exact absurd h Bool.false_ne_true
    · exact h
  · exact h

/-- An answer is the identity that the node has. -/
theorem handleRecoveryRequest_answer {request : IdentityRecoveryRequest}
    {outResponse response : IdentityRecoveryResponse}
    (h : m.handleRecoveryRequest request outResponse = (none, response)) :
    ∃ identity, m.identityMgr.identity = some identity ∧ response.identity = some identity ∧
      identity.nodeId = response.responderNodeId := by
  unfold handleRecoveryRequest at h
  split at h
  · exact absurd (congrArg Prod.fst h) (Option.some_ne_none _)
  · next identity hidentity =>
    split at h
    · exact absurd (congrArg Prod.fst h) (Option.some_ne_none _)
    · obtain rfl := congrArg Prod.snd h
      exact ⟨identity, hidentity, rfl, rfl⟩

end Calls

/-! ### The network -/

/-- Some node has, or has had, the identity. -/
def HadBySome (s : NetworkState Nat RecoveringNode RecoveryPacket) (identity : NodeIdentity) :
    Prop :=
  ∃ i, identity ∈ (s.nodes i).held

/-- What a node knows: its own identity is one it has had, and a recovery is in progress for peers
that it has asked for. -/
structure RecoveringNode.Consistent (n : RecoveringNode) : Prop where
  current : ∀ identity, n.manager.identityMgr.identity = some identity → identity ∈ n.held
  inProgress : ∀ nid, n.manager.isRecoveryInProgress nid = true → nid ∈ n.asked

/-- The answer is the identity of the responder, which some node has had. -/
def RecoveryPacket.Authentic (s : NetworkState Nat RecoveringNode RecoveryPacket) :
    RecoveryPacket → Prop
  | .request _ _ => True
  | .response answer => ∃ identity, answer.identity = some identity ∧
      identity.nodeId = answer.responderNodeId ∧ HadBySome s identity

/-- What holds of all nodes and packets at any time. -/
structure RecoveringInv (s : NetworkState Nat RecoveringNode RecoveryPacket) : Prop where
  node : ∀ i, (s.nodes i).Consistent
  returned : ∀ i, ∀ identity ∈ (s.nodes i).returned,
    identity.nodeId ∈ (s.nodes i).asked ∧ HadBySome s identity
  packet : ∀ i m, (i, m) ∈ s.packets → m.Authentic s

section Steps

variable {s : NetworkState Nat RecoveringNode RecoveryPacket} {node : Nat}
  {r : RecoveringNode × List (Nat × RecoveryPacket)}

/-- Nothing that a node has had is forgotten. -/
theorem HadBySome.takes (hheld : (s.nodes node).held ⊆ r.1.held) {identity : NodeIdentity}
    (h : HadBySome s identity) : HadBySome (Protocol.takes s node r) identity := by
  obtain ⟨i, hi⟩ := h
  refine ⟨i, ?_⟩
  by_cases hnode : i = node
  · subst hnode
    rw [Protocol.takes_node]
    exact hheld hi
  · rw [Protocol.takes_node_of_ne s hnode]
    exact hi

/-- A packet stays authentic while a node goes on. -/
theorem RecoveryPacket.Authentic.takes (hheld : (s.nodes node).held ⊆ r.1.held)
    {m : RecoveryPacket} (h : m.Authentic s) : m.Authentic (Protocol.takes s node r) := by
  cases m with
  | request sender request => trivial
  | response response =>
    obtain ⟨identity, hidentity, hid, hhad⟩ := h
    exact ⟨identity, hidentity, hid, hhad.takes hheld⟩

/-- What one node does keeps the invariant, when it forgets nothing, stays consistent, returns
what it has asked for and what some node has had, and sends authentic answers. -/
theorem RecoveringInv.takes (h : RecoveringInv s) (hheld : (s.nodes node).held ⊆ r.1.held)
    (hasked : (s.nodes node).asked ⊆ r.1.asked) (hnode : r.1.Consistent)
    (hreturned : ∀ identity ∈ r.1.returned, identity ∈ (s.nodes node).returned ∨
      identity.nodeId ∈ r.1.asked ∧ HadBySome s identity)
    (hsent : ∀ i m, (i, m) ∈ r.2 → m.Authentic s) : RecoveringInv (Protocol.takes s node r) := by
  constructor
  · intro i
    -- The node that takes the step is as `r` says, and the others are as they were.
    by_cases hi : i = node
    · subst hi
      rw [Protocol.takes_node]
      exact hnode
    · rw [Protocol.takes_node_of_ne s hi]
      exact h.node i
  · intro i identity hidentity
    by_cases hi : i = node
    · subst hi
      rw [Protocol.takes_node] at hidentity ⊢
      rcases hreturned identity hidentity with hbefore | ⟨hpeer, hhad⟩
      · obtain ⟨hpeer, hhad⟩ := h.returned i identity hbefore
        exact ⟨hasked hpeer, hhad.takes hheld⟩
      · exact ⟨hpeer, hhad.takes hheld⟩
    · rw [Protocol.takes_node_of_ne s hi] at hidentity ⊢
      obtain ⟨hpeer, hhad⟩ := h.returned i identity hidentity
      exact ⟨hpeer, hhad.takes hheld⟩
  · intro i m hm
    -- A packet of before, or one that the step sends.
    rcases List.mem_append.mp hm with hm | hm
    · exact (h.packet i m hm).takes hheld
    · exact (hsent i m hm).takes hheld

/-- An input keeps the invariant. -/
theorem RecoveringInv.input (h : RecoveringInv s) (a : RecoveryInput) :
    RecoveringInv (Protocol.takes s node (RecoveringNode.input node (s.nodes node) a)) := by
  have hnode := h.node node
  generalize hn : s.nodes node = n at hnode
  cases a with
  | initiateRecovery peerNodeId now target request =>
    have hmgr : (n.manager.initiateRecovery peerNodeId now).1.identityMgr =
      n.manager.identityMgr := initiateRecovery_identityMgr
    have hprogress (nid : NodeId)
        (h : (n.manager.initiateRecovery peerNodeId now).1.isRecoveryInProgress nid = true) :
        n.manager.isRecoveryInProgress nid = true ∨
          nid = peerNodeId ∧ (n.manager.initiateRecovery peerNodeId now).2 = none :=
      inProgress_initiateRecovery h
    simp only [RecoveringNode.input]
    split
    · -- With an error nothing is sent, and no recovery has come to be in progress.
      next manager e hcall =>
      rw [hcall] at hmgr hprogress
      refine h.takes (hn ▸ List.Subset.refl _) (hn ▸ List.Subset.refl _) ⟨?_, ?_⟩ ?_ ?_
      · exact fun identity hidentity => hnode.current identity (hmgr ▸ hidentity)
      · intro nid hnid
        rcases hprogress nid hnid with hbefore | ⟨-, hnone⟩
        · exact hnode.inProgress nid hbefore
        · exact absurd hnone (by simp)
      · exact fun identity hidentity => .inl (hn ▸ hidentity)
      · exact fun i m hm => absurd hm List.not_mem_nil
    · -- A request goes out, and the node has asked for the peer.
      next manager hcall =>
      rw [hcall] at hmgr hprogress
      refine h.takes (hn ▸ List.Subset.refl _) (hn ▸ List.subset_append_left _ _) ⟨?_, ?_⟩ ?_ ?_
      · exact fun identity hidentity => hnode.current identity (hmgr ▸ hidentity)
      · intro nid hnid
        rcases hprogress nid hnid with hbefore | ⟨rfl, -⟩
        · exact List.mem_append_left _ (hnode.inProgress nid hbefore)
        · exact List.mem_append_right _ (List.mem_singleton_self _)
      · exact fun identity hidentity => .inl (hn ▸ hidentity)
      · intro i m hm
        obtain ⟨rfl, rfl⟩ := Prod.mk.inj (List.mem_singleton.mp hm)
        trivial
  | cancelRecovery peerNodeId =>
    refine h.takes (hn ▸ List.Subset.refl _) (hn ▸ List.Subset.refl _) ⟨hnode.current, ?_⟩ ?_ ?_
    · intro nid hnid
      have hcancel : (n.manager.cancelRecovery peerNodeId).isRecoveryInProgress nid = true := hnid
      rw [isRecoveryInProgress_cancelRecovery] at hcancel
      split at hcancel
      · exact absurd hcancel Bool.false_ne_true
      · exact hnode.inProgress nid hcancel
    · exact fun identity hidentity => .inl (hn ▸ hidentity)
    · exact fun i m hm => absurd hm List.not_mem_nil
  | setTrustedList trustedList =>
    refine h.takes (hn ▸ List.Subset.refl _) (hn ▸ List.Subset.refl _)
      ⟨hnode.current, hnode.inProgress⟩ ?_ ?_
    · exact fun identity hidentity => .inl (hn ▸ hidentity)
    · exact fun i m hm => absurd hm List.not_mem_nil
  -- The new identity, if there is one, is one that the node has had from now on.
  | setIdentity identityMgr =>
    refine h.takes (hn ▸ List.subset_append_left _ _) (hn ▸ List.Subset.refl _)
      ⟨?_, hnode.inProgress⟩ ?_ ?_
    · exact fun identity hidentity =>
        List.mem_append_right _ (Option.mem_toList.mpr hidentity)
    · exact fun identity hidentity => .inl (hn ▸ hidentity)
    · exact fun i m hm => absurd hm List.not_mem_nil

/-- A packet that is received keeps the invariant. -/
theorem RecoveringInv.receive (h : RecoveringInv s) {m : RecoveryPacket}
    (outResponse : IdentityRecoveryResponse) (hm : (node, m) ∈ s.packets) :
    RecoveringInv (Protocol.takes s node ((s.nodes node).receive m outResponse)) := by
  have hnode := h.node node
  have hauthentic := h.packet node m hm
  generalize hn : s.nodes node = n at hnode
  cases m with
  | request sender request =>
    simp only [RecoveringNode.receive]
    split
    · -- A request that is not answered changes nothing.
      refine h.takes (hn ▸ List.Subset.refl _) (hn ▸ List.Subset.refl _) hnode ?_ ?_
      · exact fun identity hidentity => .inl (hn ▸ hidentity)
      · exact fun i m hm => absurd hm List.not_mem_nil
    · next response hcall =>
      refine h.takes (hn ▸ List.Subset.refl _) (hn ▸ List.Subset.refl _) hnode ?_ ?_
      · exact fun identity hidentity => .inl (hn ▸ hidentity)
      · -- The answer is the identity that the node has.
        intro i m hm
        obtain ⟨rfl, rfl⟩ := Prod.mk.inj (List.mem_singleton.mp hm)
        obtain ⟨identity, hcurrent, hidentity, hid⟩ := handleRecoveryRequest_answer hcall
        exact ⟨identity, hidentity, hid, node, hn ▸ hnode.current identity hcurrent⟩
  | response response =>
    -- A response changes what is returned, and no identity.
    refine h.takes (hn ▸ List.Subset.refl _) (hn ▸ List.Subset.refl _) ⟨?_, ?_⟩ ?_ ?_
    · intro identity hidentity
      have hmgr := handleRecoveryResponse_identityMgr (m := n.manager) response
      exact hnode.current identity (hmgr ▸ hidentity)
    · exact fun nid hnid => hnode.inProgress nid (inProgress_handleRecoveryResponse hnid)
    · intro identity hidentity
      rcases List.mem_append.mp hidentity with hbefore | hnow
      · exact .inl (hn ▸ hbefore)
      · -- It comes from a recovery in progress, in an answer that names its own identity.
        right
        have hreturned := handleRecoveryResponse_eq_some.mp (Option.mem_toList.mp hnow)
        obtain ⟨-, hprogress, hcarried⟩ := hreturned
        obtain ⟨identity', hidentity', hid, hhad⟩ := hauthentic
        obtain rfl := Option.some.inj (hcarried.symm.trans hidentity')
        exact ⟨hid ▸ hnode.inProgress _ hprogress, hhad⟩
    · exact fun i m hm => absurd hm List.not_mem_nil

end Steps

/-- The invariant holds in every run of the network. -/
theorem recoveryInv_run (identityMgr : Nat → NodeIdentityManager)
    (trustedList : Nat → TrustedNodeList) :
    (recoveryProtocol identityMgr trustedList).network.Invariant RecoveringInv := by
  refine Protocol.network_run ?_ ?_ ?_
  · constructor
    · intro i
      exact ⟨fun identity hidentity => Option.mem_toList.mpr hidentity,
        fun nid hnid => absurd hnid Bool.false_ne_true⟩
    · exact fun i identity hidentity => absurd hidentity List.not_mem_nil
    · exact fun i m hm => absurd hm List.not_mem_nil
  · exact fun s node a h => h.input a
  · exact fun s node m outResponse h hm => h.receive outResponse hm

/-- In every run of any number of nodes, over a network that may lose, delay, repeat and reorder
the messages, an identity that `handleRecoveryResponse` returns is that of a peer the node asked
for, and some node has had it just so. A node that never asked for itself recovers no identity of
its own. -/
theorem recovered_is_a_peers (identityMgr : Nat → NodeIdentityManager)
    (trustedList : Nat → TrustedNodeList)
    (acts : List (Lib.NetworkAction Nat RecoveryInput IdentityRecoveryResponse)) (node : Nat) :
    let s := (recoveryProtocol identityMgr trustedList).network.run acts
    ∀ identity ∈ (s.nodes node).returned,
      identity.nodeId ∈ (s.nodes node).asked ∧ ∃ i, identity ∈ (s.nodes i).held :=
  (recoveryInv_run identityMgr trustedList acts).returned node

/-- The first node has lost its identity and asks the second, with the id that it had. It gets the
identity of the second. -/
theorem recovered_is_a_peers_lost :
    let first : NodeId := { high := 1, low := 1 }
    let second : NodeId := { high := 2, low := 2 }
    let entry (nodeId : NodeId) : TrustedNodeEntry :=
      { nodeId, pairedAt := 0, lastSeenEpoch := { value := 1 } }
    let desk : NodeIdentity := { NodeIdentity.init with nodeId := second }
    let request : IdentityRecoveryRequest :=
      { nodeId := first
        lastKnownEpoch := { value := 1 }
        lastKnownInstance := { nodeId := first, createdAt := 0, isActive := true }
        fence := .newSession first }
    let outResponse : IdentityRecoveryResponse :=
      { responderNodeId := first, recovered := false, identity := none, fence := .newSession first }
    let s := (recoveryProtocol
      (fun node => { identity := if node = 1 then none else some desk })
      (fun node => { entries := [entry (if node = 1 then second else first)] })).network.run
        [.input 1 (.initiateRecovery second 0 2 request), .deliver 0 outResponse,
          .deliver 1 outResponse]
    desk.nodeId ∈ (s.nodes 1).asked ∧ ∃ i, desk ∈ (s.nodes i).held :=
  recovered_is_a_peers _ _ _ 1 _ (by decide)

end CrossFlow
