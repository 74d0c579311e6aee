import CrossFlow.Core.Common.TopologyView
import CrossFlow.Lib.KeyedList
import Mathlib.Data.List.Nodup

/-!
# `CrossFlow.Proofs.Membership.LinearTopology`: neighbours in a topology that is accepted

`isLinear` asks of every relation that it is one of endpoints, and of no relation what the relation
of the neighbour says.

* `neighborOf_eq_some_iff`: in an accepted view that is online a neighbour is what the first relation
  of an endpoint names.
* `linear_consistent_iff`: the exact views in which neighbours agree.
* `fork_is_linear`: one in which they do not.
-/

set_option autoImplicit false

namespace CrossFlow

/-- The other direction. -/
def EdgeDirection.opposite : EdgeDirection → EdgeDirection
  | .Left => .Right
  | .Right => .Left

namespace TopologyView

/-- All neighbour states are `Online`. -/
def AllOnline (view : TopologyView) : Prop :=
  ∀ rel ∈ view.neighborRelations, rel.leftState = .Online ∧ rel.rightState = .Online

/-- Neighbours agree: to the right and then to the left leads back, nobody is next to itself, and no
two endpoints have the same neighbour on the same side. -/
structure Consistent (view : TopologyView) : Prop where
  inverse : ∀ x ∈ view.endpoints, ∀ y ∈ view.endpoints,
    view.neighborOf x.nodeId .Right = some y ↔ view.neighborOf y.nodeId .Left = some x
  irrefl : ∀ x ∈ view.endpoints, ∀ direction, view.neighborOf x.nodeId direction ≠ some x
  unshared : ∀ x ∈ view.endpoints, ∀ x' ∈ view.endpoints, ∀ y ∈ view.endpoints, ∀ direction,
    view.neighborOf x.nodeId direction = some y → view.neighborOf x'.nodeId direction = some y →
      x = x'

/-- What the first relation of a node names in a direction. -/
def link (view : TopologyView) (nodeId : NodeId) (direction : EdgeDirection) : Option NodeId :=
  (view.neighborRelations.find? fun rel => rel.nodeId = nodeId).bind fun rel =>
    (neighborIn rel direction).1

/-- Each neighbour that the first relation of a node names is another node, and the first relation
of that node names the first one on its other side. -/
def LinksAnswered (view : TopologyView) : Prop :=
  ∀ rel ∈ view.neighborRelations, ∀ direction neighborId,
    view.link rel.nodeId direction = some neighborId →
      neighborId ≠ rel.nodeId ∧ view.link neighborId direction.opposite = some rel.nodeId

/-! ### What `isLinear` accepts -/

/-- No id is there twice. -/
theorem duplicateNodeIds_iff (endpoints : List EndpointIdentity) :
    duplicateNodeIds endpoints = false ↔ (endpoints.map EndpointIdentity.nodeId).Nodup := by
  induction endpoints with
  | nil => exact iff_of_true rfl List.nodup_nil
  | cons ep endpoints ih =>
    rw [duplicateNodeIds, Bool.or_eq_false_iff, ih, List.map_cons, List.nodup_cons]
    refine and_congr_left fun _ => ?_
    simp only [List.any_eq_false, decide_eq_true_eq, List.mem_map, not_exists, not_and]
    exact forall₂_congr fun other _ => ne_comm

variable {view : TopologyView}

/-- The endpoints of an accepted view are different, and its relations are between endpoints. -/
structure Accepted (view : TopologyView) : Prop where
  nodup : (view.endpoints.map EndpointIdentity.nodeId).Nodup
  ofEndpoint : ∀ rel ∈ view.neighborRelations, ∃ x ∈ view.endpoints, x.nodeId = rel.nodeId
  toEndpoint : ∀ rel ∈ view.neighborRelations, ∀ direction neighborId,
    (neighborIn rel direction).1 = some neighborId → ∃ y ∈ view.endpoints, y.nodeId = neighborId

/-- A neighbour that is named is an endpoint. -/
theorem checkNeighborExists_iff (neighbor : Option NodeId) :
    view.checkNeighborExists neighbor = true ↔
      ∀ neighborId, neighbor = some neighborId → ∃ y ∈ view.endpoints, y.nodeId = neighborId := by
  cases neighbor with
  | none => exact iff_of_true rfl fun _ h => absurd h.symm (Option.some_ne_none _)
  | some neighborId => simp [checkNeighborExists]

/-- A topology that is linear is accepted by each of the checks. -/
theorem accepted_of_isLinear (h : view.isLinear = true) : view.Accepted := by
  unfold isLinear at h
  split at h
  · exact absurd h Bool.false_ne_true
  · split at h
    · exact absurd h Bool.false_ne_true
    · next hduplicate =>
      split at h
      · exact absurd h Bool.false_ne_true
      · -- All three checks have passed: no id is there twice, and every relation names endpoints.
        rw [Bool.not_eq_true, hasDuplicateNodeIds, duplicateNodeIds_iff] at hduplicate
        have hrel : ∀ rel ∈ view.neighborRelations, (∃ x ∈ view.endpoints, x.nodeId = rel.nodeId) ∧
            view.checkNeighborExists rel.leftNeighbor = true ∧
              view.checkNeighborExists rel.rightNeighbor = true := by
          intro rel hmem
          simpa using List.all_eq_true.mp h rel hmem
        refine ⟨hduplicate, fun rel hmem => (hrel rel hmem).1, ?_⟩
        intro rel hmem direction
        obtain ⟨-, hleft, hright⟩ := hrel rel hmem
        cases direction with
        | Left => exact (checkNeighborExists_iff _).mp hleft
        | Right => exact (checkNeighborExists_iff _).mp hright

/-- What a link comes from. -/
theorem relation_of_link {nodeId neighborId : NodeId} {direction : EdgeDirection}
    (h : view.link nodeId direction = some neighborId) :
    ∃ rel ∈ view.neighborRelations, rel.nodeId = nodeId ∧
      (neighborIn rel direction).1 = some neighborId := by
  obtain ⟨rel, hfind, hlink⟩ := Option.bind_eq_some_iff.mp h
  exact ⟨rel, List.mem_of_find?_eq_some hfind, by simpa using List.find?_some hfind, hlink⟩

/-- In an accepted view that is online, an endpoint's neighbour is the one its link names. -/
theorem neighborOf_eq_some_iff (h : view.Accepted) (honline : view.AllOnline) {nodeId : NodeId}
    {direction : EdgeDirection} {y : EndpointIdentity} (hy : y ∈ view.endpoints) :
    view.neighborOf nodeId direction = some y ↔ view.link nodeId direction = some y.nodeId := by
  have hsearch : (view.endpoints.find? fun ep => ep.nodeId = y.nodeId) = some y :=
    Lib.KeyedList.find_of_mem EndpointIdentity.nodeId h.nodup hy
  unfold neighborOf link
  cases hfind : view.neighborRelations.find? fun rel => rel.nodeId = nodeId with
  | none => exact iff_of_false (Option.some_ne_none y).symm (Option.some_ne_none _).symm
  | some rel =>
    have hstate : (neighborIn rel direction).2 ≠ .Offline := by
      obtain ⟨hleft, hright⟩ := honline rel (List.mem_of_find?_eq_some hfind)
      cases direction with
      | Left => exact fun hoff => NeighborState.noConfusion (hleft.symm.trans hoff)
      | Right => exact fun hoff => NeighborState.noConfusion (hright.symm.trans hoff)
    rw [Option.bind_some]
    dsimp only
    generalize neighborIn rel direction = next at hstate
    obtain ⟨neighbor, state⟩ := next
    cases neighbor with
    | none => exact iff_of_false (Option.some_ne_none y).symm (Option.some_ne_none _).symm
    | some neighborId =>
      dsimp only
      -- A neighbour that is online is searched by its node id, which no other endpoint has.
      rw [if_neg hstate, Option.some_inj]
      constructor
      · intro hfound
        have hid : EndpointIdentity.nodeId y = neighborId := Lib.KeyedList.key_of_find hfound
        exact hid.symm
      · intro hid
        rw [hid]
        exact hsearch

/-! ### When neighbours agree -/

/-- A view that `isLinear` accepts and whose neighbours are all online: the neighbours agree exactly
when every link is answered by the opposite link of another node. -/
theorem linear_consistent_iff (hlinear : view.isLinear = true) (honline : view.AllOnline) :
    view.Consistent ↔ view.LinksAnswered := by
  have h := accepted_of_isLinear hlinear
  have hneighbor : ∀ {nodeId direction y}, y ∈ view.endpoints →
      (view.neighborOf nodeId direction = some y ↔
        view.link nodeId direction = some y.nodeId) := fun hy => neighborOf_eq_some_iff h honline hy
  constructor
  · intro hconsistent rel hrel direction neighborId hlink
    obtain ⟨x, hx, hxid⟩ := h.ofEndpoint rel hrel
    obtain ⟨rel', hrel', -, hnames⟩ := relation_of_link hlink
    obtain ⟨y, hy, hyid⟩ := h.toEndpoint rel' hrel' direction neighborId hnames
    rw [← hxid, ← hyid] at hlink ⊢
    have hnext := (hneighbor hy).mpr hlink
    constructor
    · -- A link to itself would make an endpoint its own neighbour.
      intro hsame
      have hself := (hneighbor hx).mpr (hsame ▸ hlink)
      exact hconsistent.irrefl x hx direction hself
    · cases direction with
      | Right => exact (hneighbor hx).mp ((hconsistent.inverse x hx y hy).mp hnext)
      | Left => exact (hneighbor hx).mp ((hconsistent.inverse y hy x hx).mpr hnext)
  · intro hanswered
    have hanswer : ∀ {nodeId direction neighborId}, view.link nodeId direction = some neighborId →
        neighborId ≠ nodeId ∧ view.link neighborId direction.opposite = some nodeId := by
      intro nodeId direction neighborId hlink
      obtain ⟨rel, hrel, rfl, -⟩ := relation_of_link hlink
      exact hanswered rel hrel direction neighborId hlink
    refine ⟨?_, ?_, ?_⟩
    · intro x hx y hy
      rw [hneighbor hy, hneighbor hx]
      exact ⟨fun hlink => (hanswer hlink).2, fun hlink => (hanswer hlink).2⟩
    · intro x hx direction hself
      exact (hanswer ((hneighbor hx).mp hself)).1 rfl
    · intro x hx x' hx' y hy direction hnext hnext'
      -- Both are named by the one link back.
      have hback := (hanswer ((hneighbor hy).mp hnext)).2
      have hback' := (hanswer ((hneighbor hy).mp hnext')).2
      have hid := Option.some.inj (hback.symm.trans hback')
      exact List.inj_on_of_nodup_map h.nodup hx hx' hid

/-- An endpoint of a view, by the low half of its id. -/
def endpoint (low : UInt64) : EndpointIdentity where
  nodeId := { high := 0, low }
  platform := .Mac
  screenBoundary := { width := 1920, height := 1080, originX := 0, originY := 0 }

/-- A relation whose neighbours are online. -/
def onlineRelation (low : UInt64) (leftNeighbor rightNeighbor : Option UInt64) :
    NeighborRelation where
  nodeId := { high := 0, low }
  leftNeighbor := leftNeighbor.map fun low => { high := 0, low }
  rightNeighbor := rightNeighbor.map fun low => { high := 0, low }
  leftState := .Online
  rightState := .Online

/-- Two endpoints, the one next to the other. -/
def pair : TopologyView where
  endpoints := [endpoint 1, endpoint 2]
  neighborRelations := [onlineRelation 1 none (some 2), onlineRelation 2 (some 1) none]
  version := 1

/-- Two endpoints that name one another. -/
theorem linear_consistent_pair : pair.Consistent := by
  refine (linear_consistent_iff (by decide) ?_).mpr ?_
  · simp [AllOnline, pair, onlineRelation]
  · intro rel hrel direction neighborId hlink
    rcases List.mem_pair.mp hrel with rfl | rfl
    · cases direction with
      | Left => exact absurd hlink (by simp [pair, link, onlineRelation, neighborIn])
      | Right =>
        obtain rfl : (endpoint 2).nodeId = neighborId := Option.some.inj hlink
        exact ⟨by decide, by decide⟩
    · cases direction with
      | Right => exact absurd hlink (by simp [pair, link, onlineRelation, neighborIn])
      | Left =>
        obtain rfl : (endpoint 1).nodeId = neighborId := Option.some.inj hlink
        exact ⟨by decide, by decide⟩

/-- Two endpoints with the same right neighbour, which names the first of them. -/
def fork : TopologyView where
  endpoints := [endpoint 1, endpoint 2, endpoint 3]
  neighborRelations :=
    [ onlineRelation 1 none (some 3), onlineRelation 2 none (some 3),
      onlineRelation 3 (some 1) none ]
  version := 1

/-- A fork passes all checks. -/
theorem fork_is_linear :
    ¬ ∀ view : TopologyView, view.isLinear = true → view.AllOnline → view.Consistent := by
  intro hclaim
  have hconsistent := hclaim fork (by decide) (by simp [AllOnline, fork, onlineRelation])
  have hsame := hconsistent.unshared (endpoint 1) (by decide) (endpoint 2) (by decide) (endpoint 3)
    (by decide) .Right (by decide) (by decide)
  exact absurd hsame (by decide)

end TopologyView

end CrossFlow
