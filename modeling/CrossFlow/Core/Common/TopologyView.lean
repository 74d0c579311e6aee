import CrossFlow.Core.Common.Domain

/-!
# `CrossFlow.Core.Common.TopologyView`: neighbours in a topology

The functions of `NeighborRelation` and `TopologyView` (`core/common/domain.hpp`, `domain.cpp`).
-/

set_option autoImplicit false

namespace CrossFlow

/-- How many neighbours an endpoint names: at most two. -/
def NeighborRelation.neighborCount (rel : NeighborRelation) : UInt8 :=
  (rel.leftNeighbor.isSome.toNat + rel.rightNeighbor.isSome.toNat).toUInt8

namespace TopologyView

/-- The two loops of `hasDuplicateNodeIds` over `endpoints`. -/
def duplicateNodeIds : List EndpointIdentity → Bool
  | [] => false
  | ep :: endpoints => endpoints.any (fun other => ep.nodeId = other.nodeId) ||
      duplicateNodeIds endpoints

/-- Two of the endpoints have one id. -/
def hasDuplicateNodeIds (view : TopologyView) : Bool := duplicateNodeIds view.endpoints

/-- `checkNeighborExists`. -/
def checkNeighborExists (view : TopologyView) (neighbor : Option NodeId) : Bool :=
  match neighbor with
  | none => true
  | some nodeId => view.endpoints.any fun ep => ep.nodeId = nodeId

/-- The checks of a topology: some endpoints, no id twice, and each relation is about an endpoint
and names endpoints. -/
def isLinear (view : TopologyView) : Bool :=
  if view.endpoints.isEmpty then false
  else if view.hasDuplicateNodeIds then false
  else if view.neighborRelations.any fun rel => rel.neighborCount > 2 then false
  else view.neighborRelations.all fun rel =>
    view.endpoints.any (fun ep => ep.nodeId = rel.nodeId) ∧
      view.checkNeighborExists rel.leftNeighbor ∧ view.checkNeighborExists rel.rightNeighbor

/-- The neighbour and its state that a relation has in a direction. -/
def neighborIn (rel : NeighborRelation) : EdgeDirection → Option NodeId × NeighborState
  | .Left => (rel.leftNeighbor, rel.leftState)
  | .Right => (rel.rightNeighbor, rel.rightState)

/-- The neighbour on a side, if it is there and not offline. -/
def neighborOf (view : TopologyView) (nodeId : NodeId) (direction : EdgeDirection) :
    Option EndpointIdentity :=
  match view.neighborRelations.find? fun rel => rel.nodeId = nodeId with
  | none => none
  | some rel =>
    match neighborIn rel direction with
    | (none, _) => none
    | (some neighborId, neighborState) =>
      if neighborState = .Offline then none
      else view.endpoints.find? fun ep => ep.nodeId = neighborId

end TopologyView

end CrossFlow
