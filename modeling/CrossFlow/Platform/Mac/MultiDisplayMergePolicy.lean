import CrossFlow.Core.Common.Domain

/-!
# `CrossFlow.Platform.Mac.MultiDisplayMergePolicy`: several displays as one screen

The model of `platform/mac/multi_display_merge_policy.hpp` and `.cpp`.
-/

set_option autoImplicit false

namespace CrossFlow

/-- What is done with several displays. -/
inductive MultiDisplayMergePolicy where
  | MergeBoundingBox
  | Unsupported
  deriving DecidableEq

/-- The policy, if one was set. -/
structure MultiDisplayMergePolicyConfig where
  policy : Option MultiDisplayMergePolicy
  deriving DecidableEq

/-- The variables of the loop in `mergeBoundingBox`. -/
structure MergedEdges where
  minX : UInt32
  minY : UInt32
  maxX : UInt32
  maxY : UInt32
  deriving DecidableEq

namespace MultiDisplayMergePolicyConfig

/-- No policy. -/
def init : MultiDisplayMergePolicyConfig where
  policy := none

/-- One display needs no policy. -/
def loadPolicy (config : MultiDisplayMergePolicyConfig) (displayCount : UInt32) :
    Option MultiDisplayMergePolicy :=
  if displayCount ≤ 1 then none else config.policy

/-- The boundary without an area. -/
def rejectUndeclared : ScreenBoundary where
  width := 0
  height := 0
  originX := 0
  originY := 0

/-- The policy is replaced. -/
def setPolicy (config : MultiDisplayMergePolicyConfig) (policy : MultiDisplayMergePolicy) :
    MultiDisplayMergePolicyConfig := { config with policy := some policy }

/-- The edges of a boundary, in 32 bits. -/
def edgesOf (boundary : ScreenBoundary) : MergedEdges where
  minX := boundary.originX
  minY := boundary.originY
  maxX := boundary.originX + boundary.width
  maxY := boundary.originY + boundary.height

/-- A turn of the loop in `mergeBoundingBox`. -/
def extendEdges (edges : MergedEdges) (boundary : ScreenBoundary) : MergedEdges where
  minX := min edges.minX boundary.originX
  minY := min edges.minY boundary.originY
  maxX := max edges.maxX (boundary.originX + boundary.width)
  maxY := max edges.maxY (boundary.originY + boundary.height)

/-- The size of the box around all boundaries, with the origin at 0. -/
def mergeBoundingBox : List ScreenBoundary → ScreenBoundary
  | [] => { width := 0, height := 0, originX := 0, originY := 0 }
  | boundary :: boundaries =>
    let edges := boundaries.foldl extendEdges (edgesOf boundary)
    { width := edges.maxX - edges.minX
      height := edges.maxY - edges.minY
      originX := 0
      originY := 0 }

/-- One boundary is taken as it is; several need a policy. -/
def merge (config : MultiDisplayMergePolicyConfig) (boundaries : List ScreenBoundary) :
    ScreenBoundary :=
  match boundaries with
  | [] => { width := 0, height := 0, originX := 0, originY := 0 }
  | boundary :: _ =>
    let displayCount := boundaries.length.toUInt32
    if displayCount = 1 then
      { width := boundary.width, height := boundary.height, originX := 0, originY := 0 }
    else
      match config.loadPolicy displayCount with
      | none => rejectUndeclared
      | some .Unsupported => rejectUndeclared
      | some .MergeBoundingBox => mergeBoundingBox boundaries

end MultiDisplayMergePolicyConfig

end CrossFlow
