import CrossFlow.Core.Common.Domain
import CrossFlow.Lib.KeyedList

/-!
# `CrossFlow.Core.Pairing.TrustedNodeList`: the trusted nodes

The model of `s08_pairing/trusted_node_list.hpp` and `.cpp`, without the file.
-/

set_option autoImplicit false

namespace CrossFlow

/-- The peers that are trusted. -/
structure TrustedNodeList where
  entries : List TrustedNodeEntry
  deriving DecidableEq

namespace TrustedNodeList

/-- Nobody is trusted. -/
def init : TrustedNodeList where
  entries := []

/-- The entry of a node. -/
def find (l : TrustedNodeList) (nodeId : NodeId) : Option TrustedNodeEntry :=
  Lib.KeyedList.find TrustedNodeEntry.nodeId nodeId l.entries

/-- There is an entry of the node. -/
def isTrusted (l : TrustedNodeList) (nodeId : NodeId) : Bool := (l.find nodeId).isSome

/-- An entry of the same node is replaced where it stands. -/
def add (l : TrustedNodeList) (entry : TrustedNodeEntry) : TrustedNodeList where
  entries :=
    match l.find entry.nodeId with
    | some _ =>
      Lib.KeyedList.modify TrustedNodeEntry.nodeId entry.nodeId (fun _ => entry) l.entries
    | none => l.entries ++ [entry]

/-- The entry of the node goes. -/
def remove (l : TrustedNodeList) (nodeId : NodeId) : TrustedNodeList where
  entries := Lib.KeyedList.erase TrustedNodeEntry.nodeId nodeId l.entries

end TrustedNodeList

end CrossFlow
