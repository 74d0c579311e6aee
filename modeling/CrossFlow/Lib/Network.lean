import CrossFlow.Lib.Machine
import Mathlib.Logic.Function.Basic

/-!
# `CrossFlow.Lib.Network`: nodes that send each other messages

A `Protocol` says what a node does with an input of its own and with a message, and which messages
it sends then. `Protocol.network` is the machine of all nodes and of the messages sent so far. Any
message sent so far may be delivered next, so a run may lose, delay, repeat and reorder messages.

* `network_run`: the induction rule for what holds of the nodes and of the messages together.
* `nodes_and_packets_run`: the same for what holds of every node and of every message.
-/

set_option autoImplicit false

namespace CrossFlow.Lib

/-- A node of the name `ι` with the state `σ` takes inputs `α` and messages `μ`. What it reads off
its surroundings with a message, such as a clock, is `ε`. -/
structure Protocol (ι σ α μ ε : Type) where
  init : ι → σ
  input : ι → σ → α → σ × List (ι × μ)
  receive : ι → σ → μ → ε → σ × List (ι × μ)

/-- The nodes, and every message sent so far with the node it is for. -/
structure NetworkState (ι σ μ : Type) where
  nodes : ι → σ
  packets : List (ι × μ)

/-- A node is given an input, or a message is delivered. -/
inductive NetworkAction (ι α ε : Type) where
  | input (node : ι) (a : α)
  /-- The message that was sent as the `k`th is delivered. -/
  | deliver (k : Nat) (e : ε)

namespace Protocol

variable {ι σ α μ ε : Type} [DecidableEq ι]

/-- A node takes the state and sends the messages. -/
def takes (s : NetworkState ι σ μ) (node : ι) (r : σ × List (ι × μ)) : NetworkState ι σ μ where
  nodes := Function.update s.nodes node r.1
  packets := s.packets ++ r.2

/-- Any number of nodes. A message may be delivered at any time, any number of times, or never. -/
def network (p : Protocol ι σ α μ ε) :
    Machine (NetworkState ι σ μ) (NetworkAction ι α ε) where
  init := { nodes := p.init, packets := [] }
  step s
    | .input node a => takes s node (p.input node (s.nodes node) a)
    | .deliver k e =>
      match s.packets[k]? with
      | some (node, m) => takes s node (p.receive node (s.nodes node) m e)
      | none => s

/-- The induction rule: an input keeps `Inv`, and so does a message that was sent. -/
theorem network_run {p : Protocol ι σ α μ ε} {Inv : NetworkState ι σ μ → Prop}
    (hinit : Inv { nodes := p.init, packets := [] })
    (hinput : ∀ s node a, Inv s → Inv (takes s node (p.input node (s.nodes node) a)))
    (hreceive : ∀ s node m e, Inv s → (node, m) ∈ s.packets →
      Inv (takes s node (p.receive node (s.nodes node) m e))) :
    p.network.Invariant Inv := by
  refine Machine.Invariant.of_step hinit ?_
  intro s a hs
  cases a with
  | input node a => exact hinput s node a hs
  | deliver k e =>
    -- A packet that is not there delivers nothing.
    show Inv (match s.packets[k]? with
      | some (node, m) => Protocol.takes s node (p.receive node (s.nodes node) m e)
      | none => s)
    cases hk : s.packets[k]? with
    | none => exact hs
    | some packet =>
      obtain ⟨node, m⟩ := packet
      exact hreceive s node m e hs (List.mem_of_getElem? hk)

/-- The node goes on to its new state. -/
theorem takes_node (s : NetworkState ι σ μ) (node : ι) (r : σ × List (ι × μ)) :
    (takes s node r).nodes node = r.1 := Function.update_self ..

/-- The other nodes stay as they are. -/
theorem takes_node_of_ne (s : NetworkState ι σ μ) {node i : ι} (h : i ≠ node)
    (r : σ × List (ι × μ)) : (takes s node r).nodes i = s.nodes i := Function.update_of_ne h ..

/-- What `P` says of each node and `Q` of each message. -/
structure Holds (P : ι → σ → Prop) (Q : ι → μ → Prop) (s : NetworkState ι σ μ) : Prop where
  node : ∀ i, P i (s.nodes i)
  packet : ∀ i m, (i, m) ∈ s.packets → Q i m

/-- What holds of all nodes and messages is kept when it holds of the new ones. -/
theorem Holds.takes {P : ι → σ → Prop} {Q : ι → μ → Prop} {s : NetworkState ι σ μ}
    (hs : Holds P Q s) {node : ι} {r : σ × List (ι × μ)} (hnode : P node r.1)
    (hsent : ∀ i m, (i, m) ∈ r.2 → Q i m) : Holds P Q (takes s node r) where
  node i := by
    by_cases hi : i = node
    · subst hi
      rw [takes_node]
      exact hnode
    · rw [takes_node_of_ne s hi]
      exact hs.node i
  packet i m hm := by
    rcases List.mem_append.mp hm with hm | hm
    · exact hs.packet i m hm
    · exact hsent i m hm

/-- What a node keeps with its own inputs and with the messages that have `Q`, sending only such
messages, holds of every node in every run, and every message has `Q`. -/
theorem nodes_and_packets_run {p : Protocol ι σ α μ ε} {P : ι → σ → Prop} {Q : ι → μ → Prop}
    (hinit : ∀ i, P i (p.init i))
    (hinput : ∀ i s a, P i s →
      P i (p.input i s a).1 ∧ ∀ j m, (j, m) ∈ (p.input i s a).2 → Q j m)
    (hreceive : ∀ i s m e, P i s → Q i m →
      P i (p.receive i s m e).1 ∧ ∀ j m', (j, m') ∈ (p.receive i s m e).2 → Q j m') :
    p.network.Invariant (Holds P Q) := by
  refine network_run ?_ ?_ ?_
  · exact { node := hinit, packet := fun i m hm => absurd hm List.not_mem_nil }
  · intro s node a hs
    obtain ⟨hnode, hsent⟩ := hinput node (s.nodes node) a (hs.node node)
    exact hs.takes hnode hsent
  · intro s node m e hs hm
    obtain ⟨hnode, hsent⟩ := hreceive node (s.nodes node) m e (hs.node node) (hs.packet node m hm)
    exact hs.takes hnode hsent

end Protocol

end CrossFlow.Lib
