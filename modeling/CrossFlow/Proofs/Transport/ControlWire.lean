import CrossFlow.Core.Transport.ControlWire

/-!
# `CrossFlow.Proofs.Transport.ControlWire`: which control messages cross to another process

The receiver gets the words of the sender's object: they are a message again when no member is the
address of a block in the sender's heap.

* `read_ownHeap`: in the sender's own heap every message is read back.
* `reads_everywhere_controlMessage`: in every heap, exactly the messages whose containers are empty.
* `controlMessage_crosses_iff`: the messages that arrive and whose bytes show no address.
* `pairingMessage_does_not_cross`: one that does not.
-/

set_option autoImplicit false

namespace CrossFlow

open Lib (Layout Heap Image Placement)
open TransportImpl Layouts

/-- The message an object stands for in the heap of its process. -/
def readMessage (heap : Heap) (msg : Image) : Option ControlMessage :=
  (controlMessage.read heap msg).map Prod.fst

/-- The object the receiver gets of a message the sender holds at `sender`. -/
def receiveMessage (sender : Placement) (m : ControlMessage) : Image :=
  let data := serializeMessage (controlMessage.write sender.address m)
  deserializeMessage data data.length

/-- The message is read back from its bytes in every process. -/
def RoundTripsEverywhere (m : ControlMessage) : Prop :=
  ∀ (sender : Placement) (receiver : Heap), readMessage receiver (receiveMessage sender m) = some m

/-- The bytes do not depend on where the sender has allocated the blocks of the message. -/
def AddressFree (m : ControlMessage) : Prop :=
  ∀ sender sender' : Placement,
    serializeMessage (controlMessage.write sender.address m) =
      serializeMessage (controlMessage.write sender'.address m)

/-- The message has no string and no vector. An identity and a membership hold some, when they are
there. -/
def ControlMessage.HoldsNoContainer : ControlMessage → Prop
  | ⟨.HandoffRequestMessage, _⟩ => True
  | ⟨.HandoffResponseMessage, _⟩ => True
  | ⟨.HeartbeatMessage, _⟩ => True
  | ⟨.TopologyDeclarationMessage, _⟩ => True
  | ⟨.TopologySyncMessage, _⟩ => False
  | ⟨.PairingMessage, _⟩ => False
  | ⟨.DiscoveryAnnouncement, _⟩ => False
  | ⟨.PairingRequest, _⟩ => False
  | ⟨.PairingResponse, m⟩ => PairingResponse.identity m = none
  | ⟨.RegistrationRequest, _⟩ => False
  | ⟨.RegistrationResponse, m⟩ => RegistrationResponse.membership m = none
  | ⟨.MembershipChangeNotification, _⟩ => False
  | ⟨.IdentityRecoveryRequest, _⟩ => True
  | ⟨.IdentityRecoveryResponse, m⟩ => IdentityRecoveryResponse.identity m = none
  | ⟨.GoodbyeAnnouncement, _⟩ => True

/-! ### Copying an object -/

/-- What was written is sent as it is. -/
theorem serializeMessage_write (place : Lib.Path → Nat) (m : ControlMessage) :
    serializeMessage (controlMessage.write place m) = controlMessage.write place m :=
  List.take_of_length_le (controlMessage.length_write place m).le

/-- `memcpy` in, `memcpy` out: the receiver's object has the words of the sender's. -/
theorem receiveMessage_eq (sender : Placement) (m : ControlMessage) :
    receiveMessage sender m = controlMessage.write sender.address m := by
  have hlen := controlMessage.length_write sender.address m
  rw [receiveMessage, serializeMessage_write, deserializeMessage, hlen, if_pos (Nat.le_refl _),
    List.take_of_length_le hlen.le]

/-- A process that receives its own message finds the blocks and reads the message. -/
theorem read_ownHeap (sender : Placement) (heap : Heap) (m : ControlMessage)
    (hholds : heap.Holds (controlMessage.blocks sender.address m)) :
    readMessage heap (receiveMessage sender m) = some m := by
  have hread := controlMessage.read_write heap sender.address m [] hholds
  rw [List.append_nil] at hread
  rw [receiveMessage_eq, readMessage, hread, Option.map_some]

/-! ### The heap of another process -/

/-- A message is read everywhere if all its containers are empty. -/
theorem reads_everywhere_controlMessage (m : ControlMessage) :
    RoundTripsEverywhere m ↔ ∀ c ∈ controlMessage.containers m, c.2 = 0 := by
  simp only [RoundTripsEverywhere, receiveMessage_eq]
  exact controlMessage.reads_everywhere_iff m

/-- A message is free of addresses if it has no container. -/
theorem addressFree_iff (m : ControlMessage) :
    AddressFree m ↔ controlMessage.containers m = [] := by
  simp only [AddressFree, serializeMessage_write]
  exact controlMessage.write_const_iff m

/-- A message holds no container, in terms of its layout. -/
theorem holdsNoContainer_iff (m : ControlMessage) :
    m.HoldsNoContainer ↔ controlMessage.containers m = [] := by
  obtain ⟨kind, m⟩ := m
  cases kind with
  | HandoffRequestMessage => exact iff_of_true trivial rfl
  | HandoffResponseMessage =>
    obtain ⟨⟨traceId, accepted, reason⟩⟩ := m
    -- A reason is a number and no container.
    cases reason <;> exact iff_of_true trivial rfl
  | HeartbeatMessage => exact iff_of_true trivial rfl
  | TopologyDeclarationMessage =>
    obtain ⟨⟨declarer, platform, boundary, left, right, version⟩⟩ := m
    cases left <;> cases right <;> exact iff_of_true trivial rfl
  -- Seven of the messages always hold a string or a vector.
  | TopologySyncMessage => exact iff_of_false id (List.cons_ne_nil _ _)
  | PairingMessage => exact iff_of_false id (List.cons_ne_nil _ _)
  | DiscoveryAnnouncement => exact iff_of_false id (List.cons_ne_nil _ _)
  | PairingRequest => exact iff_of_false id (List.cons_ne_nil _ _)
  | PairingResponse =>
    obtain ⟨responder, accepted, identity, fence⟩ := m
    cases identity with
    | none => exact iff_of_true rfl rfl
    | some identity => exact iff_of_false (Option.some_ne_none identity) (List.cons_ne_nil _ _)
  | RegistrationRequest => exact iff_of_false id (List.cons_ne_nil _ _)
  | RegistrationResponse =>
    obtain ⟨responder, accepted, membership, fence⟩ := m
    cases membership with
    | none => exact iff_of_true rfl rfl
    | some membership =>
      exact iff_of_false (Option.some_ne_none membership) (List.cons_ne_nil _ _)
  | MembershipChangeNotification => exact iff_of_false id (List.cons_ne_nil _ _)
  | IdentityRecoveryRequest => exact iff_of_true trivial rfl
  | IdentityRecoveryResponse =>
    obtain ⟨responder, recovered, identity, fence⟩ := m
    cases identity with
    | none => exact iff_of_true rfl rfl
    | some identity => exact iff_of_false (Option.some_ne_none identity) (List.cons_ne_nil _ _)
  | GoodbyeAnnouncement => exact iff_of_true trivial rfl

/-- The messages that cross to another process are those without a string or a vector. -/
theorem controlMessage_crosses_iff (m : ControlMessage) :
    (RoundTripsEverywhere m ∧ AddressFree m) ↔ m.HoldsNoContainer := by
  rw [holdsNoContainer_iff]
  constructor
  · rintro ⟨-, hfree⟩
    exact (addressFree_iff m).mp hfree
  · intro hnil
    refine ⟨(reads_everywhere_controlMessage m).mpr ?_, (addressFree_iff m).mpr hnil⟩
    rw [hnil]
    simp

/-- A pairing code is read in the receiver's heap, where its block is not. -/
theorem pairingMessage_does_not_cross :
    ¬ ∀ m : ControlMessage, RoundTripsEverywhere m ∧ AddressFree m := by
  intro hclaim
  let m : ControlMessage := ⟨.PairingMessage, { pairingCode := StdString.lit "482913" }⟩
  -- The code has six characters, and a container that is read everywhere has none.
  have hempty := (reads_everywhere_controlMessage m).mp (hclaim m).1
  have hcount : (6 : Nat) = 0 := hempty ([], 6) (List.mem_singleton.mpr rfl)
  exact absurd hcount (by decide)

end CrossFlow
