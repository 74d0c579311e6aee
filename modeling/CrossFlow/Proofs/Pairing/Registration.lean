import CrossFlow.Core.Pairing.HandshakeOrchestrator

/-!
# `CrossFlow.Proofs.Pairing.Registration`: who is registered

`handleRegistrationRequest` registers every requester with a valid identity: neither the
orchestrator nor the registration manager asks the trusted-node list.

* `registers_iff`: which requests are answered with a registration.
* `registration_requires_trust_iff`: for which requests a registration needs trust.
* `stranger_is_registered`: a node that was never paired is registered.
-/

set_option autoImplicit false

namespace CrossFlow

open Lib (Machine)

/-- The request is answered `accepted`, and its sender is registered then. -/
def Registers (o : HandshakeOrchestrator) (now : UInt64) (request : RegistrationRequest) : Prop :=
  ∃ response, (o.handleRegistrationRequest now request).2 = .ok response ∧
    response.accepted = true ∧
      (o.handleRegistrationRequest now request).1.regMgr.isRegistered request.identity.nodeId = true

/-- The request registers its sender only if the sender is trusted at that moment. -/
def RegistersOnlyTrusted (o : HandshakeOrchestrator) (now : UInt64)
    (request : RegistrationRequest) : Prop :=
  Registers o now request → o.trustedList.isTrusted request.identity.nodeId = true

/-- A valid identity is recorded as registered, whether its node is new or known. -/
theorem registerPeer_of_valid (m : RegistrationManager) (now : UInt64) {identity : NodeIdentity}
    (hvalid : identity.isValid = true) :
    ∃ m' r, m.registerPeer now identity = (m', none) ∧ m'.find identity.nodeId = some r ∧
      r.currentState = .Registered ∧ r.peerIdentity = identity := by
  unfold RegistrationManager.registerPeer
  rw [hvalid]
  cases hfind : m.find identity.nodeId with
  | some existing =>
    -- `renewRecord` keeps the key, so the renewed record is the one found.
    refine ⟨_, RegistrationManager.renewRecord now identity existing, rfl, ?_, rfl, rfl⟩
    have hrenewed := Lib.KeyedList.find_modify_self RegistrationRecord.peerNodeId
      (f := RegistrationManager.renewRecord now identity) (fun r (h : _ = identity.nodeId) => h)
      m.records
    exact hrenewed.trans (congrArg (Option.map _) hfind)
  | none =>
    exact ⟨_, RegistrationManager.newRecord now identity, rfl,
      Lib.KeyedList.find_append_self RegistrationRecord.peerNodeId (by rfl) hfind, rfl, rfl⟩

/-- A registration writes the record of its own node alone. -/
theorem find_registerPeer_ne (m : RegistrationManager) (now : UInt64) (identity : NodeIdentity)
    {n : NodeId} (hn : n ≠ identity.nodeId) :
    (m.registerPeer now identity).1.find n = m.find n := by
  unfold RegistrationManager.registerPeer
  split
  · rfl
  · split
    · exact Lib.KeyedList.find_modify_ne RegistrationRecord.peerNodeId
        (f := RegistrationManager.renewRecord now identity) (fun r (h : _ = identity.nodeId) => h)
        hn m.records
    · exact Lib.KeyedList.find_append_ne RegistrationRecord.peerNodeId (Ne.symm hn)

/-- A request is a registration of the identity it carries. -/
theorem handleRegistrationRequest_fst (m : RegistrationManager) (now : UInt64)
    (request : RegistrationRequest) :
    (m.handleRegistrationRequest now request).1 = (m.registerPeer now request.identity).1 := by
  cases hvalid : request.identity.isValid with
  | false =>
    rw [RegistrationManager.handleRegistrationRequest, RegistrationManager.registerPeer, hvalid]
    rfl
  | true =>
    obtain ⟨m', r, hregister, -⟩ := registerPeer_of_valid m now hvalid
    rw [RegistrationManager.handleRegistrationRequest, hvalid, hregister]
    rfl

/-- A record in the state registered is that of a registered node. -/
theorem isRegistered_of_find {m : RegistrationManager} {nid : NodeId} {r : RegistrationRecord}
    (hfind : m.find nid = some r) (hstate : r.currentState = .Registered) :
    m.isRegistered nid = true := by
  rw [RegistrationManager.isRegistered, hfind]
  exact decide_eq_true hstate

/-- Every request with a valid identity registers its sender. -/
theorem registers_iff (o : HandshakeOrchestrator) (now : UInt64) (request : RegistrationRequest) :
    Registers o now request ↔ request.identity.isValid = true := by
  unfold Registers HandshakeOrchestrator.handleRegistrationRequest
  cases hvalid : request.identity.isValid with
  | false =>
    refine iff_of_false ?_ Bool.false_ne_true
    rintro ⟨response, hresponse, -⟩
    -- A forged identity is answered with an error.
    rw [RegistrationManager.handleRegistrationRequest, hvalid] at hresponse
    cases hresponse
  | true =>
    obtain ⟨m, r, hregister, hfind, hstate, -⟩ := registerPeer_of_valid o.regMgr now hvalid
    rw [RegistrationManager.handleRegistrationRequest, hvalid, hregister]
    exact iff_of_true ⟨_, rfl, rfl, isRegistered_of_find hfind hstate⟩ rfl

/-- In every state a run leads to, whatever it started from: a request respects the trusted-node
list exactly when its identity is not valid or its sender is on the list. -/
theorem registration_requires_trust_iff (start : HandshakeOrchestrator)
    (calls : List HandshakeCall) (now : UInt64) (request : RegistrationRequest) :
    let o := (handshakeMachine start).run calls
    RegistersOnlyTrusted o now request ↔
      request.identity.isValid = false ∨
        o.trustedList.isTrusted request.identity.nodeId = true := by
  intro o
  rw [RegistersOnlyTrusted, registers_iff]
  cases request.identity.isValid <;> simp

/-- A valid identity without anything optional. -/
def plainIdentity (nodeId : NodeId) : NodeIdentity where
  nodeId := nodeId
  publicKey := { bytes := [], isPresent := false }
  platform := .Mac
  capabilities :=
    { supportedInputTypes := [.Mouse, .Keyboard]
      screenBoundary := { width := 1920, height := 1080, originX := 0, originY := 0 }
      supportsCircular := false
      protocolVersion := 1 }
  endpointAddresses := []
  topologyMembership := none
  sessionEpoch := { value := 1 }

/-- A node whose first message is a registration request. -/
theorem stranger_is_registered :
    ¬ ∀ (start : HandshakeOrchestrator) (calls : List HandshakeCall) (now : UInt64)
      (request : RegistrationRequest),
        RegistersOnlyTrusted ((handshakeMachine start).run calls) now request := by
  intro hclaim
  let stranger : NodeId := { high := 2, low := 2 }
  have hstranger := hclaim (.init { identity := none }) [] 0
    { identity := plainIdentity stranger, fence := .newSession stranger }
  rw [RegistersOnlyTrusted, registers_iff] at hstranger
  exact absurd (hstranger (by decide)) (by decide)

end CrossFlow
