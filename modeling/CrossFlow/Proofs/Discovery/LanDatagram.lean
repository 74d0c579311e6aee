import CrossFlow.Core.Discovery.Transports
import CrossFlow.Lib.ByteBuffer

/-!
# `CrossFlow.Proofs.Discovery.LanDatagram`: what a broadcast datagram tells

A datagram is a header of 33 bytes, with the numbers in network order, the topology id and a zero.
The capabilities are not in it. The receiver's buffer holds 4096 bytes, so there is room for a
topology id of 4062 bytes. What `recvfrom` does with a longer datagram is up to the system.

* `datagram_tells`: when two broadcasts arrive as the same bytes.
-/

set_option autoImplicit false

namespace CrossFlow

open Lib (leBytes leValue length_leBytes leValue_leBytes)

/-! ### The numbers -/

namespace LanBroadcastFallback

/-- The bytes of a number, from the lowest one on, in reverse. -/
theorem appendU64_eq (v : UInt64) : appendU64 v = (leBytes 8 v.toNat).reverse := by
  have hbyte : ∀ i ∈ [7, 6, 5, 4, 3, 2, 1, 0],
      (v >>> (UInt64.ofNat i * 8) &&& 0xFF).toUInt8 = (v.toNat / 256 ^ i).toUInt8 := by
    intro i hi
    have hlt : i < 8 := by
      simp only [List.mem_cons, List.not_mem_nil, or_false] at hi
      omega
    have hshift : (UInt64.ofNat i * 8).toNat % 64 = 8 * i := by
      rw [UInt64.toNat_mul, UInt64.toNat_ofNat']
      show i % 2 ^ 64 * 8 % 2 ^ 64 % 64 = 8 * i
      omega
    have hpow : 2 ^ (8 * i) = 256 ^ i := Nat.pow_mul 2 8 i
    have hmask : (0xFF : UInt64).toNat = 2 ^ 8 - 1 := rfl
    refine UInt8.toNat_inj.mp ?_
    rw [UInt64.toNat_toUInt8, UInt64.toNat_and, UInt64.toNat_shiftRight, hshift,
      Nat.shiftRight_eq_div_pow, hpow, hmask, Nat.and_two_pow_sub_one_eq_mod]
    show v.toNat / 256 ^ i % 2 ^ 8 % 2 ^ 8 = v.toNat / 256 ^ i % 2 ^ 8
    rw [Nat.mod_mod]
  -- The highest byte comes first, so the bytes are those of the little-endian order in reverse.
  have hcode : appendU64 v = ([7, 6, 5, 4, 3, 2, 1, 0] : List Nat).map fun i =>
      (v >>> (UInt64.ofNat i * 8) &&& 0xFF).toUInt8 := rfl
  rw [hcode, List.map_congr_left hbyte]
  simp [leBytes, Nat.div_div_eq_div_mul]

/-- A word takes eight bytes. -/
theorem length_appendU64 (v : UInt64) : (appendU64 v).length = 8 := rfl

/-- The number in the first eight bytes. -/
def readU64 (bytes : List UInt8) : UInt64 := .ofNat (leValue (bytes.take 8).reverse)

/-- A word is read back. -/
theorem readU64_appendU64 (v : UInt64) (rest : List UInt8) :
    readU64 (appendU64 v ++ rest) = v := by
  have hlt : v.toNat < 256 ^ 8 := v.toNat_lt
  rw [readU64, List.take_left' (length_appendU64 v), appendU64_eq, List.reverse_reverse,
    leValue_leBytes hlt, UInt64.ofNat_toNat]

/-! ### The datagram -/

/-- What the header says of a node. -/
structure Header where
  nodeId : NodeId
  platform : Platform
  sessionEpoch : SessionEpoch
  protocolVersion : UInt16
  deriving DecidableEq

/-- What of a digest is sent before its topology. -/
def header (digest : DiscoveryDigest) : Header where
  nodeId := digest.nodeId
  platform := digest.platform
  sessionEpoch := digest.sessionEpoch
  protocolVersion := digest.protocolVersion

/-- The bytes of a header. -/
def headerBytes (h : Header) : List UInt8 :=
  appendU64 h.nodeId.high ++ appendU64 h.nodeId.low ++ [if h.platform = .Mac then 0 else 1] ++
    appendU64 h.sessionEpoch.value ++ appendU64 h.protocolVersion.toUInt64

/-- A datagram is a header, the topology id and a zero. -/
theorem serializeDigest_eq (digest : DiscoveryDigest) :
    serializeDigest digest = headerBytes (header digest) ++ (digest.topologyId ++ [0]) := by
  simp only [serializeDigest, headerBytes, List.append_assoc]
  rfl

/-- A header has 33 bytes. -/
theorem length_headerBytes (h : Header) : (headerBytes h).length = 33 := rfl

/-- The header, read off the bytes. -/
def readHeader (bytes : List UInt8) : Header where
  nodeId := { high := readU64 bytes, low := readU64 (bytes.drop 8) }
  platform := if bytes[16]? = some 0 then .Mac else .Win
  sessionEpoch := { value := readU64 (bytes.drop 17) }
  protocolVersion := (readU64 (bytes.drop 25)).toUInt16

/-- A header is read back. -/
theorem readHeader_headerBytes (h : Header) (rest : List UInt8) :
    readHeader (headerBytes h ++ rest) = h := by
  obtain ⟨⟨high, low⟩, platform, ⟨epoch⟩, version⟩ := h
  have hbytes : headerBytes ⟨⟨high, low⟩, platform, ⟨epoch⟩, version⟩ ++ rest =
      appendU64 high ++ (appendU64 low ++ ((if platform = .Mac then 0 else 1) ::
        (appendU64 epoch ++ (appendU64 version.toUInt64 ++ rest)))) := by
    simp only [headerBytes, List.append_assoc, List.cons_append, List.nil_append]
  generalize htail : appendU64 epoch ++ (appendU64 version.toUInt64 ++ rest) = tail at hbytes
  have hlow : (appendU64 high ++ (appendU64 low ++
      ((if platform = .Mac then 0 else 1) :: tail))).drop 8 =
      appendU64 low ++ ((if platform = .Mac then 0 else 1) :: tail) :=
    List.drop_left' (length_appendU64 high)
  -- Each field starts where the ones before it end: 0, 8, 16, 17 and 25.
  have hplatform : (headerBytes ⟨⟨high, low⟩, platform, ⟨epoch⟩, version⟩ ++ rest)[16]? =
      some (if platform = .Mac then 0 else 1) := by
    rw [hbytes]
    rfl
  have hepoch : (headerBytes ⟨⟨high, low⟩, platform, ⟨epoch⟩, version⟩ ++ rest).drop 17 =
      tail := by
    rw [hbytes]
    rfl
  have hversion : (headerBytes ⟨⟨high, low⟩, platform, ⟨epoch⟩, version⟩ ++ rest).drop 25 =
      appendU64 version.toUInt64 ++ rest := by
    rw [hbytes, ← htail]
    rfl
  have hwide : version.toUInt64.toUInt16 = version := by
    refine UInt16.toNat_inj.mp ?_
    have hlt := version.toNat_lt
    rw [UInt64.toNat_toUInt16, UInt16.toNat_toUInt64, Nat.mod_eq_of_lt hlt]
  rw [readHeader, hplatform, hepoch, hversion, readU64_appendU64, ← htail, readU64_appendU64, hwide,
    hbytes, readU64_appendU64, hlow, readU64_appendU64]
  cases platform with
  | Mac => rfl
  | Win => rfl

/-- The header and the topology id are in the datagram, and nothing else is. -/
theorem serializeDigest_inj (digest digest' : DiscoveryDigest) :
    serializeDigest digest = serializeDigest digest' ↔
      header digest = header digest' ∧ digest.topologyId = digest'.topologyId := by
  rw [serializeDigest_eq, serializeDigest_eq]
  constructor
  · intro h
    -- The header is read off the first 33 bytes, and the topology id is what is left but the zero.
    have hheader := congrArg readHeader h
    rw [readHeader_headerBytes, readHeader_headerBytes] at hheader
    rw [hheader] at h
    exact ⟨hheader, List.append_cancel_right (List.append_cancel_left h)⟩
  · rintro ⟨hheader, htopology⟩
    rw [hheader, htopology]

/-- A datagram has 34 bytes and those of the topology id. -/
theorem length_serializeDigest (digest : DiscoveryDigest) :
    (serializeDigest digest).length = 34 + digest.topologyId.length := by
  rw [serializeDigest_eq, List.length_append, length_headerBytes, List.length_append,
    List.length_singleton]
  omega

/-! ### What arrives -/

/-- A fallback is running when its socket is open. -/
theorem running_invariant : fallbackMachine.Invariant fun f => f.running = f.udp.isOpen := by
  refine Lib.Machine.Invariant.of_step rfl ?_
  intro f call h
  show (fallbackMachine.step f call).running = (fallbackMachine.step f call).udp.isOpen
  cases call with
  | start digest port binds =>
    cases binds with
    | false => exact h
    | true => rfl
  -- `stop` closes the socket of a fallback that does not run, too.
  | stop =>
    show false = f.udp.close.isOpen
    unfold UdpBroadcast.close
    cases hopen : f.udp.isOpen with
    | false => rw [if_neg (by simp), hopen]
    | true => rfl
  | broadcast digest sends =>
    simp only [fallbackMachine, broadcast]
    split
    · exact h
    split
    · exact h
    · exact h

/-- `recvfrom` reads all of a datagram that the buffer has room for. -/
def ReadsWhole (recvfrom : Nat → List UInt8 → Option (List UInt8)) : Prop :=
  ∀ size datagram, datagram.length ≤ size → recvfrom size datagram = some datagram

/-- A datagram that has room in the buffer is received as it was sent. -/
theorem receive_serializeDigest {f : LanBroadcastFallback} (hrunning : f.running = true)
    (hopen : f.running = f.udp.isOpen) {recvfrom : Nat → List UInt8 → Option (List UInt8)}
    (hwhole : ReadsWhole recvfrom) {digest : DiscoveryDigest}
    (hroom : digest.topologyId.length ≤ 4062) :
    f.receive recvfrom (some (serializeDigest digest)) = some (serializeDigest digest) := by
  have hlength := length_serializeDigest digest
  have hread : recvfrom 4096 (serializeDigest digest) = some (serializeDigest digest) :=
    hwhole 4096 _ (by omega)
  have hudp : f.udp.isOpen = true := hopen ▸ hrunning
  simp only [receive, UdpBroadcast.receive, hrunning, hudp, Bool.not_true, Bool.false_eq_true,
    if_false, hread]
  cases hdatagram : serializeDigest digest with
  | nil =>
    rw [hdatagram, List.length_nil] at hlength
    omega
  | cons byte rest => rfl

/-- What a fallback that runs receives of the broadcast of a digest with a topology id of at most
4062 bytes is all of it, and of two of them it is the same just when the digests agree but for
their capabilities. -/
theorem datagram_tells (calls : List FallbackCall)
    (h : (fallbackMachine.run calls).running = true)
    {recvfrom : Nat → List UInt8 → Option (List UInt8)} (hwhole : ReadsWhole recvfrom)
    {digest digest' : DiscoveryDigest} (hroom : digest.topologyId.length ≤ 4062)
    (hroom' : digest'.topologyId.length ≤ 4062) :
    let received (digest : DiscoveryDigest) :=
      (fallbackMachine.run calls).receive recvfrom (some (serializeDigest digest))
    received digest = some (serializeDigest digest) ∧
      (received digest = received digest' ↔
        header digest = header digest' ∧ digest.topologyId = digest'.topologyId) := by
  have hopen := running_invariant calls
  dsimp only
  rw [receive_serializeDigest h hopen hwhole hroom, receive_serializeDigest h hopen hwhole hroom']
  exact ⟨rfl, Option.some_inj.trans (serializeDigest_inj digest digest')⟩

/-- Two nodes, the numbers of which have the same digits in a row. What the buffer has no room for
is cut off. -/
theorem datagram_tells_started :
    let desk : DiscoveryDigest :=
      { nodeId := { high := 1, low := 23 }, platform := .Mac, capabilitiesFingerprint := []
        sessionEpoch := { value := 1 }, protocolVersion := 1, topologyId := [100] }
    let lap : DiscoveryDigest := { desk with nodeId := { high := 12, low := 3 } }
    let receiver := fallbackMachine.run [.start desk 7000 true]
    let recvfrom : Nat → List UInt8 → Option (List UInt8) :=
      fun size datagram => some (datagram.take size)
    receiver.receive recvfrom (some (serializeDigest desk)) = some (serializeDigest desk) ∧
      receiver.receive recvfrom (some (serializeDigest desk)) ≠
        receiver.receive recvfrom (some (serializeDigest lap)) := by
  intro desk lap receiver recvfrom
  -- A read of up to 4096 bytes takes a datagram of no more than that whole.
  have hwhole : ReadsWhole recvfrom := by
    intro size datagram hroom
    show some (datagram.take size) = _
    rw [List.take_of_length_le hroom]
  have hdesk : desk.topologyId.length ≤ 4062 := by decide
  have hlap : lap.topologyId.length ≤ 4062 := by decide
  obtain ⟨hall, htells⟩ := datagram_tells [.start desk 7000 true] rfl hwhole hdesk hlap
  exact ⟨hall, fun heq => absurd (htells.mp heq).1 (by decide)⟩

end LanBroadcastFallback

end CrossFlow
