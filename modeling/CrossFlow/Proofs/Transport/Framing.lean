import CrossFlow.Core.Transport.ReceiveLoop
import CrossFlow.Lib.Framing
import CrossFlow.Proofs.Transport.TransportImpl

/-!
# `CrossFlow.Proofs.Transport.Framing`: the frames of the two loops

* `recvLoop_of_pos`: what `recvRaw` reads does not depend on how the stream is cut.
* `receiveFrames_parse`: a receive loop cuts the stream as its format says.
* `receiveFrames_initial`: calls that fail only end it sooner.
* `framing_exact`: it cuts it into the bodies that were sent.
-/

set_option autoImplicit false

namespace CrossFlow

open Lib (FrameFormat)

namespace TransportImpl

/-- The first bytes that were asked for, or all there are. -/
theorem recvLoop_of_pos {α : Type} {ret : Nat → Int} (hret : ∀ k, 0 < ret k) (k want : Nat)
    (stream : List α) :
    (recvLoop ret k want stream).ok = decide (want ≤ stream.length) ∧
      (recvLoop ret k want stream).data = stream.take want ∧
      (recvLoop ret k want stream).rest = stream.drop want := by
  induction k, want, stream using recvLoop.induct ret with
  | case1 k stream => simp [recvLoop]
  | case2 k want stream hwant hcall =>
    have hnil : stream = [] := hcall.resolve_left (by have := hret k; omega)
    subst hnil
    simp [recvLoop, hwant]
  | case3 k want stream hwant hcall n ih =>
    rw [recvLoop, if_neg hwant, if_neg hcall]
    obtain ⟨hok, hdata, hrest⟩ := ih
    -- This call takes `n` bytes, and the later ones what is left to take.
    have hn : n ≤ want ∧ n ≤ stream.length := by omega
    refine ⟨?_, ?_, ?_⟩
    · show (recvLoop ret (k + 1) (want - n) (stream.drop n)).ok = _
      rw [hok, List.length_drop, decide_eq_decide]
      omega
    · show stream.take n ++ (recvLoop ret (k + 1) (want - n) (stream.drop n)).data = _
      have hsplit : want = n + (want - n) := by omega
      rw [hdata, hsplit, List.take_add, Nat.add_sub_cancel_left]
    · show (recvLoop ret (k + 1) (want - n) (stream.drop n)).rest = _
      rw [hrest, List.drop_drop]
      congr 1
      omega

/-- A socket that refuses nothing reads as much as there is. -/
theorem recvRaw_of_pos {α : Type} {ret : Nat → Int} (hret : ∀ k, 0 < ret k) (socket k want : Nat)
    (stream : List α) :
    (recvRaw (some socket) ret k want stream).ok = decide (want ≤ stream.length) ∧
      (recvRaw (some socket) ret k want stream).data = stream.take want ∧
      (recvRaw (some socket) ret k want stream).rest = stream.drop want :=
  recvLoop_of_pos hret k want stream

/-- What a receive loop takes for a frame: `len` bytes after a header that says so. -/
def eventFrames : FrameFormat UInt8 where
  headerSize := 4
  bodyLength header :=
    let len := ntohl header
    if len = 0 ∨ len > 65536 then none else some len.toNat
  headerSize_pos := by decide

/-- The length of a body, read from the values of a header. -/
theorem bodyLength_comap {α : Type} (value : α → UInt8) (header : List α) :
    (eventFrames.comap value).bodyLength header =
      if ntohl (header.map value) = 0 ∨ ntohl (header.map value) > 65536 then none
      else some (ntohl (header.map value)).toNat := rfl

/-- A receive loop reads the frames of the stream. What it leaves is part of what is left. -/
theorem receiveFrames_parse {α : Type} (value : α → UInt8) {ret : Nat → Int}
    (hret : ∀ k, 0 < ret k) (socket k : Nat) (stream : List α) :
    (receiveFrames value (some socket) ret k stream).1 =
        ((eventFrames.comap value).parse stream).1 ∧
      (receiveFrames value (some socket) ret k stream).2 <:+
        ((eventFrames.comap value).parse stream).2 := by
  induction hn : stream.length using Nat.strong_induction_on generalizing k stream with
  | h n ih =>
    obtain ⟨hok, hdata, hrest⟩ := recvRaw_of_pos hret socket k 4 stream
    rw [receiveFrames]
    dsimp only
    rw [hok, hdata, hrest]
    by_cases hshort : stream.length < 4
    · -- No header.
      rw [FrameFormat.parse_of_short _ hshort, if_pos (by simpa using hshort)]
      exact ⟨rfl, List.drop_suffix 4 stream⟩
    · rw [if_neg (by simpa using hshort)]
      have hheader := bodyLength_comap value (stream.take 4)
      split
      · -- A length of 0, or one beyond the limit, ends the reading.
        next hrefused =>
        rw [if_pos hrefused] at hheader
        rw [FrameFormat.parse_of_refused _ hheader]
        exact ⟨rfl, List.drop_suffix 4 stream⟩
      · next haccepted =>
        rw [if_neg haccepted] at hheader
        generalize hlen : (ntohl ((stream.take 4).map value)).toNat = len at hheader ⊢
        obtain ⟨hbodyOk, hbody, hbodyRest⟩ :=
          recvRaw_of_pos hret socket (recvRaw (some socket) ret k 4 stream).calls len
            (stream.drop 4)
        rw [hbodyOk, hbody, hbodyRest, List.drop_drop]
        by_cases hincomplete : stream.length < 4 + len
        · -- The body is not all there.
          rw [FrameFormat.parse_of_incomplete _ hheader hincomplete, if_pos]
          · exact ⟨rfl, List.drop_suffix (4 + len) stream⟩
          · rw [List.length_drop]
            simp only [Bool.not_eq_true', decide_eq_false_iff_not]
            omega
        · -- The frame is read, and the rest of the stream is shorter.
          have hlength : (stream.drop (4 + len)).length < n := by
            rw [List.length_drop]
            omega
          obtain ⟨hbodies, hleft⟩ := ih _ hlength
            (recvRaw (some socket) ret (recvRaw (some socket) ret k 4 stream).calls len
              (stream.drop 4)).calls (stream.drop (4 + len)) rfl
          rw [FrameFormat.parse_of_complete _ hheader (Nat.not_lt.mp hincomplete), if_neg]
          · exact ⟨congrArg (List.cons ((stream.drop 4).take len)) hbodies, hleft⟩
          · rw [List.length_drop]
            simp only [Bool.not_eq_true', decide_eq_false_iff_not, not_not]
            omega

/-! ### Calls that fail -/

/-- A `recvRaw` that succeeds reads the first bytes that were asked for. -/
theorem recvRaw_of_ok {α : Type} {fd : SocketFd} {ret : Nat → Int} {k want : Nat}
    {stream : List α} (h : (recvRaw fd ret k want stream).ok = true) :
    want ≤ stream.length ∧ (recvRaw fd ret k want stream).data = stream.take want ∧
      (recvRaw fd ret k want stream).rest = stream.drop want := by
  obtain ⟨happend, hok⟩ := recvRaw_append fd ret k want stream
  generalize recvRaw fd ret k want stream = r at happend hok h
  rw [← happend, ← hok h]
  refine ⟨?_, ?_, ?_⟩
  · rw [List.length_append]
    omega
  · rw [List.take_left]
  · rw [List.drop_left]

/-- Whatever the calls of `::recv` return, the frames that are read are the first ones of the
stream. -/
theorem receiveFrames_initial {α : Type} (value : α → UInt8) (fd : SocketFd) (ret : Nat → Int)
    (k : Nat) (stream : List α) :
    (receiveFrames value fd ret k stream).1 <+: ((eventFrames.comap value).parse stream).1 := by
  induction k, stream using receiveFrames.induct value fd ret with
  | case1 k stream header hheader =>
    rw [receiveFrames, if_pos hheader]
    exact List.nil_prefix
  | case2 k stream header hheader len hrefused =>
    rw [receiveFrames, if_neg hheader, if_pos hrefused]
    exact List.nil_prefix
  | case3 k stream header hheader len haccepted body hbody =>
    rw [receiveFrames, if_neg hheader, if_neg haccepted, if_pos hbody]
    exact List.nil_prefix
  | case4 k stream header hheader len haccepted body hbody bodies rest hrec ih =>
    rw [receiveFrames, if_neg hheader, if_neg haccepted, if_neg hbody]
    have hheaderOk : header.ok = true := by simpa using hheader
    have hbodyOk : body.ok = true := by simpa using hbody
    -- A call that is ok returns the first bytes of the stream, and leaves the others.
    obtain ⟨hheaderLength, hheaderData, hheaderRest⟩ := recvRaw_of_ok hheaderOk
    obtain ⟨hbodyLength, hbodyData, hbodyRest⟩ := recvRaw_of_ok hbodyOk
    have hlen : (eventFrames.comap value).bodyLength (stream.take 4) = some len.toNat := by
      rw [bodyLength_comap, ← hheaderData]
      exact if_neg haccepted
    have hlength : 4 + len.toNat ≤ stream.length := by
      change len.toNat ≤ header.rest.length at hbodyLength
      rw [hheaderRest, List.length_drop] at hbodyLength
      omega
    rw [FrameFormat.parse_of_complete _ hlen hlength]
    have hdata : body.data = (stream.drop 4).take len.toNat := by
      rw [← hheaderRest]
      exact hbodyData
    have hrest : body.rest = stream.drop (4 + len.toNat) := by
      rw [← List.drop_drop, ← hheaderRest]
      exact hbodyRest
    rw [hrest] at ih
    show body.data :: (receiveFrames value fd ret body.calls body.rest).1 <+: _
    rw [hdata, hrest]
    exact List.cons_prefix_cons.mpr ⟨rfl, ih⟩

/-! ### Labels -/

/-- Reading does not look at the bytes. -/
theorem recvLoop_map {α β : Type} (g : β → α) (ret : Nat → Int) (k want : Nat)
    (stream : List β) :
    recvLoop ret k want (stream.map g) =
      { ok := (recvLoop ret k want stream).ok
        data := (recvLoop ret k want stream).data.map g
        rest := (recvLoop ret k want stream).rest.map g
        calls := (recvLoop ret k want stream).calls } := by
  induction k, want, stream using recvLoop.induct ret with
  | case1 k stream => simp [recvLoop]
  | case2 k want stream hwant hcall =>
    have hcall' : ret k ≤ 0 ∨ stream.map g = [] := by simpa using hcall
    rw [recvLoop, recvLoop, if_neg hwant, if_neg hwant, if_pos hcall, if_pos hcall']
    rfl
  -- As many bytes are taken whatever they are.
  | case3 k want stream hwant hcall n ih =>
    have hcall' : ¬ (ret k ≤ 0 ∨ stream.map g = []) := by simpa using hcall
    rw [recvLoop, recvLoop, if_neg hwant, if_neg hwant, if_neg hcall, if_neg hcall']
    dsimp only
    rw [List.length_map, ← List.map_drop, ← List.map_take, ih, List.map_append]

/-- Reading does not look at the bytes, whatever the socket. -/
theorem recvRaw_map {α β : Type} (g : β → α) (fd : SocketFd) (ret : Nat → Int) (k want : Nat)
    (stream : List β) :
    recvRaw fd ret k want (stream.map g) =
      { ok := (recvRaw fd ret k want stream).ok
        data := (recvRaw fd ret k want stream).data.map g
        rest := (recvRaw fd ret k want stream).rest.map g
        calls := (recvRaw fd ret k want stream).calls } := by
  cases fd with
  | none => rfl
  | some socket => exact recvLoop_map g ret k want stream

/-- What the bytes carry does not change what is read. -/
theorem receiveFrames_map {α : Type} (value : α → UInt8) (fd : SocketFd) (ret : Nat → Int)
    (k : Nat) (stream : List α) :
    receiveFrames id fd ret k (stream.map value) =
      ((receiveFrames value fd ret k stream).1.map (List.map value),
        (receiveFrames value fd ret k stream).2.map value) := by
  -- A header that is cut, a length that is refused, a body that is cut, and a whole frame.
  induction k, stream using receiveFrames.induct value fd ret with
  | case1 k stream header hheader =>
    rw [receiveFrames, receiveFrames, if_pos hheader, recvRaw_map, if_pos hheader]
    rfl
  | case2 k stream header hheader len hrefused =>
    rw [receiveFrames, receiveFrames, if_neg hheader, if_pos hrefused, recvRaw_map,
      if_neg hheader, List.map_id, if_pos hrefused]
    rfl
  | case3 k stream header hheader len haccepted body hbody =>
    rw [receiveFrames, receiveFrames, if_neg hheader, if_neg haccepted, if_pos hbody, recvRaw_map,
      if_neg hheader, List.map_id, if_neg haccepted]
    dsimp only
    rw [recvRaw_map, if_pos hbody]
    rfl
  | case4 k stream header hheader len haccepted body hbody bodies rest hrec ih =>
    rw [receiveFrames, receiveFrames, if_neg hheader, if_neg haccepted, if_neg hbody, recvRaw_map,
      if_neg hheader, List.map_id, if_neg haccepted]
    dsimp only
    rw [recvRaw_map, if_neg hbody]
    dsimp only
    rw [ih]
    rfl

/-! ### What is sent -/

/-- The four bytes of a length, put together again. -/
theorem bytes_of_word (x : BitVec 32) :
    ((x >>> 24).setWidth 8).setWidth 32 <<< 24 ||| ((x >>> 16).setWidth 8).setWidth 32 <<< 16 |||
      ((x >>> 8).setWidth 8).setWidth 32 <<< 8 ||| (x.setWidth 8).setWidth 32 = x := by
  ext i hi
  have hbit := BitVec.getLsbD_eq_getElem (x := x) hi
  simp only [BitVec.getElem_or, BitVec.getElem_shiftLeft, BitVec.getElem_setWidth,
    BitVec.getLsbD_setWidth, BitVec.getLsbD_ushiftRight]
  -- The byte that the bit is in.
  by_cases h8 : i < 8
  · simp [h8, show i < 16 by omega, show i < 24 by omega, hbit]
  · by_cases h16 : i < 16
    · simp [h8, h16, show i < 24 by omega, show i - 8 < 8 by omega,
        show 8 + (i - 8) = i by omega, hbit]
    · by_cases h24 : i < 24
      · simp [h8, h16, h24, show ¬ i - 8 < 8 by omega, show i - 16 < 8 by omega,
          show 16 + (i - 16) = i by omega, hbit]
      · simp [h8, h16, h24, show ¬ i - 8 < 8 by omega, show ¬ i - 16 < 8 by omega,
          show i - 24 < 8 by omega, show 24 + (i - 24) = i by omega, hbit]

/-- A length that was written is read back. -/
theorem ntohl_htonl (len : UInt32) : ntohl (htonl len) = len :=
  UInt32.toBitVec_inj.mp (bytes_of_word len.toBitVec)

/-- A header has four bytes. -/
theorem length_htonl (len : UInt32) : (htonl len).length = 4 := rfl

/-- The length that is sent before a body is the one that is read, unless it is refused. -/
theorem announces_htonl {body : List UInt8} (hpos : 1 ≤ body.length)
    (hle : body.length ≤ 65536) :
    (eventFrames.comap id).Announces (htonl (UInt32.ofNat body.length)) body := by
  refine ⟨length_htonl _, ?_⟩
  have hlen : (UInt32.ofNat body.length).toNat = body.length := by
    rw [UInt32.toNat_ofNat']
    omega
  rw [bodyLength_comap, List.map_id, ntohl_htonl, if_neg, hlen]
  rw [not_or, UInt32.not_lt, UInt32.le_iff_toNat_le, hlen]
  refine ⟨fun hzero => ?_, hle⟩
  rw [hzero] at hlen
  have : (0 : UInt32).toNat = 0 := rfl
  omega

/-! ### The main result -/

/-- However the calls of `::send` and `::recv` cut the stream, the receive loop gets the bodies that
were sent, and nothing is left. -/
theorem framing_exact (sender receiver : Nat) {ret : Nat → Int} (hret : ∀ k, 0 < ret k)
    {frames : List (List UInt8 × (Nat → Int))}
    (hbody : ∀ frame ∈ frames, 1 ≤ frame.1.length ∧ frame.1.length ≤ 65536)
    (hsend : ∀ frame ∈ frames, ∀ k, 0 < frame.2 k) :
    inputReceiveLoop id (some receiver) ret
        (frames.flatMap fun frame => (sendFrame (some sender) frame.2 frame.1).2) =
      (frames.map Prod.fst, []) := by
  -- What is sent is each header with its body.
  have hsent : (frames.flatMap fun frame => (sendFrame (some sender) frame.2 frame.1).2) =
      (frames.map fun frame => (htonl (UInt32.ofNat frame.1.length), frame.1)).flatMap
        fun frame => frame.1 ++ frame.2 := by
    rw [List.flatMap_map]
    refine List.flatMap_congr fun frame hframe => ?_
    rw [sendFrame_of_pos rfl (hsend frame hframe)]
  have hannounces : ∀ frame ∈
      frames.map fun frame => (htonl (UInt32.ofNat frame.1.length), frame.1),
      (eventFrames.comap id).Announces frame.1 frame.2 := by
    intro frame hframe
    obtain ⟨sent, hmem, rfl⟩ := List.mem_map.mp hframe
    exact announces_htonl (hbody sent hmem).1 (hbody sent hmem).2
  -- Nothing comes after the last frame.
  have hparse := FrameFormat.parse_frames hannounces []
  rw [List.append_nil, FrameFormat.parse_nil, ← hsent] at hparse
  obtain ⟨hbodies, hleft⟩ := receiveFrames_parse id hret receiver 0
    (frames.flatMap fun frame => (sendFrame (some sender) frame.2 frame.1).2)
  rw [hparse] at hbodies hleft
  refine Prod.ext (hbodies.trans ?_) (List.suffix_nil.mp hleft)
  simp [Function.comp_def]

/-- Two bodies, written and read three bytes at a time. -/
theorem framing_exact_two :
    inputReceiveLoop id (some 6) (fun _ => 3)
        ([([1, 2, 3, 4, 5], fun _ => 3), ([6], fun _ => 3)].flatMap fun frame =>
          (sendFrame (some 5) frame.2 frame.1).2) = ([[1, 2, 3, 4, 5], [6]], []) :=
  framing_exact 5 6 (fun _ => by decide) (by decide) (by simp)

end TransportImpl

end CrossFlow
