import CrossFlow.Core.Transport.TransportImpl

/-!
# `CrossFlow.Core.Transport.ReceiveLoop`: frames on a stream

`recvRaw` and the framing of `inputReceiveLoop` and `controlReceiveLoop` in
`s05_transport/transport_impl.cpp`, on one connection and while `receiving_` is set. The bytes may
carry something more than their value, which the loop does not read.
-/

set_option autoImplicit false

namespace CrossFlow

namespace TransportImpl

/-- `sizeof(CanonicalInputEvent)` -/
def sizeofEvent : Nat := 56

/-- What `recvRaw` returns, the bytes it read, the ones that are left, and the calls made. -/
structure Received (α : Type) where
  ok : Bool
  data : List α
  rest : List α
  calls : Nat

/-- The loop of `recvRaw`. The `k`th call of `::recv` returns `ret k`, less when fewer bytes are
asked for or there, and 0 at the end of the stream. -/
def recvLoop {α : Type} (ret : Nat → Int) (k want : Nat) (stream : List α) : Received α :=
  if want = 0 then { ok := true, data := [], rest := stream, calls := k }
  else if ret k ≤ 0 ∨ stream = [] then { ok := false, data := [], rest := stream, calls := k + 1 }
  else
    let n := min (ret k).toNat (min want stream.length)
    let r := recvLoop ret (k + 1) (want - n) (stream.drop n)
    { r with data := stream.take n ++ r.data }
termination_by want
decreasing_by
  rename_i hwant hcall
  rw [not_or] at hcall
  have hlength : 0 < stream.length := List.length_pos_iff.mpr hcall.2
  omega

/-- The loop, unless there is no descriptor. -/
def recvRaw {α : Type} (fd : SocketFd) (ret : Nat → Int) (k want : Nat) (stream : List α) :
    Received α :=
  match fd with
  | none => { ok := false, data := [], rest := stream, calls := k }
  | some _ => recvLoop ret k want stream

/-- The number that four bytes stand for in network order. -/
def ntohl : List UInt8 → UInt32
  | [a, b, c, d] => a.toUInt32 <<< 24 ||| b.toUInt32 <<< 16 ||| c.toUInt32 <<< 8 ||| d.toUInt32
  | _ => 0

/-- What is read comes before what is left, and it is all that was asked for when the loop
succeeds. -/
theorem recvLoop_append {α : Type} (ret : Nat → Int) (k want : Nat) (stream : List α) :
    (recvLoop ret k want stream).data ++ (recvLoop ret k want stream).rest = stream ∧
      ((recvLoop ret k want stream).ok = true →
        (recvLoop ret k want stream).data.length = want) := by
  induction k, want, stream using recvLoop.induct ret with
  | case1 k stream => simp [recvLoop]
  | case2 k want stream hwant hcall => simp [recvLoop, hwant, hcall]
  -- A call takes `n` bytes from the stream, and the rest of the loop the rest.
  | case3 k want stream hwant hcall n ih =>
    rw [recvLoop, if_neg hwant, if_neg hcall]
    obtain ⟨happend, hok⟩ := ih
    have hn : n ≤ want ∧ n ≤ stream.length := by omega
    constructor
    · show stream.take n ++ (recvLoop ret (k + 1) (want - n) (stream.drop n)).data ++
        (recvLoop ret (k + 1) (want - n) (stream.drop n)).rest = stream
      rw [List.append_assoc, happend, List.take_append_drop]
    · intro h
      have hlength := hok h
      show (stream.take n ++ (recvLoop ret (k + 1) (want - n) (stream.drop n)).data).length = want
      rw [List.length_append, List.length_take_of_le hn.2]
      omega

/-- What is read and what is left are the stream, and as much is read as was asked for if the call
succeeds. -/
theorem recvRaw_append {α : Type} (fd : SocketFd) (ret : Nat → Int) (k want : Nat)
    (stream : List α) :
    (recvRaw fd ret k want stream).data ++ (recvRaw fd ret k want stream).rest = stream ∧
      ((recvRaw fd ret k want stream).ok = true →
        (recvRaw fd ret k want stream).data.length = want) := by
  cases fd with
  | none => exact ⟨rfl, nofun⟩
  | some socket => exact recvLoop_append ret k want stream

/-- `recvRaw` gives back less than it got, when it reads all it was asked for. -/
theorem recvRaw_length {α : Type} (fd : SocketFd) (ret : Nat → Int) (k want : Nat)
    (stream : List α) :
    (recvRaw fd ret k want stream).rest.length ≤ stream.length ∧
      ((recvRaw fd ret k want stream).ok = true →
        (recvRaw fd ret k want stream).rest.length + want = stream.length) := by
  obtain ⟨happend, hok⟩ := recvRaw_append fd ret k want stream
  have hlength := congrArg List.length happend
  rw [List.length_append] at hlength
  constructor
  · omega
  · intro h
    have hdata := hok h
    omega

/-- The frames that a receive loop reads until the connection is lost, and what is left then. -/
def receiveFrames {α : Type} (value : α → UInt8) (fd : SocketFd) (ret : Nat → Int) (k : Nat)
    (stream : List α) : List (List α) × List α :=
  let header := recvRaw fd ret k 4 stream
  if !header.ok then ([], header.rest)
  else
    let len := ntohl (header.data.map value)
    if len = 0 ∨ len > 65536 then ([], header.rest)
    else
      let body := recvRaw fd ret header.calls len.toNat header.rest
      if !body.ok then ([], body.rest)
      else
        let (bodies, rest) := receiveFrames value fd ret body.calls body.rest
        (body.data :: bodies, rest)
termination_by stream.length
decreasing_by
  rename_i hheader _ _
  have hread : header.rest.length + 4 = stream.length :=
    (recvRaw_length fd ret k 4 stream).2 (by simpa using hheader)
  have hrest := (recvRaw_length fd ret header.calls len.toNat header.rest).1
  exact Nat.lt_of_le_of_lt hrest (by omega)

/-- The bytes that `inputReceiveLoop` hands to `deserializeEvent`. -/
def inputReceiveLoop {α : Type} (value : α → UInt8) (fd : SocketFd) (ret : Nat → Int)
    (stream : List α) : List (List α) × List α := receiveFrames value fd ret 0 stream

/-- The bytes that `controlReceiveLoop` hands to `deserializeMessage`. -/
def controlReceiveLoop {α : Type} (value : α → UInt8) (fd : SocketFd) (ret : Nat → Int)
    (stream : List α) : List (List α) × List α := receiveFrames value fd ret 0 stream

end TransportImpl

end CrossFlow
