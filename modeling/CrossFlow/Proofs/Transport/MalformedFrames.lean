import CrossFlow.Core.Transport.ReceivedFrames
import CrossFlow.Proofs.Transport.FrameSync

/-!
# `CrossFlow.Proofs.Transport.MalformedFrames`: frames that are no event

`deserializeEvent` cannot fail. A frame of another length than an event's is counted and handed to
the handler like any other, as the empty event when it is short, and cut when it is long. Only the
check of the header keeps a frame out.

* `receiveFrames_frame`: what a receive loop does with the first frame on the stream.
* `rejectsMalformed_iff`: when a frame that is no event is neither counted nor handed over.
-/

set_option autoImplicit false

namespace CrossFlow

namespace TransportImpl

/-! ### The frames that are read -/

/-- A body whose length fits in the header. -/
abbrev FrameBody : Type := { body : List UInt8 // body.length < 2 ^ 32 }

/-- The frames on the stream. -/
def wire (frames : List FrameBody) : List UInt8 :=
  frames.flatMap fun body => htonl (UInt32.ofNat body.val.length) ++ body.val

/-- The first frame comes first. -/
theorem wire_cons (body : FrameBody) (frames : List FrameBody) :
    wire (body :: frames) =
      htonl (UInt32.ofNat body.val.length) ++ body.val ++ wire frames := by
  simp only [wire, List.flatMap_cons]

/-- The loop takes this length for that of a frame. -/
def AcceptsLength (n : Nat) : Prop := n ≠ 0 ∧ n ≤ 65536

/-- Whether a length is accepted can be looked up. -/
instance (n : Nat) : Decidable (AcceptsLength n) := inferInstanceAs (Decidable (_ ∧ _))

/-- What the calls of `::recv` from the `k`th one on bring of a body of `n` bytes, after its header,
and the calls made. -/
def bodyTakes (ret : Nat → Int) (k n : Nat) : Nat × Nat :=
  socketTakes ret (socketTakes ret k 4).2 n

/-- The calls of `::recv` from the `k`th one on bring all frames. -/
def Arrive (ret : Nat → Int) (k : Nat) : List FrameBody → Prop
  | [] => True
  | body :: frames =>
    (socketTakes ret k 4).1 = 4 ∧ (bodyTakes ret k body.val.length).1 = body.val.length ∧
      Arrive ret (bodyTakes ret k body.val.length).2 frames

/-- The frame arrives and is not refused. -/
def ReadsFrame (ret : Nat → Int) (k : Nat) (body : FrameBody) : Prop :=
  (socketTakes ret k 4).1 = 4 ∧ AcceptsLength body.val.length ∧
    (bodyTakes ret k body.val.length).1 = body.val.length

/-- Whether a frame is read can be looked up. -/
instance (ret : Nat → Int) (k : Nat) (body : FrameBody) : Decidable (ReadsFrame ret k body) :=
  inferInstanceAs (Decidable (_ ∧ _))

/-- `recvRaw` on a stream that has the bytes. -/
theorem recvLoop_takes {α : Type} (ret : Nat → Int) (k want : Nat) {stream : List α}
    (hlength : want ≤ stream.length) :
    recvLoop ret k want stream =
      { ok := decide ((socketTakes ret k want).1 = want)
        data := stream.take (socketTakes ret k want).1
        rest := stream.drop (socketTakes ret k want).1
        calls := (socketTakes ret k want).2 } := by
  induction k, want, stream using recvLoop.induct ret with
  | case1 k stream => simp [recvLoop, socketTakes]
  | case2 k want stream hwant hcall =>
    -- The socket has failed: data is left, so it is the return value that stops the loop.
    have hpositive : 0 < stream.length := by omega
    have hret : ret k ≤ 0 := hcall.resolve_right (List.length_pos_iff.mp hpositive)
    rw [recvLoop, if_neg hwant, if_pos hcall, socketTakes, if_neg hwant, if_pos hret]
    simp [Ne.symm hwant]
  | case3 k want stream hwant hcall n ih =>
    have hret : ¬ ret k ≤ 0 := fun h => hcall (.inl h)
    -- The loop and the socket agree on what one call takes.
    have hn : n = min (ret k).toNat want := by omega
    rw [recvLoop, if_neg hwant, if_neg hcall, socketTakes, if_neg hwant, if_neg hret]
    simp only
    rw [ih (by rw [List.length_drop]; omega), ← hn]
    have htakes := socketTakes_le ret (k + 1) (want - n)
    have hok : ((socketTakes ret (k + 1) (want - n)).1 = want - n) ↔
        n + (socketTakes ret (k + 1) (want - n)).1 = want := by omega
    simp only [hok, List.take_add, List.drop_drop]
    rfl

/-- A header is there to be read. -/
theorem length_htonl_append (len : UInt32) (rest : List UInt8) :
    4 ≤ (htonl len ++ rest).length := by
  rw [List.length_append, length_htonl]
  omega

/-- The length of a body fits its field. -/
theorem toNat_length (body : FrameBody) :
    (UInt32.ofNat body.val.length).toNat = body.val.length := by
  rw [UInt32.toNat_ofNat']
  exact Nat.mod_eq_of_lt body.property

/-- The lengths that are refused are those not accepted. -/
theorem refused_iff (body : FrameBody) :
    UInt32.ofNat body.val.length = 0 ∨ UInt32.ofNat body.val.length > 65536 ↔
      ¬ AcceptsLength body.val.length := by
  have hlength := toNat_length body
  have hzero : UInt32.ofNat body.val.length = 0 ↔ body.val.length = 0 := by
    rw [← UInt32.toNat_inj, hlength]
    rfl
  have hlarge : UInt32.ofNat body.val.length > 65536 ↔ 65536 < body.val.length := by
    rw [gt_iff_lt, UInt32.lt_iff_toNat_lt, hlength]
    rfl
  rw [hzero, hlarge, AcceptsLength]
  omega

/-- The first frame on a stream is read when its calls bring it and its length is not refused.
Otherwise it ends the loop. -/
theorem receiveFrames_frame (socket : Nat) (ret : Nat → Int) (k : Nat) (body : FrameBody)
    (rest : List UInt8) :
    (receiveFrames id (some socket) ret k
        (htonl (UInt32.ofNat body.val.length) ++ body.val ++ rest)).1 =
      if ReadsFrame ret k body then
        body.val ::
          (receiveFrames id (some socket) ret (bodyTakes ret k body.val.length).2 rest).1
      else [] := by
  generalize hstream : htonl (UInt32.ofNat body.val.length) ++ body.val ++ rest = stream
  have hlength : 4 ≤ stream.length := by
    rw [← hstream, List.append_assoc]
    exact length_htonl_append _ _
  have hheader : recvRaw (some socket) ret k 4 stream = _ := recvLoop_takes ret k 4 hlength
  by_cases hread : (socketTakes ret k 4).1 = 4
  · have hok : ¬ (!(recvRaw (some socket) ret k 4 stream).ok) = true := by
      rw [hheader]
      simpa using hread
    have htake : (recvRaw (some socket) ret k 4 stream).data =
        htonl (UInt32.ofNat body.val.length) := by
      rw [hheader, hread, ← hstream, List.append_assoc]
      rfl
    have hdrop : (recvRaw (some socket) ret k 4 stream).rest = body.val ++ rest := by
      rw [hheader, hread, ← hstream, List.append_assoc]
      rfl
    have hlen : ntohl ((recvRaw (some socket) ret k 4 stream).data.map id) =
        UInt32.ofNat body.val.length := by
      rw [htake, List.map_id, ntohl_htonl]
    have hrefused := refused_iff body
    rw [← hlen] at hrefused
    by_cases haccepts : AcceptsLength body.val.length
    · have hbody : recvRaw (some socket) ret (recvRaw (some socket) ret k 4 stream).calls
          (ntohl ((recvRaw (some socket) ret k 4 stream).data.map id)).toNat
          (recvRaw (some socket) ret k 4 stream).rest =
            { ok := decide ((bodyTakes ret k body.val.length).1 = body.val.length)
              data := (body.val ++ rest).take (bodyTakes ret k body.val.length).1
              rest := (body.val ++ rest).drop (bodyTakes ret k body.val.length).1
              calls := (bodyTakes ret k body.val.length).2 } := by
        rw [hlen, hdrop, toNat_length, hheader]
        exact recvLoop_takes ret _ body.val.length (by rw [List.length_append]; omega)
      by_cases hdata : (bodyTakes ret k body.val.length).1 = body.val.length
      · rw [receiveFrames, if_neg hok, if_neg (fun h => hrefused.mp h haccepts), hbody]
        simp [ReadsFrame, hread, haccepts, hdata]
      -- The stream ends, or a call fails, in the middle of the body.
      · rw [receiveFrames, if_neg hok, if_neg (fun h => hrefused.mp h haccepts), hbody]
        simp [ReadsFrame, hdata]
    · rw [receiveFrames, if_neg hok, if_pos (hrefused.mpr haccepts),
        if_neg (fun h => haccepts h.2.1)]
  · have hnot : (!(recvRaw (some socket) ret k 4 stream).ok) = true := by
      rw [hheader]
      simpa using hread
    rw [receiveFrames, if_pos hnot, if_neg (fun h => hread h.1)]

/-- Nothing is received of an empty stream. -/
theorem receiveFrames_nil (socket : Nat) (ret : Nat → Int) (k : Nat) :
    (receiveFrames id (some socket) ret k ([] : List UInt8)).1 = [] := by
  rw [receiveFrames]
  simp [recvRaw, recvLoop]

/-- All frames are read up to one that does not arrive, or is refused. -/
def Reads (ret : Nat → Int) (k : Nat) (frames : List FrameBody) : Prop :=
  Arrive ret k frames ∧ ∀ body ∈ frames, AcceptsLength body.val.length

/-- The first frame is read, and then the others. -/
theorem reads_cons_iff (ret : Nat → Int) (k : Nat) (body : FrameBody) (frames : List FrameBody) :
    Reads ret k (body :: frames) ↔
      ReadsFrame ret k body ∧ Reads ret (bodyTakes ret k body.val.length).2 frames := by
  simp only [Reads, ReadsFrame, Arrive, List.forall_mem_cons]
  tauto

/-- By induction on the frames: those that all arrive and are not refused are read. -/
theorem receiveFrames_of_reads (socket : Nat) {ret : Nat → Int} {k : Nat} {frames : List FrameBody}
    (hreads : Reads ret k frames) :
    (receiveFrames id (some socket) ret k (wire frames)).1 = frames.map Subtype.val := by
  induction frames generalizing k with
  | nil => exact receiveFrames_nil socket ret k
  | cons body frames ih =>
    rw [reads_cons_iff] at hreads
    obtain ⟨hfirst, hrest⟩ := hreads
    rw [wire_cons, receiveFrames_frame, if_pos hfirst, ih hrest]
    rfl

/-- The first frames are read if all are. -/
theorem reads_of_append {ret : Nat → Int} {k : Nat} {frames later : List FrameBody}
    (hreads : Reads ret k (frames ++ later)) : Reads ret k frames := by
  induction frames generalizing k with
  | nil => exact ⟨trivial, nofun⟩
  | cons body frames ih =>
    rw [List.cons_append, reads_cons_iff] at hreads
    exact (reads_cons_iff ret k body frames).mpr ⟨hreads.1, ih hreads.2⟩

/-- A frame that is not reached leaves the frames that are read as they are. -/
theorem receiveFrames_of_not_reads (socket : Nat) {ret : Nat → Int} {k : Nat}
    {before : List FrameBody} {body : FrameBody} (hnot : ¬ Reads ret k (before ++ [body])) :
    (receiveFrames id (some socket) ret k (wire (before ++ [body]))).1 =
      (receiveFrames id (some socket) ret k (wire before)).1 := by
  induction before generalizing k with
  | nil =>
    rw [List.nil_append, reads_cons_iff] at hnot
    rw [List.nil_append, wire_cons, receiveFrames_frame, if_neg]
    · exact (receiveFrames_nil socket ret k).symm
    · exact fun hfirst => hnot ⟨hfirst, trivial, nofun⟩
  | cons first before ih =>
    rw [List.cons_append, reads_cons_iff] at hnot
    rw [List.cons_append, wire_cons, receiveFrames_frame, wire_cons, receiveFrames_frame]
    split
    · rename_i hfirst
      rw [ih (fun hrest => hnot ⟨hfirst, hrest⟩)]
    · rfl

/-! ### What is done with them -/

section
variable (image : List UInt8 → ReceivedEvent) (handler : Bool) (t : TransportImpl)

/-- The last frame is received after the others. -/
theorem receiveEvents_append_singleton (frames : List (List UInt8)) (data : List UInt8) :
    t.receiveEvents image handler (frames ++ [data]) =
      let before := t.receiveEvents image handler frames
      let last := before.1.receiveEvent image handler data
      (last.1, before.2 ++ last.2) := by
  induction frames generalizing t with
  | nil => simp [receiveEvents]
  | cons first frames ih => simp [receiveEvents, ih]

/-- After the frames `before` on a connection, that of `body` is neither counted nor handed to the
handler: both are as they would be without it. -/
def IgnoresFrame (socket : Nat) (ret : Nat → Int) (before : List FrameBody) (body : FrameBody) :
    Prop :=
  let without := t.receiveConnection image handler socket ret (wire before)
  let received := t.receiveConnection image handler socket ret (wire (before ++ [body]))
  received.1.totalReceived = without.1.totalReceived ∧ received.2 = without.2

/-- A frame of another length than an event's is ignored. -/
def RejectsMalformed (socket : Nat) (ret : Nat → Int) (before : List FrameBody)
    (body : FrameBody) : Prop :=
  body.val.length ≠ sizeofEvent → t.IgnoresFrame image handler socket ret before body

/-- What is read is counted. -/
theorem ignoresFrame_iff (socket : Nat) (ret : Nat → Int) (before : List FrameBody)
    (body : FrameBody) :
    t.IgnoresFrame image handler socket ret before body ↔ ¬ Reads ret 0 (before ++ [body]) := by
  constructor
  · -- A frame that is read goes through `receiveEvent`, which counts it whatever its bytes are.
    rintro ⟨hcount, -⟩ hreads
    have hbefore : Reads ret 0 before := reads_of_append hreads
    simp only [receiveConnection, inputReceiveLoop, receiveFrames_of_reads socket hreads,
      receiveFrames_of_reads socket hbefore, List.map_append, List.map_singleton,
      receiveEvents_append_singleton, receiveEvent] at hcount
    exact absurd hcount (by simp)
  · intro hnot
    simp only [IgnoresFrame, receiveConnection, inputReceiveLoop,
      receiveFrames_of_not_reads socket hnot, and_self]

end

end TransportImpl

/-- A frame of another length than an event's is ignored exactly when it is not read: a length on
the connection so far is refused, its own or an earlier one, or the bytes do not all arrive. -/
theorem rejectsMalformed_iff (t : TransportImpl) (image : List UInt8 → ReceivedEvent)
    (handler : Bool) (socket : Nat) (ret : Nat → Int) (before : List TransportImpl.FrameBody)
    (body : TransportImpl.FrameBody) :
    t.RejectsMalformed image handler socket ret before body ↔
      body.val.length = TransportImpl.sizeofEvent ∨
        (∃ frame ∈ before ++ [body], frame.val.length = 0 ∨ 65536 < frame.val.length) ∨
          ¬ TransportImpl.Arrive ret 0 (before ++ [body]) := by
  rw [TransportImpl.RejectsMalformed, TransportImpl.ignoresFrame_iff, TransportImpl.Reads]
  have hrefused : (∃ frame ∈ before ++ [body], frame.val.length = 0 ∨ 65536 < frame.val.length) ↔
      ¬ ∀ frame ∈ before ++ [body], TransportImpl.AcceptsLength frame.val.length := by
    simp only [TransportImpl.AcceptsLength, not_forall]
    refine exists_congr fun frame => ?_
    rw [exists_prop]
    refine and_congr_right fun _ => ?_
    omega
  rw [hrefused]
  tauto

/-- One byte is counted, and handed over as the empty event. -/
theorem short_frame_delivered :
    let t := TransportImpl.init ⟨[], 9000, 9001, false⟩
    let body : TransportImpl.FrameBody := ⟨[7], by decide⟩
    let image : List UInt8 → ReceivedEvent := fun _ => .empty
    ¬ t.RejectsMalformed image true 3 (fun _ => 4) [] body ∧
      (t.receiveConnection image true 3 (fun _ => 4) (TransportImpl.wire [body])).2 =
        [.empty] := by
  intro t body image
  -- The length is in bounds and every call returns data, so the frame is read and passed on.
  have hreads : TransportImpl.Reads (fun _ => 4) 0 [body] := by
    refine ⟨⟨?_, ?_, trivial⟩, ?_⟩
    · simp [TransportImpl.socketTakes]
    · simp [TransportImpl.bodyTakes, TransportImpl.socketTakes, body]
    · simp [body, TransportImpl.AcceptsLength]
  constructor
  · intro hrejects
    have hignores := hrejects (by decide)
    rw [TransportImpl.ignoresFrame_iff] at hignores
    exact hignores hreads
  · rw [TransportImpl.receiveConnection, TransportImpl.inputReceiveLoop,
      TransportImpl.receiveFrames_of_reads 3 hreads]
    rfl

end CrossFlow
