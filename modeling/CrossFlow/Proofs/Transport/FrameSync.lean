import CrossFlow.Proofs.Transport.Framing

/-!
# `CrossFlow.Proofs.Transport.FrameSync`: frames after a send that fails

A `send` that fails in the middle of its frame leaves what it wrote on the stream, and the next one
begins a new frame after it. The bytes carry the `send` that wrote them and their place in its
frame.

* `send_takes`: what a `send` writes is what the socket takes of its frame.
* `parse_stream_iff`: when the frames on the stream are frames that were sent.
* `inSync_iff`: the same for what the peer reads of a run of `send`s.
-/

set_option autoImplicit false

namespace CrossFlow

open Lib (FrameFormat)

namespace TransportImpl

/-! ### What the socket takes -/

/-- How many of `n` bytes the calls of `::send` take from the `k`th one on, and the calls made. -/
def socketTakes (ret : Nat → Int) (k n : Nat) : Nat × Nat :=
  if n = 0 then (0, k)
  else if ret k ≤ 0 then (0, k + 1)
  else
    let m := min (ret k).toNat n
    let rest := socketTakes ret (k + 1) (n - m)
    (m + rest.1, rest.2)
termination_by n

/-- How many bytes of the frame of an event the calls of `::send` take. -/
def takenBytes (ret : Nat → Int) : Nat :=
  let header := socketTakes ret 0 4
  if header.1 < 4 then header.1 else 4 + (socketTakes ret header.2 sizeofEvent).1

/-- The socket takes no more than it is given. -/
theorem socketTakes_le (ret : Nat → Int) (k n : Nat) : (socketTakes ret k n).1 ≤ n := by
  induction k, n using socketTakes.induct ret with
  | case1 k => simp [socketTakes]
  | case2 k n hn hfails => simp [socketTakes, hn, hfails]
  | case3 k n hn hsends m ih =>
    rw [socketTakes, if_neg hn, if_neg hsends]
    show m + (socketTakes ret (k + 1) (n - m)).1 ≤ n
    omega

/-- The loop sends the bytes the socket takes. -/
theorem sendLoop_takes (ret : Nat → Int) (k : Nat) (data : List UInt8) :
    sendLoop ret k data =
      (decide ((socketTakes ret k data.length).1 = data.length),
        data.take (socketTakes ret k data.length).1, (socketTakes ret k data.length).2) := by
  induction k, data using sendLoop.induct ret with
  | case1 k => simp [socketTakes, sendLoop]
  | case2 k data hdata hfails =>
    have hlength : data.length ≠ 0 := by simpa using hdata
    rw [socketTakes, if_neg hlength, if_pos hfails, sendLoop, if_neg hdata, if_pos hfails]
    simp [hlength.symm]
  | case3 k data hdata hsends n ok written k' hrec ih =>
    have hlength : data.length ≠ 0 := by simpa using hdata
    have hrest : (data.drop n).length = data.length - min n data.length := by
      rw [List.length_drop]
      omega
    rw [hrest] at ih
    rw [socketTakes, if_neg hlength, if_neg hsends, sendLoop, if_neg hdata, if_neg hsends]
    dsimp only
    rw [show (ret k).toNat = n from rfl, ih]
    have hle := socketTakes_le ret (k + 1) (data.length - min n data.length)
    refine Prod.ext ?_ (Prod.ext ?_ rfl)
    · rw [decide_eq_decide]
      omega
    · dsimp only
      -- The socket may report more bytes than it was given.
      by_cases hfits : n ≤ data.length
      · rw [Nat.min_eq_left hfits, List.take_add]
      · have hall : data.length ≤ n := by omega
        rw [Nat.min_eq_right hall, List.take_of_length_le hall, List.drop_eq_nil_of_le hall,
          List.take_nil, List.append_nil, List.take_of_length_le (Nat.le_add_right _ _)]

/-- A socket that refuses nothing takes everything. -/
theorem socketTakes_of_pos {ret : Nat → Int} (hret : ∀ k, 0 < ret k) (k n : Nat) :
    (socketTakes ret k n).1 = n := by
  induction k, n using socketTakes.induct ret with
  | case1 k => simp [socketTakes]
  | case2 k n hn hfails => exact absurd hfails (Int.not_le.mpr (hret k))
  | case3 k n hn hsends m ih =>
    rw [socketTakes, if_neg hn, if_neg hsends]
    show m + (socketTakes ret (k + 1) (n - m)).1 = n
    omega

/-- A socket that refuses the first call takes nothing. -/
theorem socketTakes_of_refused {ret : Nat → Int} {k n : Nat} (hret : ret k ≤ 0) :
    (socketTakes ret k n).1 = 0 := by
  rw [socketTakes]
  split
  · rfl
  · rfl

/-- A socket that refuses nothing takes a whole frame. -/
theorem takenBytes_of_pos {ret : Nat → Int} (hret : ∀ k, 0 < ret k) : takenBytes ret = 60 := by
  rw [takenBytes, socketTakes_of_pos hret, socketTakes_of_pos hret]
  rfl

/-- A socket that refuses the first call takes nothing of a frame. -/
theorem takenBytes_of_refused {ret : Nat → Int} (hret : ret 0 ≤ 0) : takenBytes ret = 0 := by
  rw [takenBytes, socketTakes_of_refused hret]
  rfl

/-- The header in one call, and a part of the event in the next one. -/
theorem takenBytes_of_torn {ret : Nat → Int} (n : Nat) (hheader : ret 0 = 4) (hbody : ret 1 = n)
    (hpos : 0 < n) (hpart : n < sizeofEvent) (hfails : ret 2 ≤ 0) : takenBytes ret = 4 + n := by
  have hfirst : socketTakes ret 0 4 = (4, 1) := by
    rw [socketTakes, if_neg (by decide), if_neg (by omega), hheader]
    show (4 + (socketTakes ret 1 0).1, (socketTakes ret 1 0).2) = (4, 1)
    rw [socketTakes, if_pos rfl]
    rfl
  have hsecond : (socketTakes ret 1 sizeofEvent).1 = n := by
    rw [socketTakes, if_neg (by decide), if_neg (by omega), hbody, Int.toNat_natCast,
      Nat.min_eq_left (Nat.le_of_lt hpart)]
    dsimp only
    rw [socketTakes_of_refused hfails, Nat.add_zero]
  rw [takenBytes, hfirst]
  show 4 + (socketTakes ret 1 sizeofEvent).1 = 4 + n
  rw [hsecond]

/-- Every event is as long as the type. -/
def EventSized (bytes : ObjectBytes) : Prop := ∀ event, (bytes.event event).length = sizeofEvent

/-- No more than a frame is taken. -/
theorem takenBytes_le (ret : Nat → Int) : takenBytes ret ≤ 60 := by
  have hheader := socketTakes_le ret 0 4
  have hbody := socketTakes_le ret (socketTakes ret 0 4).2 sizeofEvent
  have hsize : sizeofEvent = 56 := rfl
  unfold takenBytes
  dsimp only
  split
  · omega
  · omega

/-- What a `send` writes is what the socket takes of its frame. -/
theorem send_takes {bytes : ObjectBytes} (hsize : EventSized bytes) {t : TransportImpl}
    (hconnected : t.connected = true) (hsocket : t.inputSocket.isSome = true)
    (event : CanonicalInputEvent) (ret : Nat → Int) :
    (t.send bytes event ret).2 = (frame bytes event).take (takenBytes ret) := by
  obtain ⟨socket, hsocket⟩ := Option.isSome_iff_exists.mp hsocket
  have hwritten : (t.send bytes event ret).2 =
      (sendFrame (some socket) ret (bytes.event event)).2 := by
    rw [send, hconnected, hsocket]
    dsimp only
    split
    · next hfalse => exact absurd hfalse (by simp)
    · split <;> rfl
  rw [hwritten, frame, hsize event]
  generalize hheader : htonl (UInt32.ofNat sizeofEvent) = header
  have hlength : header.length = 4 := by rw [← hheader]; rfl
  have hheaderLe := socketTakes_le ret 0 4
  unfold sendFrame takenBytes
  rw [hsize event, hheader]
  dsimp only [sendRaw]
  rw [sendLoop_takes, hlength]
  dsimp only
  -- The header is cut, and no body follows it; or it is whole, and the body is cut.
  by_cases hshort : (socketTakes ret 0 4).1 < 4
  · rw [if_pos hshort, if_pos (by simpa using by omega), List.take_append_of_le_length (by omega)]
  · have hall : (socketTakes ret 0 4).1 = 4 := by omega
    rw [if_neg hshort, if_neg (by simpa using hall), sendLoop_takes, hsize event, hall]
    dsimp only
    rw [List.take_of_length_le (by omega), ← hlength, List.take_length_add_append]

/-! ### The bytes on the stream -/

/-- A byte, with the `send` that wrote it and its place in the frame. -/
structure Labelled where
  value : UInt8
  send : Nat
  offset : Nat
  deriving DecidableEq

/-- The bytes of a send, with where each was written. -/
def label (i : Nat) (bytes : List UInt8) : List Labelled :=
  bytes.mapIdx fun offset value => { value, send := i, offset }

/-- The stream, of what each `send` wrote, the first of them with the number `i`. -/
def stream (i : Nat) : List (List UInt8) → List Labelled
  | [] => []
  | written :: rest => label i written ++ stream (i + 1) rest

/-- The bodies of the frames. -/
def bodies (i : Nat) : List (List UInt8) → List (List Labelled)
  | [] => []
  | frame :: rest => (label i frame).drop 4 :: bodies (i + 1) rest

/-- As many labels as bytes. -/
theorem length_label (i : Nat) (bytes : List UInt8) : (label i bytes).length = bytes.length := by
  simp [label]

/-- The byte in a place of a frame. -/
theorem getElem?_label (i : Nat) (bytes : List UInt8) (n : Nat) :
    (label i bytes)[n]? = bytes[n]?.map fun value => { value, send := i, offset := n } := by
  simp [label]

/-- The labelled bytes are the bytes. -/
theorem map_value_label (i : Nat) (bytes : List UInt8) :
    (label i bytes).map Labelled.value = bytes := by
  apply List.ext_getElem?
  intro n
  rw [List.getElem?_map, getElem?_label, Option.map_map]
  exact Option.map_id_apply

/-- The labelled stream is what was written. -/
theorem map_value_stream (i : Nat) (written : List (List UInt8)) :
    (stream i written).map Labelled.value = written.flatten := by
  induction written generalizing i with
  | nil => rfl
  | cons bytes rest ih => rw [stream, List.map_append, map_value_label, ih, List.flatten_cons]

/-- The labelled bodies are those of the frames. -/
theorem map_value_bodies (i : Nat) (frames : List (List UInt8)) :
    (bodies i frames).map (List.map Labelled.value) = frames.map (List.drop 4) := by
  induction frames generalizing i with
  | nil => rfl
  | cons frame rest ih =>
    rw [bodies, List.map_cons, List.map_drop, map_value_label, ih, List.map_cons]

/-- A labelled byte is the byte at its offset. -/
theorem mem_label {i : Nat} {bytes : List UInt8} {x : Labelled} (hx : x ∈ label i bytes) :
    x.send = i ∧ bytes[x.offset]? = some x.value := by
  obtain ⟨n, hn⟩ := List.getElem?_of_mem hx
  rw [getElem?_label, Option.map_eq_some_iff] at hn
  obtain ⟨value, hvalue, rfl⟩ := hn
  exact ⟨rfl, hvalue⟩

/-- The bytes of a stream are from its sends. -/
theorem le_send_of_mem_stream {i : Nat} {written : List (List UInt8)} {x : Labelled}
    (hx : x ∈ stream i written) : i ≤ x.send := by
  induction written generalizing i with
  | nil => exact absurd hx List.not_mem_nil
  | cons bytes rest ih =>
    rcases List.mem_append.mp hx with hx | hx
    · exact (mem_label hx).1.ge
    · exact Nat.le_of_succ_le (ih hx)

/-- The bytes of a body come after the header. -/
theorem le_offset_of_mem_bodies {i : Nat} {frames : List (List UInt8)} {body : List Labelled}
    (hbody : body ∈ bodies i frames) {x : Labelled} (hx : x ∈ body) : 4 ≤ x.offset := by
  induction frames generalizing i with
  | nil => exact absurd hbody List.not_mem_nil
  | cons frame rest ih =>
    rcases List.mem_cons.mp hbody with rfl | hbody
    · obtain ⟨n, hn⟩ := List.getElem?_of_mem hx
      rw [List.getElem?_drop, getElem?_label, Option.map_eq_some_iff] at hn
      obtain ⟨value, -, rfl⟩ := hn
      exact Nat.le_add_right 4 n
    · exact ih hbody

/-- A stream begins where a frame does. -/
theorem offset_head_stream {i : Nat} {written : List (List UInt8)} {x : Labelled}
    {xs : List Labelled} (h : stream i written = x :: xs) : x.offset = 0 := by
  induction written generalizing i with
  | nil => exact absurd h (by simp [stream])
  | cons bytes rest ih =>
    cases bytes with
    | nil => exact ih h
    | cons value bytes =>
      have hhead : (stream i ((value :: bytes) :: rest)).head? =
          some { value, send := i, offset := 0 } := by simp [stream, label]
      rw [h] at hhead
      cases hhead
      rfl

/-! ### The frames on the stream -/

/-- The length of an event, and as many bytes. -/
structure IsFrame (frame : List UInt8) : Prop where
  header : frame.take 4 = [0, 0, 0, 56]
  length : frame.length = 60

/-- The streams of the frames `sends.map Prod.fst`, of each of which so many bytes are written. -/
def streamOf (i : Nat) (sends : List (List UInt8 × Nat)) : List Labelled :=
  stream i (sends.map fun send => send.1.take send.2)

/-- No frame is written in part, or not so much is written from the first one on that the reader has
a length and as many bytes. A length of which a part is written is read as 0. -/
def KeepsSync : List Nat → Prop
  | [] => True
  | taken :: rest =>
    if taken = 0 ∨ taken = 60 then KeepsSync rest else taken < 4 ∨ taken + rest.sum < 60

/-- The first bytes of a frame are those of a length below 256. -/
theorem IsFrame.value_of_lt {frame : List UInt8} (h : IsFrame frame) {n : Nat} {value : UInt8}
    (hn : n < 3) (hvalue : frame[n]? = some value) : value = 0 := by
  have hheader : frame[n]? = [0, 0, 0, 56][n]? := by
    rw [← h.header, List.getElem?_take_of_lt (by omega)]
  rw [hheader] at hvalue
  interval_cases n
  · simpa using hvalue.symm
  · simpa using hvalue.symm
  · simpa using hvalue.symm

/-- The first three bytes of a frame are 0. -/
theorem value_of_mem_label {i : Nat} {frame : List UInt8} (h : IsFrame frame) {n taken : Nat}
    (hn : min n taken ≤ 3) {x : Labelled} (hx : x ∈ (label i (frame.take taken)).take n) :
    x.value = 0 := by
  obtain ⟨m, hm⟩ := List.getElem?_of_mem hx
  rw [List.getElem?_take] at hm
  split at hm
  · next hlt =>
    rw [getElem?_label, List.getElem?_take] at hm
    split at hm
    · next htaken =>
      obtain ⟨value, hvalue, rfl⟩ := Option.map_eq_some_iff.mp hm
      exact h.value_of_lt (by omega) hvalue
    · exact absurd hm (by simp)
  · exact absurd hm (by simp)

/-- The first three bytes of a stream of frames are 0. -/
theorem value_of_mem_stream {i : Nat} {sends : List (List UInt8 × Nat)}
    (hframes : ∀ send ∈ sends, IsFrame send.1) {n : Nat} (hn : n ≤ 3) {x : Labelled}
    (hx : x ∈ (streamOf i sends).take n) : x.value = 0 := by
  induction sends generalizing i n with
  | nil => simp [streamOf, stream] at hx
  | cons send rest ih =>
    rw [streamOf, List.map_cons, stream, List.take_append] at hx
    rcases List.mem_append.mp hx with hx | hx
    · exact value_of_mem_label (hframes send List.mem_cons_self) (by omega) hx
    · exact ih (fun s hs => hframes s (List.mem_cons_of_mem send hs)) (by omega) hx

/-- The frames that a receive loop reads from labelled bytes. -/
abbrev labelledFrames : FrameFormat Labelled := eventFrames.comap Labelled.value

/-- A header that is written in part is read as the length 0. -/
theorem parse_of_short_header {i : Nat} {frame : List UInt8} (h : IsFrame frame)
    {sends : List (List UInt8 × Nat)} (hframes : ∀ send ∈ sends, IsFrame send.1) {taken : Nat}
    (hpos : taken ≠ 0) (hshort : taken < 4) :
    (labelledFrames.parse (streamOf i ((frame, taken) :: sends))).1 = [] := by
  by_cases hlength : (streamOf i ((frame, taken) :: sends)).length < 4
  · rw [FrameFormat.parse_of_short _ hlength]
  · have hzero : ∀ x ∈ (streamOf i ((frame, taken) :: sends)).take 4, x.value = 0 := by
      intro x hx
      rw [streamOf, List.map_cons, stream, List.take_append, length_label, List.length_take,
        h.length] at hx
      -- From the part of this frame, or from the headers of the next ones.
      rcases List.mem_append.mp hx with hx | hx
      · exact value_of_mem_label h (by omega) hx
      · exact value_of_mem_stream hframes (by omega) hx
    have hheader : ((streamOf i ((frame, taken) :: sends)).take 4).map Labelled.value =
        List.replicate 4 0 := by
      rw [List.eq_replicate_iff, List.length_map, List.length_take]
      refine ⟨by omega, fun value hvalue => ?_⟩
      obtain ⟨x, hx, rfl⟩ := List.mem_map.mp hvalue
      exact hzero x hx
    have hrefused : labelledFrames.bodyLength ((streamOf i ((frame, taken) :: sends)).take 4) =
        none := by
      rw [bodyLength_comap, hheader]
      decide
    rw [FrameFormat.parse_of_refused _ hrefused]

/-- The stream is as long as what was taken of its sends. -/
theorem length_stream (i : Nat) {sends : List (List UInt8 × Nat)}
    (hframes : ∀ send ∈ sends, IsFrame send.1 ∧ send.2 ≤ 60) :
    (streamOf i sends).length = (sends.map Prod.snd).sum := by
  induction sends generalizing i with
  | nil => rfl
  | cons send rest ih =>
    obtain ⟨hframe, htaken⟩ := hframes send List.mem_cons_self
    have hrest := ih (i + 1) fun s hs => hframes s (List.mem_cons_of_mem send hs)
    rw [streamOf] at hrest
    rw [streamOf, List.map_cons, stream, List.length_append, hrest, length_label, List.length_take,
      hframe.length, Nat.min_eq_left htaken, List.map_cons, List.sum_cons]

/-- The length that a whole header announces. -/
theorem bodyLength_header (i : Nat) {frame : List UInt8} (h : IsFrame frame) {taken : Nat}
    (htaken : 4 ≤ taken) (rest : List Labelled) :
    labelledFrames.bodyLength ((label i (frame.take taken) ++ rest).take 4) = some sizeofEvent := by
  have hlength : 4 ≤ (label i (frame.take taken)).length := by
    rw [length_label, List.length_take, h.length]
    omega
  rw [bodyLength_comap, List.take_append_of_le_length hlength, List.map_take, map_value_label,
    List.take_take, Nat.min_eq_left htaken, h.header]
  decide

/-- A frame that is written whole is read as what it is. -/
theorem announces_label (i : Nat) {frame : List UInt8} (h : IsFrame frame) :
    labelledFrames.Announces ((label i frame).take 4) ((label i frame).drop 4) := by
  have hheader := bodyLength_header i h (show 4 ≤ 60 by decide) []
  rw [List.append_nil, List.take_of_length_le (Nat.le_of_eq h.length)] at hheader
  constructor
  · rw [List.length_take, length_label, h.length]
    rfl
  · rw [hheader, List.length_drop, length_label, h.length]
    rfl

/-- No frame of later ones is the body of this one. -/
theorem body_notMem_parse (i : Nat) {frame : List UInt8} (h : IsFrame frame)
    (sends : List (List UInt8 × Nat)) :
    (label i frame).drop 4 ∉ (labelledFrames.parse (streamOf (i + 1) sends)).1 := by
  intro hmem
  have hpos : 0 < ((label i frame).drop 4).length := by
    rw [List.length_drop, length_label, h.length]
    decide
  obtain ⟨x, hx⟩ := List.exists_mem_of_length_pos hpos
  have hsend := (mem_label (List.mem_of_mem_drop hx)).1
  have hlater := le_send_of_mem_stream (FrameFormat.mem_of_mem_parse hmem hx)
  omega

/-- What is read after a whole header of a frame that is written in part. -/
theorem parse_of_torn (i : Nat) {frame : List UInt8} (h : IsFrame frame) {taken : Nat}
    (hheader : 4 ≤ taken) (htorn : taken < 60) {later : List Labelled}
    (hlater : 60 ≤ taken + later.length) :
    ∃ body ∈ (labelledFrames.parse (label i (frame.take taken) ++ later)).1,
      ∃ x ∈ body, later.head? = some x := by
  have hfirst : (label i (frame.take taken)).length = taken := by
    rw [length_label, List.length_take, h.length]
    omega
  have hsize : labelledFrames.headerSize = 4 ∧ sizeofEvent = 56 := ⟨rfl, rfl⟩
  have hlength : labelledFrames.headerSize + sizeofEvent ≤
      (label i (frame.take taken) ++ later).length := by
    rw [List.length_append, hfirst]
    omega
  obtain ⟨x, rest, rfl⟩ := List.exists_cons_of_length_pos (l := later) (by omega)
  rw [FrameFormat.parse_of_complete _ (bodyLength_header i h hheader _) hlength]
  refine ⟨_, List.mem_cons_self, x, ?_, rfl⟩
  -- The body goes on in what was written next.
  have hplace : labelledFrames.headerSize + (taken - 4) = (label i (frame.take taken)).length := by
    omega
  apply List.mem_of_getElem? (i := taken - 4)
  rw [List.getElem?_take_of_lt (by omega), List.getElem?_drop, hplace,
    List.getElem?_append_right (Nat.le_refl _), Nat.sub_self, List.getElem?_cons_zero]

/-- The frames on the stream are frames that were sent, in their order, as long as the bytes keep
the sync. -/
theorem parse_stream_iff (i : Nat) {sends : List (List UInt8 × Nat)}
    (hframes : ∀ send ∈ sends, IsFrame send.1 ∧ send.2 ≤ 60) :
    (labelledFrames.parse (streamOf i sends)).1.Sublist (bodies i (sends.map Prod.fst)) ↔
      KeepsSync (sends.map Prod.snd) := by
  induction sends generalizing i with
  | nil =>
    have hnil : streamOf i [] = [] := rfl
    rw [hnil, FrameFormat.parse_nil]
    exact iff_of_true (List.nil_sublist _) trivial
  | cons send rest ih =>
    obtain ⟨frame, taken⟩ := send
    obtain ⟨hframe, htaken⟩ := hframes (frame, taken) List.mem_cons_self
    dsimp only at hframe htaken
    have hrest := fun s hs => hframes s (List.mem_cons_of_mem (frame, taken) hs)
    have hstream : streamOf i ((frame, taken) :: rest) =
        label i (frame.take taken) ++ streamOf (i + 1) rest := rfl
    have hbodies : bodies i (frame :: rest.map Prod.fst) =
        (label i frame).drop 4 :: bodies (i + 1) (rest.map Prod.fst) := rfl
    have hsync : KeepsSync (taken :: rest.map Prod.snd) ↔
        if taken = 0 ∨ taken = 60 then KeepsSync (rest.map Prod.snd)
        else taken < 4 ∨ taken + (rest.map Prod.snd).sum < 60 := Iff.rfl
    have hlength := length_stream (i + 1) hrest
    rw [List.map_cons, List.map_cons, hsync]
    -- A send that wrote nothing leaves the stream to those after it.
    by_cases hnone : taken = 0
    · have hempty : label i (frame.take taken) = [] := by rw [hnone]; rfl
      rw [hstream, hbodies, hempty, List.nil_append, if_pos (Or.inl hnone), ← ih (i + 1) hrest,
        List.sublist_cons_iff]
      constructor
      · rintro (h | ⟨decoded, hdecoded, -⟩)
        · exact h
        · exact absurd (hdecoded ▸ List.mem_cons_self) (body_notMem_parse i hframe rest)
      · exact Or.inl
    · -- A send that wrote its frame is read as that frame.
      by_cases hwhole : taken = 60
      · have hall : frame.take taken = frame := by
          rw [List.take_of_length_le]
          rw [hframe.length]
          omega
        have hparse := FrameFormat.parse_frame (announces_label i hframe) (streamOf (i + 1) rest)
        rw [List.take_append_drop] at hparse
        rw [hstream, hbodies, hall, hparse, if_pos (Or.inr hwhole), ← ih (i + 1) hrest]
        exact List.cons_sublist_cons
      · rw [if_neg (by omega)]
        -- Less than a header: every later header has a byte of it in front, and none is accepted.
        by_cases hshort : taken < 4
        · rw [parse_of_short_header hframe (fun s hs => (hrest s hs).1) hnone hshort]
          exact iff_of_true (List.nil_sublist _) (Or.inl hshort)
        · rw [hstream]
          -- The header announces a body that never comes.
          by_cases hfew : taken + (rest.map Prod.snd).sum < 60
          · have hincomplete :
                (label i (frame.take taken) ++ streamOf (i + 1) rest).length < 60 := by
              rw [List.length_append, length_label, List.length_take, hframe.length, hlength]
              omega
            rw [FrameFormat.parse_of_incomplete _ (bodyLength_header i hframe (by omega) _)
              hincomplete]
            exact iff_of_true (List.nil_sublist _) (Or.inr hfew)
          · -- A body that was read has the first byte of a later frame in it.
            refine iff_of_false (fun h => ?_) (by omega)
            have htorn : 4 ≤ taken ∧ taken < 60 ∧ 60 ≤ taken + (streamOf (i + 1) rest).length := by
              omega
            obtain ⟨body, hbody, x, hx, hhead⟩ :=
              parse_of_torn i hframe htorn.1 htorn.2.1 htorn.2.2
            obtain ⟨later, hlater⟩ := List.head?_eq_some_iff.mp hhead
            have hoffset := le_offset_of_mem_bodies (h.subset hbody) hx
            have hzero := offset_head_stream hlater
            omega

/-! ### A run of `send`s -/

/-- A call of `send`, and what the calls of `::send` in it return. -/
structure EventSend where
  event : CanonicalInputEvent
  ret : Nat → Int

/-- What each `send` writes. -/
def sendAll (bytes : ObjectBytes) (t : TransportImpl) : List EventSend → List (List UInt8)
  | [] => []
  | s :: rest =>
    let (t, written) := t.send bytes s.event s.ret
    written :: sendAll bytes t rest

/-- What the peer reads is a part of what was sent, in the order in which it was sent: each frame is
the body of one that was sent, from its first byte to its last. -/
def InSync (t : TransportImpl) (bytes : ObjectBytes) (sends : List EventSend) : Prop :=
  ∀ (fd : SocketFd) (ret : Nat → Int),
    (inputReceiveLoop Labelled.value fd ret (stream 0 (sendAll bytes t sends))).1.Sublist
        (bodies 0 (sends.map fun s => frame bytes s.event)) ∧
      (inputReceiveLoop id fd ret (sendAll bytes t sends).flatten).1.Sublist
        (sends.map fun s => bytes.event s.event)

/-- The frame of an event is one. -/
theorem isFrame_frame {bytes : ObjectBytes} (hsize : EventSized bytes)
    (event : CanonicalInputEvent) : IsFrame (frame bytes event) := by
  constructor
  · rw [frame, hsize event]
    rfl
  · rw [frame, List.length_append, hsize event]
    rfl

/-- A `send` does not change what the next one writes to. -/
theorem send_connection (t : TransportImpl) (bytes : ObjectBytes) (event : CanonicalInputEvent)
    (ret : Nat → Int) :
    (t.send bytes event ret).1.connected = t.connected ∧
      (t.send bytes event ret).1.inputSocket = t.inputSocket := by
  rcases send_cases t bytes event ret with ⟨-, -, h⟩ | ⟨-, h⟩
  · rw [h]
    exact ⟨rfl, rfl⟩
  · rw [h]
    exact ⟨rfl, rfl⟩

/-- Every send writes what the socket takes of its frame. -/
theorem sendAll_takes {bytes : ObjectBytes} (hsize : EventSized bytes) {t : TransportImpl}
    (hconnected : t.connected = true) (hsocket : t.inputSocket.isSome = true)
    (sends : List EventSend) :
    sendAll bytes t sends =
      sends.map fun s => (frame bytes s.event).take (takenBytes s.ret) := by
  induction sends generalizing t with
  | nil => rfl
  | cons s rest ih =>
    obtain ⟨hconnected', hsocket'⟩ := send_connection t bytes s.event s.ret
    rw [sendAll, List.map_cons]
    dsimp only
    rw [ih (hconnected'.trans hconnected) ((congrArg Option.isSome hsocket').trans hsocket),
      send_takes hsize hconnected hsocket]

/-- Nothing is written without a connection. -/
theorem sendAll_of_closed {bytes : ObjectBytes} {t : TransportImpl}
    (hclosed : ¬ (t.connected = true ∧ t.inputSocket.isSome = true)) (sends : List EventSend) :
    sendAll bytes t sends = sends.map fun _ => [] := by
  induction sends generalizing t with
  | nil => rfl
  | cons s rest ih =>
    obtain ⟨hconnected, hsocket⟩ := send_connection t bytes s.event s.ret
    have hwritten : (t.send bytes s.event s.ret).2 = [] := by
      rw [send]
      -- Without a connection or a socket `send` writes nothing, and this does not change.
      cases h : t.connected with
      | false => rfl
      | true =>
        have hnone : t.inputSocket = none := by simpa [h] using hclosed
        rw [hnone]
        rfl
    rw [sendAll, List.map_cons]
    dsimp only
    rw [hwritten, ih (by rwa [hconnected, hsocket])]

/-- Sends that write nothing make an empty stream. -/
theorem stream_of_empty (i : Nat) (sends : List EventSend) :
    stream i (sends.map fun _ => []) = [] := by
  induction sends generalizing i with
  | nil => rfl
  | cons s rest ih => exact ih (i + 1)

/-- The bodies that were sent, without their labels. -/
theorem map_value_frames (bytes : ObjectBytes) (i : Nat) (sends : List EventSend) :
    (bodies i (sends.map fun s => frame bytes s.event)).map (List.map Labelled.value) =
      sends.map fun s => bytes.event s.event := by
  rw [map_value_bodies, List.map_map]
  rfl

/-- A stream without labels is in sync when the one with them is. -/
theorem inSync_of_labelled {t : TransportImpl} {bytes : ObjectBytes} {sends : List EventSend}
    (h : (labelledFrames.parse (stream 0 (sendAll bytes t sends))).1.Sublist
      (bodies 0 (sends.map fun s => frame bytes s.event))) : InSync t bytes sends := by
  intro fd ret
  have hlabelled := (receiveFrames_initial Labelled.value fd ret 0
    (stream 0 (sendAll bytes t sends))).sublist.trans h
  refine ⟨hlabelled, ?_⟩
  have hread := receiveFrames_map Labelled.value fd ret 0 (stream 0 (sendAll bytes t sends))
  rw [map_value_stream] at hread
  have hbodies := hlabelled.map (List.map Labelled.value)
  rw [map_value_frames] at hbodies
  rw [inputReceiveLoop, hread]
  exact hbodies

/-! ### The main result -/

/-- The peer reads frames that were sent, and only these, exactly when no `send` on an open
connection writes a part of its frame, or no frame can be read after the first part of one. -/
theorem inSync_iff {bytes : ObjectBytes} (hsize : EventSized bytes) (t : TransportImpl)
    (sends : List EventSend) :
    InSync t bytes sends ↔
      (t.connected = true → t.inputSocket.isSome = true →
        KeepsSync (sends.map fun s => takenBytes s.ret)) := by
  by_cases hopen : t.connected = true ∧ t.inputSocket.isSome = true
  · obtain ⟨hconnected, hsocket⟩ := hopen
    have hframes : ∀ send ∈ sends.map fun s => (frame bytes s.event, takenBytes s.ret),
        IsFrame send.1 ∧ send.2 ≤ 60 := by
      intro send hsend
      obtain ⟨s, -, rfl⟩ := List.mem_map.mp hsend
      exact ⟨isFrame_frame hsize s.event, takenBytes_le s.ret⟩
    have hiff := parse_stream_iff 0 hframes
    have hstream : streamOf 0 (sends.map fun s => (frame bytes s.event, takenBytes s.ret)) =
        stream 0 (sendAll bytes t sends) := by
      rw [sendAll_takes hsize hconnected hsocket, streamOf, List.map_map]
      rfl
    rw [hstream, List.map_map, List.map_map] at hiff
    constructor
    · -- The receiver that is asked reads without a refusal, as `inSync` says of all.
      intro h _ _
      have hread := (h (some 0) fun _ => 1).1
      rw [inputReceiveLoop, (receiveFrames_parse Labelled.value (fun _ => by decide) 0 0 _).1]
        at hread
      exact hiff.mp hread
    · intro h
      exact inSync_of_labelled (hiff.mpr (h hconnected hsocket))
  · -- Without a connection nothing is written.
    refine iff_of_true (inSync_of_labelled ?_) fun hconnected hsocket =>
      absurd ⟨hconnected, hsocket⟩ hopen
    rw [sendAll_of_closed hopen, stream_of_empty, FrameFormat.parse_nil]
    exact List.nil_sublist _

/-- A mouse move that does not move, with the number 0. -/
def stillEvent : CanonicalInputEvent where
  eventId := 0
  sourceNodeId := { high := 0, low := 0 }
  timestamp := 0
  eventType := .MouseMove
  payload := .mouseMove { deltaX := 0, deltaY := 0 }
  modifierState := { shift := false, ctrl := false, alt := false, cmd := false, fn := false }

/-- The object representations of `stillEvent` and of nothing else. -/
def stillBytes : ObjectBytes where
  event := fun _ => List.replicate sizeofEvent 0
  message := fun _ => []

/-- A client with its two sockets open. -/
def openTransport : TransportImpl :=
  { init { remoteHost := [], inputPlanePort := 24800, controlPlanePort := 24801, isServer := false }
    with connected := true, linkUp := true, receiving := true, inputSocket := some 3,
         controlSocket := some 4 }

/-- The bytes of the example have the size of an event. -/
theorem eventSized_stillBytes : EventSized stillBytes := by
  intro event
  rw [stillBytes, List.length_replicate]

/-- Two `send`s that write their frames, with one between them that writes nothing. -/
theorem inSync_iff_refused :
    EventSized stillBytes ∧
      InSync openTransport stillBytes
        [⟨stillEvent, fun _ => 60⟩, ⟨stillEvent, fun _ => -1⟩, ⟨stillEvent, fun _ => 60⟩] := by
  refine ⟨eventSized_stillBytes, (inSync_iff eventSized_stillBytes openTransport _).mpr ?_⟩
  intro _ _
  have hwhole : takenBytes (fun _ => 60) = 60 := takenBytes_of_pos fun _ => by decide
  have hrefused : takenBytes (fun _ => -1) = 0 := takenBytes_of_refused (by decide)
  simp [KeepsSync, hwhole, hrefused]

/-- A `send` that stops after ten bytes of the event, and then one that does not. -/
theorem torn_send_not_inSync :
    ¬ ∀ bytes : ObjectBytes, EventSized bytes → ∀ (t : TransportImpl) (sends : List EventSend),
      InSync t bytes sends := by
  intro h
  have hsync := h stillBytes eventSized_stillBytes openTransport
    [⟨stillEvent, fun k => if k = 0 then 4 else if k = 1 then 10 else -1⟩,
      ⟨stillEvent, fun _ => 60⟩]
  have hkeeps := (inSync_iff eventSized_stillBytes openTransport _).mp hsync rfl rfl
  have htorn : takenBytes (fun k => if k = 0 then 4 else if k = 1 then 10 else -1) = 14 :=
    takenBytes_of_torn 10 rfl rfl (by decide) (by decide) (by decide)
  have hwhole : takenBytes (fun _ => 60) = 60 := takenBytes_of_pos fun _ => by decide
  simp [KeepsSync, htorn, hwhole] at hkeeps

end TransportImpl

end CrossFlow
