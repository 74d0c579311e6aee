import Mathlib.Data.List.Basic

/-!
# `CrossFlow.Lib.Framing`: length-prefixed streams

A `FrameFormat` reads the length of a body off a header of a fixed size, or refuses the header.
`parse` cuts a stream into the bodies of its frames, up to the first one that is refused or not
complete.

* `parse_frames`: frames that are joined are cut where they were joined.
* `mem_of_mem_parse`: a body is made of what is in the stream.
-/

set_option autoImplicit false

namespace CrossFlow.Lib

/-- `bodyLength` is `none` for a header that is refused. -/
structure FrameFormat (α : Type) where
  headerSize : Nat
  bodyLength : List α → Option Nat
  headerSize_pos : 0 < headerSize

namespace FrameFormat

variable {α β : Type} (f : FrameFormat α)

/-- The bodies of the frames in a stream, and what is left of it. -/
def parse (stream : List α) : List (List α) × List α :=
  if stream.length < f.headerSize then ([], stream)
  else
    match f.bodyLength (stream.take f.headerSize) with
    | none => ([], stream)
    | some n =>
      if stream.length < f.headerSize + n then ([], stream)
      else
        let (bodies, rest) := parse (stream.drop (f.headerSize + n))
        ((stream.drop f.headerSize).take n :: bodies, rest)
termination_by stream.length
decreasing_by
  have hpos := f.headerSize_pos
  rw [List.length_drop]
  omega

/-- There is no frame in less than a header. -/
theorem parse_of_short {stream : List α} (h : stream.length < f.headerSize) :
    f.parse stream = ([], stream) := by
  rw [parse, if_pos h]

/-- There is no frame in nothing. -/
theorem parse_nil : f.parse [] = ([], []) := parse_of_short f f.headerSize_pos

/-- There is no frame behind a header that is refused. -/
theorem parse_of_refused {stream : List α}
    (h : f.bodyLength (stream.take f.headerSize) = none) : f.parse stream = ([], stream) := by
  rw [parse, h]
  split
  · rfl
  · rfl

/-- There is no frame whose body has not all come. -/
theorem parse_of_incomplete {stream : List α} {n : Nat}
    (h : f.bodyLength (stream.take f.headerSize) = some n)
    (hlength : stream.length < f.headerSize + n) : f.parse stream = ([], stream) := by
  rw [parse, h]
  split
  · rfl
  · exact if_pos hlength

/-- A frame that has all come is read, and the rest after it. -/
theorem parse_of_complete {stream : List α} {n : Nat}
    (h : f.bodyLength (stream.take f.headerSize) = some n)
    (hlength : f.headerSize + n ≤ stream.length) :
    f.parse stream =
      ((stream.drop f.headerSize).take n :: (f.parse (stream.drop (f.headerSize + n))).1,
        (f.parse (stream.drop (f.headerSize + n))).2) := by
  rw [parse, h, if_neg (by omega)]
  exact if_neg (by omega)

/-- A header that announces the length of the body. -/
def Announces (header body : List α) : Prop :=
  header.length = f.headerSize ∧ f.bodyLength header = some body.length

variable {f}

/-- A frame is read behind its header. -/
theorem parse_frame {header body : List α} (h : f.Announces header body) (rest : List α) :
    f.parse (header ++ body ++ rest) = (body :: (f.parse rest).1, (f.parse rest).2) := by
  have hheader : (header ++ body ++ rest).take f.headerSize = header := by
    rw [← h.1, List.append_assoc, List.take_left]
  have hbody : (header ++ body ++ rest).drop f.headerSize = body ++ rest := by
    rw [← h.1, List.append_assoc, List.drop_left]
  have hrest : (header ++ body ++ rest).drop (f.headerSize + body.length) = rest := by
    rw [← List.drop_drop, hbody, List.drop_left]
  have hlength : f.headerSize + body.length ≤ (header ++ body ++ rest).length := by
    simp only [List.length_append]
    have := h.1
    omega
  rw [parse_of_complete f (by rw [hheader]; exact h.2) hlength, hbody, hrest, List.take_left]

/-- Frames that are joined are cut where they were joined. -/
theorem parse_frames {frames : List (List α × List α)}
    (h : ∀ frame ∈ frames, f.Announces frame.1 frame.2) (rest : List α) :
    f.parse (frames.flatMap (fun frame => frame.1 ++ frame.2) ++ rest) =
      (frames.map Prod.snd ++ (f.parse rest).1, (f.parse rest).2) := by
  induction frames with
  | nil => rfl
  | cons frame frames ih =>
    have htail := ih fun g hg => h g (List.mem_cons_of_mem frame hg)
    rw [List.flatMap_cons, List.append_assoc, parse_frame (h frame List.mem_cons_self), htail]
    rfl

/-- A body is made of what is in the stream. -/
theorem mem_of_mem_parse {stream body : List α} (hbody : body ∈ (f.parse stream).1) {x : α}
    (hx : x ∈ body) : x ∈ stream := by
  induction stream using parse.induct f with
  | case1 stream hshort =>
    rw [parse_of_short f hshort] at hbody
    exact absurd hbody List.not_mem_nil
  | case2 stream _ hrefused =>
    rw [parse_of_refused f hrefused] at hbody
    exact absurd hbody List.not_mem_nil
  | case3 stream _ n hn hincomplete =>
    rw [parse_of_incomplete f hn hincomplete] at hbody
    exact absurd hbody List.not_mem_nil
  | case4 stream _ n hn hcomplete bodies rest _ ih =>
    rw [parse_of_complete f hn (by omega)] at hbody
    rcases List.mem_cons.mp hbody with rfl | hbody
    · exact List.mem_of_mem_drop (List.mem_of_mem_take hx)
    · exact List.mem_of_mem_drop (ih hbody)

/-! ### Labels -/

/-- The format on elements that carry something more. -/
def comap (f : FrameFormat α) (g : β → α) : FrameFormat β where
  headerSize := f.headerSize
  bodyLength header := f.bodyLength (header.map g)
  headerSize_pos := f.headerSize_pos

end FrameFormat

end CrossFlow.Lib
