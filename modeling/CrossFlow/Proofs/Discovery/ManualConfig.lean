import CrossFlow.Core.Discovery.ManualConfigFile
import CrossFlow.Proofs.Discovery.WrittenNumbers

/-!
# `CrossFlow.Proofs.Discovery.ManualConfig`: the endpoints that a file configures

A line configures an endpoint when it is a host, a colon and a port, and perhaps a blank and a node
id. `loadFromFile` takes every line that `std::stoul` reads a number in behind the colon, and cuts
that number to 16 bits.

* `endpointOf`: the endpoint of a line.
* `readEndpoint_eq_iff`: the lines that are read as what they configure.
* `loadFromFile_exact_iff`: the files that are.
-/

set_option autoImplicit false

namespace CrossFlow

open StdString (lit stoul stoull isDigit)

/-! ### Lines -/

/-- The text before the first `c`. -/
def before (c : UInt8) (s : StdString) : StdString := s.takeWhile (· ≠ c)

/-- The text after the first `c`. -/
def after (c : UInt8) (s : StdString) : StdString := (s.dropWhile (· ≠ c)).tail

/-- A text is cut at the first occurrence of a character. -/
theorem findIdx_cut {c : UInt8} {s : StdString} :
    match s.findIdx? (· = c) with
    | none => c ∉ s
    | some pos => c ∈ s ∧ s.take pos = before c s ∧ s.drop (pos + 1) = after c s := by
  have hnot : (fun a : UInt8 => !decide (a ≠ c)) = (· = c) := by
    funext a
    simp
  cases hfind : s.findIdx? (· = c) with
  | none =>
    intro hmem
    exact absurd (List.findIdx?_eq_none_iff.mp hfind c hmem) (by simp)
  | some pos =>
    -- The position is that of the first colon, so what is before it has none.
    obtain ⟨hlt, hpos⟩ := List.findIdx?_eq_some_iff_findIdx_eq.mp hfind
    have hmem : c ∈ s := by
      obtain ⟨a, ha, heq⟩ := List.findIdx_lt_length.mp (hpos ▸ hlt)
      exact of_decide_eq_true heq ▸ ha
    refine ⟨hmem, ?_, ?_⟩
    · rw [before, List.takeWhile_eq_take_findIdx_not, hnot, hpos]
    · rw [after, List.dropWhile_eq_drop_findIdx_not, hnot, hpos, List.tail_drop]

/-- Nothing comes after a character that is not there. -/
theorem after_of_notMem {c : UInt8} {s : StdString} (h : c ∉ s) : after c s = [] := by
  have hall : s.dropWhile (· ≠ c) = [] := by
    rw [List.dropWhile_eq_nil_iff]
    intro a ha
    exact decide_eq_true fun heq => h (heq ▸ ha)
  rw [after, hall, List.tail_nil]

/-- The node id that a text is: null when it is not 32 hexadecimal digits. -/
def writtenId (id : StdString) : NodeId :=
  if IsHexId id then hexId id else { high := 0, low := 0 }

/-- The line is a host, a colon, a port from 1 to 65535, and nothing more but for what follows a
blank. It is not a comment. -/
def Configures (line : StdString) : Prop :=
  line.head? ≠ some 35 ∧ 58 ∈ line ∧ IsNumber (2 ^ 16) (before 32 (after 58 line)) ∧
    digitsValue 10 (before 32 (after 58 line)) ≠ 0

/-- Whether a line configures an endpoint can be looked up. -/
instance (line : StdString) : Decidable (Configures line) :=
  inferInstanceAs (Decidable (_ ∧ _ ∧ _ ∧ _))

/-- The endpoint that the line configures. -/
def endpointOf (line : StdString) : Option ManualEndpoint :=
  if Configures line then
    some
      { host := before 58 line
        port := (digitsValue 10 (before 32 (after 58 line))).toUInt16
        nodeId := writtenId (after 32 (after 58 line)) }
  else none

/-! ### What is read of a line -/

namespace ManualConfigFallback

/-- `loadFromFile` passes over the line. -/
def Skips (platform : Platform) (line : StdString) : Prop :=
  line.head? = some 35 ∨ 58 ∉ line ∨ ∃ e, stoul platform.ulongBits (after 58 line) = .error e

/-- A line that is skipped gives no endpoint. -/
theorem readEndpoint_of_skips {platform : Platform} {line : StdString}
    (h : Skips platform line) : readEndpoint platform line = none := by
  unfold readEndpoint
  by_cases hblank : line = [] ∨ line.head? = some 35
  · rw [if_pos hblank]
  rw [if_neg hblank]
  have hcut := findIdx_cut (c := 58) (s := line)
  cases hfind : line.findIdx? (· = 58) with
  | none => rfl
  | some colonPos =>
    rw [hfind] at hcut
    obtain ⟨hmem, -, hafter⟩ := hcut
    dsimp only
    rw [hafter]
    -- A comment and a line without a colon are out; a number that does not parse is caught.
    rcases h with hcomment | hcolon | ⟨e, herror⟩
    · exact absurd (.inr hcomment) hblank
    · exact absurd hmem hcolon
    · rw [herror]

/-- Every other line gives one, with what its parts are read as. -/
theorem readEndpoint_of_not_skips {platform : Platform} {line : StdString}
    (h : ¬ Skips platform line) :
    ∃ port, stoul platform.ulongBits (after 58 line) = .ok port ∧
      readEndpoint platform line =
        some
          { host := before 58 line
            port := port.toUInt16
            nodeId := readNodeId (after 32 (after 58 line)) } := by
  obtain ⟨hcomment, hcolon, hnumber⟩ : line.head? ≠ some 35 ∧ 58 ∈ line ∧
      ¬ ∃ e, stoul platform.ulongBits (after 58 line) = .error e := by
    simpa only [Skips, not_or, not_not] using h
  have hblank : ¬ (line = [] ∨ line.head? = some 35) :=
    not_or.mpr ⟨List.ne_nil_of_mem hcolon, hcomment⟩
  cases hport : stoul platform.ulongBits (after 58 line) with
  | error e => exact absurd ⟨e, hport⟩ hnumber
  | ok port =>
    refine ⟨port, rfl, ?_⟩
    unfold readEndpoint
    rw [if_neg hblank]
    have hcut := findIdx_cut (c := 58) (s := line)
    cases hfind : line.findIdx? (· = 58) with
    | none =>
      rw [hfind] at hcut
      exact absurd hcolon hcut
    | some colonPos =>
      rw [hfind] at hcut
      obtain ⟨-, hbefore, hafter⟩ := hcut
      dsimp only
      rw [hafter, hbefore, hport]
      dsimp only
      -- Without a blank there is nothing after it, which is read as the null id.
      have hcut := findIdx_cut (c := 32) (s := after 58 line)
      cases hspace : (after 58 line).findIdx? (· = 32) with
      | none =>
        rw [hspace] at hcut
        rw [after_of_notMem hcut]
        rfl
      | some spacePos =>
        rw [hspace] at hcut
        dsimp only
        rw [hcut.2.2]

/-- A port as it should be is read as it is. -/
theorem stoul_of_configures {line : StdString} (h : Configures line) (platform : Platform) :
    stoul platform.ulongBits (after 58 line) =
      .ok (digitsValue 10 (before 32 (after 58 line))) := by
  obtain ⟨-, -, ⟨hne, hdigits, hlt⟩, -⟩ := h
  -- `unsigned long` has 32 or 64 bits.
  have hbits : (2 : Nat) ^ 16 ≤ 2 ^ platform.ulongBits := by
    cases platform <;> decide
  have hread : stoul platform.ulongBits
      (before 32 (after 58 line) ++ (after 58 line).dropWhile (· ≠ 32)) =
        .ok (digitsValue 10 (before 32 (after 58 line))) := by
    refine StdString.stoul_digits hdigits hne ?_ (hlt.trans_le hbits)
    -- What follows is the blank.
    intro c hc
    have hblank := List.head?_dropWhile_not (fun a : UInt8 => decide (a ≠ 32)) (after 58 line)
    rw [hc] at hblank
    obtain rfl : c = 32 := by simpa using hblank
    rfl
  rw [before, List.takeWhile_append_dropWhile] at hread
  exact hread

/-- A line that configures an endpoint is not skipped. -/
theorem not_skips_of_configures {line : StdString} (h : Configures line) (platform : Platform) :
    ¬ Skips platform line := by
  rintro (hcomment | hcolon | ⟨e, herror⟩)
  · exact h.1 hcomment
  · exact hcolon h.2.1
  · rw [stoul_of_configures h platform] at herror
    exact absurd herror (by simp)

/-- The text is read as the null id: it is too short, a half is no number after nothing but zeros,
or both are zero. -/
def ReadsNull (id : StdString) : Prop :=
  id.length < 32 ∨ (∃ e, stoull (id.take 16) 16 = .error e) ∨
    (stoull (id.take 16) 16 = .ok 0 ∧
      ((∃ e, stoull ((id.drop 16).take 16) 16 = .error e) ∨
        stoull ((id.drop 16).take 16) 16 = .ok 0))

/-- When the null id is read. -/
theorem readNodeId_eq_null_iff (id : StdString) :
    readNodeId id = { high := 0, low := 0 } ↔ ReadsNull id := by
  unfold readNodeId ReadsNull
  by_cases hlen : id.length ≥ 32
  · rw [if_pos hlen, or_iff_right (Nat.not_lt.mpr hlen)]
    cases stoull (id.take 16) 16 with
    | error e => simp
    | ok high =>
      cases stoull ((id.drop 16).take 16) 16 with
      | error e => simp
      | ok low => simp
  · rw [if_neg hlen]
    exact iff_of_true rfl (.inl (Nat.lt_of_not_le hlen))

/-- When the id that is written is read. -/
theorem readNodeId_eq_iff (id : StdString) :
    readNodeId id = writtenId id ↔ IsHexId id ∨ ReadsNull id := by
  unfold writtenId
  by_cases hid : IsHexId id
  · obtain ⟨hhigh, hlow⟩ := stoull_of_isHexId hid
    rw [if_pos hid]
    refine iff_of_true ?_ (.inl hid)
    unfold readNodeId
    rw [if_pos (Nat.le_of_eq hid.1.symm), hhigh, hlow]
  · rw [if_neg hid, or_iff_right hid]
    exact readNodeId_eq_null_iff id

/-- The line is passed over, or configures an endpoint whose id is read as it is written. -/
def LineExact (platform : Platform) (line : StdString) : Prop :=
  Skips platform line ∨
    (Configures line ∧
      (IsHexId (after 32 (after 58 line)) ∨ ReadsNull (after 32 (after 58 line))))

/-- When the endpoint that a line writes is read. -/
theorem readEndpoint_eq_iff (platform : Platform) (line : StdString) :
    readEndpoint platform line = endpointOf line ↔ LineExact platform line := by
  by_cases hskips : Skips platform line
  · have hnone : ¬ Configures line := fun h => not_skips_of_configures h platform hskips
    refine iff_of_true ?_ (.inl hskips)
    rw [readEndpoint_of_skips hskips, endpointOf, if_neg hnone]
  · obtain ⟨port, hport, hread⟩ := readEndpoint_of_not_skips hskips
    rw [hread, LineExact, or_iff_right hskips, endpointOf]
    by_cases hconfigures : Configures line
    · obtain rfl : digitsValue 10 (before 32 (after 58 line)) = port :=
        Except.ok.inj ((stoul_of_configures hconfigures platform).symm.trans hport)
      rw [if_pos hconfigures, and_iff_right hconfigures, ← readNodeId_eq_iff]
      simp
    · rw [if_neg hconfigures]
      exact iff_of_false (Option.some_ne_none _) fun h => hconfigures h.1

/-! ### Files -/

section
variable {α β : Type} {f g : α → Option β} (h : ∀ a, f a = none → g a = none)
include h

/-- Where one function gives a value whenever the other does, it gives no fewer. -/
theorem length_filterMap_le (l : List α) : (l.filterMap g).length ≤ (l.filterMap f).length := by
  induction l with
  | nil => exact Nat.le_refl 0
  | cons a l ih =>
    rw [List.filterMap_cons, List.filterMap_cons]
    cases hf : f a with
    | none =>
      rw [h a hf]
      exact ih
    | some b =>
      cases g a with
      | none => exact Nat.le_succ_of_le ih
      | some b' => exact Nat.succ_le_succ ih

/-- When `f` finds something wherever `g` does, they find the same in a list only if they do at each
of its members. -/
theorem filterMap_eq_iff (l : List α) :
    l.filterMap f = l.filterMap g ↔ ∀ a ∈ l, f a = g a := by
  induction l with
  | nil => exact iff_of_true rfl fun _ ha => absurd ha List.not_mem_nil
  | cons a l ih =>
    rw [List.forall_mem_cons, List.filterMap_cons, List.filterMap_cons]
    refine Iff.trans ?_ (and_congr_right fun _ => ih)
    cases hf : f a with
    | none =>
      rw [h a hf]
      exact (and_iff_right rfl).symm
    | some b =>
      cases g a with
      | none =>
        refine iff_of_false (fun heq => ?_) fun h => Option.some_ne_none b h.1
        -- The rest would have more endpoints than there are.
        have hle := length_filterMap_le h l
        have hlen : (l.filterMap f).length + 1 = (l.filterMap g).length :=
          congrArg List.length heq
        omega
      | some b' =>
        show b :: l.filterMap f = b' :: l.filterMap g ↔ _
        rw [List.cons.injEq, Option.some.injEq]

end

/-- The file gives the endpoints that its lines configure, in order, and no others. -/
def LoadsExactly (f : ManualConfigFallback) (platform : Platform) (file : StdString) : Prop :=
  (f.loadFromFile platform (some file)).1.endpoints = (getlines file).filterMap endpointOf

end ManualConfigFallback

open ManualConfigFallback

/-- A file is loaded exactly when each of its lines is passed over, or configures an endpoint whose
id is read as it is written. -/
theorem loadFromFile_exact_iff (f : ManualConfigFallback) (platform : Platform)
    (file : StdString) :
    f.LoadsExactly platform file ↔ ∀ line ∈ getlines file, LineExact platform line := by
  have hfinds : ∀ line, readEndpoint platform line = none → endpointOf line = none := by
    intro line hnone
    by_contra hsome
    have hconfigures : Configures line := by
      by_contra hnot
      exact hsome (if_neg hnot)
    obtain ⟨port, -, hread⟩ :=
      readEndpoint_of_not_skips (not_skips_of_configures hconfigures platform)
    exact Option.some_ne_none _ (hread.symm.trans hnone)
  refine (filterMap_eq_iff hfinds (getlines file)).trans ?_
  exact forall_congr' fun line => imp_congr_right fun _ => readEndpoint_eq_iff platform line

/-- Port 70000 is none, and is read as 4464. -/
theorem large_port_read :
    let f := (ManualConfigFallback.init.loadFromFile .Mac (some (lit "host:70000"))).1
    f.endpoints = [{ host := lit "host", port := 4464, nodeId := { high := 0, low := 0 } }] ∧
      ¬ ManualConfigFallback.init.LoadsExactly .Mac (lit "host:70000") := by
  intro f
  have hread : f.endpoints =
      [{ host := lit "host", port := 4464, nodeId := { high := 0, low := 0 } }] := rfl
  refine ⟨hread, fun hexact => ?_⟩
  have hline : getlines (lit "host:70000") = [lit "host:70000"] := by decide
  have hport : ¬ Configures (lit "host:70000") := by decide +kernel
  have hend : endpointOf (lit "host:70000") = none := if_neg hport
  have hnone : (getlines (lit "host:70000")).filterMap endpointOf = [] := by
    rw [hline, List.filterMap_cons_none hend, List.filterMap_nil]
  exact List.cons_ne_nil _ _ (hread.symm.trans (Eq.trans hexact hnone))

end CrossFlow
