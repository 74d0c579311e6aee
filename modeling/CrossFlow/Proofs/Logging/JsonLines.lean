import CrossFlow.Core.Common.LogEntry
import CrossFlow.Lib.Json

/-!
# `CrossFlow.Proofs.Logging.JsonLines`: the lines of the log as JSON texts

A value is escaped on its way into a line, and is read back as it was. A key is not escaped: those
of the source stand for themselves, and the ones of `extra` are whatever the caller gives.

* `readString_escapeJsonString`: an escaped string is read back.
* `line_eq_objectText`: a line is the text of one object, comma by comma.
* `parse_line_iff`: the lines that are parsed as the fields that were given.
-/

set_option autoImplicit false

namespace CrossFlow

open Lib.Json (Value Member IsPlain quote readString readChar memberText membersText objectText
  Writes digitText)
open StdString (lit)

/-! ### Values -/

/-- A hexadecimal digit is read back. -/
theorem hexValue_hexChar {d : Nat} (hd : d < 16) : Lib.Json.hexValue (hexChar d) = some d := by
  revert d
  decide

/-- Four digits of a number write it. -/
theorem hex4_hexChar {n : Nat} (hn : n < 65536) (rest : List UInt8) :
    Lib.Json.hex4 ([hexChar (n / 4096 % 16), hexChar (n / 256 % 16), hexChar (n / 16 % 16),
      hexChar (n % 16)] ++ rest) = some (n, rest) := by
  have hdigit (k : Nat) : Lib.Json.hexValue (hexChar (k % 16)) = some (k % 16) :=
    hexValue_hexChar (Nat.mod_lt k (by decide))
  have hvalue : Lib.readFrom 16 0 [n / 4096 % 16, n / 256 % 16, n / 16 % 16, n % 16] = n := by
    simp only [Lib.readFrom_cons, Lib.readFrom_nil]
    omega
  simp [Lib.Json.hex4, hdigit, hvalue]

/-- A control character is read back from its code. -/
theorem readUnicode_control {c : UInt8} (hc : c < 32) (rest : List UInt8) :
    Lib.Json.readUnicode ([hexChar (c.toNat / 4096 % 16), hexChar (c.toNat / 256 % 16),
      hexChar (c.toNat / 16 % 16), hexChar (c.toNat % 16)] ++ rest) = some ([c], rest) := by
  have hlt : c.toNat < 32 := UInt8.lt_iff_toNat_lt.mp hc
  have hutf8 : Lib.Json.utf8 c.toNat = [c] := by
    rw [Lib.Json.utf8, if_pos (by omega)]
    simp
  rw [Lib.Json.readUnicode, hex4_hexChar (by omega)]
  simp only [Option.bind_eq_bind, Option.bind_some]
  rw [if_neg (by omega), if_neg (by omega), hutf8]

/-- A character is read back from what is written for it. -/
theorem readChar_escapeJsonChar (c : UInt8) : ∃ first more, escapeJsonChar c = first :: more ∧
    first ≠ quote ∧ ∀ rest, readChar first (more ++ rest) = some ([c], rest) := by
  rw [escapeJsonChar]
  -- Two characters for a quote, a backslash and three kinds of white space, six for the other
  -- control characters, and one for the rest.
  split
  · rename_i hc
    exact ⟨92, [34], rfl, by decide, fun rest => by rw [hc]; rfl⟩
  · split
    · rename_i hc
      exact ⟨92, [92], rfl, by decide, fun rest => by rw [hc]; rfl⟩
    · split
      · rename_i hc
        exact ⟨92, [110], rfl, by decide, fun rest => by rw [hc]; rfl⟩
      · split
        · rename_i hc
          exact ⟨92, [114], rfl, by decide, fun rest => by rw [hc]; rfl⟩
        · split
          · rename_i hc
            exact ⟨92, [116], rfl, by decide, fun rest => by rw [hc]; rfl⟩
          · split
            · rename_i hcontrol
              exact ⟨92, _, rfl, by decide, readUnicode_control hcontrol⟩
            · rename_i hquote hbackslash _ _ _ hcontrol
              refine ⟨c, [], rfl, hquote, ?_⟩
              intro rest
              simp [readChar, Lib.Json.backslash, hbackslash, hcontrol]

/-- An escaped string is read back, up to the quote after it. -/
theorem readString_escapeJsonString (value : StdString) {fuel : Nat} (rest : List UInt8)
    (hfuel : (value.flatMap escapeJsonChar).length < fuel) :
    readString fuel (value.flatMap escapeJsonChar ++ quote :: rest) = some (value, rest) := by
  induction value generalizing fuel with
  | nil =>
    cases fuel with
    | zero => simp at hfuel
    | succ fuel => simp [readString]
  | cons c value ih =>
    obtain ⟨first, more, hchar, hfirst, hread⟩ := readChar_escapeJsonChar c
    cases fuel with
    | zero => simp at hfuel
    | succ fuel =>
      rw [List.flatMap_cons, hchar, List.cons_append, List.length_cons, List.length_append] at hfuel
      have hrest : readString fuel (value.flatMap escapeJsonChar ++ quote :: rest) =
          some (value, rest) := ih (by omega)
      -- The text of the first character is read back, and the fuel lasts for the others.
      rw [List.flatMap_cons, hchar, List.append_assoc, List.cons_append, readString,
        if_neg hfirst, hread]
      simp [hrest]

/-! ### Lines -/

/-- A member with a string. -/
def stringMember (key value : StdString) : Member where
  key := key
  text := quote :: value.flatMap escapeJsonChar ++ [quote]
  value := .string value

/-- A member with a number. -/
def numberMember (key : StdString) (value : UInt64) : Member where
  key := key
  text := digitText value.toNat
  value := .number value.toNat 0

/-- What a member writes is read as its value. -/
def Written (m : Member) : Prop := ∀ fuel, Writes (Lib.Json.readValue (fuel + 1)) m.text m.value

/-- A text is written as a JSON string under its key. -/
theorem written_stringMember (key value : StdString) : Written (stringMember key value) := by
  intro fuel
  exact Lib.Json.writes_string fuel fun fuel rest => readString_escapeJsonString value rest

/-- A number is written as a JSON number under its key. -/
theorem written_numberMember (key : StdString) (value : UInt64) :
    Written (numberMember key value) := by
  intro fuel
  exact Lib.Json.writes_digitText fuel value.toNat

/-- The member that a call adds. -/
def LogField.member : LogField → Member
  | .nodeId value => stringMember (lit "nodeId") value
  | .traceId value => numberMember (lit "traceId") value
  | .eventId value => numberMember (lit "eventId") value
  | .linkState value => stringMember (lit "linkState") value
  | .code value => stringMember (lit "code") value.to_string
  | .extra key value => stringMember key value
  | .extraU64 key value => numberMember key value

/-- The key that the caller gives, if it is one of `extra`, stands for itself. -/
def LogField.HasPlainKey : LogField → Prop
  | .extra key _ => ∀ c ∈ key, IsPlain c
  | .extraU64 key _ => ∀ c ∈ key, IsPlain c
  | _ => True

/-- The members of a line: the fields that were given, and those that a submit adds. -/
def lineMembers (fields : List LogField) (currentMicros : UInt64) (level : LogLevel)
    (msg : StdString) : List Member :=
  fields.map LogField.member ++ [numberMember (lit "ts") currentMicros,
    stringMember (lit "level") (logLevelString level), stringMember (lit "msg") msg]

/-- The object that a line is to be. -/
def lineObject (fields : List LogField) (currentMicros : UInt64) (level : LogLevel)
    (msg : StdString) : Value :=
  .object ((lineMembers fields currentMicros level msg).map fun m => (m.key, m.value))

/-- Each field is written as a member. -/
theorem LogField.written_member (field : LogField) : Written field.member := by
  cases field with
  | nodeId value => exact written_stringMember _ _
  | traceId value => exact written_numberMember _ _
  | eventId value => exact written_numberMember _ _
  | linkState value => exact written_stringMember _ _
  | code value => exact written_stringMember _ _
  | extra key value => exact written_stringMember _ _
  | extraU64 key value => exact written_numberMember _ _

/-- A key is plain when all its characters are. -/
theorem isPlain_of_all (key : StdString) (h : key.all fun c => IsPlain c) :
    ∀ c ∈ key, IsPlain c := by
  simpa using h

/-- The keys of the source stand for themselves. -/
theorem LogField.isPlain_member_iff (field : LogField) :
    (∀ c ∈ field.member.key, IsPlain c) ↔ field.HasPlainKey := by
  cases field with
  | nodeId value => exact iff_of_true (isPlain_of_all (lit "nodeId") (by decide)) trivial
  | traceId value => exact iff_of_true (isPlain_of_all (lit "traceId") (by decide)) trivial
  | eventId value => exact iff_of_true (isPlain_of_all (lit "eventId") (by decide)) trivial
  | linkState value =>
    exact iff_of_true (isPlain_of_all (lit "linkState") (by decide)) trivial
  | code value => exact iff_of_true (isPlain_of_all (lit "code") (by decide)) trivial
  | extra key value => exact Iff.rfl
  | extraU64 key value => exact Iff.rfl

/-- The keys of a line are plain when those of the caller are. -/
theorem isPlain_lineMembers_iff (fields : List LogField) (currentMicros : UInt64)
    (level : LogLevel) (msg : StdString) :
    (∀ m ∈ lineMembers fields currentMicros level msg, ∀ c ∈ m.key, IsPlain c) ↔
      ∀ field ∈ fields, field.HasPlainKey := by
  have hts : ∀ c ∈ lit "ts", IsPlain c := isPlain_of_all _ (by decide)
  have hlevel : ∀ c ∈ lit "level", IsPlain c := isPlain_of_all _ (by decide)
  have hmsg : ∀ c ∈ lit "msg", IsPlain c := isPlain_of_all _ (by decide)
  simp only [lineMembers, List.forall_mem_append, List.forall_mem_map,
    LogField.isPlain_member_iff]
  refine and_iff_left ?_
  intro m hm
  rcases List.mem_cons.mp hm with rfl | hm
  · exact hts
  · rcases List.mem_cons.mp hm with rfl | hm
    · exact hlevel
    · obtain rfl := List.mem_singleton.mp hm
      exact hmsg

namespace LogEntry

/-- The text of an entry so far: a brace and its members, with commas between them. -/
structure Holds (entry : LogEntry) (ms : List Member) : Prop where
  json : entry.json = 123 :: membersText ms
  hasFields : entry.hasFields = decide (ms ≠ [])

/-- The text of a new line has no members. -/
theorem holds_init : Holds init [] := ⟨rfl, rfl⟩

/-- One more member, after a comma where it is not the first. -/
theorem Holds.append {entry : LogEntry} {ms : List Member} (h : Holds entry ms) (m : Member)
    {entry' : LogEntry} (hjson : entry'.json = (entry.appendKey m.key).json ++ m.text)
    (hfields : entry'.hasFields = true) : Holds entry' (ms ++ [m]) := by
  refine ⟨?_, by simp [hfields]⟩
  rw [hjson, appendKey, h.hasFields, h.json, Lib.Json.membersText_append_singleton]
  by_cases hnil : ms = []
  · simp [hnil, membersText, memberText, lit, quote, Lib.Json.colon]
  · simp [hnil, memberText, lit, quote, Lib.Json.colon, Lib.Json.comma]

/-- A text adds a member. -/
theorem Holds.appendStringValue {entry : LogEntry} {ms : List Member} (h : Holds entry ms)
    (key value : StdString) :
    Holds ((entry.appendKey key).appendStringValue value) (ms ++ [stringMember key value]) :=
  h.append _ (by simp [LogEntry.appendStringValue, escapeJsonString, stringMember, lit, quote]) rfl

/-- A number adds a member. -/
theorem Holds.appendU64Value {entry : LogEntry} {ms : List Member} (h : Holds entry ms)
    (key : StdString) (value : UInt64) :
    Holds ((entry.appendKey key).appendU64Value value) (ms ++ [numberMember key value]) :=
  h.append _ rfl rfl

/-- A field adds its member. -/
theorem Holds.addField {entry : LogEntry} {ms : List Member} (h : Holds entry ms)
    (field : LogField) : Holds (entry.addField field) (ms ++ [field.member]) := by
  cases field with
  | nodeId value => exact h.appendStringValue _ _
  | traceId value => exact h.appendU64Value _ _
  | eventId value => exact h.appendU64Value _ _
  | linkState value => exact h.appendStringValue _ _
  | code value => exact h.appendStringValue _ _
  | extra key value => exact h.appendStringValue _ _
  | extraU64 key value => exact h.appendU64Value _ _

/-- Fields add their members, one after the other. -/
theorem Holds.foldl {entry : LogEntry} {ms : List Member} (h : Holds entry ms)
    (fields : List LogField) :
    Holds (fields.foldl LogEntry.addField entry) (ms ++ fields.map LogField.member) := by
  induction fields generalizing entry ms with
  | nil => simpa using h
  | cons field fields ih =>
    have hrest := ih (h.addField field)
    rw [List.append_assoc] at hrest
    exact hrest

/-- A line is the text of one object. -/
theorem line_eq_objectText (fields : List LogField) (currentMicros : UInt64) (level : LogLevel)
    (msg : StdString) :
    line fields currentMicros level msg =
      objectText (lineMembers fields currentMicros level msg) := by
  have hfields := holds_init.foldl fields
  have hts := hfields.appendU64Value (lit "ts") currentMicros
  have hlevel := hts.appendStringValue (lit "level") (logLevelString level)
  have hmsg := (hlevel.appendStringValue (lit "msg") msg).json
  rw [line, submit, hmsg]
  simp [objectText, lineMembers, lit]

/-- All members of a line are written. -/
theorem written_lineMembers (fields : List LogField) (currentMicros : UInt64) (level : LogLevel)
    (msg : StdString) : ∀ m ∈ lineMembers fields currentMicros level msg, Written m := by
  intro m hm
  simp only [lineMembers, List.mem_append, List.mem_map, List.mem_cons, List.not_mem_nil,
    or_false] at hm
  rcases hm with ⟨field, -, rfl⟩ | rfl | rfl | rfl
  · exact field.written_member
  · exact written_numberMember _ _
  · exact written_stringMember _ _
  · exact written_stringMember _ _

/-- Every line has a member. -/
theorem lineMembers_ne_nil (fields : List LogField) (currentMicros : UInt64) (level : LogLevel)
    (msg : StdString) : lineMembers fields currentMicros level msg ≠ [] := by
  simp [lineMembers]

/-- A line is parsed as one object, with the keys and values of its fields in their order, when each
key that is given to `extra` stands for itself, and only then: when no byte of it is a quote, a
backslash or a control character. -/
theorem parse_line_iff (fields : List LogField) (currentMicros : UInt64) (level : LogLevel)
    (msg : StdString) :
    Lib.Json.parse (line fields currentMicros level msg) =
        some (lineObject fields currentMicros level msg) ↔
      ∀ field ∈ fields, field.HasPlainKey := by
  rw [line_eq_objectText, lineObject, Lib.Json.parse_objectText_iff (lineMembers_ne_nil _ _ _ _)
    (written_lineMembers _ _ _ _), isPlain_lineMembers_iff]

/-- A key with quotes in it forges the member `x` and turns the number into a `code`. -/
theorem forges_a_member :
    let field : LogField := .extraU64 (lit "x\":0,\"code") 7
    Lib.Json.parse (line [field] 1000 .Info (lit "up")) =
        some (.object [(lit "x", .number 0 0), (lit "code", .number 7 0),
          (lit "ts", .number 1000 0), (lit "level", .string (lit "I")),
          (lit "msg", .string (lit "up"))]) ∧
      Lib.Json.parse (line [field] 1000 .Info (lit "up")) ≠
        some (lineObject [field] 1000 .Info (lit "up")) := by
  intro field
  -- Two calls with keys that stand for themselves give the same line.
  have hline : line [field] 1000 .Info (lit "up") =
      line [.extraU64 (lit "x") 0, .extraU64 (lit "code") 7] 1000 .Info (lit "up") := by rfl
  have hparse : Lib.Json.parse (line [field] 1000 .Info (lit "up")) =
      some (.object [(lit "x", .number 0 0), (lit "code", .number 7 0),
        (lit "ts", .number 1000 0), (lit "level", .string (lit "I")),
        (lit "msg", .string (lit "up"))]) := by
    rw [hline, line_eq_objectText]
    have hne := lineMembers_ne_nil [.extraU64 (lit "x") 0, .extraU64 (lit "code") 7] 1000 .Info
      (lit "up")
    refine (Lib.Json.parse_objectText_iff hne (written_lineMembers _ _ _ _)).mpr ?_
    rw [isPlain_lineMembers_iff]
    intro field hfield
    rcases List.mem_cons.mp hfield with rfl | hfield
    · exact isPlain_of_all (lit "x") (by decide)
    · obtain rfl := List.mem_singleton.mp hfield
      exact isPlain_of_all (lit "code") (by decide)
  refine ⟨hparse, ?_⟩
  rw [hparse]
  intro h
  -- The given fields make four members, the line has five.
  have hlength := congrArg List.length (Value.object.inj (Option.some.inj h))
  simp [lineMembers] at hlength

end LogEntry

end CrossFlow
