import CrossFlow.Core.Common.ErrorMeta

/-!
# `CrossFlow.Core.Common.LogEntry`: the lines of the log

The model of `LogEntry` in `core/common/logger.hpp` and `.cpp`. The time is an argument of `submit`,
which returns the line that goes to the logger.
-/

set_option autoImplicit false

namespace CrossFlow

open StdString (lit)

/-- The level of a line. -/
inductive LogLevel where
  | Info
  | Warn
  | Error
  deriving DecidableEq

/-- The level as it is logged. -/
def logLevelString : LogLevel → StdString
  | .Info => lit "I"
  | .Warn => lit "W"
  | .Error => lit "E"

/-- A digit of `%x`. -/
def hexChar (d : Nat) : UInt8 := if d < 10 then (48 + d).toUInt8 else (87 + d).toUInt8

/-- What `escapeJsonString` appends for a character. -/
def escapeJsonChar (c : UInt8) : StdString :=
  if c = 34 then lit "\\\""
  else if c = 92 then lit "\\\\"
  else if c = 10 then lit "\\n"
  else if c = 13 then lit "\\r"
  else if c = 9 then lit "\\t"
  else if c < 0x20 then
    lit "\\u" ++ [hexChar (c.toNat / 4096 % 16), hexChar (c.toNat / 256 % 16),
      hexChar (c.toNat / 16 % 16), hexChar (c.toNat % 16)]
  else [c]

/-- A value is appended to a text, in the form of a JSON string. -/
def escapeJsonString (out value : StdString) : StdString := out ++ value.flatMap escapeJsonChar

/-- A line as far as it is made, and whether it has a field yet. -/
structure LogEntry where
  json : StdString
  hasFields : Bool
  deriving DecidableEq

/-- A call that adds a field. -/
inductive LogField where
  | nodeId (value : StdString)
  | traceId (value : UInt64)
  | eventId (value : UInt64)
  | linkState (value : StdString)
  | code (value : ErrorCode)
  | extra (key value : StdString)
  | extraU64 (key : StdString) (value : UInt64)
  deriving DecidableEq

namespace LogEntry

/-- An object without a field, which is not closed. -/
def init : LogEntry where
  json := lit "\x7b"
  hasFields := false

/-- The key of a field, after a comma when there was one before. -/
def appendKey (entry : LogEntry) (key : StdString) : LogEntry where
  json := (if entry.hasFields then entry.json ++ lit "," else entry.json) ++ lit "\"" ++ key ++
    lit "\":"
  hasFields := true

/-- A value between quotes. -/
def appendStringValue (entry : LogEntry) (value : StdString) : LogEntry :=
  { entry with json := escapeJsonString (entry.json ++ lit "\"") value ++ lit "\"" }

/-- A number in decimal digits. -/
def appendU64Value (entry : LogEntry) (value : UInt64) : LogEntry :=
  { entry with json := entry.json ++ StdString.toString value.toNat }

/-- The field for a node. -/
def nodeId (entry : LogEntry) (value : StdString) : LogEntry :=
  (entry.appendKey (lit "nodeId")).appendStringValue value

/-- The field for a trace. -/
def traceId (entry : LogEntry) (value : UInt64) : LogEntry :=
  (entry.appendKey (lit "traceId")).appendU64Value value

/-- The field for an event. -/
def eventId (entry : LogEntry) (value : UInt64) : LogEntry :=
  (entry.appendKey (lit "eventId")).appendU64Value value

/-- The field for the state of a link. -/
def linkState (entry : LogEntry) (value : StdString) : LogEntry :=
  (entry.appendKey (lit "linkState")).appendStringValue value

/-- The field for an error, with its text. -/
def code (entry : LogEntry) (value : ErrorCode) : LogEntry :=
  (entry.appendKey (lit "code")).appendStringValue value.to_string

/-- A field under a key of the caller's. The key is not escaped. -/
def extra (entry : LogEntry) (key value : StdString) : LogEntry :=
  (entry.appendKey key).appendStringValue value

/-- A number under a key of the caller's. -/
def extraU64 (entry : LogEntry) (key : StdString) (value : UInt64) : LogEntry :=
  (entry.appendKey key).appendU64Value value

/-- One field, by the function that is for it. -/
def addField (entry : LogEntry) : LogField → LogEntry
  | .nodeId value => entry.nodeId value
  | .traceId value => entry.traceId value
  | .eventId value => entry.eventId value
  | .linkState value => entry.linkState value
  | .code value => entry.code value
  | .extra key value => entry.extra key value
  | .extraU64 key value => entry.extraU64 key value

/-- The line that goes to `Logger::submit`. -/
def submit (entry : LogEntry) (currentMicros : UInt64) (level : LogLevel) (msg : StdString) :
    StdString :=
  let entry := (entry.appendKey (lit "ts")).appendU64Value currentMicros
  let entry := (entry.appendKey (lit "level")).appendStringValue (logLevelString level)
  let entry := (entry.appendKey (lit "msg")).appendStringValue msg
  entry.json ++ lit "\x7d"

/-- The line at the level `Info`. -/
def info (entry : LogEntry) (currentMicros : UInt64) (msg : StdString) : StdString :=
  entry.submit currentMicros .Info msg

/-- The line at the level `Warn`. -/
def warn (entry : LogEntry) (currentMicros : UInt64) (msg : StdString) : StdString :=
  entry.submit currentMicros .Warn msg

/-- The line at the level `Error`. -/
def error (entry : LogEntry) (currentMicros : UInt64) (msg : StdString) : StdString :=
  entry.submit currentMicros .Error msg

/-- A new entry, the calls that add fields, and a submit. -/
def line (fields : List LogField) (currentMicros : UInt64) (level : LogLevel) (msg : StdString) :
    StdString :=
  (fields.foldl addField init).submit currentMicros level msg

end LogEntry

end CrossFlow
