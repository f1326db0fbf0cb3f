import FilterQuery.Entries
import FilterQuery.Logging.Record
import FilterQuery.Text.Utf8

/-!
# Structured events

A structured logger takes an event with named values.  It adds the name of the logger, the level
and the time, and makes a record of them: for JSON lines the values become fields of the record,
for text lines they are written into its message.

* `Structured.fields` — all values of an event.
* `Structured.record` — the record of an event, or why there is none.
-/

namespace FilterQuery.Logging

/-- An event as it is given to a structured logger. -/
structure Structured where
  logger : String
  level : Level
  event : Value
  /-- The values that are bound to the logger. -/
  bound : List (String × Value)
  /-- The values given with the event. -/
  given : List (String × Value)
  /-- The values given without names. -/
  unnamed : List Value
  deriving Repr

/-- Why an event makes no record. -/
inductive RecordFault where
  /-- A value has a name that belongs to records. -/
  | reserved (name : String)
  /-- Text below the line is no text but a value of this type. -/
  | notText (type : String)
  deriving DecidableEq, Repr

namespace Structured

/-! ## Values -/

/-- Takes the value under a name away. -/
def without (names : List String) (fields : List (String × Field)) : List (String × Field) :=
  fields.filter fun entry => !names.contains entry.1

/-- Bytes are shown as the text that they are. -/
def decoded : Value → Value
  | .bytes octets => .str (String.ofList (Text.decodeUtf8Lossy octets))
  | value => value

/-- The time of an event: date, time, millionths of a second and the mark of universal time. -/
def stampWidth : Nat := 27

/-- All values of an event but the event itself.  Requests for traces are not values. -/
def fields (structured : Structured) : List (String × Field) :=
  let values := structured.bound ++ structured.given
    ++ (if structured.unnamed.isEmpty then [] else [("positional_args", .tuple structured.unnamed)])
  let named := values.map fun (name, value) => (name, Field.value (decoded value))
  let own : List (String × Field) :=
    [("logger", .value (.str structured.logger)), ("level", .value (.str structured.level.name)),
      ("timestamp", .time stampWidth)]
  without ["event", "stack_info", "exc_info"]
    (Entries.merge (Entries.merge [] named) own)

/-- The event itself, as a text. -/
def title (structured : Structured) : String :=
  (decoded structured.event).display

/-! ## The record for JSON lines -/

/-- The record with the values as fields. -/
def jsonRecord (structured : Structured) : Except RecordFault Record :=
  let fields := without ["stacklevel"] structured.fields
  match fields.find? fun entry => Record.reserved.contains entry.1 with
  | some (name, _) => .error (.reserved name)
  | none =>
    .ok ⟨structured.logger, structured.level, Line.ofText structured.title, fields⟩

/-! ## The record for text lines -/

/-- A text filled up with spaces. -/
def padded (width : Nat) (text : String) : String :=
  text ++ String.ofList (List.replicate (width - text.length) ' ')

/-- A value behind its name: a text stands bare unless it has spaces, line breaks, quotes or an
equals sign. -/
def bareText (value : Value) : String :=
  match value.text? with
  | some text =>
    if text.toList.any [' ', '\t', '=', '\r', '\n', '"', '\''].contains then Text.quoted text
    else text
  | none => value.literal

/-- A field behind its name. -/
def column (name : String) (field : Field) : Line :=
  .text (name ++ "=") :: match field with
    | .value value => [.text (bareText value)]
    | .time width => [.time width]

/-- The display form of a field between brackets, if it is there. -/
def bracketed (fields : List (String × Field)) (name : String) : List Line :=
  match fields.lookup name with
  | some (.value value) => [Line.ofText ("[" ++ value.display ++ "]")]
  | some (.time width) => [[.text "[", .time width, .text "]"]]
  | none => []

/-- The text of a field, if it is there; it has to be one. -/
def textBelow (fields : List (String × Field)) (name : String) :
    Except RecordFault (Option String) :=
  match fields.lookup name with
  | some (.value .null) => .ok none
  | some (.value value) =>
    match value.text? with
    | some text => .ok (some text)
    | none => .error (.notText value.typeName)
  | _ => .ok none

/-- What stands below the line: a trace of the stack and the text of an exception, with a rule
between them. -/
def below (stack exception : Option String) : String :=
  let rule := "\n\n" ++ String.ofList (List.replicate 79 '=') ++ "\n"
  let separator := if stack.isSome && exception.isSome then rule else ""
  let under (text : Option String) : String :=
    match text with
    | some text => "\n" ++ text
    | none => ""
  under stack ++ separator ++ under exception

/-- The line of an event: time, level, event and logger first, then the other values by name. -/
def rendered (structured : Structured) (fields : List (String × Field)) : Line :=
  let columns : List Line :=
    [[.time stampWidth], Line.ofText ("[" ++ padded 9 structured.level.name ++ "]"),
      Line.ofText (padded 30 structured.title)]
      ++ bracketed fields "logger" ++ bracketed fields "logger_name"
  let others := without ["timestamp", "level", "logger", "logger_name", "stack", "exception"] fields
  let sorted := others.mergeSort fun a b => decide (a.1 ≤ b.1)
  (Line.join " " (columns ++ sorted.map fun entry => column entry.1 entry.2)).trimRight

/-- The record with the values in its message. -/
def textRecord (structured : Structured) : Except RecordFault Record := do
  let fields := structured.fields
  let stack ← textBelow fields "stack"
  let exception ← textBelow fields "exception"
  let message := structured.rendered fields ++ [.text (below stack exception)]
  return ⟨structured.logger, structured.level, message, []⟩

/-- The record of an event for lines of a format. -/
def record (structured : Structured) : Format → Except RecordFault Record
  | .json => structured.jsonRecord
  | .text => structured.textRecord

end Structured

end FilterQuery.Logging
