import FilterQuery.Event
import FilterQuery.Logging.Line
import FilterQuery.Value.Json

/-!
# Records

A record is what a logger hands to the handlers: the name of the logger, a level, a message, and
further fields.  A handler writes it in one of two formats, as a line of text or as JSON; only
JSON shows the further fields.

* `Record`, `Field`, `Format`.
* `Record.reserved` — the names that belong to a record and cannot name a field.
* `Record.line?` — the line of a record, if it can be written.
-/

namespace FilterQuery.Logging

/-- The formats of lines. -/
inductive Format where
  | json
  | text
  deriving DecidableEq, Repr

/-- What a field of a record holds. -/
inductive Field where
  | value (value : Value)
  /-- A point in time, written in so many characters. -/
  | time (width : Nat)
  deriving Repr

/-- What a logger hands to the handlers. -/
structure Record where
  logger : String
  level : Level
  message : Line
  /-- Further fields, in order. -/
  fields : List (String × Field)
  deriving Repr

namespace Record

/-- The names that belong to a record itself. -/
def reserved : List String :=
  ["name", "msg", "args", "levelname", "levelno", "pathname", "filename", "module", "exc_info",
    "exc_text", "stack_info", "lineno", "funcName", "created", "msecs", "relativeCreated", "thread",
    "threadName", "processName", "process", "message", "asctime"]

/-- A point in time at the head of a text line: date, time and thousandths of a second. -/
def textTime : Piece := .time 23

/-- A point in time at the head of a JSON line: date, time and offset. -/
def jsonTime : Piece := .time 24

/-- A field under its name in a JSON line. -/
def jsonEntry? (name : String) (field : Field) : Option Line :=
  let label := Json.quoted name ++ ": "
  match field with
  | .value value => value.json?.map fun text => Line.ofText (label ++ text)
  | .time width => some [.text (label ++ "\""), .time width, .text "\""]

/-- The fields in a JSON line.  Names that start with an underscore are not written. -/
def jsonEntries? : List (String × Field) → Option (List Line)
  | [] => some []
  | (name, field) :: rest =>
    if name.startsWith "_" then jsonEntries? rest
    else do return (← jsonEntry? name field) :: (← jsonEntries? rest)

/-- The JSON line of a record. -/
def jsonLine? (record : Record) : Option Line := do
  let message := record.message.map (Piece.mapText Json.escaped)
  let head : List Line :=
    [[.text "\"asctime\": \"", jsonTime, .text "\""],
      Line.ofText ("\"name\": " ++ Json.quoted record.logger),
      Line.ofText ("\"levelname\": " ++ Json.quoted record.level.capitals),
      .text "\"message\": \"" :: message ++ [.text "\""]]
  let entries ← jsonEntries? record.fields
  return .text "\x7b" :: Line.join ", " (head ++ entries) ++ [.text "\x7d"]

/-- The text line of a record. -/
def textLine (record : Record) : Line :=
  [textTime, .text (" - " ++ record.logger ++ " - " ++ record.level.capitals ++ " - ")]
    ++ record.message

/-- The line of a record; nothing if a field cannot be written. -/
def line? (record : Record) : Format → Option Line
  | .json => record.jsonLine?
  | .text => some record.textLine

end Record

end FilterQuery.Logging
