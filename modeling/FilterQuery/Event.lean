import FilterQuery.Value.Basic

/-!
# Events

What building and running queries reports about itself.  An event is typed by what happened; its
level, its text and its named values follow from that.

* `Level` — the levels of events, with their names and their gravity.
* `Event` — what happened.
* `Event.level`, `Event.text`, `Event.fields` — how it is reported.
-/

namespace FilterQuery

/-- The levels of events. -/
inductive Level where
  | debug
  | info
  | warning
  | error
  | critical
  deriving DecidableEq, Repr

namespace Level

/-- All levels, from the lowest to the highest. -/
def all : List Level :=
  [debug, info, warning, error, critical]

/-- The name of a level. -/
def name : Level → String
  | debug => "debug"
  | info => "info"
  | warning => "warning"
  | error => "error"
  | critical => "critical"

/-- The name of a level in capitals. -/
def capitals : Level → String
  | debug => "DEBUG"
  | info => "INFO"
  | warning => "WARNING"
  | error => "ERROR"
  | critical => "CRITICAL"

/-- How grave a level is. -/
def gravity : Level → Int
  | debug => 10
  | info => 20
  | warning => 30
  | error => 40
  | critical => 50

/-- The level of a name. -/
def ofName? (name : String) : Option Level :=
  all.find? fun level => level.name == name

end Level

/-- What happened. -/
inductive Event where
  /-- No value is given under the key of an operator. -/
  | skipped (field key : String)
  /-- A declared operator is unknown. -/
  | unknownOperator (message field key : String)
  /-- A relationship was entered for the first time. -/
  | joined (field path : String)
  /-- A path leads nowhere. -/
  | invalidPath (field reason : String)
  /-- The condition of an operator was added. -/
  | applied (field : String) (operator : Operator) (key : String)
  /-- A settings file was read. -/
  | loadedFile (path : String)
  /-- Children were fetched. -/
  | fetched (association : String) (parents children : Nat)
  deriving DecidableEq, Repr

namespace Event

/-- The level of an event. -/
def level : Event → Level
  | unknownOperator .. => .error
  | invalidPath .. => .error
  | _ => .debug

/-- The text of an event. -/
def text : Event → String
  | skipped .. => "Skipping filter without value"
  | unknownOperator message _ _ => message
  | joined .. => "Joined relationship"
  | invalidPath .. => "Invalid field path"
  | applied .. => "Applied filter"
  | loadedFile _ => "Loaded configuration file"
  | fetched .. => "Fetched children"

/-- The named values of an event. -/
def fields : Event → List (String × Value)
  | skipped field key => [("field", .str field), ("key", .str key)]
  | unknownOperator _ field key => [("field", .str field), ("key", .str key)]
  | joined field path => [("field", .str field), ("path", .str path)]
  | invalidPath field reason => [("field", .str field), ("reason", .str reason)]
  | applied field operator key =>
    [("field", .str field), ("operator", .str operator.name), ("key", .str key)]
  | loadedFile path => [("path", .str path)]
  | fetched association parents children =>
    [("association", .str association), ("parents", .int parents), ("children", .int children)]

end Event

end FilterQuery
