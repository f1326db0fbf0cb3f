import FilterQuery.Logging.Manager
import FilterQuery.Logging.Structured

/-!
# Loggers

What loggers are given ends up as records at the handlers.  A plain logger fills the places of its
message; a structured logger takes named values.  Which of the two a component gets depends on
whether the manager that it asks is installed.

* `fillPlaces` — a message with its places filled, if there are as many values as places.
* `State.loggerKind` — the kind of logger that a component gets.
* `State.log` — gives a call to a logger.
* `State.report` — gives the events of a query to their logger.
-/

namespace FilterQuery.Logging

/-! ## Messages with places

A message of a plain logger can have places for values: `%s` for the display form, `%r` for the
literal form, `%d` for a whole number, and `%%` for a percent sign. -/

/-- A value at a place, if a value of its type may stand there. -/
def placed? (kind : Char) (value : Value) : Option String :=
  if kind = 's' then some value.display
  else if kind = 'r' then some value.literal
  else if kind = 'd' || kind = 'i' then
    match value with
    | .float number => number.toInt?.map toString
    | _ => value.int?.map toString
  else none

/-- Fills the places of a message in order.  No value may be left over. -/
def fillPlaces : List Char → List Value → Option String
  | [], [] => some ""
  | [], _ :: _ => none
  | ['%'], _ => none
  | '%' :: '%' :: rest, values => (fillPlaces rest values).map ("%" ++ ·)
  | '%' :: _ :: _, [] => none
  | '%' :: kind :: rest, value :: values => do
    return (← placed? kind value) ++ (← fillPlaces rest values)
  | c :: rest, values => (fillPlaces rest values).map (String.singleton c ++ ·)

/-! ## Calls -/

/-- The kinds of loggers. -/
inductive LoggerKind where
  | plain
  | structured
  deriving DecidableEq, Repr

/-- What a logger is called with. -/
structure Call where
  logger : String
  level : Level
  event : Value
  /-- The values that are bound to the logger before, if any are. -/
  bound : List (String × Value)
  /-- The values given by name. -/
  given : List (String × Value)
  /-- The values given without names. -/
  unnamed : List Value
  deriving Repr

/-- Why a logger cannot be called so. -/
inductive CallFault where
  /-- A logger of this type cannot have values bound to it. -/
  | notBindable (type : String)
  /-- A name is taken by what a method is given anyway. -/
  | repeatedArgument (method name : String)
  /-- A name is not known to a method. -/
  | unknownArgument (method name : String)
  | record (fault : RecordFault)
  deriving DecidableEq, Repr

/-- The name of a logger; the one without a name is the root of all. -/
def loggerName (name : String) : String :=
  if name.isEmpty then "root" else name

namespace Call

/-- The first of the values given by name that has one of these names. -/
def firstNamed? (call : Call) (names : List String) : Option String :=
  (call.given.map Prod.fst).find? names.contains

/-- The names that a plain logger passes on itself. -/
def passedOn : List String := ["self", "level", "msg", "args"]

/-- The names that mean something to a plain logger. -/
def understood : List String := ["exc_info", "extra", "stack_info", "stacklevel"]

/-- Why a plain logger cannot pass on what it is given. -/
def passingFault? (call : Call) : Option CallFault :=
  ((call.given.map Prod.fst).find? fun name => !understood.contains name).map fun name =>
    if passedOn.contains name then .repeatedArgument "Logger._log" name
    else .unknownArgument "Logger._log" name

/-- The further fields of a plain record. -/
def extras (call : Call) : List (String × Field) :=
  match call.given.lookup "extra" with
  | some (.mapping entries) =>
    entries.filterMap fun entry => entry.1.text?.map fun name => (name, .value entry.2)
  | _ => []

/-- The message of a plain record; nothing if its places cannot be filled. -/
def message? (call : Call) : Option String :=
  if call.unnamed.isEmpty then some call.event.display
  else fillPlaces call.event.display.toList call.unnamed

/-- The record that a plain logger makes.  There is none if the places of the message cannot be
filled. -/
def plainRecord (call : Call) : Except CallFault (Option Record) :=
  match call.extras.find? fun entry => Record.reserved.contains entry.1 with
  | some (name, _) => .error (.record (.reserved name))
  | none =>
    .ok (call.message?.map fun text =>
      ⟨loggerName call.logger, call.level, Line.ofText text, call.extras⟩)

/-- The event for a structured logger. -/
def structured (call : Call) : Structured :=
  ⟨loggerName call.logger, call.level, call.event, call.bound, call.given, call.unnamed⟩

end Call

namespace State

/-- The kind of logger that a component gets from a manager, or from the current one. -/
def loggerKind (state : State) (manager : Option Nat) : LoggerKind :=
  match manager <|> state.current with
  | some id => if state.isInstalled id then .structured else .plain
  | none => .structured

/-- Whether records of a level are handed to handlers at all. -/
def isEnabled (state : State) (level : Level) : Bool :=
  state.rootLevel ≤ level.gravity

/-- Gives a call to a plain logger. -/
def logPlain (state : State) (call : Call) : Except CallFault Unit × State :=
  if !call.bound.isEmpty then
    (.error (.notBindable (if call.logger.isEmpty then "RootLogger" else "Logger")), state)
  else
    match call.firstNamed? ["self", "msg"] with
    | some name => (.error (.repeatedArgument ("Logger." ++ call.level.name) name), state)
    | none =>
      if state.isEnabled call.level then
        match call.passingFault? with
        | some fault => (.error fault, state)
        | none =>
          match call.plainRecord with
          | .error fault => (.error fault, state)
          | .ok (some record) => (.ok (), state.deliver record)
          | .ok none => (.ok (), state)
      else (.ok (), state)

/-- Gives a call to a structured logger.  Nothing comes of it before structured events are made
records of. -/
def logStructured (state : State) (call : Call) : Except CallFault Unit × State :=
  match state.rendering with
  | none => (.ok (), state)
  | some format =>
    match call.firstNamed? ["self", "event"], call.firstNamed? ["method_name"] with
    | some name, _ => (.error (.repeatedArgument ("BoundLogger." ++ call.level.name) name), state)
    | none, some name => (.error (.repeatedArgument "BoundLogger._proxy_to_logger" name), state)
    | none, none =>
      if state.isEnabled call.level then
        match call.structured.record format with
        | .ok record => (.ok (), state.deliver record)
        | .error fault => (.error (.record fault), state)
      else (.ok (), state)

/-- Gives a call to the logger that a component gets. -/
def log (state : State) (manager : Option Nat) (call : Call) : Except CallFault Unit × State :=
  match state.loggerKind manager with
  | .plain => state.logPlain call
  | .structured => state.logStructured call

/-- The name of the logger of queries. -/
def queryLogger : String := "indexquery.core.builder"

/-- Gives the events of a query to its logger, in order. -/
def report (state : State) (events : List Event) : State :=
  events.foldl (fun state event =>
    (state.logStructured
      ⟨queryLogger, event.level, .str event.text, [], event.fields, []⟩).2) state

end State

end FilterQuery.Logging
