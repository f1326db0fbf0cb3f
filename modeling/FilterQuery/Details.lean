import FilterQuery.Value.Display
import FilterQuery.Value.Mapping

/-!
# Errors and their details

The errors of this library carry a message and details: a mapping that is passed in, overwritten by the
arguments that belong to the class of the error, and then by all other arguments.

* `ErrorClass` — the classes of errors and the arguments that belong to them.
* `ErrorClass.supplied`, `ErrorClass.extra` — the arguments that count for the class, and all others.
* `ErrorClass.details` — the details of an error, and what has become of the mapping passed in.
* `LibraryError`, `ErrorClass.construct` — an error, made from a message and arguments by name.
-/

namespace FilterQuery

/-- The classes of errors. -/
inductive ErrorClass where
  | general
  | unknownOperator
  | invalidFieldPath
  | configuration
  deriving DecidableEq, Repr

namespace ErrorClass

/-- All classes. -/
def all : List ErrorClass :=
  [general, unknownOperator, invalidFieldPath, configuration]

/-- The name of a class. -/
def name : ErrorClass → String
  | general => "IndexQueryError"
  | unknownOperator => "UnknownOperator"
  | invalidFieldPath => "InvalidFieldPathError"
  | configuration => "ConfigurationError"

/-- The class of a name. -/
def ofName? (name : String) : Option ErrorClass :=
  all.find? fun errorClass => errorClass.name == name

/-- Whether errors of the class are errors of a value, too. -/
def isValueError : ErrorClass → Bool
  | unknownOperator | invalidFieldPath => true
  | general | configuration => false

/-- The arguments that belong to a class. -/
def ownArguments : ErrorClass → List String
  | general => []
  | unknownOperator => ["operator", "field"]
  | invalidFieldPath => ["field", "segment", "model"]
  | configuration => ["config_key"]

/-- Whether an argument that belongs to the class is given: it is not absent, and for a
configuration error it is not empty either. -/
def isGiven (errorClass : ErrorClass) (value : Value) : Bool :=
  match errorClass with
  | configuration => value.isTruthy
  | _ =>
    match value with
    | .null => false
    | _ => true

/-- The arguments that belong to the class and are given, in the order of the class. -/
def supplied (errorClass : ErrorClass) (arguments : List (String × Value)) :
    List (String × Value) :=
  errorClass.ownArguments.filterMap fun name =>
    ((arguments.lookup name).filter errorClass.isGiven).map (Prod.mk name)

/-- The arguments that are neither the details nor belong to the class. -/
def extra (errorClass : ErrorClass) (arguments : List (String × Value)) : List (String × Value) :=
  arguments.filter fun entry => entry.1 != "details" && !errorClass.ownArguments.contains entry.1

end ErrorClass

/-- The arguments that errors take by their place, and not by name. -/
def placedArguments : List String :=
  ["self", "message"]

/-- Why an error has no details. -/
inductive DetailsFault where
  /-- Entries cannot be put into a value of this type. -/
  | noEntries (type : String)
  /-- Items are put into a list by their number. -/
  | needsIndex
  | mapping (fault : MappingFault)
  /-- An argument of the class is given by its place and by name. -/
  | repeated (errorClass argument : String)
  deriving DecidableEq, Repr

/-- Puts an entry into a value, if it is a mapping. -/
def putEntry (value : Value) (name : String) (entry : Value) : Except DetailsFault Value :=
  match value with
  | .mapping entries => .ok (.mapping (Mapping.insert entries (.str name) entry))
  | .list _ => .error .needsIndex
  | other => .error (.noEntries other.qualifiedTypeName)

/-- The details of an error, and what has become of the mapping passed in. -/
structure Details where
  entries : Mapping
  passed : Option Value
  deriving Repr

/-- Puts named values into a mapping, in order. -/
def Mapping.putNamed (entries : Mapping) (named : List (String × Value)) : Mapping :=
  entries.merge (named.map fun entry => (.str entry.1, entry.2))

/-- The details that an error of the class gets from its arguments by name.  The entries that
belong to the class are written into the mapping passed in. -/
def ErrorClass.details (errorClass : ErrorClass) (arguments : List (String × Value)) :
    Except DetailsFault Details :=
  match arguments.find? fun entry => placedArguments.contains entry.1 with
  | some entry => .error (.repeated errorClass.name entry.1)
  | none => do
    let passed := arguments.lookup "details"
    let written ← (errorClass.supplied arguments).foldlM
      (fun value entry => putEntry value entry.1 entry.2) (passed.getD (.mapping []))
    let base ←
      if written.isTruthy then (Mapping.ofValue written).mapError DetailsFault.mapping else pure []
    return ⟨base.putNamed (errorClass.extra arguments), passed.map fun _ => written⟩

/-- An error of the library. -/
structure LibraryError where
  errorClass : ErrorClass
  message : Value
  details : Details
  /-- The arguments that the error keeps under their own names. -/
  kept : List (String × Value)
  deriving Repr

/-- The arguments that errors of the class keep under their own names: those of an unknown operator keep
what belongs to the class, given or not. -/
def ErrorClass.kept (errorClass : ErrorClass) (arguments : List (String × Value)) :
    List (String × Value) :=
  match errorClass with
  | unknownOperator =>
    errorClass.ownArguments.map fun name => (name, (arguments.lookup name).getD .null)
  | _ => []

/-- Makes an error of the class. -/
def ErrorClass.construct (errorClass : ErrorClass) (message : Value)
    (arguments : List (String × Value)) : Except DetailsFault LibraryError := do
  let details ← errorClass.details arguments
  return ⟨errorClass, message, details, errorClass.kept arguments⟩

/-- An error reads as its message. -/
def LibraryError.text (error : LibraryError) : String :=
  error.message.display

end FilterQuery
