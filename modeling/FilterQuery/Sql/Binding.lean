import FilterQuery.Sql.Cell
import FilterQuery.Sql.Statement
import FilterQuery.Value.Display

/-!
# Parameters

A parameter reaches the database in two steps.  First it takes the form of its own type, or of the
column's type where its own says nothing; this can be refused.  Then it is stored in a cell, which
not every form can be.

* `Binding.convert` — the first step.
* `Binding.store` — the second step.
* `Binding.cell?` — both.
-/

namespace FilterQuery.Sql

/-- Why a parameter does not reach the database. -/
inductive BindFault where
  /-- The column's type refuses the value. -/
  | refused (message : String)
  /-- No cell holds values of this kind. -/
  | unsupported
  /-- The number is outside the range of stored whole numbers. -/
  | tooLarge
  deriving DecidableEq, Repr

namespace Binding

/-- The stored form of a date-time: always six digits of fraction, no offset. -/
def datetimeText (time : DateTime) : String :=
  time.date.iso ++ " " ++ padded 2 time.hour ++ ":" ++ padded 2 time.minute ++ ":"
    ++ padded 2 time.second ++ "." ++ padded 6 time.micro

/-- A value without a stored form of its own, in the form of the column's type. -/
def convertBy (type : ColumnType) (value : Value) : Except BindFault Value :=
  match type with
  | .date => .error (.refused "SQLite Date type only accepts Python date objects as input.")
  | .datetime =>
    .error (.refused
      "SQLite DateTime type only accepts Python datetime and date objects as input.")
  | .float =>
    match value with
    | .op _ => .error (.refused ("could not convert string to float: " ++ value.literal))
    | _ =>
      .error (.refused ("float() argument must be a string or a real number, not '"
        ++ value.typeName ++ "'"))
  | .boolean =>
    match value.unhashable? with
    | some kind => .error (.refused ("unhashable type: '" ++ kind ++ "'"))
    | none => .error (.refused ("Not a boolean value: " ++ value.literal))
  | _ => .ok value

/-- The form in which a parameter is sent, for a column of the type. -/
def convert (type : ColumnType) (value : Value) : Except BindFault Value :=
  match value with
  | .date day => .ok (.str day.iso)
  | .datetime time => .ok (.str (datetimeText time))
  | .list _ | .tuple _ | .mapping _ | .op _ | .record _ _ => convertBy type value
  | _ => .ok value

/-- A parameter as it is reported: bytes are sent as a view of memory. -/
def reported : Value → Value
  | .bytes _ => .record "memoryview" []
  | value => value

/-- The cell that a sent parameter is stored in.  A not-a-number is stored as nothing. -/
def store : Value → Except BindFault Cell
  | .null => .ok .null
  | .bool truth => .ok (.int (if truth then 1 else 0))
  | .int number =>
    if fitsSignedWord number then .ok (.int number) else .error .tooLarge
  | .float number => .ok (if number.isNaN then .null else .real number)
  | .str text => .ok (.text text)
  | .op operator => .ok (.text operator.name)
  | .bytes octets => .ok (.blob octets)
  | _ => .error .unsupported

/-- The cell that a parameter becomes, for a column of the type. -/
def cell? (type : ColumnType) (value : Value) : Except BindFault Cell :=
  (convert type value).bind store

/-- The cell that a parameter becomes; nothing if it becomes none. -/
def cell (type : ColumnType) (value : Value) : Cell :=
  match cell? type value with
  | .ok stored => stored
  | .error _ => .null

end Binding

end FilterQuery.Sql
