import FilterQuery.Decimal.Digits
import FilterQuery.Text.DecimalDigit
import FilterQuery.Text.Quoted
import FilterQuery.Value.Basic

/-!
# The written forms of a value

A value has two written forms.  Its literal form shows what it is: texts are quoted, dates and
operators are named.  Its display form is the one put into messages and used as a key: it is the
literal form, except that texts stand bare and dates in their ISO form.  A whole number of too many
digits has no written form, nor has a value that is nested too deep.

* `Value.literal` and `Value.display`, the forms of a value that can be written.
* `Value.written` — the display form, or why the value cannot be written.
* `Value.numberLayout` — how floating point numbers are written.
-/

namespace FilterQuery.Value

/-- Floating point numbers have a point unless they have an exponent, which they have from
`10 ^ 16` on and below `10 ^ -4`. -/
def numberLayout : DecimalLayout where
  leastPoint := -3
  greatestPoint := 16
  pointBeforeExponent := false
  infinity := "inf"
  notANumber := "nan"
  signedZero := true

/-- A floating point number with the fewest digits that read back. -/
def floatText (number : Double) : String :=
  numberLayout.write Double.shortestDigits number

/-- The literal form of a length of time in seconds. -/
def spanLiteral (seconds : Int) : String :=
  let days := seconds.fdiv 86400
  let rest := seconds.fmod 86400
  let parts :=
    (if days = 0 then [] else ["days=" ++ toString days])
      ++ (if rest = 0 then [] else ["seconds=" ++ toString rest])
  "datetime.timedelta(" ++ (if parts.isEmpty then "0" else ", ".intercalate parts) ++ ")"

/-- The literal form of an offset from universal time. -/
def zoneLiteral (seconds : Int) : String :=
  if seconds = 0 then "datetime.timezone.utc"
  else "datetime.timezone(" ++ spanLiteral seconds ++ ")"

/-- The literal form of a date. -/
def dateLiteral (day : Date) : String :=
  "datetime.date(" ++ toString day.year ++ ", " ++ toString day.month ++ ", "
    ++ toString day.day ++ ")"

/-- The literal form of a date-time: seconds and fraction are left out when they are zero. -/
def datetimeLiteral (time : DateTime) : String :=
  let tail :=
    if time.micro ≠ 0 then [time.second, time.micro]
    else if time.second ≠ 0 then [time.second]
    else []
  let fields := [time.date.year, time.date.month, time.date.day, time.hour, time.minute] ++ tail
  "datetime.datetime(" ++ ", ".intercalate (fields.map toString)
    ++ (match time.offset with
      | some seconds => ", tzinfo=" ++ zoneLiteral seconds
      | none => "")
    ++ ")"

mutual
/-- The literal form of a value. -/
def literal : Value → String
  | null => "None"
  | bool truth => if truth then "True" else "False"
  | int number => toString number
  | float number => floatText number
  | str text => Text.quoted text
  | bytes octets => Text.quotedBytes octets
  | date day => dateLiteral day
  | datetime time => datetimeLiteral time
  | list items => "[" ++ ", ".intercalate (literals items) ++ "]"
  | tuple [item] => "(" ++ literal item ++ ",)"
  | tuple items => "(" ++ ", ".intercalate (literals items) ++ ")"
  | mapping entries => "\x7b" ++ ", ".intercalate (entryLiterals entries) ++ "\x7d"
  | op operator => "<Operator." ++ operator.member ++ ": " ++ Text.quoted operator.name ++ ">"
  | record type fields => type ++ "(" ++ ", ".intercalate (fieldLiterals fields) ++ ")"
/-- The literal forms of the items of a list. -/
def literals : List Value → List String
  | [] => []
  | item :: rest => literal item :: literals rest
/-- The literal forms of the entries of a mapping. -/
def entryLiterals : List (Value × Value) → List String
  | [] => []
  | (key, value) :: rest => (literal key ++ ": " ++ literal value) :: entryLiterals rest
/-- The literal forms of the fields of an object. -/
def fieldLiterals : List (String × Value) → List String
  | [] => []
  | (name, value) :: rest => (name ++ "=" ++ literal value) :: fieldLiterals rest
end

/-- The display form of a value. -/
def display : Value → String
  | str text => text
  | date day => day.iso
  | datetime time => time.iso " "
  | op operator => "Operator." ++ operator.member
  | record _ fields => " ".intercalate (fieldLiterals fields)
  | value => value.literal

/-! ## What cannot be written -/

/-- Why a value cannot be written. -/
inductive WriteFault where
  /-- A whole number has more digits than are written. -/
  | tooManyDigits
  /-- Values are nested too deep within each other. -/
  | tooDeep
  deriving DecidableEq, Repr

/-- The wording of a fault. -/
def WriteFault.message : WriteFault → String
  | tooManyDigits =>
    "Exceeds the limit (" ++ toString Text.digitLimit ++ " digits) for integer string conversion; "
      ++ "use sys.set_int_max_str_digits() to increase the limit"
  | tooDeep => "maximum recursion depth exceeded while getting the repr of an object"

/-- How deep values may be nested to be written: the calls that write them may be nested about a
thousand deep, and some are under way before. -/
def depthLimit : Nat := 980

/-- Whether a number has too many digits to be written. -/
def isTooLong (number : Int) : Bool :=
  Nat.pow 10 Text.digitLimit ≤ number.natAbs

mutual
/-- What keeps a value from being written, if anything does; it may be nested so much deeper as
there is room. -/
def writeFault? (room : Nat) : Value → Option WriteFault
  | int number => if isTooLong number then some .tooManyDigits else none
  | list items | tuple items => if room = 0 then some .tooDeep else itemsFault? (room - 1) items
  | mapping entries => if room = 0 then some .tooDeep else entriesFault? (room - 1) entries
  | record _ fields => if room = 0 then some .tooDeep else fieldsFault? (room - 1) fields
  | _ => none
/-- What keeps the items of a list from being written: the first of them that cannot be. -/
def itemsFault? (room : Nat) : List Value → Option WriteFault
  | [] => none
  | item :: rest => writeFault? room item <|> itemsFault? room rest
/-- The same for the entries of a mapping. -/
def entriesFault? (room : Nat) : List (Value × Value) → Option WriteFault
  | [] => none
  | (key, value) :: rest =>
    writeFault? room key <|> writeFault? room value <|> entriesFault? room rest
/-- The same for the fields of an object. -/
def fieldsFault? (room : Nat) : List (String × Value) → Option WriteFault
  | [] => none
  | (_, value) :: rest => writeFault? room value <|> fieldsFault? room rest
end

/-- The display form of a value, if it can be written. -/
def written (value : Value) : Except WriteFault String :=
  match value.writeFault? depthLimit with
  | some fault => .error fault
  | none => .ok value.display

/-- A text is written as it is. -/
@[simp]
theorem written_str (text : String) : (str text).written = .ok text := rfl

end FilterQuery.Value
