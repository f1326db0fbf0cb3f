import FilterQuery.Value.Time
import FilterQuery.Yaml.Fault

/-!
# Timestamps

Dates and date-times as scalars.  The form decides whether a plain scalar is a timestamp; whether
there is such a day and time of day is settled afterwards.

* `Timestamp`, `Timestamp.ofChars?` — the parts of a timestamp.
* `Timestamp.day`, `Timestamp.time` — the date or date-time of the parts.
-/

namespace FilterQuery.Yaml

/-- The offset of a timestamp. -/
inductive Zone where
  | none
  | universal
  | offset (isNegative : Bool) (hours minutes : Nat)
  deriving DecidableEq, Repr

/-- The time of day of a timestamp; of the fraction the digits are kept. -/
structure ClockParts where
  hour : Nat
  minute : Nat
  second : Nat
  fraction : List Char
  zone : Zone
  deriving DecidableEq, Repr

/-- The parts of a timestamp. -/
structure Timestamp where
  date : Date
  /-- Whether month and day have two digits each. -/
  isPadded : Bool
  clock : Option ClockParts
  deriving DecidableEq, Repr

namespace Timestamp

/-- One or two digits before something else. -/
def shortNumber? (chars : List Char) : Option (Nat × List Char) :=
  let digits := (chars.take 2).takeWhile Char.isDigit
  (digitsOf? digits.length digits).bind fun number =>
    if digits.isEmpty then none else some (number, chars.drop digits.length)

/-- A sign and a fixed number of digits behind it. -/
def marked? (mark : Char) (width : Nat) (chars : List Char) : Option (Nat × List Char) :=
  match chars with
  | c :: rest =>
    if c == mark then
      (digitsOf? width (rest.take width)).map fun number => (number, rest.drop width)
    else none
  | [] => none

/-- Whether a character is a blank between the parts. -/
def isGap (c : Char) : Bool :=
  c == ' ' || c == '\t'

/-- The offset that ends a timestamp. -/
def zone? (chars : List Char) : Option Zone :=
  match chars with
  | [] => some .none
  | _ =>
    match chars.dropWhile isGap with
    | ['Z'] => some .universal
    | sign :: rest =>
      if sign == '-' || sign == '+' then do
        let (hours, rest) ← shortNumber? rest
        if rest.isEmpty then some (.offset (sign == '-') hours 0)
        else
          let (minutes, rest) ← marked? ':' 2 rest
          if rest.isEmpty then some (.offset (sign == '-') hours minutes) else none
      else none
    | [] => none

/-- The time of day that ends a timestamp. -/
def clock? (chars : List Char) : Option ClockParts := do
  let (hour, rest) ← shortNumber? chars
  let (minute, rest) ← marked? ':' 2 rest
  let (second, rest) ← marked? ':' 2 rest
  let (fraction, rest) :=
    match rest with
    | '.' :: behind => (behind.takeWhile Char.isDigit, behind.dropWhile Char.isDigit)
    | _ => ([], rest)
  return ⟨hour, minute, second, fraction, ← zone? rest⟩

/-- The parts of a timestamp that these characters write. -/
def ofChars? (chars : List Char) : Option Timestamp := do
  let year ← digitsOf? 4 (chars.take 4)
  let afterYear ←
    match chars.drop 4 with
    | '-' :: rest => some rest
    | _ => none
  let (month, rest) ← shortNumber? afterYear
  let afterMonth ←
    match rest with
    | '-' :: rest => some rest
    | _ => none
  let (day, rest) ← shortNumber? afterMonth
  let isPadded := chars.length - rest.length = 10
  let clock ←
    match rest with
    | [] => some none
    | c :: behind =>
      if c == 'T' || c == 't' then (clock? behind).map some
      else if isGap c then (clock? (behind.dropWhile isGap)).map some
      else none
  return ⟨⟨year, month, day⟩, isPadded, clock⟩

/-- Whether a plain scalar of these parts is a timestamp: a date alone has to be padded. -/
def isPlain (parts : Timestamp) : Bool :=
  parts.clock.isSome || parts.isPadded

/-- The offset in seconds, which has to be less than a day. -/
def offsetOf : Zone → Except ScalarFault (Option Int)
  | .none => .ok none
  | .universal => .ok (some 0)
  | .offset isNegative hours minutes =>
    let seconds : Int := hours * 3600 + minutes * 60
    let seconds := if isNegative then -seconds else seconds
    if seconds.natAbs < 86400 then .ok (some seconds) else .error (.offsetOutOfRange seconds)

/-- The date, if there is such a day. -/
def day (date : Date) : Except ScalarFault Date :=
  if date.year = 0 then .error (.yearOutOfRange date.year)
  else if date.month = 0 || 12 < date.month then .error .monthOutOfRange
  else if date.day = 0 || Date.daysIn date.year date.month < date.day then .error .dayOutOfRange
  else .ok date

/-- The date-time, if there is such a day and time of day. -/
def time (date : Date) (clock : ClockParts) : Except ScalarFault DateTime := do
  let offset ← offsetOf clock.zone
  let date ← day date
  if 24 ≤ clock.hour then throw .hourOutOfRange
  if 60 ≤ clock.minute then throw .minuteOutOfRange
  if 60 ≤ clock.second then throw .secondOutOfRange
  let micro := (DateTime.micros? clock.fraction).getD 0
  return ⟨date, clock.hour, clock.minute, clock.second, micro, offset⟩

end Timestamp

end FilterQuery.Yaml
