/-!
# Calendar dates and times of day

Dates of the Gregorian calendar and date-times, with their written forms.  A date-time may carry
an offset from universal time in seconds.

* `Date.iso`, `DateTime.iso` — the ISO 8601 forms.
* `Date.ofIso?`, `DateTime.ofIso?` — reading them.
* `Date.isValid`, `DateTime.isValid` — which fields name a day and a time of day.
-/

namespace FilterQuery

/-- A number in decimal digits, padded with zeros to a width. -/
def padded (width n : Nat) : String :=
  let digits := Nat.toDigits 10 n
  String.ofList (List.replicate (width - digits.length) '0' ++ digits)

/-- The number that ASCII digits write, if there are as many as wanted and nothing else. -/
def digitsOf? (width : Nat) (chars : List Char) : Option Nat :=
  if chars.length = width && chars.all Char.isDigit then
    some (chars.foldl (fun n c => n * 10 + (c.toNat - '0'.toNat)) 0)
  else none

/-- A day of the calendar. -/
structure Date where
  year : Nat
  month : Nat
  day : Nat
  deriving DecidableEq, Repr

namespace Date

/-- Whether a year has a twenty-ninth of February. -/
def isLeap (year : Nat) : Bool :=
  year % 4 == 0 && (year % 100 != 0 || year % 400 == 0)

/-- The number of days of a month. -/
def daysIn (year month : Nat) : Nat :=
  if month = 2 then (if isLeap year then 29 else 28)
  else if month = 4 || month = 6 || month = 9 || month = 11 then 30
  else 31

/-- Whether the fields name a day, in the years from 1 to 9999. -/
def isValid (date : Date) : Bool :=
  1 ≤ date.year && date.year ≤ 9999 && 1 ≤ date.month && date.month ≤ 12
    && 1 ≤ date.day && date.day ≤ daysIn date.year date.month

/-- The form `2020-01-05`. -/
def iso (date : Date) : String :=
  padded 4 date.year ++ "-" ++ padded 2 date.month ++ "-" ++ padded 2 date.day

/-- The day that characters of the form `2020-01-05` write. -/
def ofIso? (chars : List Char) : Option Date := do
  if chars.length ≠ 10 || chars[4]? ≠ some '-' || chars[7]? ≠ some '-' then none
  let date : Date := ⟨← digitsOf? 4 (chars.take 4), ← digitsOf? 2 ((chars.drop 5).take 2),
    ← digitsOf? 2 (chars.drop 8)⟩
  if date.isValid then some date else none

end Date

/-- A day and a time of day, with a fraction in microseconds. -/
structure DateTime where
  date : Date
  hour : Nat
  minute : Nat
  second : Nat
  micro : Nat
  /-- The offset from universal time in seconds, if it is known. -/
  offset : Option Int
  deriving DecidableEq, Repr

namespace DateTime

/-- Whether the fields name a day and a time of day. -/
def isValid (time : DateTime) : Bool :=
  time.date.isValid && time.hour < 24 && time.minute < 60 && time.second < 60
    && time.micro < 1000000

/-- The form `+02:00` of an offset. -/
def offsetText (seconds : Int) : String :=
  let n := seconds.natAbs
  (if seconds < 0 then "-" else "+") ++ padded 2 (n / 3600) ++ ":" ++ padded 2 (n / 60 % 60)
    ++ (if n % 60 = 0 then "" else ":" ++ padded 2 (n % 60))

/-- The time of day, with six digits of fraction if there is one. -/
def clock (time : DateTime) : String :=
  padded 2 time.hour ++ ":" ++ padded 2 time.minute ++ ":" ++ padded 2 time.second
    ++ (if time.micro = 0 then "" else "." ++ padded 6 time.micro)

/-- Date and time with a separator between them. -/
def iso (time : DateTime) (separator : String) : String :=
  time.date.iso ++ separator ++ time.clock
    ++ (match time.offset with
      | some seconds => offsetText seconds
      | none => "")

/-- The microseconds that digits behind a point write; digits beyond the sixth do not count. -/
def micros? (digits : List Char) : Option Nat :=
  if digits.isEmpty || !digits.all Char.isDigit then none
  else digitsOf? 6 ((digits ++ List.replicate 6 '0').take 6)

/-- The date-time that characters of the form `2020-01-05T10:20:30.000001` write, with any
character between date and time; the fraction may be missing. -/
def ofIso? (chars : List Char) : Option DateTime := do
  let date ← Date.ofIso? (chars.take 10)
  let clock := chars.drop 11
  if clock[2]? ≠ some ':' || clock[5]? ≠ some ':' then none
  let hour ← digitsOf? 2 (clock.take 2)
  let minute ← digitsOf? 2 ((clock.drop 3).take 2)
  let second ← digitsOf? 2 ((clock.drop 6).take 2)
  let micro ←
    match clock.drop 8 with
    | [] => some 0
    | '.' :: digits => micros? digits
    | _ => none
  let time : DateTime := ⟨date, hour, minute, second, micro, none⟩
  if time.isValid then some time else none

end DateTime

end FilterQuery
