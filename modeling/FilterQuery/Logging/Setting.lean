import FilterQuery.Event
import FilterQuery.Text.DecimalDigit
import FilterQuery.Text.LowerCase
import FilterQuery.Text.Parts
import FilterQuery.Value.Display

/-!
# Settings of logging

Single settings of logging are read from values.  A whole number always stands for itself; texts
are levels, sizes and numbers of files.

* `Whole` — a whole number as it was given.
* `readLevel` — a level: a number, or the name of a level in any case.
* `readRotation` — the size from which on a file is replaced: a number, or a number of megabytes.
* `readRetention` — how many old files are kept: a number, or a number of days.
-/

namespace FilterQuery.Logging

/-! ## Whole numbers -/

/-- A whole number as it was given.  A truth value counts as one or zero and stays what it is. -/
inductive Whole where
  | number (n : Int)
  | truth (flag : Bool)
  deriving DecidableEq, Repr

namespace Whole

/-- The number that counts. -/
def toInt : Whole → Int
  | number n => n
  | truth flag => if flag then 1 else 0

/-- The number as a value. -/
def toValue : Whole → Value
  | number n => .int n
  | truth flag => .bool flag

/-- The whole number that a value is. -/
def ofValue? : Value → Option Whole
  | .int n => some (number n)
  | .bool flag => some (truth flag)
  | _ => none

/-- A value is the whole number that is read from it. -/
theorem ofValue?_eq_some_iff (value : Value) (whole : Whole) :
    ofValue? value = some whole ↔ value = whole.toValue := by
  cases value <;> cases whole <;> simp [ofValue?, toValue]

end Whole

/-! ## Reading settings -/

/-- Why a value is no such setting. -/
inductive SettingFault where
  /-- No level is named like this. -/
  | unknownLevel (shown : String)
  /-- A text in place of a number. -/
  | notWhole (text : String)
  /-- A number of more digits than are read. -/
  | tooManyDigits (count : Nat)
  /-- A value that has no display form. -/
  | unwritten (fault : Value.WriteFault)
  deriving DecidableEq, Repr

/-- A level: a number, or the name of one in any case. -/
def readLevel (value : Value) : Except SettingFault Whole :=
  match Whole.ofValue? value with
  | some whole => .ok whole
  | none =>
    match value.written with
    | .error fault => .error (.unwritten fault)
    | .ok shown =>
      match Level.ofName? (Text.lowerCase shown) with
      | some level => .ok (.number level.gravity)
      | none => .error (.unknownLevel shown)

/-- The number that the first word of a text is. -/
def firstNumber (text : String) : Except SettingFault Int :=
  let word := (Text.words text).headD ""
  let count := Text.digitCount word.toList
  match Text.parseInt? word with
  | some n => if Text.digitLimit < count then .error (.tooManyDigits count) else .ok n
  | none => .error (.notWhole word)

/-- A whole number, or a text with the number of some unit as its first word.  What is neither
leaves the usual number. -/
def readAmount (unit : String) (factor usual : Int) (value : Value) : Except SettingFault Whole :=
  match Whole.ofValue? value with
  | some whole => .ok whole
  | none =>
    match value.text? with
    | some text =>
      if Text.occursIn unit.toList text.toList then
        (firstNumber text).map fun n => .number (n * factor)
      else .ok (.number usual)
    | none => .ok (.number usual)

/-- The number of bytes from which on a file is replaced. -/
def readRotation (value : Value) : Except SettingFault Whole :=
  readAmount "MB" (1024 * 1024) (10 * 1024 * 1024) value

/-- How many replaced files are kept. -/
def readRetention (value : Value) : Except SettingFault Whole :=
  readAmount "days" 1 30 value

end FilterQuery.Logging
