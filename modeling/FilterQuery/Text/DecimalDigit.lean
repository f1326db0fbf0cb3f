import FilterQuery.Text.Parts

/-!
# Decimal digits of all scripts

Every script's ten digits stand in one run of code points, from zero to nine, so the zeros alone
determine the value of every digit.

* `digitValue?` — the value of a character that is a decimal digit.
* `parseInt?` — a whole number: sign, digits, and single underscores between digits.
-/

namespace FilterQuery.Text

/-- The zeros of all scripts. -/
def digitZeros : List Nat :=
  [
    0x30, 0x660, 0x6f0, 0x7c0, 0x966, 0x9e6, 0xa66, 0xae6, 0xb66, 0xbe6, 0xc66, 0xce6, 0xd66,
    0xde6, 0xe50, 0xed0, 0xf20, 0x1040, 0x1090, 0x17e0, 0x1810, 0x1946, 0x19d0, 0x1a80, 0x1a90,
    0x1b50, 0x1bb0, 0x1c40, 0x1c50, 0xa620, 0xa8d0, 0xa900, 0xa9d0, 0xa9f0, 0xaa50, 0xabf0,
    0xff10, 0x104a0, 0x10d30, 0x11066, 0x110f0, 0x11136, 0x111d0, 0x112f0, 0x11450, 0x114d0,
    0x11650, 0x116c0, 0x11730, 0x118e0, 0x11950, 0x11c50, 0x11d50, 0x11da0, 0x16a60, 0x16ac0,
    0x16b50, 0x1d7ce, 0x1d7d8, 0x1d7e2, 0x1d7ec, 0x1d7f6, 0x1e140, 0x1e2f0, 0x1e950, 0x1fbf0]

/-- The value of a decimal digit of any script. -/
def digitValue? (c : Char) : Option Nat :=
  (digitZeros.find? fun start => start ≤ c.toNat && c.toNat < start + 10).map (c.toNat - ·)

/-- The greatest number of digits of a decimal number that is read or written. -/
def digitLimit : Nat := 4300

/-- The number of decimal digits among some characters. -/
def digitCount (chars : List Char) : Nat :=
  chars.countP fun c => (digitValue? c).isSome

/-- Reads digits on, given the value so far and whether the last character was an underscore.
An underscore stands between two digits only. -/
def parseDigits? (value : Nat) (afterMark : Bool) : List Char → Option Nat
  | [] => if afterMark then none else some value
  | '_' :: rest => if afterMark then none else parseDigits? value true rest
  | c :: rest =>
    match digitValue? c with
    | some digit => parseDigits? (value * 10 + digit) false rest
    | none => none

/-- A natural number: at least one digit, and single underscores between digits. -/
def parseNat? : List Char → Option Nat
  | [] => none
  | c :: rest =>
    match digitValue? c with
    | some digit => parseDigits? digit false rest
    | none => none

/-- A whole number: an optional sign before a natural number. -/
def parseInt? (text : String) : Option Int :=
  match text.toList with
  | '-' :: rest => (parseNat? rest).map fun value => -(value : Int)
  | '+' :: rest => (parseNat? rest).map Int.ofNat
  | chars => (parseNat? chars).map Int.ofNat

end FilterQuery.Text
