import FilterQuery.Decimal.Digits
import FilterQuery.Decimal.Double

/-!
# Stored values

A cell of a table holds nothing, a number, a text or bytes, and the cells of all kinds are in one
order: numbers by their exact value, then texts by their code points, then bytes.

* `Cell.order?` — the order of two cells; none with an empty cell.
* `Cell.asNumber` — a text that looks like a number, turned into that number.
* `Cell.asText` — a number, turned into its text.
-/

namespace FilterQuery.Sql

/-- A stored value. -/
inductive Cell where
  | null
  | int (number : Int)
  | real (number : Double)
  | text (text : String)
  | blob (octets : List UInt8)
  deriving DecidableEq, Repr, Inhabited

namespace Cell

/-! ## Order -/

/-- The order of two texts by their code points. -/
def orderText (a b : String) : Ordering :=
  if a < b then .lt else if a = b then .eq else .gt

/-- The order of two rows of bytes. -/
def orderBytes : List UInt8 → List UInt8 → Ordering
  | [], [] => .eq
  | [], _ => .lt
  | _, [] => .gt
  | a :: as, b :: bs => if a < b then .lt else if b < a then .gt else orderBytes as bs

/-- The order of two cells; none if one of them is empty. -/
def order? : Cell → Cell → Option Ordering
  | null, _ => none
  | _, null => none
  | int a, int b => some (compare a b)
  | int a, real b => (b.orderInt? a).map Ordering.swap
  | real a, int b => a.orderInt? b
  | real a, real b => a.order? b
  | int _, _ => some .lt
  | real _, _ => some .lt
  | _, int _ => some .gt
  | _, real _ => some .gt
  | text a, text b => some (orderText a b)
  | text _, blob _ => some .lt
  | blob _, text _ => some .gt
  | blob a, blob b => some (orderBytes a b)

/-- Whether two cells hold the same value; not known with an empty cell. -/
def equal? (a b : Cell) : Option Bool :=
  (order? a b).map (· == .eq)

/-! ## Numbers and texts -/

/-- White space around a number. -/
def isPadding (c : Char) : Bool :=
  c == ' ' || ('\t' ≤ c && c ≤ '\r')

/-- Whether a character is an ASCII digit. -/
def isDigit (c : Char) : Bool :=
  '0' ≤ c && c ≤ '9'

/-- The value of ASCII digits. -/
def digitsValue (digits : List Char) : Nat :=
  digits.foldl (fun value c => value * 10 + (c.toNat - '0'.toNat)) 0

/-- An exponent without its letter: an optional sign and digits, and nothing else. -/
def exponent? (chars : List Char) : Option Int :=
  let (negative, digits) :=
    match chars with
    | '-' :: rest => (true, rest)
    | '+' :: rest => (false, rest)
    | _ => (false, chars)
  if digits.isEmpty || !digits.all isDigit then none
  else some (if negative then -(digitsValue digits : Int) else digitsValue digits)

/-- The number of an unsigned numeral: digits with an optional point and an optional exponent.
Digits alone are a whole number if that is in the range of stored whole numbers. -/
def unsignedNumber? (negative : Bool) (chars : List Char) : Option Cell :=
  let whole := chars.takeWhile isDigit
  let afterWhole := chars.dropWhile isDigit
  let (behind, afterBehind, hasPoint) :=
    match afterWhole with
    | '.' :: rest => (rest.takeWhile isDigit, rest.dropWhile isDigit, true)
    | _ => ([], afterWhole, false)
  if whole.isEmpty && behind.isEmpty then none
  else
    let digits := digitsValue (whole ++ behind)
    let scale : Int := -(behind.length : Int)
    match afterBehind with
    | [] =>
      let value : Int := if negative then -(digits : Int) else digits
      if !hasPoint && fitsSignedWord value then some (int value)
      else some (real (Double.ofDecimal negative digits scale))
    | mark :: rest =>
      if mark = 'e' || mark = 'E' then
        (exponent? rest).map fun power => real (Double.ofDecimal negative digits (scale + power))
      else none

/-- The number that a text looks like, white space around it left aside. -/
def number? (text : String) : Option Cell :=
  let chars := (text.toList.dropWhile isPadding).reverse.dropWhile isPadding |>.reverse
  match chars with
  | '-' :: rest => unsignedNumber? true rest
  | '+' :: rest => unsignedNumber? false rest
  | _ => unsignedNumber? false chars

/-- A text that looks like a number becomes that number. -/
def asNumber : Cell → Cell
  | text shown => (number? shown).getD (text shown)
  | cell => cell

/-- Numbers with a fraction show fifteen digits, always with a point, and an exponent from
`10 ^ 15` on and below `10 ^ -4`. -/
def realLayout : DecimalLayout where
  leastPoint := -3
  greatestPoint := 15
  pointBeforeExponent := true
  infinity := "Inf"
  notANumber := "NaN"
  signedZero := false

/-- The text of a number with a fraction. -/
def realText (number : Double) : String :=
  realLayout.write (fun x => x.significantDigits 15) number

/-- A number becomes its text. -/
def asText : Cell → Cell
  | int number => text (toString number)
  | real number => text (realText number)
  | cell => cell

/-- The text that a pattern is matched against; none of an empty cell.  Bytes are read as the text that
they encode; those that encode none are taken to match nothing. -/
def shown? : Cell → Option String
  | null => none
  | text shown => some shown
  | int number => some (toString number)
  | real number => some (realText number)
  | blob octets => String.fromUTF8? ⟨octets.toArray⟩

end Cell

end FilterQuery.Sql
