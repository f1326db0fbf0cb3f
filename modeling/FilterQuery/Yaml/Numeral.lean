import FilterQuery.Decimal.Double
import FilterQuery.Text.DecimalDigit
import FilterQuery.Text.Parts
import FilterQuery.Yaml.Cursor

/-!
# Numerals

Numbers as scalars: their forms, which decide what a plain scalar is, and their values.  Whole
numbers may be binary, octal, decimal, hexadecimal or sexagesimal; underscores in them do not
count.

* `isInteger`, `isNumber` — the forms of plain scalars.
* `integerOf`, `numberOf` — the values of scalars that are to be numbers.
-/

namespace FilterQuery.Yaml

/-! ## Forms -/

/-- A scalar as its form is judged: a line feed at its end does not count, unless it stands alone. -/
def withoutFinalBreak (text : String) : String :=
  if text ≠ "\n" && text.toList.getLast? = some '\n' then String.ofList text.toList.dropLast
  else text

/-- Drops a sign. -/
def unsigned (chars : List Char) : List Char :=
  match chars with
  | '-' :: rest => rest
  | '+' :: rest => rest
  | _ => chars

/-- Whether a character is a digit or an underscore. -/
def isDigitMark (c : Char) : Bool :=
  c.isDigit || c == '_'

/-- Whether all of these are digits of a base or underscores, and there is one. -/
def isDigits (accepts : Char → Bool) (chars : List Char) : Bool :=
  !chars.isEmpty && chars.all fun c => accepts c || c == '_'

/-- Whether these are sexagesimal parts: a colon and a number below sixty, again and again. -/
def isSexagesimal : List Char → Bool
  | [':', c] => c.isDigit
  | ':' :: c :: ':' :: rest => c.isDigit && isSexagesimal (':' :: rest)
  | [':', c, d] => '0' ≤ c && c ≤ '5' && d.isDigit
  | ':' :: c :: d :: ':' :: rest =>
    '0' ≤ c && c ≤ '5' && d.isDigit && isSexagesimal (':' :: rest)
  | _ => false

/-- Whether a plain scalar is a whole number. -/
def isInteger (chars : List Char) : Bool :=
  match unsigned chars with
  | ['0'] => true
  | '0' :: 'b' :: rest => isDigits (fun c => c == '0' || c == '1') rest
  | '0' :: 'x' :: rest => isDigits (fun c => (hexValue? c).isSome) rest
  | '0' :: rest => isDigits (fun c => '0' ≤ c && c ≤ '7') rest
  | c :: rest =>
    let behind := rest.dropWhile isDigitMark
    c.isDigit && (behind.isEmpty || isSexagesimal behind)
  | [] => false

/-- Whether these are an exponent with its sign, or nothing. -/
def isExponent : List Char → Bool
  | [] => true
  | mark :: sign :: digits =>
    (mark == 'e' || mark == 'E') && (sign == '-' || sign == '+') && !digits.isEmpty
      && digits.all Char.isDigit
  | _ => false

/-- Whether a plain scalar is a number with a point. -/
def isNumber (chars : List Char) : Bool :=
  match unsigned chars with
  | '.' :: rest =>
    let isSigned := (unsigned chars).length != chars.length
    let word := String.ofList rest
    ["inf", "Inf", "INF"].contains word
      || (!isSigned && ["nan", "NaN", "NAN"].contains word)
      || (!isSigned && rest.head?.any Char.isDigit && isExponent (rest.dropWhile isDigitMark))
  | c :: rest =>
    let behind := rest.dropWhile isDigitMark
    let colons := behind.takeWhile (· != '.')
    match behind.dropWhile (· != '.') with
    | '.' :: fraction =>
      let afterDigits := fraction.dropWhile isDigitMark
      c.isDigit && (if colons.isEmpty then isExponent afterDigits
        else isSexagesimal colons && afterDigits.isEmpty)
    | _ => false
  | [] => false

/-! ## Values -/

/-- Drops white space at both ends. -/
def trimBlanks (chars : List Char) : List Char :=
  ((chars.dropWhile Text.isBlank).reverse.dropWhile Text.isBlank).reverse

/-- The value of a digit in bases up to sixteen. -/
def digitOf? (c : Char) : Option Nat :=
  (Text.digitValue? c).orElse fun _ => hexValue? c

/-- Drops the prefix that names a base. -/
def dropBase (base : Nat) (chars : List Char) : List Char :=
  match chars with
  | '0' :: mark :: rest =>
    let marks := if base = 2 then ['b', 'B'] else if base = 8 then ['o', 'O']
      else if base = 16 then ['x', 'X'] else []
    if marks.contains mark then rest else chars
  | _ => chars

/-- The whole number that digits of a base write, with a sign and a prefix if they like. -/
def readInteger (base : Nat) (chars : List Char) : Except ScalarFault Int :=
  let trimmed := trimBlanks chars
  let digits := dropBase base (unsigned trimmed)
  let value := digits.foldl (fun value c => do
    let digit ← digitOf? c
    if digit < base then return (← value) * base + digit else none) (some 0)
  match value with
  | some n =>
    if digits.isEmpty then .error (.notInteger base (String.ofList chars))
    else if base = 10 && Text.digitLimit < digits.length then .error (.tooManyDigits digits.length)
    else .ok (if trimmed.head? = some '-' then -(n : Int) else n)
  | none => .error (.notInteger base (String.ofList chars))

/-- Cuts at every colon. -/
def colonParts (chars : List Char) : List (List Char) :=
  chars.splitOn ':'

/-- The sign of a number and what is behind it. -/
def signOf (chars : List Char) : Bool × List Char :=
  (chars.head? = some '-', unsigned chars)

/-- The whole number of a scalar. -/
def integerOf (text : String) : Except ScalarFault Int := do
  let chars := text.toList.filter (· != '_')
  if chars.isEmpty then throw .emptyNumber
  let (isNegative, digits) := signOf chars
  let magnitude ←
    match digits with
    | ['0'] => pure 0
    | '0' :: 'b' :: rest => readInteger 2 rest
    | '0' :: 'x' :: rest => readInteger 16 rest
    | '0' :: _ => readInteger 8 digits
    | [] => throw .emptyNumber
    | _ =>
      if digits.contains ':' then
        (← (colonParts digits).mapM (readInteger 10)).foldl (fun n part => n * 60 + part) 0 |> pure
      else readInteger 10 digits
  return if isNegative then -magnitude else magnitude

/-- The double nearest to a rational. -/
def nearest (number : Rat) : Double :=
  Double.ofQuotient (number < 0) number.num.natAbs number.den

/-- A double with the other sign. -/
def negated (number : Double) : Double :=
  if number.isNegative then ⟨number.bits - 0x8000000000000000⟩
  else ⟨number.bits + 0x8000000000000000⟩

/-- The number of ASCII digits, with a point and an exponent if they like. -/
def readDecimal (isNegative : Bool) (chars : List Char) : Option Double :=
  let whole := chars.takeWhile Char.isDigit
  let afterWhole := chars.dropWhile Char.isDigit
  let (behind, afterPoint) :=
    match afterWhole with
    | '.' :: rest => (rest.takeWhile Char.isDigit, rest.dropWhile Char.isDigit)
    | _ => ([], afterWhole)
  let value (digits : List Char) : Nat :=
    digits.foldl (fun n c => n * 10 + (c.toNat - '0'.toNat)) 0
  if whole.isEmpty && behind.isEmpty then none
  else
    let power : Option Int :=
      match afterPoint with
      | [] => some 0
      | mark :: exponent =>
        let digits := unsigned exponent
        if (mark == 'e' || mark == 'E') && !digits.isEmpty && digits.all Char.isDigit then
          some (if exponent.head? = some '-' then -(value digits : Int) else value digits)
        else none
    power.map fun power =>
      Double.ofDecimal isNegative (value (whole ++ behind)) (power - behind.length)

/-- The number that a text writes: digits, an infinity, or a not-a-number. -/
def readNumber (chars : List Char) : Except ScalarFault Double :=
  let trimmed := (trimBlanks chars).map fun c =>
    match Text.digitValue? c with
    | some digit => Char.ofNat ('0'.toNat + digit)
    | none => c.toLower
  let isNegative := trimmed.head? = some '-'
  let word := String.ofList (unsigned trimmed)
  if word = "inf" || word = "infinity" then .ok (.infinityOf isNegative)
  else if word = "nan" then .ok .notANumber
  else
    match readDecimal isNegative (unsigned trimmed) with
    | some number => .ok number
    | none => .error (.notNumber (String.ofList chars))

/-- The number of a scalar.  Sexagesimal parts are added up from the last one, with a rounding at
every step. -/
def numberOf (text : String) : Except ScalarFault Double := do
  let chars := (text.toList.filter (· != '_')).map Char.toLower
  if chars.isEmpty then throw .emptyNumber
  let (isNegative, digits) := signOf chars
  let magnitude ←
    if digits = ".inf".toList then pure (.infinityOf false)
    else if digits = ".nan".toList then return .notANumber
    else if digits.contains ':' then do
      let parts ← (colonParts digits).mapM readNumber
      if (nearest ((60 : Rat) ^ (parts.length - 1))).isInfinite then throw .tooManyParts
      let (sum, _) := parts.reverse.foldl (fun (sum, base) part =>
        (nearest (sum.toRat + (nearest (part.toRat * base)).toRat), base * 60))
        (Double.zeroOf false, (1 : Rat))
      pure sum
    else readNumber digits
  return if isNegative then negated magnitude else magnitude

end FilterQuery.Yaml
