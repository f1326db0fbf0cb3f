import FilterQuery.Decimal.Double

/-!
# Decimal digits of a double

A positive number `v` is written with digits `d` and a point position `p` as `0.d · 10 ^ p`.

* `Double.shortestDigits` — the fewest digits that read back: for one, two, … up to seventeen
  digits the two neighbours of the value on that decimal grid are tried, and the first grid with a
  neighbour that rounds to the same double wins; of two, the nearer one.
* `Double.significantDigits` — a fixed number of digits, halves away from zero.
* `DecimalLayout` — how digits and point become a text.
-/

namespace FilterQuery

/-- Digits `d` and a point position `p`, for the number `0.d · 10 ^ p`. -/
structure DecimalDigits where
  digits : List Char
  point : Int
  deriving DecidableEq, Repr

/-- Digits without their trailing zeros, but at least one. -/
def trimZeros (digits : List Char) : List Char :=
  match (digits.reverse.dropWhile (· == '0')).reverse with
  | [] => ['0']
  | trimmed => trimmed

namespace Double

/-- The least position from `point` on, in `fuel` steps, whose power of ten is above the
quotient. -/
def pointFrom (top bottom : Nat) : (fuel : Nat) → Int → Int
  | 0, point => point
  | fuel + 1, point =>
    let below :=
      if 0 ≤ point then top < bottom * Nat.pow 10 point.toNat
      else top * Nat.pow 10 (-point).toNat < bottom
    if below then point else pointFrom top bottom fuel (point + 1)

/-- The point position of a positive quotient: the least power of ten above it. -/
def pointOf (top bottom : Nat) : Int :=
  let guess : Int := (decimalLength top : Int) - decimalLength bottom
  pointFrom top bottom 3 (guess - 1)

/-- A quotient in units of `10 ^ power`. -/
def inUnits (top bottom : Nat) (power : Int) : Nat × Nat :=
  if 0 ≤ power then (top, bottom * Nat.pow 10 power.toNat)
  else (top * Nat.pow 10 (-power).toNat, bottom)

/-- The numbers that round to a double lie between these quotients over a common denominator:
lower end, value, upper end, denominator.  The gap below a power of two is half as wide. -/
def roundingInterval (x : Double) : Nat × Nat × Nat × Nat :=
  let narrow := x.fraction = 0 && 1 < x.exponentField
  let low := if narrow then 4 * x.mantissa - 1 else 4 * x.mantissa - 2
  let value := 4 * x.mantissa
  let high := 4 * x.mantissa + 2
  let power := x.exponent - 2
  if 0 ≤ power then
    let scale := Nat.pow 2 power.toNat
    (low * scale, value * scale, high * scale, 1)
  else
    (low, value, high, Nat.pow 2 (-power).toNat)

/-- The nearest number of `count` digits that reads back as the double, if there is one. -/
def digitsOf? (x : Double) (point : Int) (count : Nat) : Option Nat :=
  let (low, value, high, bottom) := roundingInterval x
  let power := point - count
  let inside (candidate : Nat) : Bool :=
    let scaled :=
      if 0 ≤ power then candidate * Nat.pow 10 power.toNat * bottom else candidate * bottom
    let scale := if 0 ≤ power then 1 else Nat.pow 10 (-power).toNat
    if x.mantissa % 2 = 0 then low * scale ≤ scaled && scaled ≤ high * scale
    else low * scale < scaled && scaled < high * scale
  let (top, unit) := inUnits value bottom power
  let floor := top / unit
  let rest := top % unit
  let nearer := if 2 * rest < unit || (2 * rest = unit && floor % 2 = 0) then floor else floor + 1
  let farther := if nearer = floor then floor + 1 else floor
  if inside nearer then some nearer
  else if inside farther then some farther
  else none

/-- The fewest digits, from `count` on and in `fuel` steps, that read back as the double. -/
def shortestFrom (x : Double) (point : Int) : (fuel : Nat) → Nat → DecimalDigits
  | 0, count => ⟨Nat.toDigits 10 ((digitsOf? x point count).getD 0), point⟩
  | fuel + 1, count =>
    match digitsOf? x point count with
    | some digits =>
      let written := Nat.toDigits 10 digits
      ⟨trimZeros written, if written.length = count + 1 then point + 1 else point⟩
    | none => shortestFrom x point fuel (count + 1)

/-- The fewest digits that read back as the magnitude of a finite double. -/
def shortestDigits (x : Double) : DecimalDigits :=
  if x.isZero then ⟨['0'], 1⟩
  else
    let (top, bottom) := x.quotient
    shortestFrom x (pointOf top bottom) 17 1

/-- The magnitude of a finite double rounded to `count` digits, halves away from zero. -/
def significantDigits (x : Double) (count : Nat) : DecimalDigits :=
  if x.isZero then ⟨['0'], 1⟩
  else
    let (top, bottom) := x.quotient
    let point := pointOf top bottom
    let (scaledTop, scaledBottom) := inUnits top bottom (point - count)
    let rounded := (2 * scaledTop + scaledBottom) / (2 * scaledBottom)
    let written := Nat.toDigits 10 rounded
    ⟨trimZeros written, if written.length = count + 1 then point + 1 else point⟩

end Double

/-! ## From digits to a text -/

/-- How digits and a point position are written. -/
structure DecimalLayout where
  /-- The least point position that is written with a point and no exponent. -/
  leastPoint : Int
  /-- The greatest such position. -/
  greatestPoint : Int
  /-- Whether a single digit before an exponent is followed by `.0`. -/
  pointBeforeExponent : Bool
  /-- The text of infinity. -/
  infinity : String
  /-- The text of a not-a-number. -/
  notANumber : String
  /-- Whether a negative zero keeps its sign. -/
  signedZero : Bool

namespace DecimalLayout

/-- Positional digits: at least one before the point and one behind it. -/
def positional (number : DecimalDigits) : List Char :=
  let digits := number.digits
  if number.point ≤ 0 then
    '0' :: '.' :: List.replicate (-number.point).toNat '0' ++ digits
  else
    let before := number.point.toNat
    if digits.length ≤ before then
      digits ++ List.replicate (before - digits.length) '0' ++ ['.', '0']
    else
      digits.take before ++ '.' :: digits.drop before

/-- An exponent: a sign and at least two digits. -/
def exponentText (power : Int) : List Char :=
  let digits := Nat.toDigits 10 power.natAbs
  (if power < 0 then '-' else '+') :: (if digits.length < 2 then '0' :: digits else digits)

/-- One digit before the point, and an exponent. -/
def scientific (layout : DecimalLayout) (number : DecimalDigits) : List Char :=
  let behind := number.digits.drop 1
  number.digits.take 1
    ++ (if !behind.isEmpty then '.' :: behind
      else if layout.pointBeforeExponent then ['.', '0'] else [])
    ++ 'e' :: exponentText (number.point - 1)

/-- The text of a double whose digits are given by `digitsOf`. -/
def write (layout : DecimalLayout) (digitsOf : Double → DecimalDigits) (x : Double) : String :=
  if x.isNaN then layout.notANumber
  else
    let sign := if x.isNegative && (layout.signedZero || !x.isZero) then "-" else ""
    if x.isInfinite then sign ++ layout.infinity
    else
      let number := digitsOf x
      let inRange := layout.leastPoint ≤ number.point && number.point ≤ layout.greatestPoint
      sign ++ String.ofList
        (if inRange then positional number else layout.scientific number)

end DecimalLayout

end FilterQuery
