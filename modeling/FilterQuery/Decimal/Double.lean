/-!
# Double precision numbers

A number of binary64 format is its sixty-four bits.  Its value is `± mantissa · 2 ^ exponent`, an
exact rational, so that comparing, rounding and printing are questions about rationals alone.
Whole numbers of any size stand beside them, and `fitsSignedWord` tells which of these have a place
in a word of sixty-four bits.

* `Double.toRat` — the exact value of a finite number.
* `Double.ofQuotient` — the number nearest to a quotient, ties to the even mantissa.
* `Double.ofDecimal` — the number nearest to `digits · 10 ^ exponent`.
* `Double.order?` — the order of two numbers, which a not-a-number is no part of.
-/

namespace FilterQuery

/-- Whether a whole number fits into a signed word of sixty-four bits. -/
def fitsSignedWord (number : Int) : Bool :=
  -0x8000000000000000 ≤ number && number < 0x8000000000000000

/-- A number of binary64 format, given by its bits. -/
structure Double where
  bits : UInt64
  deriving DecidableEq, Repr, Inhabited

namespace Double

/-! ## Reading the bits -/

/-- The bit of the sign, `2 ^ 63`. -/
def signBit : Nat := 0x8000000000000000

/-- The bit above the fraction, `2 ^ 52`; it is not stored. -/
def leadingBit : Nat := 0x10000000000000

/-- Whether the sign bit is set. -/
def isNegative (x : Double) : Bool :=
  signBit ≤ x.bits.toNat

/-- The eleven bits of the exponent. -/
def exponentField (x : Double) : Nat :=
  x.bits.toNat / leadingBit % 2048

/-- The fifty-two bits of the fraction. -/
def fraction (x : Double) : Nat :=
  x.bits.toNat % leadingBit

/-- Whether this is not a number. -/
def isNaN (x : Double) : Bool :=
  x.exponentField == 2047 && x.fraction != 0

/-- Whether this is one of the two infinities. -/
def isInfinite (x : Double) : Bool :=
  x.exponentField == 2047 && x.fraction == 0

/-- Whether this is one of the two zeros. -/
def isZero (x : Double) : Bool :=
  x.bits.toNat % signBit == 0

/-- The whole number that the exponent scales. -/
def mantissa (x : Double) : Nat :=
  if x.exponentField = 0 then x.fraction else leadingBit + x.fraction

/-- The power of two that scales the mantissa. -/
def exponent (x : Double) : Int :=
  if x.exponentField = 0 then -1074 else (x.exponentField : Int) - 1075

/-- The magnitude of a finite number as a quotient of natural numbers. -/
def quotient (x : Double) : Nat × Nat :=
  if 0 ≤ x.exponent then (x.mantissa * Nat.pow 2 x.exponent.toNat, 1)
  else (x.mantissa, Nat.pow 2 (-x.exponent).toNat)

/-- The exact value of a finite number. -/
def toRat (x : Double) : Rat :=
  let (top, bottom) := x.quotient
  mkRat (if x.isNegative then -(top : Int) else top) bottom

/-! ## Rounding to a double -/

/-- The zero of a sign. -/
def zeroOf (negative : Bool) : Double :=
  ⟨if negative then 0x8000000000000000 else 0⟩

/-- The infinity of a sign. -/
def infinityOf (negative : Bool) : Double :=
  ⟨if negative then 0xfff0000000000000 else 0x7ff0000000000000⟩

/-- The quiet not-a-number. -/
def notANumber : Double :=
  ⟨0x7ff8000000000000⟩

/-- A quotient rounded to the nearest natural number, ties to even. -/
def roundToEven (top bottom : Nat) : Nat :=
  let floor := top / bottom
  let rest := top % bottom
  if 2 * rest < bottom then floor
  else if bottom < 2 * rest then floor + 1
  else if floor % 2 = 0 then floor else floor + 1

/-- A quotient divided by a power of two. -/
def scaleDown (top bottom : Nat) (power : Int) : Nat × Nat :=
  if 0 ≤ power then (top, bottom * Nat.pow 2 power.toNat)
  else (top * Nat.pow 2 (-power).toNat, bottom)

/-- The double nearest to `top / bottom`, ties to the even mantissa.  What is too large for the
format becomes infinite. -/
def ofQuotient (negative : Bool) (top bottom : Nat) : Double :=
  if top = 0 || bottom = 0 then zeroOf negative
  else
    let guess : Int := (top.log2 : Int) - bottom.log2 - 52
    let (guessTop, guessBottom) := scaleDown top bottom guess
    let fitted := if guessTop / guessBottom < leadingBit then guess - 1 else guess
    let power := max fitted (-1074)
    let (scaledTop, scaledBottom) := scaleDown top bottom power
    let magnitude := (power + 1074).toNat * leadingBit + roundToEven scaledTop scaledBottom
    if 0x7ff0000000000000 ≤ magnitude then infinityOf negative
    else ⟨UInt64.ofNat (magnitude + if negative then signBit else 0)⟩

/-- The number of decimal digits of a natural number; none for zero. -/
def decimalLength (n : Nat) : Nat :=
  if n = 0 then 0 else (Nat.toDigits 10 n).length

/-- The double nearest to `digits · 10 ^ exponent`.  Exponents far outside the format are settled
without computing the power. -/
def ofDecimal (negative : Bool) (digits : Nat) (exponent : Int) : Double :=
  if digits = 0 then zeroOf negative
  else if 400 < (decimalLength digits : Int) + exponent then infinityOf negative
  else if (decimalLength digits : Int) + exponent < -400 then zeroOf negative
  else if 0 ≤ exponent then ofQuotient negative (digits * Nat.pow 10 exponent.toNat) 1
  else ofQuotient negative digits (Nat.pow 10 (-exponent).toNat)

/-- The double nearest to a whole number. -/
def ofInt (n : Int) : Double :=
  ofQuotient (n < 0) n.natAbs 1

/-! ## Order -/

/-- The order of two rationals. -/
def compareRat (a b : Rat) : Ordering :=
  if a < b then .lt else if a = b then .eq else .gt

/-- The order of a double and a whole number; none with a not-a-number. -/
def orderInt? (x : Double) (n : Int) : Option Ordering :=
  if x.isNaN then none
  else if x.isInfinite then some (if x.isNegative then .lt else .gt)
  else some (compareRat x.toRat n)

/-- The order of two doubles; none with a not-a-number. -/
def order? (x y : Double) : Option Ordering :=
  if x.isNaN || y.isNaN then none
  else if y.isInfinite then
    some (if x.isInfinite && x.isNegative == y.isNegative then .eq
      else if y.isNegative then .gt else .lt)
  else if x.isInfinite then some (if x.isNegative then .lt else .gt)
  else some (compareRat x.toRat y.toRat)

/-- The whole number that a finite double is, if it is one. -/
def toInt? (x : Double) : Option Int :=
  if x.exponentField = 2047 then none
  else if x.toRat.den = 1 then some x.toRat.num else none

end Double

end FilterQuery
