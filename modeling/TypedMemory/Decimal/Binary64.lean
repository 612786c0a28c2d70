/-!
# Double-precision magnitudes

A nonnegative number of the double-precision format is `mantissa * 2 ^ exponent`
with a mantissa below `2 ^ 53` and an exponent between `-1074` and `971`. The
module rounds an exact ratio of natural numbers to the nearest such number, a
tie going to the even mantissa, and does the two operations that reading a
decimal numeral needs. Everything is exact arithmetic on natural numbers.
-/

namespace TypedMemory

namespace Decimal

/-- A nonnegative double-precision number `mantissa * 2 ^ exponent`. -/
structure Binary64 where
  mantissa : Nat
  exponent : Int
deriving Repr, DecidableEq

namespace Binary64

/-- The number zero. -/
def zero : Binary64 := ⟨0, -1074⟩

/-- The least mantissa of a number that is not close to zero, two to the power of
52. -/
def normalMantissa : Nat := 4503599627370496

/-- The least exponent of the format. -/
def minExponent : Int := -1074

/-- The greatest exponent of the format. -/
def maxExponent : Int := 971

/-- The quotient of two numbers, to the nearest integer, a tie going to the even
one. -/
def divideToEven (numerator denominator : Nat) : Nat :=
  let quotient := numerator / denominator
  let twice := 2 * (numerator % denominator)
  if twice < denominator then quotient
  else if twice > denominator then quotient + 1
  else quotient + quotient % 2

/-- Numerator and denominator of `numerator / denominator / 2 ^ exponent`. -/
def scaled (numerator denominator : Nat) (exponent : Int) : Nat × Nat :=
  if exponent < 0 then (numerator * Nat.pow 2 exponent.natAbs, denominator)
  else (numerator, denominator * Nat.pow 2 exponent.natAbs)

/-- The greatest `k` with `2 ^ k ≤ numerator / denominator`, for a positive
ratio. -/
def binaryOrder (numerator denominator : Nat) : Int :=
  let guess : Int := (numerator.log2 : Int) - denominator.log2
  let (top, bottom) := scaled numerator denominator guess
  if bottom ≤ top then guess else guess - 1

/-- The double-precision number nearest to `numerator / denominator`. There is
none when the ratio is too large for the format. -/
def ofRatio? (numerator denominator : Nat) : Option Binary64 :=
  if numerator = 0 then some zero
  else
    let exponent := max minExponent (binaryOrder numerator denominator - 52)
    let (top, bottom) := scaled numerator denominator exponent
    let mantissa := divideToEven top bottom
    let rounded : Binary64 :=
      if mantissa = 2 * normalMantissa then ⟨normalMantissa, exponent + 1⟩ else ⟨mantissa, exponent⟩
    if maxExponent < rounded.exponent then none else some rounded

/-- The number as a ratio. -/
def toRatio (number : Binary64) : Nat × Nat :=
  if number.exponent < 0 then (number.mantissa, Nat.pow 2 number.exponent.natAbs)
  else (number.mantissa * Nat.pow 2 number.exponent.natAbs, 1)

/-- The rounded product, unless it is too large for the format. -/
def mul? (left right : Binary64) : Option Binary64 :=
  let (leftTop, leftBottom) := left.toRatio
  let (rightTop, rightBottom) := right.toRatio
  ofRatio? (leftTop * rightTop) (leftBottom * rightBottom)

/-- The rounded quotient by a positive number, unless it is too large for the
format. -/
def div? (left right : Binary64) : Option Binary64 :=
  let (leftTop, leftBottom) := left.toRatio
  let (rightTop, rightBottom) := right.toRatio
  ofRatio? (leftTop * rightBottom) (leftBottom * rightTop)

end Binary64

end Decimal

end TypedMemory
