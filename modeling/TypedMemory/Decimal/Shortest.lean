import TypedMemory.Decimal.Binary64

/-!
# Shortest decimal digits

Of all decimals that round back to a given double-precision number, the shortest
digits are taken, and among those of that length the nearest to the number. The
search tries one digit, then two, and so on. On the grid of decimals with that
many digits only the two neighbours of the number have to be looked at: if any
point of the grid rounds back, one of these does.
-/

namespace TypedMemory

namespace Decimal

/-- A positive decimal `d.ddd * 10 ^ order`, its digits given as one integer. -/
structure Digits where
  digits : List Char
  order : Int
deriving Repr, DecidableEq

/-- The exact values around a double-precision number, over one denominator: the
number itself and the two ends of the interval of reals that round to it. -/
structure Interval where
  low : Nat
  value : Nat
  high : Nat
  denominator : Nat
  closed : Bool

/-- The interval of a positive number. Below a power of two the spacing halves,
so the lower end is then half as far away. -/
def Interval.ofNumber (number : Binary64) : Interval :=
  let narrow := number.mantissa = Binary64.normalMantissa ∧ Binary64.minExponent < number.exponent
  let (top, bottom) := Binary64.toRatio ⟨1, number.exponent⟩
  { low := (4 * number.mantissa - (if narrow then 1 else 2)) * top
    value := 4 * number.mantissa * top
    high := (4 * number.mantissa + 2) * top
    denominator := 4 * bottom
    closed := number.mantissa % 2 = 0 }

/-- The greatest `k` with `10 ^ k ≤ top / bottom`, for a positive ratio. -/
def decimalOrder (top bottom : Nat) : Int :=
  let guess : Int := ((Nat.toDigits 10 top).length : Int) - (Nat.toDigits 10 bottom).length
  let reached :=
    if guess < 0 then bottom ≤ top * Nat.pow 10 guess.natAbs
    else bottom * Nat.pow 10 guess.natAbs ≤ top
  if reached then guess else guess - 1

/-- The two grid neighbours of the number, with `unit` the spacing as a ratio,
that lie in the interval, and of two the nearer one; a tie goes to the even
neighbour. -/
def Interval.neighbour? (interval : Interval) (unitTop unitBottom : Nat) : Option Nat :=
  let below := interval.value * unitBottom / (interval.denominator * unitTop)
  let place (point : Nat) : Nat := point * unitTop * interval.denominator
  let inside (point : Nat) : Bool :=
    let low := interval.low * unitBottom
    let high := interval.high * unitBottom
    if interval.closed then low ≤ place point && place point ≤ high
    else low < place point && place point < high
  let exact := interval.value * unitBottom
  let under := exact - place below
  let excess := place (below + 1) - exact
  match inside below, inside (below + 1) with
  | false, false => none
  | true, false => some below
  | false, true => some (below + 1)
  | true, true =>
      if under < excess then some below
      else if excess < under then some (below + 1)
      else some (below + below % 2)

/-- The digits of a grid point, without zeros at the end, and the order of its
first digit. -/
def Digits.ofPoint (point : Nat) (unitOrder : Int) : Digits :=
  let digits := Nat.toDigits 10 point
  { digits := (digits.reverse.dropWhile (· == '0')).reverse
    order := unitOrder + digits.length - 1 }

/-- The shortest digits that round back to a positive number. Seventeen digits
always suffice, so the search is over at most seventeen grids. -/
def Digits.shortest (number : Binary64) : Digits :=
  let interval := Interval.ofNumber number
  let order := decimalOrder interval.value interval.denominator
  let attempt (count : Nat) : Option Digits :=
    let unitOrder : Int := order - count
    let (unitTop, unitBottom) :=
      if unitOrder < 0 then (1, Nat.pow 10 unitOrder.natAbs)
      else (Nat.pow 10 unitOrder.natAbs, 1)
    (interval.neighbour? unitTop unitBottom).map fun point => .ofPoint point unitOrder
  ((List.range 17).findSome? attempt).getD ⟨['0'], 0⟩

end Decimal

end TypedMemory
