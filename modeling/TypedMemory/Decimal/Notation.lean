import TypedMemory.Decimal.Shortest

/-!
# Written decimals

A number is written with its shortest digits: positionally, with at least one
digit after the point, from `10 ^ -5` up to but not including `10 ^ 16`, and with
a signed exponent outside that range. Zero is `0.0` and keeps its sign.
-/

namespace TypedMemory

namespace Decimal

/-- The decimal orders that are written positionally. -/
def isPositional (order : Int) : Bool :=
  -5 ≤ order && order < 16

/-- Digits with the point placed `whole` digits from the left, zeros filled in
where there are no digits. -/
def positional (digits : List Char) (order : Int) : List Char :=
  if order < 0 then
    '0' :: '.' :: List.replicate (order.natAbs - 1) '0' ++ digits
  else
    let whole := order.natAbs + 1
    let left := digits.take whole ++ List.replicate (whole - digits.length) '0'
    let right := digits.drop whole
    left ++ '.' :: (if right.isEmpty then ['0'] else right)

/-- Digits with the point after the first, followed by the exponent and its
sign. -/
def scientific (digits : List Char) (order : Int) : List Char :=
  let right := digits.drop 1
  digits.take 1 ++ (if right.isEmpty then [] else '.' :: right) ++
    'e' :: (if order < 0 then '-' else '+') :: Nat.toDigits 10 order.natAbs

/-- The text of a double-precision number with the given sign. -/
def render (negative : Bool) (number : Binary64) : String :=
  let magnitude :=
    if number.mantissa = 0 then ['0', '.', '0']
    else
      let shortest := Digits.shortest number
      if isPositional shortest.order then positional shortest.digits shortest.order
      else scientific shortest.digits shortest.order
  String.ofList ((if negative then ['-'] else []) ++ magnitude)

end Decimal

end TypedMemory
