import TypedMemory.Json.Fault
import TypedMemory.Stats

/-!
# Numerals

A numeral is first scanned into its parts, which settles whether it is well
formed and where it ends. Only a numeral whose value is asked for is then
evaluated. A value that fits a 64-bit integer is that integer; every other value
is a double-precision number, obtained from the leading digits that fit 64 bits
by a single scaling with a power of ten.
-/

namespace TypedMemory

namespace Json

open Decimal (Binary64)

/-- The parts of a numeral, each as the digits written. -/
structure Numeral where
  negative : Bool
  whole : List Char
  fraction : Option (List Char)
  exponent : Option (Bool × List Char)
deriving Repr, DecidableEq

namespace Numeral

/-- Scan the digits before the point. A leading zero stands alone. Ending here is
reported as `atEnd`. -/
def scanWhole (atEnd : Cause) : List Char → Except Fault (List Char × List Char)
  | [] => .error (.before atEnd [])
  | first :: rest =>
      if first = '0' then
        if (rest.head?.any Char.isDigit) then .error (.pastNext .invalidNumber rest)
        else .ok ([first], rest)
      else if first.isDigit then
        .ok (first :: rest.takeWhile Char.isDigit, rest.dropWhile Char.isDigit)
      else .error (.pastNext .invalidNumber (first :: rest))

/-- Scan a point and the digits behind it, if there is a point. -/
def scanFraction (atEnd : Cause) :
    List Char → Except Fault (Option (List Char) × List Char)
  | '.' :: rest =>
      if rest.isEmpty then .error (.pastNext atEnd rest)
      else if (rest.head?.any Char.isDigit) then
        .ok (some (rest.takeWhile Char.isDigit), rest.dropWhile Char.isDigit)
      else .error (.pastNext .invalidNumber rest)
  | rest => .ok (none, rest)

/-- Whether a character opens an exponent. -/
def isExponentMark (char : Char) : Bool :=
  char = 'e' || char = 'E'

/-- An optional sign, and whether it is a minus. -/
def scanSign : List Char → Bool × List Char
  | '+' :: rest => (false, rest)
  | '-' :: rest => (true, rest)
  | rest => (false, rest)

/-- Scan an exponent, if there is one. -/
def scanExponent (atEnd : Cause) :
    List Char → Except Fault (Option (Bool × List Char) × List Char)
  | [] => .ok (none, [])
  | mark :: behind =>
      if isExponentMark mark then
        let (negative, rest) := scanSign behind
        if rest.isEmpty then .error (.before atEnd rest)
        else if (rest.head?.any Char.isDigit) then
          .ok (some (negative, rest.takeWhile Char.isDigit), rest.dropWhile Char.isDigit)
        else .error (.pastNext .invalidNumber rest)
      else .ok (none, mark :: behind)

/-- Scan a numeral behind its sign. -/
def scan (atEnd : Cause) (negative : Bool) (chars : List Char) :
    Except Fault (Numeral × List Char) := do
  let (whole, rest) ← scanWhole atEnd chars
  let (fraction, rest) ← scanFraction atEnd rest
  let (exponent, rest) ← scanExponent atEnd rest
  return (⟨negative, whole, fraction, exponent⟩, rest)

/-- The digits before the point leave less behind them. -/
theorem length_of_scanWhole {atEnd : Cause} {chars whole rest : List Char}
    (scanned : scanWhole atEnd chars = .ok (whole, rest)) : rest.length < chars.length := by
  unfold scanWhole at scanned
  split at scanned
  · cases scanned
  · split at scanned
    · split at scanned <;> cases scanned
      exact Nat.lt_succ_self _
    · split at scanned <;> cases scanned
      exact Nat.lt_succ_of_le (List.dropWhile_sublist _).length_le

/-- A fraction never lengthens what is left. -/
theorem length_of_scanFraction {atEnd : Cause} {chars rest : List Char}
    {fraction : Option (List Char)}
    (scanned : scanFraction atEnd chars = .ok (fraction, rest)) :
    rest.length ≤ chars.length := by
  unfold scanFraction at scanned
  split at scanned
  · split at scanned
    · cases scanned
    · split at scanned <;> cases scanned
      exact Nat.le_succ_of_le (List.dropWhile_sublist _).length_le
  · cases scanned
    exact Nat.le_refl _

/-- A sign never lengthens what is left. -/
theorem length_scanSign_le (chars : List Char) : (scanSign chars).2.length ≤ chars.length := by
  unfold scanSign
  split <;> simp

/-- An exponent never lengthens what is left. -/
theorem length_of_scanExponent {atEnd : Cause} {chars rest : List Char}
    {exponent : Option (Bool × List Char)}
    (scanned : scanExponent atEnd chars = .ok (exponent, rest)) :
    rest.length ≤ chars.length := by
  unfold scanExponent at scanned
  split at scanned
  · cases scanned
    exact Nat.le_refl _
  · next mark behind =>
      have sign := length_scanSign_le behind
      split at scanned
      · simp only at scanned
        split at scanned
        · cases scanned
        · split at scanned <;> cases scanned
          have digits :=
            (List.dropWhile_sublist (l := (scanSign behind).2) Char.isDigit).length_le
          simp only [List.length_cons]
          omega
      · cases scanned
        exact Nat.le_refl _

/-- A numeral leaves less behind it. -/
theorem length_of_scan {atEnd : Cause} {negative : Bool} {chars rest : List Char}
    {numeral : Numeral} (scanned : scan atEnd negative chars = .ok (numeral, rest)) :
    rest.length < chars.length := by
  unfold scan at scanned
  cases whole : scanWhole atEnd chars with
  | error fault => simp [whole, bind, Except.bind] at scanned
  | ok first =>
      have one := length_of_scanWhole whole
      cases fraction : scanFraction atEnd first.2 with
      | error fault => simp [whole, fraction, bind, Except.bind] at scanned
      | ok second =>
          have two := length_of_scanFraction fraction
          cases exponent : scanExponent atEnd second.2 with
          | error fault => simp [whole, fraction, exponent, bind, Except.bind] at scanned
          | ok third =>
              have three := length_of_scanExponent exponent
              simp only [whole, fraction, exponent, bind, Except.bind, pure, Except.pure,
                Except.ok.injEq, Prod.mk.injEq] at scanned
              rw [← scanned.2]
              omega

/-- Append decimal digits to a number as long as it stays within `limit`; the
digits from the first that does not fit are left over. -/
def accumulate (limit : Nat) (value : Nat) : List Char → Nat × List Char
  | [] => (value, [])
  | digit :: digits =>
      let next := value * 10 + (digit.toNat - '0'.toNat)
      if limit < next then (value, digit :: digits) else accumulate limit next digits

/-- The greatest significand. -/
def maxSignificand : Nat := wordLimit - 1

/-- The greatest exponent that is evaluated, the greatest signed number of 32
bits. -/
def maxExponent : Nat := 2147483647

/-- The greatest power of ten that the format holds. -/
def maxPower : Nat := 308

/-- The format's number for a power of ten. -/
def powerOfTen? (power : Nat) : Option Binary64 :=
  Binary64.ofRatio? (Nat.pow 10 power) 1

/-- A number divided by a power of ten: in one step if the format holds the
power, else by the greatest power that it holds until the rest of it does or
nothing is left. -/
def scaleDown (number : Binary64) (power : Nat) : Option Binary64 :=
  if power ≤ maxPower then
    (powerOfTen? power).bind number.div?
  else if number.mantissa = 0 then some number
  else
    ((powerOfTen? maxPower).bind number.div?).bind fun quotient =>
      scaleDown quotient (power - maxPower)
termination_by power
decreasing_by
  have : 0 < maxPower := by decide
  omega

/-- A number multiplied by a power of ten, unless the result is too large. -/
def scaleUp (number : Binary64) (power : Nat) : Option Binary64 :=
  if power ≤ maxPower then (powerOfTen? power).bind number.mul?
  else if number.mantissa = 0 then some number
  else none

/-- A number times ten to an exponent of either sign. -/
def scale (significand : Nat) (exponent : Int) : Option Binary64 :=
  (Binary64.ofRatio? significand 1).bind fun number =>
    if exponent < 0 then scaleDown number exponent.natAbs else scaleUp number exponent.natAbs

/-- The value of a numeral that has neither point nor exponent and whose digits
fit 64 bits. Without a sign it is an integer; with one it is an integer if that
fits 64 bits and is not zero. -/
def wholeValue (negative : Bool) (significand : Nat) : Found :=
  if !negative then .integer significand
  else if 0 < significand ∧ significand ≤ signedLimit then .integer (-(significand : Int))
  else .floating true ((Binary64.ofRatio? significand 1).getD .zero)

/-- The value of a numeral, of which `rest` is what follows it in the document. -/
def value (numeral : Numeral) (rest : List Char) : Except Fault Found :=
  let (leading, beyond) := accumulate maxSignificand 0 numeral.whole
  let digits := numeral.fraction.getD []
  let (significand, ignored) := accumulate maxSignificand leading digits
  let shift : Int := (beyond.length : Int) - ((digits.length : Int) - ignored.length)
  let float (exponent : Int) : Except Fault Found :=
    match scale significand exponent with
    | some magnitude => .ok (.floating numeral.negative magnitude)
    | none => .error (.before .numberOutOfRange rest)
  match numeral.exponent with
  | none =>
      if beyond.isEmpty && numeral.fraction.isNone then
        .ok (wholeValue numeral.negative leading)
      else float shift
  | some (downward, written) =>
      match accumulate maxExponent 0 written with
      | (exponent, []) => float (if downward then shift - exponent else shift + exponent)
      | (_, excess) =>
          if significand ≠ 0 ∧ !downward then
            .error (.pastNext .numberOutOfRange (excess ++ rest))
          else .ok (.floating numeral.negative .zero)

end Numeral

end Json

end TypedMemory
