import RoutePlan.Binary64

/-!
# The shortest decimal that reads back

For a positive double the reals that round to it form an interval, with its ends
when the significand is even.  For one, two, … up to seventeen digits the two
decimals of that many digits next to the number are tried; the first count for
which one of them lies in the interval wins, the nearer of two, an exact tie to
the even digit.

`Layout` says how such a decimal is written: which magnitudes are written
positionally, and how an exponent is marked.
-/

namespace RoutePlan.Binary64

/-- A positive decimal `digits · 10^exponent`. -/
structure Decimal where
  digits : Nat
  exponent : Int
deriving DecidableEq, Inhabited

/-- The number of decimal digits of a natural; zero has one. -/
def decimalWidth (n : Nat) : Nat :=
  (Nat.toDigits 10 n).length

/-- The interval of the reals that round to a positive double, in quarters of
its last place: lower end, the number itself, upper end. -/
def roundingInterval (x : Binary64) : Nat × Nat × Nat :=
  let below := if x.significand = 4503599627370496 ∧ x.exponent ≠ -1074 then 1 else 2
  (4 * x.significand - below, 4 * x.significand, 4 * x.significand + 2)

/-- The decimal of the grid `10^place` that reads back as the number, the nearer
of two. -/
def gridPoint? (x : Binary64) (place : Int) : Option Decimal :=
  let (lower, middle, upper) := roundingInterval x
  let unit := x.exponent - 2
  let numerator := Nat.pow 2 unit.toNat * Nat.pow 10 (-place).toNat
  let denominator := Nat.pow 2 (-unit).toNat * Nat.pow 10 place.toNat
  let inside (candidate : Nat) : Bool :=
    if x.significand % 2 = 0 then
      decide (lower * numerator ≤ candidate * denominator) &&
        decide (candidate * denominator ≤ upper * numerator)
    else
      decide (lower * numerator < candidate * denominator) &&
        decide (candidate * denominator < upper * numerator)
  let low := middle * numerator / denominator
  let high := low + 1
  let belowBy := middle * numerator - low * denominator
  let aboveBy := high * denominator - middle * numerator
  let lowFirst := belowBy < aboveBy || (belowBy == aboveBy && low % 2 == 0)
  match inside low, inside high with
  | true, true => some ⟨if lowFirst then low else high, place⟩
  | true, false => some ⟨low, place⟩
  | false, true => some ⟨high, place⟩
  | false, false => none

/-- The place of the leading decimal digit of a positive quotient, or one place
above it. -/
def leadingPlace (numerator denominator : Nat) : Int :=
  let guess : Int := (decimalWidth numerator : Int) - (decimalWidth denominator : Int)
  let scaledBelow :=
    numerator * Nat.pow 10 (-guess).toNat < denominator * Nat.pow 10 guess.toNat
  if scaledBelow then guess - 1 else guess

/-- Drop zeros from the end of the digits. -/
def stripZeros : Nat → Decimal → Decimal
  | 0, decimal => decimal
  | bound + 1, decimal =>
      if decimal.digits ≠ 0 ∧ decimal.digits % 10 = 0 then
        stripZeros bound ⟨decimal.digits / 10, decimal.exponent + 1⟩
      else decimal

/-- Try more and more digits below the leading place. -/
def shortestFrom (x : Binary64) (leading : Int) : List Nat → Decimal
  | [] => ⟨0, 0⟩
  | below :: more =>
      match gridPoint? x (leading - below) with
      | some decimal => stripZeros (decimalWidth decimal.digits) decimal
      | none => shortestFrom x leading more

/-- The shortest decimal that reads back as a number other than zero. -/
def shortest (x : Binary64) : Decimal :=
  shortestFrom x (leadingPlace x.magnitude.1 x.magnitude.2) (List.range 18)

/-- How a decimal is written. -/
structure Layout where
  /-- Least exponent of the leading digit that is written positionally. -/
  positionalFrom : Int
  /-- First exponent of the leading digit that is no longer written positionally. -/
  positionalBelow : Int
  /-- What follows a whole number written positionally. -/
  wholeMark : String
  exponentMark : String
  /-- What stands before an exponent that is not negative. -/
  exponentPlus : String

/-- The digits of a decimal with its point, positionally. -/
def positional (layout : Layout) (digits : List Char) (exponent : Int) : List Char :=
  if 0 ≤ exponent then
    digits ++ List.replicate exponent.toNat '0' ++ layout.wholeMark.toList
  else
    let places := (-exponent).toNat
    if places < digits.length then
      digits.take (digits.length - places) ++ '.' :: digits.drop (digits.length - places)
    else
      '0' :: '.' :: List.replicate (places - digits.length) '0' ++ digits

/-- The digits of a decimal with one before the point, and its exponent. -/
def scientific (layout : Layout) (digits : List Char) (leading : Int) : List Char :=
  let fraction := digits.drop 1
  digits.take 1 ++ (if fraction = [] then [] else '.' :: fraction) ++ layout.exponentMark.toList
    ++ (if leading < 0 then ['-'] else layout.exponentPlus.toList)
    ++ Nat.toDigits 10 leading.natAbs

/-- The number written with the fewest digits that read back. -/
def write (layout : Layout) (x : Binary64) : List Char :=
  let sign := if x.negative then ['-'] else []
  if x.isZero then sign ++ positional layout ['0'] 0
  else
    let decimal := shortest x
    let digits := Nat.toDigits 10 decimal.digits
    let leading : Int := decimal.exponent + digits.length - 1
    if layout.positionalFrom ≤ leading ∧ leading < layout.positionalBelow then
      sign ++ positional layout digits decimal.exponent
    else
      sign ++ scientific layout digits leading

end RoutePlan.Binary64
