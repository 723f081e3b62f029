import RoutePlan.Numeral
import RoutePlan.Value

/-!
# Numbers in JSON text

An integer literal that 64 bits hold is an integer; `-0` and every other literal
is a double.  Reading a double is quick rather than exact: the leading digits
that fit 64 bits are rounded to a double, which is then scaled by one rounded
power of ten, or by two where one would not be finite.  A
literal whose double is infinite is no number.
-/

namespace RoutePlan.Json

/-- The leading digits that fit 64 bits and the power of ten still owed. -/
structure Leading where
  significand : Nat
  exponent : Int
  full : Bool

namespace Leading

/-- Take in a digit before the point.  Once one does not fit, it and all that
follow only raise the exponent. -/
def wholeDigit (leading : Leading) (c : Char) : Leading :=
  let next := leading.significand * 10 + digitValue c
  if leading.full = false ∧ next < UInt64.size then { leading with significand := next }
  else { leading with exponent := leading.exponent + 1, full := true }

/-- Take in a digit after the point.  Once one does not fit, it and all that
follow are dropped. -/
def fractionDigit (leading : Leading) (c : Char) : Leading :=
  let next := leading.significand * 10 + digitValue c
  if leading.full = false ∧ next < UInt64.size then
    { leading with significand := next, exponent := leading.exponent - 1 }
  else { leading with full := true }

end Leading

/-- The double nearest to a power of ten. -/
def powerOfTen (exponent : Nat) : Option Binary64 :=
  Binary64.nearest false (Nat.pow 10 exponent) 1

/-- The greatest power of ten that is finite. -/
def greatestPower : Nat := 308

/-- Scale a double by a power of ten.  Far below the least double, where two
steps leave nothing of 64 bits, the answer is zero; `none` is infinity. -/
def scale (x : Binary64) (exponent : Int) : Option Binary64 :=
  if x.isZero then some x
  else if greatestPower < exponent then none
  else if 0 ≤ exponent then (powerOfTen exponent.natAbs).bind x.mul
  else if -exponent ≤ greatestPower then (powerOfTen exponent.natAbs).bind x.div
  else if -exponent ≤ 2 * greatestPower then do
    let smaller ← (powerOfTen greatestPower).bind x.div
    (powerOfTen (exponent.natAbs - greatestPower)).bind smaller.div
  else some (.zero false)

/-- The double that scaled leading digits say. -/
def scaledDouble (negative : Bool) (leading : Leading) (exponent : Int) : Option Number :=
  (Binary64.ofInt leading.significand).bind fun start =>
    (scale start (leading.exponent + exponent)).map fun x =>
      .double (if negative then x.neg else x)

/-- A literal without point and exponent. -/
def integerLiteral (negative : Bool) (leading : Leading) : Option Number :=
  if leading.full then scaledDouble negative leading 0
  else if negative then
    if leading.significand = 0 ∨ 9223372036854775808 < leading.significand then
      scaledDouble true leading 0
    else Number.ofInt? (-(leading.significand : Int))
  else Number.ofInt? leading.significand

/-- Read a number that is the whole text: an optional minus, digits without a
needless leading zero, an optional fraction and an optional exponent. -/
def readNumber? (text : List Char) : Option Number :=
  let (negative, unsigned) :=
    match text with
    | '-' :: rest => (true, rest)
    | rest => (false, rest)
  let (whole, afterWhole) := unsigned.span (isDigitOf 10)
  if whole = [] ∨ (whole.head? = some '0' ∧ whole.length ≠ 1) then none
  else
    let leading := whole.foldl Leading.wholeDigit ⟨0, 0, false⟩
    match afterWhole with
    | [] => integerLiteral negative leading
    | '.' :: rest =>
        let (fraction, afterFraction) := rest.span (isDigitOf 10)
        if fraction = [] then none
        else
          let leading := fraction.foldl Leading.fractionDigit { leading with full := false }
          (readExponent? afterFraction).bind (scaledDouble negative leading)
    | rest => (readExponent? rest).bind (scaledDouble negative leading)

end RoutePlan.Json
