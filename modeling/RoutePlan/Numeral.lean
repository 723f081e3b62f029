import RoutePlan.Binary64.Shortest

/-!
# Numerals

Numbers as they are written in decimal or with a radix.  A decimal literal is an
optional sign, digits with at most one point and at least one digit, and an
optional exponent; `DecimalLiteral.nearest` is the double nearest to what it
says, `none` when that is infinite.

Two exact cases keep the computation small without changing its answer: a
literal at or above `10^400` overflows, one below `10^-400` is zero.
-/

namespace RoutePlan

/-- The value of a digit in radixes up to 36, letters of either case. -/
def digitValue (c : Char) : Nat :=
  if '0' ≤ c ∧ c ≤ '9' then c.toNat - 48
  else if 'a' ≤ c ∧ c ≤ 'z' then c.toNat - 87
  else if 'A' ≤ c ∧ c ≤ 'Z' then c.toNat - 55
  else 36

/-- Whether a character is a digit of the radix. -/
def isDigitOf (radix : Nat) (c : Char) : Bool :=
  decide (digitValue c < radix)

/-- The natural that digits say in a radix. -/
def naturalOf (radix : Nat) (digits : List Char) : Nat :=
  digits.foldl (fun value c => value * radix + digitValue c) 0

/-- Read one or more digits of the radix. -/
def readNatural? (radix : Nat) (digits : List Char) : Option Nat :=
  if digits ≠ [] ∧ digits.all (isDigitOf radix) then some (naturalOf radix digits) else none

/-- Read digits of the radix whose value is below a bound. -/
def readNaturalBelow? (radix bound : Nat) (digits : List Char) : Option Nat :=
  (readNatural? radix digits).filter (· < bound)

/-- A decimal literal: `± digits · 10^exponent`. -/
structure DecimalLiteral where
  negative : Bool
  digits : Nat
  exponent : Int
deriving DecidableEq

/-- Take a sign off the front; `true` is minus. -/
def splitSign : List Char → Bool × List Char
  | '-' :: rest => (true, rest)
  | '+' :: rest => (false, rest)
  | rest => (false, rest)

/-- The exponent part of a literal, to the end of the text: nothing at all, or a
mark, an optional sign and one or more digits. -/
def readExponent? : List Char → Option Int
  | [] => some 0
  | mark :: rest =>
      if mark = 'e' ∨ mark = 'E' then
        let (negative, digits) := splitSign rest
        (readNatural? 10 digits).map fun n => if negative then -(n : Int) else (n : Int)
      else none

namespace DecimalLiteral

/-- Read a decimal literal that is the whole text. -/
def read? (text : List Char) : Option DecimalLiteral :=
  let (negative, unsigned) := splitSign text
  let (whole, afterWhole) := unsigned.span (isDigitOf 10)
  let (fraction, afterFraction) :=
    match afterWhole with
    | '.' :: rest => rest.span (isDigitOf 10)
    | rest => ([], rest)
  if whole = [] ∧ fraction = [] then none
  else
    (readExponent? afterFraction).map fun exponent =>
      ⟨negative, naturalOf 10 (whole ++ fraction), exponent - fraction.length⟩

/-- The double nearest to the literal, `none` when it is infinite. -/
def nearest (literal : DecimalLiteral) : Option Binary64 :=
  let top : Int := literal.exponent + Binary64.decimalWidth literal.digits
  if literal.digits = 0 then some (.zero literal.negative)
  else if 400 < top then none
  else if top < -400 then some (.zero literal.negative)
  else
    Binary64.nearest literal.negative (literal.digits * Nat.pow 10 literal.exponent.toNat)
      (Nat.pow 10 (-literal.exponent).toNat)

end DecimalLiteral

end RoutePlan
