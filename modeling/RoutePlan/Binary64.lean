/-!
# Finite binary64 numbers

A finite double is a sign, a significand `m` and an exponent `q`, standing for
`± m · 2^q`.  The pair is canonical: `m` has at most 53 bits, and 53 exactly
unless `q` is least.  Infinities and NaN are not represented; an operation whose
result would be infinite answers `none`.

`nearest` is the only rounding: it takes a quotient of naturals to the nearest
double, an exact tie to the even significand.  All arithmetic is exact
arithmetic followed by it.
-/

namespace RoutePlan

/-- The quotient rounded to the nearest natural, an exact tie to the even one. -/
def roundHalfEven (numerator denominator : Nat) : Nat :=
  let quotient := numerator / denominator
  let twice := 2 * (numerator % denominator)
  if twice < denominator then quotient
  else if denominator < twice then quotient + 1
  else if quotient % 2 = 0 then quotient
  else quotient + 1

/-- A significand and an exponent as the format stores them: the significand is below
`2^53`, and at least `2^52` unless the exponent is least. -/
def CanonicalBinary64 (significand : Nat) (exponent : Int) : Prop :=
  significand < 9007199254740992 ∧ -1074 ≤ exponent ∧ exponent ≤ 971 ∧
    (exponent = -1074 ∨ 4503599627370496 ≤ significand)

instance (significand : Nat) (exponent : Int) :
    Decidable (CanonicalBinary64 significand exponent) :=
  inferInstanceAs (Decidable (_ ∧ _))

/-- A finite double. -/
structure Binary64 where
  negative : Bool
  significand : Nat
  exponent : Int
  canonical : CanonicalBinary64 significand exponent
deriving DecidableEq

namespace Binary64

/-- Zero with a sign. -/
def zero (negative : Bool) : Binary64 :=
  ⟨negative, 0, -1074, by decide⟩

instance : Inhabited Binary64 := ⟨zero false⟩

/-- Whether the number is zero, of either sign. -/
def isZero (x : Binary64) : Bool :=
  x.significand == 0

/-- The same magnitude with the other sign. -/
def neg (x : Binary64) : Binary64 :=
  { x with negative := !x.negative }

/-- The magnitude as a quotient of naturals, the divisor a power of two. -/
def magnitude (x : Binary64) : Nat × Nat :=
  (x.significand * Nat.pow 2 x.exponent.toNat, Nat.pow 2 (-x.exponent).toNat)

/-- The exponent of the last place that the format has for a quotient. -/
def placeOf (numerator denominator : Nat) : Int :=
  let guess : Int := (Nat.log2 numerator : Int) - (Nat.log2 denominator : Int)
  let scaledBelow :=
    numerator * Nat.pow 2 (-guess).toNat < denominator * Nat.pow 2 guess.toNat
  let leading := if scaledBelow then guess - 1 else guess
  max (leading - 52) (-1074)

/-- The double nearest to `numerator / denominator`, an exact tie to the even
significand; `none` when it would be infinite. -/
def nearest (negative : Bool) (numerator denominator : Nat) : Option Binary64 :=
  let place := if numerator = 0 then -1074 else placeOf numerator denominator
  let rounded :=
    roundHalfEven (numerator * Nat.pow 2 (-place).toNat) (denominator * Nat.pow 2 place.toNat)
  let carried := decide (rounded = 9007199254740992)
  let significand := if carried then 4503599627370496 else rounded
  let exponent := if carried then place + 1 else place
  if canonical : CanonicalBinary64 significand exponent then
    some ⟨negative, significand, exponent, canonical⟩
  else none

/-- The double nearest to an integer. -/
def ofInt (n : Int) : Option Binary64 :=
  nearest (decide (n < 0)) n.natAbs 1

/-- The product, rounded; `none` when it overflows. -/
def mul (x y : Binary64) : Option Binary64 :=
  nearest (x.negative != y.negative) (x.magnitude.1 * y.magnitude.1)
    (x.magnitude.2 * y.magnitude.2)

/-- The quotient, rounded; `none` when it overflows.  The divisor is not zero. -/
def div (x y : Binary64) : Option Binary64 :=
  nearest (x.negative != y.negative) (x.magnitude.1 * y.magnitude.2)
    (x.magnitude.2 * y.magnitude.1)

/-- The integer that the number is, if it is one. -/
def toInt? (x : Binary64) : Option Int :=
  let (numerator, denominator) := x.magnitude
  if numerator % denominator = 0 then
    let whole : Int := (numerator / denominator : Nat)
    some (if x.negative then -whole else whole)
  else none

end Binary64

end RoutePlan
