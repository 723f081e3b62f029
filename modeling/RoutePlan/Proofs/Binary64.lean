import Mathlib.Algebra.Order.Field.Power
import Mathlib.Data.Nat.Cast.Field
import Mathlib.Tactic.FieldSimp
import Mathlib.Tactic.Linarith
import Mathlib.Tactic.Positivity
import Mathlib.Tactic.Ring
import RoutePlan.Binary64

/-!
# Rounding to the nearest double

A double stands for a rational.  Rounding a quotient answers the double nearest to it, of
two that are equally near the one with the even significand; it answers none exactly
from half a place above the greatest double on.

The quotient is measured in units of the last place that the format has for it
(`IsLastPlace`).  Doubles with that exponent or a greater one are whole numbers of
units, among which the rounded quotient is the nearest; all others lie below the least
significand of full width, which is a whole number of units itself.
-/

namespace RoutePlan

/-- A magnitude with a sign; `true` is minus. -/
def signed (negative : Bool) (r : ℚ) : ℚ :=
  if negative then -r else r

@[simp]
theorem signed_signed (negative : Bool) (r : ℚ) : signed negative (signed negative r) = r := by
  cases negative <;> simp [signed]

@[simp]
theorem abs_signed (negative : Bool) (r : ℚ) : |signed negative r| = |r| := by
  cases negative <;> simp [signed]

theorem abs_signed_sub_signed (negative : Bool) (r s : ℚ) :
    |signed negative r - signed negative s| = |r - s| := by
  cases negative
  · rfl
  · calc
      |-r - -s| = |s - r| := by ring_nf
      _ = |r - s| := abs_sub_comm s r

theorem signed_abs (r : ℚ) : signed (decide (r < 0)) |r| = r := by
  rcases lt_or_ge r 0 with minus | plus
  · rw [decide_eq_true minus, abs_of_neg minus]
    exact neg_neg r
  · rw [decide_eq_false (not_lt.2 plus), abs_of_nonneg plus]
    rfl

theorem signed_natAbs (k : ℤ) : signed (decide (k < 0)) k.natAbs = k := by
  have negative : decide (k < 0) = decide ((k : ℚ) < 0) := by simp
  rw [negative, Nat.cast_natAbs, Int.cast_abs, signed_abs]

/-- A power with an integer exponent, as the quotient of two with natural ones. -/
theorem zpow_eq_div (b : ℚ) (e : ℤ) : b ^ e = b ^ e.toNat / b ^ (-e).toNat := by
  rcases le_total 0 e with nonneg | nonpos
  · have none : (-e).toNat = 0 := by omega
    rw [none, pow_zero, div_one, ← zpow_natCast, Int.toNat_of_nonneg nonneg]
  · have none : e.toNat = 0 := by omega
    have whole : ((-e).toNat : ℤ) = -e := by omega
    rw [none, pow_zero, one_div, ← zpow_natCast, whole, zpow_neg, inv_inv]

/-! ## Rounding to a whole number -/

/-- A natural is nearest to a rational, and even when it is half a unit away. -/
structure RoundsHalfEven (r : ℚ) (m : ℕ) : Prop where
  near : |(m : ℚ) - r| ≤ 1 / 2
  even : |(m : ℚ) - r| = 1 / 2 → Even m

/-- A quotient is its whole part and the part of a unit that the remainder is. -/
theorem div_eq_add_div (numerator : ℕ) {denominator : ℕ} (positive : 0 < denominator) :
    (numerator : ℚ) / denominator =
      (numerator / denominator : ℕ) + ((numerator % denominator : ℕ) : ℚ) / denominator := by
  have nonzero : (denominator : ℚ) ≠ 0 := by exact_mod_cast positive.ne'
  have whole : (numerator : ℚ) =
      denominator * (numerator / denominator : ℕ) + (numerator % denominator : ℕ) := by
    exact_mod_cast (Nat.div_add_mod numerator denominator).symm
  rw [add_div' _ _ _ nonzero, mul_comm, ← whole]

namespace RoundsHalfEven

theorem down {part : ℚ} {quotient : ℕ} (nonneg : 0 ≤ part) (least : part ≤ 1 / 2)
    (even : part = 1 / 2 → Even quotient) : RoundsHalfEven (quotient + part) quotient := by
  have distance : |(quotient : ℚ) - (quotient + part)| = part := by
    rw [sub_add_cancel_left, abs_neg, abs_of_nonneg nonneg]
  exact ⟨distance.le.trans least, fun half => even (distance.symm.trans half)⟩

theorem up {part : ℚ} {quotient : ℕ} (least : 1 / 2 ≤ part) (less : part ≤ 1)
    (even : part = 1 / 2 → Even (quotient + 1)) :
    RoundsHalfEven (quotient + part) (quotient + 1 : ℕ) := by
  have distance : |((quotient + 1 : ℕ) : ℚ) - (quotient + part)| = 1 - part := by
    rw [Nat.cast_succ, add_sub_add_left_eq_sub, abs_of_nonneg (sub_nonneg.2 less)]
  constructor
  · rw [distance]
    linarith
  · intro half
    rw [distance] at half
    exact even (by linarith)

/-- No whole number is nearer, and where one is as near, it is odd and the rounded one
even. -/
theorem cases_of_int {r : ℚ} {m : ℕ} (rounds : RoundsHalfEven r m) (k : ℤ) :
    k = m ∨ |(m : ℚ) - r| < |(k : ℚ) - r| ∨
      |(m : ℚ) - r| = |(k : ℚ) - r| ∧ Even m ∧ ¬Even k := by
  rcases eq_or_ne k m with same | apart
  · exact .inl same
  · have step : (1 : ℚ) ≤ |(k : ℚ) - m| := by
      exact_mod_cast Int.one_le_abs (sub_ne_zero.2 apart)
    have triangle : |(k : ℚ) - m| ≤ |(k : ℚ) - r| + |(m : ℚ) - r| := by
      rw [abs_sub_comm (m : ℚ)]
      exact abs_sub_le _ _ _
    have near := rounds.near
    rcases lt_or_ge |(m : ℚ) - r| |(k : ℚ) - r| with nearer | far
    · exact .inr (.inl nearer)
    · have half : |(m : ℚ) - r| = 1 / 2 := by linarith
      have even := rounds.even half
      have neighbour : |k - (m : ℤ)| ≤ 1 := by
        have : |(k : ℚ) - m| ≤ 1 := by linarith
        exact_mod_cast this
      have odd : ¬Even k := by
        obtain ⟨n, rfl⟩ := even
        rintro ⟨l, rfl⟩
        rw [abs_le] at neighbour
        push_cast at neighbour apart
        omega
      exact .inr (.inr ⟨by linarith, even, odd⟩)

/-- A whole number is rounded to itself. -/
theorem eq_of_int {k : ℤ} {m : ℕ} (rounds : RoundsHalfEven k m) : (m : ℤ) = k := by
  rcases rounds.cases_of_int k with same | nearer | ⟨tie, even, odd⟩
  · exact same.symm
  · rw [sub_self, abs_zero] at nearer
    exact absurd nearer (not_lt.2 (abs_nonneg _))
  · rw [sub_self, abs_zero, abs_eq_zero, sub_eq_zero] at tie
    exact_mod_cast tie

end RoundsHalfEven

theorem roundsHalfEven_roundHalfEven (numerator : ℕ) {denominator : ℕ}
    (positive : 0 < denominator) :
    RoundsHalfEven (numerator / denominator) (roundHalfEven numerator denominator) := by
  have divisor : (0 : ℚ) < denominator := by exact_mod_cast positive
  obtain ⟨part, part_eq⟩ : ∃ p : ℚ, p = (numerator % denominator : ℕ) / denominator := ⟨_, rfl⟩
  have nonneg : 0 ≤ part := by rw [part_eq]; positivity
  have less : part ≤ 1 := by
    rw [part_eq, div_le_one divisor]
    exact_mod_cast (Nat.mod_lt numerator positive).le
  have less_iff : part < 1 / 2 ↔ 2 * (numerator % denominator) < denominator := by
    rw [part_eq, div_lt_div_iff₀ divisor two_pos, one_mul, mul_comm]
    norm_cast
  have greater_iff : 1 / 2 < part ↔ denominator < 2 * (numerator % denominator) := by
    rw [part_eq, div_lt_div_iff₀ two_pos divisor, one_mul, mul_comm]
    norm_cast
  rw [div_eq_add_div numerator positive, ← part_eq]
  unfold roundHalfEven
  dsimp only
  split_ifs with below above even
  · have small := less_iff.2 below
    exact .down nonneg small.le fun half => absurd half small.ne
  · have large := greater_iff.2 above
    exact .up large.le less fun half => absurd half large.ne'
  · exact .down nonneg (le_of_not_gt fun large => above (greater_iff.1 large)) fun _ =>
      Nat.even_iff.2 even
  · exact .up (le_of_not_gt fun small => below (less_iff.1 small)) less fun _ =>
      Nat.even_add_one.2 fun whole => even (Nat.even_iff.1 whole)

/-! ## The last place -/

namespace Binary64

/-- The rational that a double stands for. -/
def value (x : Binary64) : ℚ :=
  signed x.negative (x.significand * 2 ^ x.exponent)

theorem value_neg (x : Binary64) : x.neg.value = -x.value := by
  unfold value neg
  cases x.negative <;> simp [signed]

/-- With a double its opposite is one. -/
theorem exists_value_eq_signed (negative : Bool) (x : Binary64) :
    ∃ y : Binary64, y.value = signed negative x.value ∧ y.significand = x.significand := by
  cases negative
  · exact ⟨x, rfl, rfl⟩
  · exact ⟨x.neg, value_neg x, rfl⟩

/-- The exponent of the last place of the format for a magnitude: it is least, or the
magnitude has a significand of full width there. -/
structure IsLastPlace (r : ℚ) (place : ℤ) : Prop where
  least : -1074 ≤ place
  below : r < 9007199254740992 * 2 ^ place
  above : place = -1074 ∨ 4503599627370496 * 2 ^ place ≤ r

theorem isLastPlace_zero : IsLastPlace 0 (-1074) where
  least := le_rfl
  below := by positivity
  above := .inl rfl

theorem pow_53_mul_zpow (place : ℤ) :
    (9007199254740992 : ℚ) * 2 ^ place = 2 ^ (place + 53) := by
  rw [zpow_add₀ two_ne_zero, mul_comm]
  norm_num

theorem pow_52_mul_zpow (place : ℤ) :
    (4503599627370496 : ℚ) * 2 ^ place = 2 ^ (place + 52) := by
  rw [zpow_add₀ two_ne_zero, mul_comm]
  norm_num

theorem two_zpow_le_two_zpow {low high : ℤ} (le : low ≤ high) : (2 : ℚ) ^ low ≤ 2 ^ high :=
  zpow_le_zpow_right₀ one_le_two le

/-- A place from which the magnitude takes full width is the last one, when it is not
below the least. -/
theorem isLastPlace_max {r : ℚ} {leading : ℤ} (least : 2 ^ leading ≤ r)
    (less : r < 2 ^ (leading + 1)) : IsLastPlace r (max (leading - 52) (-1074)) where
  least := le_max_right _ _
  below := by
    rw [pow_53_mul_zpow]
    exact less.trans_le (two_zpow_le_two_zpow (by omega))
  above := by
    rcases le_total (leading - 52) (-1074) with low | high
    · exact .inl (max_eq_right low)
    · rw [max_eq_left high, pow_52_mul_zpow, sub_add_cancel]
      exact .inr least

section Quotient

variable {numerator denominator : ℕ} (top : 0 < numerator) (bottom : 0 < denominator)

include top bottom in
/-- The lengths of two naturals tell the leading bit of their quotient up to one. -/
theorem log2_bounds :
    (2 : ℚ) ^ ((Nat.log2 numerator : ℤ) - Nat.log2 denominator - 1) ≤ numerator / denominator ∧
      (numerator / denominator : ℚ) <
        2 ^ ((Nat.log2 numerator : ℤ) - Nat.log2 denominator + 1) := by
  have divisor : (0 : ℚ) < denominator := by exact_mod_cast bottom
  have numerator_least : (2 : ℚ) ^ Nat.log2 numerator ≤ numerator := by
    exact_mod_cast Nat.log2_self_le top.ne'
  have numerator_less : (numerator : ℚ) < 2 ^ (Nat.log2 numerator + 1) := by
    exact_mod_cast Nat.lt_log2_self
  have denominator_least : (2 : ℚ) ^ Nat.log2 denominator ≤ denominator := by
    exact_mod_cast Nat.log2_self_le bottom.ne'
  have denominator_less : (denominator : ℚ) < 2 ^ (Nat.log2 denominator + 1) := by
    exact_mod_cast Nat.lt_log2_self
  constructor
  · calc
      (2 : ℚ) ^ ((Nat.log2 numerator : ℤ) - Nat.log2 denominator - 1) =
          2 ^ Nat.log2 numerator / 2 ^ (Nat.log2 denominator + 1) := by
        rw [sub_sub, zpow_sub₀ two_ne_zero]
        norm_cast
      _ ≤ numerator / denominator :=
        div_le_div₀ (Nat.cast_nonneg _) numerator_least divisor denominator_less.le
  · calc
      (numerator / denominator : ℚ) < 2 ^ (Nat.log2 numerator + 1) / 2 ^ Nat.log2 denominator :=
        div_lt_div₀ numerator_less denominator_least (by positivity) (by positivity)
      _ = 2 ^ ((Nat.log2 numerator : ℤ) - Nat.log2 denominator + 1) := by
        rw [sub_add_eq_add_sub, zpow_sub₀ two_ne_zero]
        norm_cast

include bottom in
/-- A power of two is compared with a quotient without leaving the naturals. -/
theorem scaled_lt_iff (e : ℤ) :
    numerator * Nat.pow 2 (-e).toNat < denominator * Nat.pow 2 e.toNat ↔
      (numerator / denominator : ℚ) < 2 ^ e := by
  have divisor : (0 : ℚ) < denominator := by exact_mod_cast bottom
  rw [zpow_eq_div, div_lt_div_iff₀ divisor (by positivity), Nat.pow_eq, Nat.pow_eq,
    mul_comm ((2 : ℚ) ^ e.toNat)]
  norm_cast

include top bottom in
theorem isLastPlace_placeOf :
    IsLastPlace (numerator / denominator) (placeOf numerator denominator) := by
  obtain ⟨least, less⟩ := log2_bounds top bottom
  unfold placeOf
  dsimp only
  generalize (Nat.log2 numerator : ℤ) - Nat.log2 denominator = guess at least less
  split_ifs with scaledBelow
  · refine isLastPlace_max least ?_
    rw [sub_add_cancel]
    exact (scaled_lt_iff bottom guess).1 scaledBelow
  · refine isLastPlace_max (le_of_not_gt fun small => ?_) less
    exact scaledBelow ((scaled_lt_iff bottom guess).2 small)

end Quotient

/-! ## The nearest double -/

/-- The least magnitude that rounds to infinity, half a place above the greatest double. -/
def overflowBound : ℚ :=
  2 ^ 1024 - 2 ^ 970

theorem overflowBound_eq : overflowBound = (9007199254740992 - 1 / 2) * 2 ^ (971 : ℤ) := by
  have half : (1 / 2 : ℚ) * 2 ^ (971 : ℤ) = 2 ^ (970 : ℤ) := by
    rw [show (971 : ℤ) = 970 + 1 from rfl, zpow_add_one₀ two_ne_zero]
    ring
  rw [sub_mul, pow_53_mul_zpow, half]
  rfl

theorem pow_64_le_overflowBound : 18446744073709551616 ≤ overflowBound := by
  have greatest : (0 : ℚ) ≤ 2 ^ (971 : ℤ) := by positivity
  calc
    (18446744073709551616 : ℚ) = 2 ^ (64 : ℤ) := by norm_num
    _ ≤ 2 ^ ((971 : ℤ) + 52) := two_zpow_le_two_zpow (by decide)
    _ = 4503599627370496 * 2 ^ (971 : ℤ) := (pow_52_mul_zpow _).symm
    _ ≤ (9007199254740992 - 1 / 2) * 2 ^ (971 : ℤ) :=
      mul_le_mul_of_nonneg_right (by norm_num) greatest
    _ = overflowBound := overflowBound_eq.symm

/-- The double that rounding to the nearest answers for a rational: no double is nearer,
and when another number is as near, the significand is even. -/
structure IsNearest (r : ℚ) (x : Binary64) : Prop where
  finite : |r| < overflowBound
  closest (y : Binary64) : |x.value - r| ≤ |y.value - r|
  even_of_tie (y : Binary64) :
    |y.value - r| = |x.value - r| → y.value = x.value ∨ Even x.significand

/-- What is a double rounds to itself. -/
theorem IsNearest.value_eq {r : ℚ} {x y : Binary64} (nearest : IsNearest r x)
    (exact : y.value = r) : x.value = r := by
  have close := nearest.closest y
  rw [exact, sub_self, abs_zero] at close
  exact sub_eq_zero.1 (abs_nonpos_iff.1 close)

/-- A double whose last place is not below a place is a whole number of its units, even
with its significand. -/
theorem exists_value_eq_mul {x : Binary64} {place : ℤ} (le : place ≤ x.exponent) :
    ∃ k : ℤ, x.value = k * 2 ^ place ∧ (Even x.significand → Even k) := by
  obtain ⟨extra, extra_eq⟩ := Int.eq_ofNat_of_zero_le (sub_nonneg.2 le)
  have scaled : (x.significand : ℚ) * 2 ^ x.exponent =
      ((x.significand * 2 ^ extra : ℕ) : ℤ) * 2 ^ place := by
    rw [← sub_add_cancel x.exponent place, extra_eq, zpow_add₀ two_ne_zero]
    push_cast
    rw [zpow_natCast, mul_assoc]
  have whole (even : Even x.significand) : Even ((x.significand * 2 ^ extra : ℕ) : ℤ) :=
    (Int.even_coe_nat _).2 (even.mul_right _)
  unfold value
  rw [scaled]
  cases x.negative
  · exact ⟨_, rfl, whole⟩
  · refine ⟨-((x.significand * 2 ^ extra : ℕ) : ℤ), ?_, fun even => (whole even).neg⟩
    rw [Int.cast_neg, neg_mul]
    rfl

/-- A double whose last place is below a place is below full width there. -/
theorem value_lt_of_exponent_lt {x : Binary64} {place : ℤ} (less : x.exponent < place) :
    x.value < 4503599627370496 * 2 ^ place := by
  have narrow : (x.significand : ℚ) < 9007199254740992 := by exact_mod_cast x.canonical.1
  have unit : (0 : ℚ) < 2 ^ x.exponent := by positivity
  calc
    x.value ≤ |x.value| := le_abs_self _
    _ = x.significand * 2 ^ x.exponent := by
      rw [value, abs_signed, abs_of_nonneg (by positivity)]
    _ < 9007199254740992 * 2 ^ x.exponent := mul_lt_mul_of_pos_right narrow unit
    _ = 2 ^ (x.exponent + 53) := pow_53_mul_zpow _
    _ ≤ 2 ^ (place + 52) := two_zpow_le_two_zpow (by omega)
    _ = 4503599627370496 * 2 ^ place := (pow_52_mul_zpow _).symm

section Unit

variable {r : ℚ} {place : ℤ} {m : ℕ} (last : IsLastPlace r place)
  (rounds : RoundsHalfEven (r / 2 ^ place) m)

theorem abs_mul_zpow_sub (k r : ℚ) (place : ℤ) :
    |k * 2 ^ place - r| = |k - r / 2 ^ place| * 2 ^ place := by
  have unit : (0 : ℚ) < 2 ^ place := by positivity
  rw [← abs_of_pos unit, ← abs_mul, abs_of_pos unit, sub_mul, div_mul_cancel₀ _ unit.ne']

include last rounds in
/-- Among all doubles the rounded number of units is nearest. -/
theorem cases_of_double (y : Binary64) :
    y.value = m * 2 ^ place ∨ |m * 2 ^ place - r| < |y.value - r| ∨
      |m * 2 ^ place - r| = |y.value - r| ∧ Even m ∧ ¬Even y.significand := by
  have unit : (0 : ℚ) < 2 ^ place := by positivity
  rcases lt_or_ge y.exponent place with small | large
  · -- Full width is a whole number of units, between the double and the magnitude.
    have below := value_lt_of_exponent_lt small
    have above : 4503599627370496 * 2 ^ place ≤ r :=
      last.above.resolve_left fun least => by
        have := y.canonical.2.1
        omega
    have near : |m * 2 ^ place - r| ≤ r - 4503599627370496 * 2 ^ place := by
      rw [← abs_of_nonneg (sub_nonneg.2 above), abs_sub_comm r, abs_mul_zpow_sub,
        abs_mul_zpow_sub]
      refine mul_le_mul_of_nonneg_right ?_ unit.le
      rcases rounds.cases_of_int 4503599627370496 with same | nearer | tie
      · exact (congrArg (fun k : ℤ => |(k : ℚ) - r / 2 ^ place|) same).ge
      · exact nearer.le
      · exact tie.1.le
    refine .inr (.inl (near.trans_lt ?_))
    rw [abs_sub_comm, abs_of_pos (by linarith)]
    linarith
  · obtain ⟨k, value_eq, whole⟩ := exists_value_eq_mul large
    rw [value_eq, abs_mul_zpow_sub, abs_mul_zpow_sub]
    rcases rounds.cases_of_int k with rfl | nearer | ⟨tie, even, odd⟩
    · exact .inl rfl
    · exact .inr (.inl (mul_lt_mul_of_pos_right nearer unit))
    · exact .inr (.inr ⟨congrArg (· * 2 ^ place) tie, even, mt whole odd⟩)

/-- A sign on both sides changes no distance. -/
theorem exists_distance_eq (negative : Bool) (r : ℚ) (y : Binary64) :
    ∃ z : Binary64, y.value = signed negative z.value ∧ z.significand = y.significand ∧
      |y.value - signed negative r| = |z.value - r| := by
  obtain ⟨z, z_eq, same⟩ := exists_value_eq_signed negative y
  have y_eq : y.value = signed negative z.value := by rw [z_eq, signed_signed]
  exact ⟨z, y_eq, same, by rw [y_eq, abs_signed_sub_signed]⟩

section Signed

variable {x : Binary64} {negative : Bool} (value_eq : x.value = signed negative (m * 2 ^ place))

include last rounds value_eq in
theorem isNearest_signed (finite : r < overflowBound) (nonneg : 0 ≤ r)
    (even : Even m → Even x.significand) : IsNearest (signed negative r) x := by
  have own : |x.value - signed negative r| = |m * 2 ^ place - r| := by
    rw [value_eq, abs_signed_sub_signed]
  constructor
  · rwa [abs_signed, abs_of_nonneg nonneg]
  · intro y
    obtain ⟨z, _, _, distance⟩ := exists_distance_eq negative r y
    rw [own, distance]
    rcases cases_of_double last rounds z with same | nearer | ⟨tie, _⟩
    · rw [same]
    · exact nearer.le
    · exact tie.le
  · intro y tie
    obtain ⟨z, y_eq, _, distance⟩ := exists_distance_eq negative r y
    rw [own, distance] at tie
    rcases cases_of_double last rounds z with same | nearer | ⟨_, whole, _⟩
    · exact .inl (by rw [y_eq, value_eq, same])
    · exact absurd tie nearer.ne'
    · exact .inr (even whole)

include last rounds value_eq in
theorem value_eq_of_isNearest_signed {y : Binary64} (nearest : IsNearest (signed negative r) y) :
    y.value = x.value := by
  have own : |x.value - signed negative r| = |m * 2 ^ place - r| := by
    rw [value_eq, abs_signed_sub_signed]
  have closest := nearest.closest x
  obtain ⟨z, y_eq, significand_eq, distance⟩ := exists_distance_eq negative r y
  rcases cases_of_double last rounds z with same | nearer | ⟨tie, _, odd⟩
  · rw [y_eq, value_eq, same]
  · rw [own, distance] at closest
    exact absurd nearer (not_lt.2 closest)
  · rw [significand_eq] at odd
    exact ((nearest.even_of_tie x (by rw [own, distance, tie])).resolve_right odd).symm

end Signed

include last rounds in
theorem le_pow_53 : m ≤ 9007199254740992 := by
  have unit : (0 : ℚ) < 2 ^ place := by positivity
  have below : r / 2 ^ place < 9007199254740992 := (div_lt_iff₀ unit).2 last.below
  have near := (abs_sub_le_iff.1 rounds.near).1
  have less : (m : ℚ) < 9007199254740993 := by linarith
  exact Nat.lt_succ_iff.1 (by exact_mod_cast less)

include last rounds in
theorem eq_least_or_pow_52_le : place = -1074 ∨ 4503599627370496 ≤ m := by
  have unit : (0 : ℚ) < 2 ^ place := by positivity
  refine last.above.imp_right fun full => ?_
  have above : 4503599627370496 ≤ r / 2 ^ place := (le_div_iff₀ unit).2 full
  have near := (abs_sub_le_iff.1 rounds.near).2
  have greater : (4503599627370495 : ℚ) < m := by linarith
  exact Nat.succ_le_of_lt (by exact_mod_cast greater)

include last rounds in
/-- The rounding carries into the next place from half a unit below it on. -/
theorem eq_pow_53_iff : m = 9007199254740992 ↔ 9007199254740992 - 1 / 2 ≤ r / 2 ^ place := by
  have near := abs_sub_le_iff.1 rounds.near
  constructor
  · rintro rfl
    have := near.1
    push_cast at this
    linarith
  · intro least
    have greater : (9007199254740991 : ℚ) ≤ m := by linarith [near.2]
    have lower : 9007199254740991 ≤ m := by exact_mod_cast greater
    rcases lower.eq_or_lt with rfl | carried
    · have half : |((9007199254740991 : ℕ) : ℚ) - r / 2 ^ place| = 1 / 2 := by
        refine le_antisymm rounds.near ?_
        rw [abs_sub_comm]
        push_cast
        exact (by linarith : (1 : ℚ) / 2 ≤ r / 2 ^ place - 9007199254740991).trans (le_abs_self _)
      exact absurd (rounds.even half) (by decide)
    · exact le_antisymm (le_pow_53 last rounds) carried

include last rounds in
theorem exponent_le_iff :
    (if m = 9007199254740992 then place + 1 else place) ≤ 971 ↔ r < overflowBound := by
  have unit : (0 : ℚ) < 2 ^ place := by positivity
  have greatest : (0 : ℚ) ≤ 2 ^ (971 : ℤ) := by positivity
  rcases lt_trichotomy place 971 with low | rfl | high
  · have fits : (if m = 9007199254740992 then place + 1 else place) ≤ 971 := by
      split_ifs <;> omega
    refine iff_of_true fits ?_
    calc
      r < 2 ^ (place + 53) := by
        rw [← pow_53_mul_zpow]
        exact last.below
      _ ≤ 2 ^ ((971 : ℤ) + 52) := two_zpow_le_two_zpow (by omega)
      _ ≤ overflowBound := by
        rw [← pow_52_mul_zpow, overflowBound_eq]
        exact mul_le_mul_of_nonneg_right (by norm_num) greatest
  · rw [overflowBound_eq, ← div_lt_iff₀ unit, ← not_le, ← eq_pow_53_iff last rounds]
    split_ifs with carried
    · exact iff_of_false (by omega) (not_not.2 carried)
    · exact iff_of_true le_rfl carried
  · have full := last.above.resolve_left (by omega)
    have large : ¬(if m = 9007199254740992 then place + 1 else place) ≤ 971 := by
      split_ifs <;> omega
    refine iff_of_false large (not_lt.2 ?_)
    calc
      overflowBound ≤ 2 ^ ((971 : ℤ) + 53) := by
        rw [← pow_53_mul_zpow, overflowBound_eq]
        exact mul_le_mul_of_nonneg_right (by norm_num) greatest
      _ ≤ 2 ^ (place + 52) := two_zpow_le_two_zpow (by omega)
      _ = 4503599627370496 * 2 ^ place := (pow_52_mul_zpow place).symm
      _ ≤ r := full

include last rounds in
/-- Full width carried into the next place is a number of the format, unless it
overflows. -/
theorem canonical_iff :
    CanonicalBinary64 (if m = 9007199254740992 then 4503599627370496 else m)
        (if m = 9007199254740992 then place + 1 else place) ↔
      r < overflowBound := by
  rw [← exponent_le_iff last rounds]
  have least := last.least
  have narrow := le_pow_53 last rounds
  have wide := eq_least_or_pow_52_le last rounds
  unfold CanonicalBinary64
  split_ifs <;> omega

end Unit

/-- The quotient in units of its last place is rounded to a whole number, and answered
unless it overflows. -/
theorem nearest_cases (negative : Bool) (numerator : ℕ) {denominator : ℕ}
    (bottom : 0 < denominator) :
    ∃ place m, IsLastPlace (numerator / denominator) place ∧
      RoundsHalfEven (numerator / denominator / 2 ^ place) m ∧
      (overflowBound ≤ (numerator / denominator : ℚ) ∧
          nearest negative numerator denominator = none ∨
        (numerator / denominator : ℚ) < overflowBound ∧
          ∃ x, nearest negative numerator denominator = some x ∧
            x.value = signed negative (m * 2 ^ place) ∧ (Even m → Even x.significand)) := by
  obtain ⟨place, place_eq⟩ :
    ∃ p, p = if numerator = 0 then -1074 else placeOf numerator denominator := ⟨_, rfl⟩
  obtain ⟨m, m_eq⟩ : ∃ m, m = roundHalfEven (numerator * Nat.pow 2 (-place).toNat)
    (denominator * Nat.pow 2 place.toNat) := ⟨_, rfl⟩
  have last : IsLastPlace (numerator / denominator) place := by
    rw [place_eq]
    split_ifs with zero
    · rw [zero, Nat.cast_zero, zero_div]
      exact isLastPlace_zero
    · exact isLastPlace_placeOf (Nat.pos_of_ne_zero zero) bottom
  have rounds : RoundsHalfEven (numerator / denominator / 2 ^ place) m := by
    have scaled : (numerator / denominator / 2 ^ place : ℚ) =
        (numerator * Nat.pow 2 (-place).toNat : ℕ) / (denominator * Nat.pow 2 place.toNat : ℕ) := by
      rw [zpow_eq_div, Nat.pow_eq, Nat.pow_eq]
      push_cast
      field_simp
    rw [scaled, m_eq]
    exact roundsHalfEven_roundHalfEven _ (Nat.mul_pos bottom (Nat.pow_pos two_pos))
  refine ⟨place, m, last, rounds, ?_⟩
  have unfolded : nearest negative numerator denominator =
      if canonical : CanonicalBinary64 (if m = 9007199254740992 then 4503599627370496 else m)
          (if m = 9007199254740992 then place + 1 else place) then
        some ⟨negative, _, _, canonical⟩
      else none := by
    unfold nearest
    simp only [← place_eq, ← m_eq, decide_eq_true_eq]
  rcases le_or_gt overflowBound (numerator / denominator : ℚ) with overflows | finite
  · refine .inl ⟨overflows, ?_⟩
    rw [unfolded, dif_neg (mt (canonical_iff last rounds).1 (not_lt.2 overflows))]
  · have canonical := (canonical_iff last rounds).2 finite
    refine .inr ⟨finite, ⟨negative, _, _, canonical⟩, ?_, ?_⟩
    · rw [unfolded, dif_pos canonical]
    · unfold value
      dsimp only
      split_ifs with carried
      · refine ⟨congrArg (signed negative) ?_, fun _ => by decide⟩
        rw [carried, zpow_add_one₀ two_ne_zero]
        push_cast
        ring
      · exact ⟨rfl, id⟩

section Quotient

variable {negative : Bool} {numerator denominator : ℕ} (bottom : 0 < denominator)

include bottom in
/-- What a quotient rounds to is the nearest double. -/
theorem isNearest_of_nearest {x : Binary64}
    (found : nearest negative numerator denominator = some x) :
    IsNearest (signed negative (numerator / denominator)) x := by
  obtain ⟨place, m, last, rounds, ⟨_, none⟩ | ⟨finite, y, some, value_eq, even⟩⟩ :=
    nearest_cases negative numerator bottom
  · rw [none] at found
    cases found
  · rw [some] at found
    cases found
    exact isNearest_signed last rounds value_eq finite (by positivity) even

include bottom in
/-- A quotient rounds to no double exactly when it overflows. -/
theorem nearest_eq_none_iff :
    nearest negative numerator denominator = none ↔
      overflowBound ≤ (numerator / denominator : ℚ) := by
  obtain ⟨_, _, _, _, ⟨overflows, none⟩ | ⟨finite, _, some, _⟩⟩ :=
    nearest_cases negative numerator bottom
  · exact iff_of_true none overflows
  · exact iff_of_false (by rw [some]; exact Option.some_ne_none _) (not_le.2 finite)

end Quotient

/-- No two different numbers are nearest. -/
theorem IsNearest.value_unique {r : ℚ} {x y : Binary64} (first : IsNearest r x)
    (second : IsNearest r y) : x.value = y.value := by
  obtain ⟨negative, numerator, denominator, bottom, rfl⟩ : ∃ negative numerator denominator,
      0 < denominator ∧ r = signed negative ((numerator : ℕ) / (denominator : ℕ)) := by
    refine ⟨decide (r < 0), r.num.natAbs, r.den, r.den_pos, ?_⟩
    have magnitude_eq : (r.num.natAbs : ℚ) / r.den = |r| := by
      rw [Nat.cast_natAbs, Int.cast_abs, ← abs_of_nonneg (Nat.cast_nonneg (α := ℚ) r.den),
        ← abs_div, Rat.num_div_den]
    rw [magnitude_eq, signed_abs]
  obtain ⟨place, m, last, rounds, ⟨overflows, _⟩ | ⟨_, z, _, value_eq, _⟩⟩ :=
    nearest_cases negative numerator bottom
  · have finite := first.finite
    rw [abs_signed, abs_of_nonneg (by positivity)] at finite
    exact absurd overflows (not_le.2 finite)
  · exact (value_eq_of_isNearest_signed last rounds value_eq first).trans
      (value_eq_of_isNearest_signed last rounds value_eq second).symm

/-- Every integer below `2^53` in magnitude is a double. -/
theorem exists_value_eq_int {k : ℤ} (small : |k| < 9007199254740992) :
    ∃ x : Binary64, x.value = k := by
  obtain ⟨place, m, last, rounds, outcome⟩ :=
    nearest_cases (decide (k < 0)) k.natAbs Nat.one_pos
  have narrow : (k.natAbs : ℚ) < 9007199254740992 := by
    rw [Nat.cast_natAbs]
    exact_mod_cast small
  rw [Nat.cast_one, div_one] at last rounds outcome
  have nonpos : place ≤ 0 := by
    by_contra positive
    have full := last.above.resolve_left (by omega)
    have wide : (2 : ℚ) ^ (53 : ℤ) ≤ 2 ^ (place + 52) := two_zpow_le_two_zpow (by omega)
    rw [pow_52_mul_zpow] at full
    norm_num at wide
    linarith
  have exact : (m : ℚ) * 2 ^ place = k.natAbs := by
    have none : place.toNat = 0 := by omega
    have unit : (2 : ℚ) ^ place = 1 / 2 ^ (-place).toNat := by rw [zpow_eq_div, none, pow_zero]
    have scaled : (k.natAbs : ℚ) / 2 ^ place = ((k.natAbs * 2 ^ (-place).toNat : ℕ) : ℤ) := by
      rw [unit, div_div_eq_mul_div, div_one]
      norm_cast
    rw [scaled] at rounds
    rw [unit, mul_one_div, div_eq_iff (by positivity)]
    exact_mod_cast rounds.eq_of_int
  rcases outcome with ⟨overflows, _⟩ | ⟨_, x, _, value_eq, _⟩
  · have finite := narrow.trans (lt_of_lt_of_le (by norm_num) pow_64_le_overflowBound)
    exact absurd overflows (not_le.2 finite)
  · exact ⟨x, by rw [value_eq, exact, signed_natAbs]⟩

/-- A magnitude of at most half the least double rounds to zero. -/
theorem isNearest_zero {r : ℚ} (negative : Bool) (nonneg : 0 ≤ r)
    (small : r ≤ 2 ^ (-1075 : ℤ)) : IsNearest (signed negative r) (zero negative) := by
  have unit : (0 : ℚ) < 2 ^ (-1074 : ℤ) := by positivity
  have half : (2 : ℚ) ^ (-1075 : ℤ) = 1 / 2 * 2 ^ (-1074 : ℤ) := by
    rw [show (-1074 : ℤ) = -1075 + 1 from rfl, zpow_add_one₀ two_ne_zero]
    ring
  have scaled : r / 2 ^ (-1074 : ℤ) ≤ 1 / 2 := by
    rwa [div_le_iff₀ unit, ← half]
  have last : IsLastPlace r (-1074) :=
    ⟨le_rfl, by linarith, .inl rfl⟩
  have rounds : RoundsHalfEven (r / 2 ^ (-1074 : ℤ)) 0 := by
    refine ⟨?_, fun _ => by decide⟩
    rwa [Nat.cast_zero, zero_sub, abs_neg, abs_of_nonneg (by positivity)]
  have finite : r < overflowBound := (exponent_le_iff last rounds).1 (by decide)
  refine isNearest_signed last rounds ?_ finite nonneg id
  unfold value zero
  rw [Nat.cast_zero, zero_mul]

/-! ## Whole doubles -/

theorem magnitude_div (x : Binary64) :
    (x.magnitude.1 / x.magnitude.2 : ℚ) = x.significand * 2 ^ x.exponent := by
  unfold magnitude
  rw [zpow_eq_div, Nat.pow_eq, Nat.pow_eq]
  push_cast
  rw [mul_div_assoc]

/-- The integer that a double is, is its value. -/
theorem toInt?_eq_some_iff {x : Binary64} {n : ℤ} : x.toInt? = some n ↔ x.value = n := by
  have bottom : 0 < x.magnitude.2 := Nat.pow_pos two_pos
  rw [value, ← magnitude_div]
  unfold toInt?
  dsimp only
  generalize x.magnitude.1 = numerator
  generalize x.magnitude.2 = denominator at bottom
  have divisor : (denominator : ℚ) ≠ 0 := by exact_mod_cast bottom.ne'
  by_cases divides : numerator % denominator = 0
  · rw [if_pos divides, Option.some_inj,
      ← Nat.cast_div (Nat.dvd_of_mod_eq_zero divides) divisor, ← @Int.cast_inj ℚ]
    generalize numerator / denominator = whole
    cases x.negative
    · rfl
    · rw [if_pos rfl, Int.cast_neg]
      rfl
  · rw [if_neg divides]
    refine iff_of_false nofun fun whole => divides ?_
    have magnitude_eq : (numerator / denominator : ℚ) = (n.natAbs : ℚ) := by
      have same := congrArg abs whole
      rw [abs_signed, abs_of_nonneg (by positivity)] at same
      rw [same, Nat.cast_natAbs, Int.cast_abs]
    rw [div_eq_iff divisor] at magnitude_eq
    have multiple : numerator = n.natAbs * denominator := by exact_mod_cast magnitude_eq
    rw [multiple, Nat.mul_mod_left]

end Binary64

end RoutePlan
