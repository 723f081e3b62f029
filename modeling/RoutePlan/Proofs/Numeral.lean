import Mathlib.Data.Nat.Digits.Defs
import Mathlib.Data.List.TakeWhile
import RoutePlan.Numeral
import RoutePlan.Proofs.Binary64

/-!
# What numerals denote

The grammar of numerals relates a text to the rational that it denotes: digits of a radix
after a mark, or a decimal literal, a sign, digits with at most one point and an exponent
of which only the digits cannot be left out.  Reading accepts exactly this grammar, and
the double nearest to a literal is the double nearest to what its text denotes.
-/

namespace RoutePlan

namespace Numeral

/-! ## The grammar -/

/-- A digit of a radix up to sixteen, a letter in either case, and what it counts. -/
def IsDigit (radix : ℕ) (c : Char) (count : ℕ) : Prop :=
  count < radix ∧ (c = count.digitChar ∨ c = count.digitChar.toUpper)

/-- Digits, and what they count together. -/
def Digits (radix : ℕ) (text : List Char) (n : ℕ) : Prop :=
  ∃ counts, List.Forall₂ (IsDigit radix) text counts ∧ n = Nat.ofDigits radix counts.reverse

/-- A sign that may be left out; `true` is minus. -/
inductive Sign : List Char → Bool → Prop
  | absent : Sign [] false
  | plus : Sign ['+'] false
  | minus : Sign ['-'] true

/-- Digits with at most one point among them, and at least one digit. -/
inductive Pointed : List Char → ℚ → Prop
  | whole {digits : List Char} {n : ℕ} (nonempty : digits ≠ []) (counted : Digits 10 digits n) :
      Pointed digits n
  | point {whole fraction : List Char} {n m : ℕ} (nonempty : whole ++ fraction ≠ [])
      (counted : Digits 10 whole n) (countedFraction : Digits 10 fraction m) :
      Pointed (whole ++ '.' :: fraction) (n + m / 10 ^ fraction.length)

/-- An exponent that may be left out: a mark, an optional sign and digits. -/
inductive Exponent : List Char → ℤ → Prop
  | absent : Exponent [] 0
  | marked {mark : Char} {sign digits : List Char} {negative : Bool} {n : ℕ}
      (marks : mark = 'e' ∨ mark = 'E') (signs : Sign sign negative) (nonempty : digits ≠ [])
      (counted : Digits 10 digits n) :
      Exponent (mark :: (sign ++ digits)) (if negative then -(n : ℤ) else n)

/-- A decimal literal and the rational that it denotes. -/
inductive Decimal : List Char → ℚ → Prop
  | literal {sign digits exponent : List Char} {negative : Bool} {r : ℚ} {e : ℤ}
      (signs : Sign sign negative) (counted : Pointed digits r) (scales : Exponent exponent e) :
      Decimal (sign ++ (digits ++ exponent)) (signed negative (r * 10 ^ e))

/-- The marks of the radixes. -/
def marks : List (Char × ℕ) :=
  [('x', 16), ('X', 16), ('o', 8), ('O', 8), ('b', 2), ('B', 2)]

/-- Digits after a zero and the mark of their radix. -/
inductive Radix : List Char → ℕ → Prop
  | marked {mark : Char} {radix n : ℕ} {digits : List Char} (member : (mark, radix) ∈ marks)
      (nonempty : digits ≠ []) (counted : Digits radix digits n) : Radix ('0' :: mark :: digits) n

/-! ## Digits -/

theorem digitValue_digitChar : ∀ count < 16,
    digitValue count.digitChar = count ∧ digitValue count.digitChar.toUpper = count := by
  decide

/-- A character with the value of a hexadecimal digit is spelled as one. -/
theorem eq_digitChar_of_digitValue_lt {c : Char} (less : digitValue c < 16) :
    c = (digitValue c).digitChar ∨ c = (digitValue c).digitChar.toUpper := by
  have spelled : ∀ code < 128, digitValue (Char.ofNat code) < 16 →
      Char.ofNat code = (digitValue (Char.ofNat code)).digitChar ∨
        Char.ofNat code = (digitValue (Char.ofNat code)).digitChar.toUpper := by
    decide +kernel
  have ascii : c.toNat < 128 := by
    unfold digitValue at less
    split_ifs at less with decimal lower upper
    · have upTo : c.toNat ≤ '9'.toNat := decimal.2
      exact upTo.trans_lt (by decide)
    · have upTo : c.toNat ≤ 'z'.toNat := lower.2
      exact upTo.trans_lt (by decide)
    · have upTo : c.toNat ≤ 'Z'.toNat := upper.2
      exact upTo.trans_lt (by decide)
    · omega
  have same := spelled c.toNat ascii
  rw [Char.ofNat_toNat] at same
  exact same less

theorem isDigit_iff {radix : ℕ} (small : radix ≤ 16) {c : Char} {count : ℕ} :
    IsDigit radix c count ↔ digitValue c < radix ∧ count = digitValue c := by
  constructor
  · rintro ⟨less, rfl | rfl⟩
    · rw [(digitValue_digitChar count (less.trans_le small)).1]
      exact ⟨less, rfl⟩
    · rw [(digitValue_digitChar count (less.trans_le small)).2]
      exact ⟨less, rfl⟩
  · rintro ⟨less, rfl⟩
    exact ⟨less, eq_digitChar_of_digitValue_lt (less.trans_le small)⟩

theorem naturalOf_eq_ofDigits (radix : ℕ) (digits : List Char) :
    naturalOf radix digits = Nat.ofDigits radix (digits.map digitValue).reverse := by
  rw [Nat.ofDigits_eq_foldr, List.foldr_reverse, List.foldl_map]
  unfold naturalOf
  congr 1
  funext value c
  rw [add_comm, mul_comm]
  rfl

/-- Digits and what they count are what the fold over them reads. -/
theorem digits_iff {radix : ℕ} (small : radix ≤ 16) {text : List Char} {n : ℕ} :
    Digits radix text n ↔ (∀ c ∈ text, isDigitOf radix c = true) ∧ n = naturalOf radix text := by
  have read (counts : List ℕ) : List.Forall₂ (IsDigit radix) text counts ↔
      (∀ c ∈ text, isDigitOf radix c = true) ∧ counts = text.map digitValue := by
    induction text generalizing counts with
    | nil => simp
    | cons c rest ih =>
        simp only [List.forall₂_cons_left_iff, isDigit_iff small, ih, List.forall_mem_cons,
          isDigitOf, decide_eq_true_eq, List.map_cons]
        grind
  rw [naturalOf_eq_ofDigits]
  unfold Digits
  simp only [read]
  grind

theorem naturalOf_append (radix : ℕ) (front rest : List Char) :
    naturalOf radix (front ++ rest) =
      naturalOf radix front * radix ^ rest.length + naturalOf radix rest := by
  rw [naturalOf_eq_ofDigits, naturalOf_eq_ofDigits, naturalOf_eq_ofDigits, List.map_append,
    List.reverse_append, Nat.ofDigits_append, List.length_reverse, List.length_map]
  ring

/-! ## Reading -/

/-- The rest of a text that ends a run of decimal digits. -/
def EndsDigits (rest : List Char) : Prop :=
  ∀ c ∈ rest.head?, isDigitOf 10 c = false

theorem span_eq_iff {text front rest : List Char} :
    text.span (isDigitOf 10) = (front, rest) ↔
      text = front ++ rest ∧ (∀ c ∈ front, isDigitOf 10 c = true) ∧ EndsDigits rest := by
  rw [List.span_eq_takeWhile_dropWhile, Prod.mk.injEq]
  constructor
  · rintro ⟨rfl, rfl⟩
    refine ⟨List.takeWhile_append_dropWhile.symm, fun c => List.mem_takeWhile_imp, ?_⟩
    intro c first
    have stops := List.head?_dropWhile_not (isDigitOf 10) text
    rw [Option.mem_def.1 first] at stops
    exact stops
  · rintro ⟨rfl, digits, stops⟩
    rw [List.takeWhile_append_of_pos digits, List.dropWhile_append_of_pos digits]
    cases rest with
    | nil => simp
    | cons c rest =>
        have stop : isDigitOf 10 c = false := stops c rfl
        simp [stop]

theorem readNatural?_eq_some_iff {radix : ℕ} (small : radix ≤ 16) {text : List Char} {n : ℕ} :
    readNatural? radix text = some n ↔ text ≠ [] ∧ Digits radix text n := by
  unfold readNatural?
  rw [Option.ite_none_right_eq_some, Option.some_inj, List.all_eq_true, digits_iff small,
    and_assoc, eq_comm]

/-- A text that begins with no sign. -/
def Unsigned (text : List Char) : Prop :=
  ∀ c ∈ text.head?, c ≠ '-' ∧ c ≠ '+'

theorem splitSign_eq_iff {text rest : List Char} {negative : Bool} :
    splitSign text = (negative, rest) ↔
      ∃ sign, Sign sign negative ∧ text = sign ++ rest ∧ (sign = [] → Unsigned rest) := by
  constructor
  · intro split
    unfold splitSign at split
    split at split
    · cases split
      exact ⟨['-'], .minus, rfl, nofun⟩
    · cases split
      exact ⟨['+'], .plus, rfl, nofun⟩
    · rename_i notMinus notPlus
      cases split
      refine ⟨[], .absent, rfl, fun _ c first => ?_⟩
      obtain ⟨tail, rfl⟩ := List.head?_eq_some_iff.1 first
      constructor
      · rintro rfl
        exact notMinus tail rfl
      · rintro rfl
        exact notPlus tail rfl
  · rintro ⟨sign, signs, rfl, plain⟩
    cases signs with
    | plus => rfl
    | minus => rfl
    | absent =>
        rw [List.nil_append]
        unfold splitSign
        split
        · exact absurd rfl (plain rfl '-' rfl).1
        · exact absurd rfl (plain rfl '+' rfl).2
        · rfl

theorem Digits.unsigned {text : List Char} {n : ℕ} (counted : Digits 10 text n) :
    Unsigned text := by
  intro c first
  have digit := ((digits_iff (by decide)).1 counted).1 c (List.mem_of_mem_head? first)
  constructor
  · rintro rfl
    exact absurd digit (by decide)
  · rintro rfl
    exact absurd digit (by decide)

theorem readExponent?_marked {mark : Char} {rest digits : List Char} {negative : Bool}
    (marks : mark = 'e' ∨ mark = 'E') (split : splitSign rest = (negative, digits)) :
    readExponent? (mark :: rest) =
      (readNatural? 10 digits).map fun n : ℕ => if negative then -(n : ℤ) else n := by
  rw [readExponent?, if_pos marks, split]
  dsimp only
  cases readNatural? 10 digits <;> rfl

theorem readExponent?_eq_some_iff {text : List Char} {e : ℤ} :
    readExponent? text = some e ↔ Exponent text e := by
  constructor
  · intro read
    cases text with
    | nil =>
        cases read
        exact .absent
    | cons mark rest =>
        have marks := (Option.ite_none_right_eq_some.1 read).1
        obtain ⟨negative, digits, split⟩ : ∃ negative digits, splitSign rest = (negative, digits) :=
          ⟨_, _, rfl⟩
        rw [readExponent?_marked marks split] at read
        obtain ⟨n, natural, rfl⟩ := Option.map_eq_some_iff.1 read
        obtain ⟨nonempty, counted⟩ := (readNatural?_eq_some_iff (by decide)).1 natural
        obtain ⟨sign, signs, rfl, _⟩ := splitSign_eq_iff.1 split
        exact .marked marks signs nonempty counted
  · intro exponent
    cases exponent with
    | absent => rfl
    | @marked mark sign digits negative n marks signs nonempty counted =>
        have split : splitSign (sign ++ digits) = (negative, digits) :=
          splitSign_eq_iff.2 ⟨sign, signs, rfl, fun _ => counted.unsigned⟩
        rw [readExponent?_marked marks split,
          (readNatural?_eq_some_iff (by decide)).2 ⟨nonempty, counted⟩]
        rfl

end Numeral

/-! ## Decimal literals -/

namespace DecimalLiteral

open Numeral

/-- The rational that a literal stands for. -/
def value (literal : DecimalLiteral) : ℚ :=
  signed literal.negative (literal.digits * 10 ^ literal.exponent)

/-- The digits after a point, when there is a point, and what follows them. -/
def splitFraction : List Char → List Char × List Char
  | '.' :: rest => rest.span (isDigitOf 10)
  | rest => ([], rest)

theorem splitFraction_point {fraction rest : List Char}
    (digits : ∀ c ∈ fraction, isDigitOf 10 c = true) (ends : EndsDigits rest) :
    splitFraction ('.' :: (fraction ++ rest)) = (fraction, rest) :=
  span_eq_iff.2 ⟨rfl, digits, ends⟩

theorem splitFraction_of_ne {rest : List Char} (apart : rest.head? ≠ some '.') :
    splitFraction rest = ([], rest) := by
  unfold splitFraction
  split
  · exact absurd rfl apart
  · rfl

/-- A literal is read in four parts: sign, whole digits, fraction and exponent. -/
theorem read?_eq {text unsigned whole afterWhole fraction afterFraction : List Char}
    {negative : Bool} (signs : splitSign text = (negative, unsigned))
    (wholes : unsigned.span (isDigitOf 10) = (whole, afterWhole))
    (fractions : splitFraction afterWhole = (fraction, afterFraction)) :
    read? text =
      if whole = [] ∧ fraction = [] then none
      else (readExponent? afterFraction).map fun e =>
        ⟨negative, naturalOf 10 (whole ++ fraction), e - fraction.length⟩ := by
  rw [read?, signs]
  dsimp only
  rw [wholes]
  dsimp only
  change (if whole = [] ∧ (splitFraction afterWhole).1 = [] then none
    else (readExponent? (splitFraction afterWhole).2).map fun e =>
      (⟨negative, naturalOf 10 (whole ++ (splitFraction afterWhole).1),
        e - (splitFraction afterWhole).1.length⟩ : DecimalLiteral)) = _
  rw [fractions]

/-- The digits of a literal count units of the last place of its fraction. -/
theorem shift_point (n m : ℕ) (length : ℕ) (e : ℤ) :
    ((n : ℚ) + m / 10 ^ length) * 10 ^ e = (n * 10 ^ length + m : ℕ) * 10 ^ (e - length) := by
  rw [zpow_sub₀ (by norm_num), zpow_natCast]
  push_cast
  field_simp

theorem endsDigits_of_exponent {text : List Char} {e : ℤ} (exponent : Exponent text e) :
    EndsDigits text ∧ text.head? ≠ some '.' := by
  cases exponent with
  | absent => exact ⟨nofun, nofun⟩
  | marked marks =>
      rcases marks with rfl | rfl
      · exact ⟨fun c first => by cases first; rfl, nofun⟩
      · exact ⟨fun c first => by cases first; rfl, nofun⟩

theorem unsigned_of_pointed {digits : List Char} {r : ℚ} (counted : Pointed digits r)
    (exponent : List Char) : Unsigned (digits ++ exponent) := by
  cases counted with
  | whole nonempty counted =>
      obtain ⟨c, rest, rfl⟩ := List.exists_cons_of_ne_nil nonempty
      exact counted.unsigned
  | @point whole fraction n m nonempty counted countedFraction =>
      cases whole with
      | nil => exact fun c first => by cases first; decide
      | cons c rest => exact counted.unsigned

theorem exists_literal_of_decimal {text : List Char} {r : ℚ} (decimal : Decimal text r) :
    ∃ literal, read? text = some literal ∧ literal.value = r := by
  obtain @⟨sign, digits, exponent, negative, r, e, signs, counted, scales⟩ := decimal
  obtain ⟨ends, apart⟩ := endsDigits_of_exponent scales
  have scaled := readExponent?_eq_some_iff.2 scales
  have split : splitSign (sign ++ (digits ++ exponent)) = (negative, digits ++ exponent) :=
    splitSign_eq_iff.2 ⟨sign, signs, rfl, fun _ => unsigned_of_pointed counted exponent⟩
  cases counted with
  | @whole digits n nonempty counted =>
      obtain ⟨all, rfl⟩ := (digits_iff (by decide)).1 counted
      have spanned := span_eq_iff.2 ⟨rfl, all, ends⟩
      refine ⟨⟨negative, naturalOf 10 digits, e⟩, ?_, rfl⟩
      rw [read?_eq split spanned (splitFraction_of_ne apart), if_neg fun none => nonempty none.1,
        scaled, List.append_nil]
      simp
  | @point whole fraction n m nonempty counted countedFraction =>
      obtain ⟨all, rfl⟩ := (digits_iff (by decide)).1 counted
      obtain ⟨allFraction, rfl⟩ := (digits_iff (by decide)).1 countedFraction
      have point : EndsDigits ('.' :: (fraction ++ exponent)) := fun c first => by
        cases first
        rfl
      have spanned : (whole ++ '.' :: fraction ++ exponent).span (isDigitOf 10) =
          (whole, '.' :: (fraction ++ exponent)) :=
        span_eq_iff.2 ⟨List.append_assoc _ _ _, all, point⟩
      refine ⟨⟨negative, naturalOf 10 (whole ++ fraction), e - fraction.length⟩, ?_, ?_⟩
      · rw [read?_eq split spanned (splitFraction_point allFraction ends),
          if_neg fun none => nonempty (List.append_eq_nil_iff.2 none), scaled]
        rfl
      · unfold value
        rw [shift_point, naturalOf_append]

theorem decimal_of_read? {text : List Char} {literal : DecimalLiteral}
    (read : read? text = some literal) : Decimal text literal.value := by
  obtain ⟨negative, unsigned, split⟩ : ∃ negative unsigned, splitSign text = (negative, unsigned) :=
    ⟨_, _, rfl⟩
  obtain ⟨whole, afterWhole, spanned⟩ :
      ∃ whole afterWhole, unsigned.span (isDigitOf 10) = (whole, afterWhole) := ⟨_, _, rfl⟩
  obtain ⟨sign, signs, rfl, _⟩ := splitSign_eq_iff.1 split
  obtain ⟨rfl, all, _⟩ := span_eq_iff.1 spanned
  have counted := (digits_iff (by decide)).2 ⟨all, rfl⟩
  by_cases point : afterWhole.head? = some '.'
  · obtain ⟨rest, rfl⟩ := List.head?_eq_some_iff.1 point
    obtain ⟨fraction, exponent, spannedFraction⟩ :
        ∃ fraction exponent, rest.span (isDigitOf 10) = (fraction, exponent) := ⟨_, _, rfl⟩
    obtain ⟨rfl, allFraction, ends⟩ := span_eq_iff.1 spannedFraction
    have countedFraction := (digits_iff (by decide)).2 ⟨allFraction, rfl⟩
    rw [read?_eq split spanned (splitFraction_point allFraction ends)] at read
    obtain ⟨nonempty, found⟩ := Option.ite_none_left_eq_some.1 read
    obtain ⟨e, scaled, rfl⟩ := Option.map_eq_some_iff.1 found
    have scales := readExponent?_eq_some_iff.1 scaled
    have nonempty : whole ++ fraction ≠ [] := fun none =>
      nonempty (List.append_eq_nil_iff.1 none)
    have literal := Decimal.literal signs (.point nonempty counted countedFraction) scales
    rw [shift_point, ← naturalOf_append] at literal
    rw [List.append_assoc] at literal
    exact literal
  · rw [read?_eq split spanned (splitFraction_of_ne point)] at read
    obtain ⟨nonempty, found⟩ := Option.ite_none_left_eq_some.1 read
    obtain ⟨e, scaled, rfl⟩ := Option.map_eq_some_iff.1 found
    have scales := readExponent?_eq_some_iff.1 scaled
    have nonempty : whole ≠ [] := fun none => nonempty ⟨none, rfl⟩
    have literal := Decimal.literal signs (.whole nonempty counted) scales
    rw [List.append_nil, List.length_nil, Nat.cast_zero, sub_zero]
    exact literal

/-- Reading accepts exactly the decimal literals, each with the rational it denotes. -/
theorem decimal_iff {text : List Char} {r : ℚ} :
    Decimal text r ↔ ∃ literal, read? text = some literal ∧ literal.value = r := by
  constructor
  · exact exists_literal_of_decimal
  · rintro ⟨literal, read, rfl⟩
    exact decimal_of_read? read

/-! ### The nearest double -/

section Width

variable {literal : DecimalLiteral}

theorem abs_value (literal : DecimalLiteral) :
    |literal.value| = literal.digits * 10 ^ literal.exponent := by
  rw [value, abs_signed, abs_of_nonneg (by positivity)]

/-- The number of digits tells the leading place of a literal. -/
theorem abs_value_bounds (nonzero : literal.digits ≠ 0) :
    (10 : ℚ) ^ (literal.exponent + Binary64.decimalWidth literal.digits - 1) ≤ |literal.value| ∧
      |literal.value| < (10 : ℚ) ^ (literal.exponent + Binary64.decimalWidth literal.digits) := by
  have unit : (0 : ℚ) < 10 ^ literal.exponent := by positivity
  obtain ⟨width, width_eq⟩ : ∃ w, Binary64.decimalWidth literal.digits = w + 1 :=
    Nat.exists_eq_succ_of_ne_zero Nat.length_toDigits_pos.ne'
  have less : literal.digits < 10 ^ (width + 1) :=
    (Nat.length_toDigits_le_iff (by decide) (Nat.succ_pos _)).1 width_eq.le
  have least : 10 ^ width ≤ literal.digits := by
    rcases Nat.eq_zero_or_pos width with rfl | positive
    · exact Nat.one_le_iff_ne_zero.2 nonzero
    · refine le_of_not_gt fun small => ?_
      have := (Nat.length_toDigits_le_iff (by decide) positive).2 small
      unfold Binary64.decimalWidth at width_eq
      omega
  rw [abs_value, width_eq, Nat.cast_succ, ← add_assoc, add_sub_cancel_right, add_assoc,
    zpow_add₀ (by norm_num), zpow_add₀ (by norm_num), mul_comm (literal.digits : ℚ)]
  constructor
  · refine mul_le_mul_of_nonneg_left ?_ unit.le
    rw [zpow_natCast]
    exact_mod_cast least
  · refine mul_lt_mul_of_pos_left ?_ unit
    exact_mod_cast less

end Width

theorem two_pow_le_ten_pow {low high : ℕ} (le : low ≤ 3 * high) : (2 : ℚ) ^ low ≤ 10 ^ high := by
  calc
    (2 : ℚ) ^ low ≤ 2 ^ (3 * high) := pow_le_pow_right₀ one_le_two le
    _ = (2 ^ 3) ^ high := pow_mul _ _ _
    _ ≤ 10 ^ high := pow_le_pow_left₀ (by norm_num) (by norm_num) high

/-- A literal of more than four hundred places overflows. -/
theorem overflowBound_le_of_lt {place : ℤ} (large : 400 < place) :
    Binary64.overflowBound ≤ 10 ^ (place - 1) := by
  calc
    Binary64.overflowBound ≤ 2 ^ 1024 := sub_le_self _ (by positivity)
    _ ≤ 10 ^ 400 := two_pow_le_ten_pow (by decide)
    _ = (10 : ℚ) ^ (400 : ℤ) := (zpow_natCast _ _).symm
    _ ≤ 10 ^ (place - 1) := zpow_le_zpow_right₀ (by norm_num) (by omega)

/-- A literal that begins more than four hundred places after the point is nearest to
zero. -/
theorem pow_le_of_lt {place : ℤ} (small : place < -400) :
    (10 : ℚ) ^ place ≤ 2 ^ (-1075 : ℤ) := by
  calc
    (10 : ℚ) ^ place ≤ 10 ^ (-((401 : ℕ) : ℤ)) :=
      zpow_le_zpow_right₀ (by norm_num) (by push_cast; omega)
    _ = (10 ^ 401)⁻¹ := by rw [zpow_neg, zpow_natCast]
    _ ≤ (2 ^ 1075)⁻¹ := inv_anti₀ (by positivity) (two_pow_le_ten_pow (by decide))
    _ = 2 ^ (-((1075 : ℕ) : ℤ)) := by rw [zpow_neg, zpow_natCast]

theorem value_eq_div (literal : DecimalLiteral) :
    literal.value = signed literal.negative
      ((literal.digits * Nat.pow 10 literal.exponent.toNat : ℕ) /
        (Nat.pow 10 (-literal.exponent).toNat : ℕ)) := by
  rw [value, zpow_eq_div, Nat.pow_eq, Nat.pow_eq]
  push_cast
  rw [mul_div_assoc]

/-- A literal is rounded to the double nearest to it, and to none exactly when it
overflows. -/
theorem nearest_cases (literal : DecimalLiteral) :
    (∃ x, literal.nearest = some x ∧ Binary64.IsNearest literal.value x) ∨
      literal.nearest = none ∧ Binary64.overflowBound ≤ |literal.value| := by
  have nonneg : (0 : ℚ) ≤ literal.digits * 10 ^ literal.exponent := by positivity
  unfold nearest
  dsimp only
  split_ifs with zero large small
  · refine .inl ⟨_, rfl, Binary64.isNearest_zero _ nonneg ?_⟩
    rw [zero, Nat.cast_zero, zero_mul]
    positivity
  · exact .inr ⟨rfl, (overflowBound_le_of_lt large).trans (abs_value_bounds zero).1⟩
  · refine .inl ⟨_, rfl, Binary64.isNearest_zero _ nonneg ?_⟩
    rw [← abs_value]
    exact (abs_value_bounds zero).2.le.trans (pow_le_of_lt small)
  · have bottom : 0 < Nat.pow 10 (-literal.exponent).toNat := Nat.pow_pos (by decide)
    rw [value_eq_div]
    cases found : Binary64.nearest literal.negative
        (literal.digits * Nat.pow 10 literal.exponent.toNat)
        (Nat.pow 10 (-literal.exponent).toNat) with
    | some x => exact .inl ⟨x, rfl, Binary64.isNearest_of_nearest bottom found⟩
    | none =>
        refine .inr ⟨rfl, ?_⟩
        rw [abs_signed, abs_of_nonneg (by positivity)]
        exact (Binary64.nearest_eq_none_iff bottom).1 found

end DecimalLiteral

/-! ## Integers -/

namespace Numeral

/-- The decimal digits of a natural count it. -/
theorem naturalOf_toDigits (n : ℕ) : naturalOf 10 (Nat.toDigits 10 n) = n := by
  induction n using Nat.strong_induction_on with
  | _ n ih =>
      rcases lt_or_ge n 10 with small | large
      · rw [Nat.toDigits_of_lt_base small]
        exact (Nat.zero_add _).trans (digitValue_digitChar n (by omega)).1
      · rw [Nat.toDigits_of_base_le (by decide) large, naturalOf_append,
          ih (n / 10) (by omega)]
        have last : naturalOf 10 [(n % 10).digitChar] = n % 10 :=
          (Nat.zero_add _).trans (digitValue_digitChar (n % 10) (by omega)).1
        rw [last, List.length_singleton, pow_one]
        omega

theorem isDigitOf_of_isDigit {c : Char} (digit : c.isDigit = true) : isDigitOf 10 c = true := by
  obtain ⟨least, greatest⟩ := Bool.and_eq_true_iff.1 digit
  have atLeast : '0' ≤ c := of_decide_eq_true least
  have atMost : c ≤ '9' := of_decide_eq_true greatest
  have bound : c.toNat ≤ '9'.toNat := atMost
  rw [isDigitOf, digitValue, if_pos ⟨atLeast, atMost⟩, decide_eq_true_eq]
  have code : '9'.toNat = 57 := rfl
  omega

theorem digits_toDigits (n : ℕ) : Digits 10 (Nat.toDigits 10 n) n :=
  (digits_iff (by decide)).2
    ⟨fun _ member => isDigitOf_of_isDigit (Nat.isDigit_of_mem_toDigits (by decide) le_rfl member),
      (naturalOf_toDigits n).symm⟩

/-- An integer is written with its sign and its digits. -/
theorem exists_toString_eq (k : ℤ) :
    ∃ sign negative, Sign sign negative ∧
      (toString k).toList = sign ++ Nat.toDigits 10 k.natAbs ∧
      (k : ℚ) = signed negative k.natAbs := by
  cases k with
  | ofNat n =>
      refine ⟨[], false, .absent, ?_, ?_⟩
      · exact Nat.toList_repr
      · rfl
  | negSucc n =>
      refine ⟨['-'], true, .minus, ?_, ?_⟩
      · have spelled : toString (Int.negSucc n) = "-" ++ (n + 1).repr := rfl
        rw [spelled, String.toList_append, Nat.toList_repr]
        rfl
      · rw [Int.cast_negSucc]
        rfl

/-- The text of an integer is a decimal literal that denotes it. -/
theorem decimal_toString (k : ℤ) : Decimal (toString k).toList k := by
  obtain ⟨sign, negative, signs, spelled, value_eq⟩ := exists_toString_eq k
  have literal := Decimal.literal signs
    (.whole (List.ne_nil_of_length_pos Nat.length_toDigits_pos) (digits_toDigits k.natAbs)) .absent
  rw [zpow_zero, mul_one, ← value_eq, List.append_nil, ← spelled] at literal
  exact literal

end Numeral

end RoutePlan
