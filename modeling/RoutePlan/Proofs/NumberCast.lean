import RoutePlan.Proofs.NumeralDouble

/-!
# Numbers from text

A text that is cast to a number is trimmed, and then blank or a numeral.  The number is
the double nearest to what the numeral denotes, held as an integer when it is whole and
within 64 signed bits.  One double is not held as it is: `2^63`, which becomes the
greatest signed integer.

Since text goes through a double and a number of a document does not, the two agree on an
integer exactly when it is a double below `2^63`, or that greatest integer.

Any other text is rejected, with itself in the message.
-/

namespace RoutePlan

open Binary64 (IsNearest overflowBound)

/-! ## Doubles as numbers -/

namespace Number

/-- The rational that a number stands for. -/
def value : Number → ℚ
  | .integer n _ => n
  | .double x => x.value

/-- Whether the number is held as an integer. -/
def IsInteger : Number → Prop
  | .integer _ _ => True
  | .double _ => False

/-- The number is the double as it should be held: with its value, as an integer exactly
when the double is whole and within 64 signed bits, and as the double itself otherwise. -/
structure Holds (n : Number) (x : Binary64) : Prop where
  same : n.value = x.value
  integer : n.IsInteger ↔
    ∃ k : ℤ, x.value = k ∧ -9223372036854775808 ≤ k ∧ k ≤ 9223372036854775807
  double : ¬n.IsInteger → n = .double x

end Number

theorem wholeOrDouble_of_whole {x : Binary64} {k : ℤ} (whole : x.value = k)
    (bounds : -9223372036854775808 ≤ k ∧ k ≤ 9223372036854775807) :
    wholeOrDouble x = .integer k (by omega) := by
  rw [wholeOrDouble, Binary64.toInt?_eq_some_iff.2 whole]
  dsimp only
  rw [if_pos (by omega), min_eq_left bounds.2, Number.ofInt?, dif_pos (by omega)]
  rfl

/-- The one double that is not held as it is. -/
theorem wholeOrDouble_of_pow_63 {x : Binary64} (same : x.value = 2 ^ 63) :
    wholeOrDouble x = .integer 9223372036854775807 := by
  have whole : x.value = (9223372036854775808 : ℤ) := by
    rw [same]
    norm_num
  rw [wholeOrDouble, Binary64.toInt?_eq_some_iff.2 whole]
  rfl

theorem wholeOrDouble_of_apart {x : Binary64}
    (apart : ∀ k : ℤ, x.value = k → k < -9223372036854775808 ∨ 9223372036854775808 < k) :
    wholeOrDouble x = .double x := by
  cases whole : x.toInt? with
  | none => rw [wholeOrDouble, whole]
  | some k =>
      have outside := apart k (Binary64.toInt?_eq_some_iff.1 whole)
      rw [wholeOrDouble, whole]
      dsimp only
      rw [if_neg (by omega)]

/-- Where a double lies decides how it is held. -/
theorem wholeOrDouble_cases (x : Binary64) :
    (∃ k : ℤ, x.value = k ∧ -9223372036854775808 ≤ k ∧ k ≤ 9223372036854775807) ∨
      x.value = 2 ^ 63 ∨
      ∀ k : ℤ, x.value = k → k < -9223372036854775808 ∨ 9223372036854775808 < k := by
  by_cases held : ∃ k : ℤ, x.value = k ∧ -9223372036854775808 ≤ k ∧ k ≤ 9223372036854775808
  · obtain ⟨k, whole, least, greatest⟩ := held
    rcases greatest.lt_or_eq with less | rfl
    · exact .inl ⟨k, whole, least, by omega⟩
    · refine .inr (.inl ?_)
      rw [whole]
      norm_num
  · refine .inr (.inr fun k whole => ?_)
    by_contra inside
    exact held ⟨k, whole, by omega⟩

theorem holds_wholeOrDouble_iff (x : Binary64) :
    (wholeOrDouble x).Holds x ↔ x.value ≠ 2 ^ 63 := by
  rcases wholeOrDouble_cases x with ⟨k, whole, bounds⟩ | greatest | apart
  · rw [wholeOrDouble_of_whole whole bounds]
    refine iff_of_true ⟨whole.symm, iff_of_true trivial ⟨k, whole, bounds⟩, fun double =>
      absurd trivial double⟩ fun greatest => ?_
    have same : k = 2 ^ 63 := by exact_mod_cast whole.symm.trans greatest
    omega
  · rw [wholeOrDouble_of_pow_63 greatest]
    refine iff_of_false (fun holds => ?_) (not_not.2 greatest)
    have same := holds.same.trans greatest
    unfold Number.value at same
    norm_num at same
  · rw [wholeOrDouble_of_apart apart]
    refine iff_of_true ⟨rfl, iff_of_false id ?_, fun _ => rfl⟩ fun greatest => ?_
    · rintro ⟨k, whole, bounds⟩
      have := apart k whole
      omega
    · have := apart (2 ^ 63) (by rw [greatest]; norm_num)
      omega

/-! ## Trimming -/

namespace Text

theorem isBlank_of_isDigit {c : Char} (digit : c.isDigit = true) : isBlank c = false := by
  obtain ⟨least, greatest⟩ := Bool.and_eq_true_iff.1 digit
  have atLeast : '0'.toNat ≤ c.toNat := of_decide_eq_true least
  have atMost : c.toNat ≤ '9'.toNat := of_decide_eq_true greatest
  have zero : '0'.toNat = 48 := rfl
  have nine : '9'.toNat = 57 := rfl
  rw [← Bool.not_eq_true]
  simp only [isBlank, Bool.or_eq_true, Bool.and_eq_true, beq_iff_eq, decide_eq_true_eq]
  omega

theorem trimChars_eq_self {chars : List Char} (plain : ∀ c ∈ chars, isBlank c = false) :
    trimChars chars = chars := by
  have keeps (chars : List Char) (plain : ∀ c ∈ chars, isBlank c = false) :
      chars.dropWhile isBlank = chars := by
    cases chars with
    | nil => rfl
    | cons c rest => rw [List.dropWhile_cons, plain c List.mem_cons_self, if_neg Bool.false_ne_true]
  rw [trimChars, keeps chars plain,
    keeps _ fun c member => plain c (List.mem_reverse.1 member), List.reverse_reverse]

/-- The text of an integer has nothing to trim. -/
theorem trim_toString (k : ℤ) : trim (toString k) = toString k := by
  have plain : ∀ c ∈ (toString k).toList, isBlank c = false := by
    intro c member
    obtain ⟨sign, negative, signs, spelled, _⟩ := Numeral.exists_toString_eq k
    rw [spelled] at member
    rcases List.mem_append.1 member with first | digit
    · cases signs with
      | absent => cases first
      | plus => rw [List.mem_singleton.1 first]; rfl
      | minus => rw [List.mem_singleton.1 first]; rfl
    · exact isBlank_of_isDigit (Nat.isDigit_of_mem_toDigits (by decide) le_rfl digit)
  rw [← String.toList_inj, toList_trim, trimChars_eq_self plain]

end Text

/-! ## Casting text -/

namespace ParamKind

section Numeral

variable {text : String}

theorem cast_number_of_nonblank (nonblank : Text.trim text ≠ "") :
    cast .number (.string text) = (numeralDouble? (Text.trim text).toList).elim
      (.error (.notNumber text)) fun x => .ok (.number (wholeOrDouble x)) := by
  have nonempty : Text.trimChars text.toList ≠ [] := by
    rwa [← Text.toList_trim, Ne, String.toList_eq_nil_iff]
  have read : textNumber? text = (numeralDouble? (Text.trim text).toList).map wholeOrDouble := by
    rw [Text.toList_trim]
    exact if_neg nonempty
  rw [cast, castNumber, read]
  cases numeralDouble? (Text.trim text).toList <;> rfl

/-- A numeral is cast to the number that holds the nearest double, unless it overflows. -/
theorem cast_number_of_denotes {r : ℚ} (denotes : Numeral.Denotes (Text.trim text).toList r) :
    (∃ x, cast .number (.string text) = .ok (.number (wholeOrDouble x)) ∧ IsNearest r x) ∨
      cast .number (.string text) = .error (.notNumber text) ∧ overflowBound ≤ |r| := by
  have nonblank : Text.trim text ≠ "" := fun blank => denotes.ne_nil (by rw [blank]; rfl)
  rw [cast_number_of_nonblank nonblank]
  rcases Numeral.numeralDouble?_of_denotes denotes with ⟨x, found, nearest⟩ | ⟨none, overflows⟩
  · rw [found]
    exact .inl ⟨x, rfl, nearest⟩
  · rw [none]
    exact .inr ⟨rfl, overflows⟩

/-- Text that is not blank and is cast to a number is a numeral with a nearest double. -/
theorem exists_nearest_of_cast_number (nonblank : Text.trim text ≠ "") {result : Value}
    (accepted : cast .number (.string text) = .ok result) :
    ∃ r x, Numeral.Denotes (Text.trim text).toList r ∧ IsNearest r x ∧
      result = .number (wholeOrDouble x) := by
  have numeral : ∃ r, Numeral.Denotes (Text.trim text).toList r := by
    rw [cast_number_of_nonblank nonblank] at accepted
    cases found : numeralDouble? (Text.trim text).toList with
    | none =>
        rw [found] at accepted
        cases accepted
    | some x => exact Numeral.exists_denotes_of_numeralDouble? found
  obtain ⟨r, denotes⟩ := numeral
  rcases cast_number_of_denotes denotes with ⟨x, converted, nearest⟩ | ⟨rejected, _⟩
  · rw [accepted] at converted
    exact ⟨r, x, denotes, nearest, Except.ok.inj converted⟩
  · rw [accepted] at rejected
    cases rejected

end Numeral

/-! ### The value of a numeral -/

/-- Text is cast to a number that holds the double nearest to what it denotes, unless that
double is `2^63`, for which it is cast to the greatest signed integer. -/
theorem number_of_text_holds_nearest_iff {text : String} {result : Value}
    (accepted : cast .number (.string text) = .ok result) (nonblank : Text.trim text ≠ "") :
    ∃ r x n, Numeral.Denotes (Text.trim text).toList r ∧ IsNearest r x ∧
      result = .number n ∧ (n.Holds x ↔ x.value ≠ 2 ^ 63) ∧
      (x.value = 2 ^ 63 → n = .integer 9223372036854775807) := by
  obtain ⟨r, x, denotes, nearest, converted⟩ := exists_nearest_of_cast_number nonblank accepted
  exact ⟨r, x, wholeOrDouble x, denotes, nearest, converted, holds_wholeOrDouble_iff x,
    wholeOrDouble_of_pow_63⟩

/-- The greatest double below `2^63` is held as an integer. -/
theorem greatest_double_below_pow_63_is_held :
    cast .number (.string " 0x7ffffffffffffc00") =
        .ok (.number (.integer 9223372036854774784)) ∧
      ∃ r x n, Numeral.Denotes (Text.trim " 0x7ffffffffffffc00").toList r ∧ IsNearest r x ∧
        Value.number (.integer 9223372036854774784) = .number n ∧ (n.Holds x ↔ x.value ≠ 2 ^ 63) ∧
        (x.value = 2 ^ 63 → n = .integer 9223372036854775807) :=
  ⟨rfl, number_of_text_holds_nearest_iff
    (show cast .number (.string " 0x7ffffffffffffc00") = .ok _ from rfl) (by decide +kernel)⟩

/-- The double that is not held as it is, from a text that denotes it exactly. -/
theorem pow_63_is_not_held :
    cast .number (.string "9223372036854775808") =
        .ok (.number (.integer 9223372036854775807)) ∧
      ∃ x, Numeral.Denotes (Text.trim "9223372036854775808").toList (2 ^ 63) ∧
        IsNearest (2 ^ 63) x ∧ ¬(Number.integer 9223372036854775807).Holds x := by
  have accepted : cast .number (.string "9223372036854775808") =
    .ok (.number (.integer 9223372036854775807)) := rfl
  have denotes : Numeral.Denotes (Text.trim "9223372036854775808").toList (2 ^ 63) := by
    refine .decimal (DecimalLiteral.decimal_iff.2 ⟨⟨false, 9223372036854775808, 0⟩, rfl, ?_⟩)
    norm_num [DecimalLiteral.value, signed]
  have exact : (⟨false, 4503599627370496, 11, by decide⟩ : Binary64).value = 2 ^ 63 := by
    norm_num [Binary64.value, signed]
  rcases cast_number_of_denotes denotes with ⟨x, converted, nearest⟩ | ⟨rejected, _⟩
  · have held : wholeOrDouble x = .integer 9223372036854775807 :=
      Value.number.inj (Except.ok.inj (converted.symm.trans accepted))
    refine ⟨accepted, x, denotes, nearest, ?_⟩
    rw [← held, holds_wholeOrDouble_iff]
    exact not_not.2 (nearest.value_eq exact)
  · rw [accepted] at rejected
    cases rejected

/-! ### Integers of documents -/

/-- The greatest signed integer is no double; the nearest one is `2^63`. -/
theorem value_of_nearest_greatest {x : Binary64} (nearest : IsNearest (9223372036854775807 : ℤ) x) :
    x.value = 2 ^ 63 := by
  obtain ⟨y, found, nearestToo⟩ := Numeral.exists_nearest_ofInt 9223372036854775807 (by decide)
  have rounded : Binary64.ofInt (9223372036854775807 : ℕ) =
    some ⟨false, 4503599627370496, 11, by decide⟩ := rfl
  rw [rounded] at found
  rw [nearest.value_unique nearestToo, ← Option.some_inj.1 found]
  norm_num [Binary64.value, signed]

/-- A nearest double is held as an integer exactly when it is that integer, but for the
greatest signed one. -/
theorem wholeOrDouble_eq_integer_iff {x : Binary64} {k : ℤ} (nearest : IsNearest k x)
    (bounds : -9223372036854775808 ≤ k ∧ k < 18446744073709551616) :
    wholeOrDouble x = .integer k bounds ↔
      k < 9223372036854775808 ∧ (∃ y : Binary64, y.value = k) ∨ k = 9223372036854775807 := by
  constructor
  · intro held
    rcases wholeOrDouble_cases x with ⟨l, whole, inside⟩ | greatest | apart
    · rw [wholeOrDouble_of_whole whole inside] at held
      cases held
      exact .inl ⟨by omega, x, whole⟩
    · rw [wholeOrDouble_of_pow_63 greatest] at held
      cases held
      exact .inr rfl
    · rw [wholeOrDouble_of_apart apart] at held
      cases held
  · rintro (⟨less, y, exact⟩ | rfl)
    · exact wholeOrDouble_of_whole (nearest.value_eq exact) ⟨bounds.1, by omega⟩
    · exact wholeOrDouble_of_pow_63 (value_of_nearest_greatest nearest)

/-- The text of an integer is cast through the double nearest to it. -/
theorem cast_number_toString (k : ℤ)
    (bounds : -9223372036854775808 ≤ k ∧ k < 18446744073709551616) :
    ∃ x, cast .number (.string (toString k)) = .ok (.number (wholeOrDouble x)) ∧
      IsNearest k x := by
  have denotes : Numeral.Denotes (Text.trim (toString k)).toList k := by
    rw [Text.trim_toString]
    exact .decimal (Numeral.decimal_toString k)
  have finite : |(k : ℚ)| < overflowBound := by
    have bounded : |k| ≤ 18446744073709551615 := abs_le.2 ⟨by omega, by omega⟩
    have small : |(k : ℚ)| ≤ 18446744073709551615 := by exact_mod_cast bounded
    exact (small.trans_lt (by norm_num)).trans_le Binary64.pow_64_le_overflowBound
  exact (cast_number_of_denotes denotes).resolve_right fun overflows =>
    absurd overflows.2 (not_le.2 finite)

/-- The text of an integer is cast to the same number as the integer itself exactly when the
integer is a double below `2^63`, or the greatest signed integer; in particular when it is
below `2^53` in magnitude. -/
theorem text_and_number_agree_iff (k : ℤ)
    (bounds : -9223372036854775808 ≤ k ∧ k < 18446744073709551616) :
    (cast .number (.string (toString k)) = cast .number (.number (.integer k bounds)) ↔
        k < 9223372036854775808 ∧ (∃ x : Binary64, x.value = k) ∨ k = 9223372036854775807) ∧
      (|k| < 9007199254740992 →
        cast .number (.string (toString k)) = cast .number (.number (.integer k bounds))) := by
  obtain ⟨x, converted, nearest⟩ := cast_number_toString k bounds
  have agree : cast .number (.string (toString k)) = cast .number (.number (.integer k bounds)) ↔
      wholeOrDouble x = .integer k bounds := by
    rw [converted]
    exact ⟨fun same => Value.number.inj (Except.ok.inj same), fun same => by rw [same]; rfl⟩
  rw [agree, wholeOrDouble_eq_integer_iff nearest bounds]
  refine ⟨Iff.rfl, fun small => .inl ⟨?_, Binary64.exists_value_eq_int small⟩⟩
  have := (abs_lt.1 small).2
  omega

/-- Beyond `2^53` every other integer still agrees with its text. -/
theorem pow_53_add_two_agrees :
    cast .number (.string (toString (9007199254740994 : ℤ))) =
      cast .number (.number (.integer 9007199254740994)) := by
  refine (text_and_number_agree_iff 9007199254740994 (by decide)).1.2 (.inl ⟨by decide, ?_⟩)
  exact ⟨⟨false, 4503599627370497, 1, by decide⟩, by norm_num [Binary64.value, signed]⟩

/-- The first integer that is no double differs from its text. -/
theorem pow_53_add_one_disagrees :
    cast .number (.string (toString (9007199254740993 : ℤ))) ≠
      cast .number (.number (.integer 9007199254740993)) := by
  have rounded : cast .number (.string (toString (9007199254740993 : ℤ))) =
    .ok (.number (.integer 9007199254740992)) := rfl
  rw [rounded]
  intro same
  cases same

/-! ### What is no number -/

/-- The value is rejected as a number, with its text as it is. -/
def RejectsNumber (value : Value) : Prop :=
  ∃ reason, cast .number value = .error reason ∧ reason.code = 400 ∧
    reason.message = value.text ++ " is not a number"

section Rejection

variable {text : String}

theorem cast_number_of_blank (blank : Text.trim text = "") :
    cast .number (.string text) = .ok (.number (.ofNat 0)) := by
  have empty : Text.trimChars text.toList = [] := by
    rw [← Text.toList_trim, blank]
    rfl
  have read : textNumber? text = some (.ofNat 0) := if_pos empty
  rw [cast, castNumber, read]

/-- Text is cast to a number or rejected. -/
theorem number_accepts_or_rejects (text : String) :
    (∃ result, cast .number (.string text) = .ok result) ∨ RejectsNumber (.string text) := by
  by_cases blank : Text.trim text = ""
  · exact .inl ⟨_, cast_number_of_blank blank⟩
  · rw [RejectsNumber, cast_number_of_nonblank blank]
    cases numeralDouble? (Text.trim text).toList with
    | none => exact .inr ⟨.notNumber text, rfl, rfl, rfl⟩
    | some x => exact .inl ⟨.number (wholeOrDouble x), rfl⟩

/-- Text is cast to a number when it is blank, and when a numeral spells it that has a
nearest double. -/
theorem number_accepts_iff : (∃ result, cast .number (.string text) = .ok result) ↔
    Text.trim text = "" ∨ ∃ r, Numeral.Denotes (Text.trim text).toList r ∧ ∃ x, IsNearest r x := by
  constructor
  · rintro ⟨result, accepted⟩
    by_cases blank : Text.trim text = ""
    · exact .inl blank
    · obtain ⟨r, x, denotes, nearest, _⟩ := exists_nearest_of_cast_number blank accepted
      exact .inr ⟨r, denotes, x, nearest⟩
  · rintro (blank | ⟨r, denotes, x, nearest⟩)
    · exact ⟨_, cast_number_of_blank blank⟩
    · rcases cast_number_of_denotes denotes with ⟨y, converted, _⟩ | ⟨_, overflows⟩
      · exact ⟨_, converted⟩
      · exact absurd nearest.finite (not_lt.2 overflows)

/-- Text is rejected when it is not blank, and when no numeral spells it but those that
overflow. -/
theorem rejectsNumber_of_forall (nonblank : (Text.trim text).toList ≠ [])
    (overflows : ∀ r, Numeral.Denotes (Text.trim text).toList r → overflowBound ≤ |r|) :
    RejectsNumber (.string text) := by
  refine (number_accepts_or_rejects text).resolve_left fun accepted => ?_
  rcases number_accepts_iff.1 accepted with blank | ⟨r, denotes, x, nearest⟩
  · exact nonblank (String.toList_eq_nil_iff.2 blank)
  · exact absurd nearest.finite (not_lt.2 (overflows r denotes))

/-- The names of infinity and of no number have no digit, in neither case. -/
theorem rejectsNumber_word {sign word : String} (signs : sign ∈ ["", "+", "-"])
    (member : word ∈ ["inf", "infinity", "nan"])
    (spelled : (Text.trim text).toList.map Char.toLower = (sign ++ word).toList) :
    RejectsNumber (.string text) := by
  have apart : ∀ sign ∈ ["", "+", "-"], ∀ word ∈ ["inf", "infinity", "nan"],
      (sign ++ word).toList ≠ [] ∧ ∀ count < 10,
        count.digitChar.toLower ∉ (sign ++ word).toList ∧
          count.digitChar.toUpper.toLower ∉ (sign ++ word).toList := by
    decide +kernel
  obtain ⟨nonempty, noDigit⟩ := apart sign signs word member
  refine rejectsNumber_of_forall (fun empty => ?_) fun r denotes => ?_
  · rw [empty] at spelled
    exact nonempty spelled.symm
  · obtain ⟨c, within, count, less, same⟩ := denotes.exists_digit
    have digit : c.toLower ∈ (sign ++ word).toList := spelled ▸ List.mem_map_of_mem within
    rcases same with rfl | rfl
    · exact absurd digit (noDigit count less).1
    · exact absurd digit (noDigit count less).2

theorem rejectsNumber_signed {sign mark : Char} {radix : ℕ} {digits : List Char}
    (signs : sign ∈ ['+', '-']) (member : (mark, radix) ∈ Numeral.marks)
    (spelled : (Text.trim text).toList = sign :: '0' :: mark :: digits ∨
      (Text.trim text).toList = '0' :: mark :: sign :: digits) :
    RejectsNumber (.string text) := by
  have nonblank : (Text.trim text).toList ≠ [] := by
    rcases spelled with spelled | spelled
    · exact spelled ▸ List.cons_ne_nil _ _
    · exact spelled ▸ List.cons_ne_nil _ _
  refine rejectsNumber_of_forall nonblank fun r denotes => ?_
  rcases spelled with spelled | spelled
  · rw [spelled] at denotes
    exact absurd denotes (Numeral.not_denotes_sign_mark signs member r)
  · rw [spelled] at denotes
    exact absurd denotes (Numeral.not_denotes_mark_sign signs member r)

/-- Numerals that overflow are rejected; those of a radix do when they have more than 64
bits. -/
theorem rejectsNumber_of_radix {n : ℕ} (large : 18446744073709551616 ≤ n)
    (spelled : Numeral.Radix (Text.trim text).toList n) : RejectsNumber (.string text) := by
  have nonblank : (Text.trim text).toList ≠ [] := by
    intro empty
    rw [empty] at spelled
    cases spelled
  refine rejectsNumber_of_forall nonblank fun r denotes => ?_
  cases denotes with
  | radix spelledToo bound => exact absurd bound (not_lt.2 (spelled.unique spelledToo ▸ large))
  | decimal spelledToo => exact absurd spelledToo (spelled.not_decimal r)

theorem rejectsNumber_of_decimal {r : ℚ} (overflows : overflowBound ≤ |r|)
    (spelled : Numeral.Decimal (Text.trim text).toList r) : RejectsNumber (.string text) := by
  have denotes := Numeral.Denotes.decimal spelled
  refine rejectsNumber_of_forall denotes.ne_nil fun s denotesToo => ?_
  rw [denotesToo.unique denotes]
  exact overflows

end Rejection

/-- Text is cast to a number exactly when it is blank, or digits of 64 bits after the mark of
their radix, or a decimal literal with a nearest double.  The names of infinity and of no
number, a sign before or after a mark, and literals that overflow are rejected; so are
lists and mappings. -/
theorem number_accepts_exactly_numerals :
    (∀ text : String,
      ((∃ result, cast .number (.string text) = .ok result) ↔
        Text.trim text = "" ∨
          (∃ n < 18446744073709551616, Numeral.Radix (Text.trim text).toList n) ∨
          ∃ r, Numeral.Decimal (Text.trim text).toList r ∧ ∃ x, IsNearest r x) ∧
      ((¬∃ result, cast .number (.string text) = .ok result) → RejectsNumber (.string text)) ∧
      (∀ sign ∈ ["", "+", "-"], ∀ word ∈ ["inf", "infinity", "nan"],
        (Text.trim text).toList.map Char.toLower = (sign ++ word).toList →
          RejectsNumber (.string text)) ∧
      (∀ sign ∈ ['+', '-'], ∀ mark radix, (mark, radix) ∈ Numeral.marks → ∀ digits,
        (Text.trim text).toList = sign :: '0' :: mark :: digits ∨
            (Text.trim text).toList = '0' :: mark :: sign :: digits →
          RejectsNumber (.string text)) ∧
      (∀ n ≥ 18446744073709551616, Numeral.Radix (Text.trim text).toList n →
        RejectsNumber (.string text)) ∧
      ∀ r, Numeral.Decimal (Text.trim text).toList r → overflowBound ≤ |r| →
        RejectsNumber (.string text)) ∧
    (∀ items, RejectsNumber (.list items)) ∧ ∀ entries, RejectsNumber (.map entries) := by
  refine ⟨fun text => ⟨?_, (number_accepts_or_rejects text).resolve_left, ?_, ?_, ?_, ?_⟩,
    fun items => ⟨.notNumber (Value.list items).text, rfl, rfl, rfl⟩,
    fun entries => ⟨.notNumber (Value.map entries).text, rfl, rfl, rfl⟩⟩
  · rw [number_accepts_iff]
    refine or_congr_right ⟨?_, ?_⟩
    · rintro ⟨r, denotes, nearest⟩
      cases denotes with
      | radix spelled bound => exact .inl ⟨_, bound, spelled⟩
      | decimal spelled => exact .inr ⟨r, spelled, nearest⟩
    · rintro (⟨n, bound, spelled⟩ | ⟨r, spelled, nearest⟩)
      · obtain ⟨x, _, nearest⟩ := Numeral.exists_nearest_ofInt n bound
        exact ⟨n, .radix spelled bound, x, nearest⟩
      · exact ⟨r, .decimal spelled, nearest⟩
  · intro sign signs word member spelled
    exact rejectsNumber_word signs member spelled
  · intro sign signs mark radix member digits spelled
    exact rejectsNumber_signed signs member spelled
  · intro n large spelled
    exact rejectsNumber_of_radix large spelled
  · intro r spelled overflows
    exact rejectsNumber_of_decimal overflows spelled

/-- A signed numeral of a radix is rejected, as is a word in mixed case; the numeral without its
sign is cast. -/
theorem number_accepts_exactly_numerals_signed :
    RejectsNumber (.string " -0x1A ") ∧ RejectsNumber (.string "+Infinity") ∧
      ∃ result, cast .number (.string " 0x1A ") = .ok result := by
  have spelled : (Text.trim " -0x1A ").toList = '-' :: '0' :: 'x' :: ['1', 'A'] := by
    decide +kernel
  have word : (Text.trim "+Infinity").toList.map Char.toLower = ("+" ++ "infinity").toList := by
    decide +kernel
  have bare : Numeral.Radix (Text.trim " 0x1A ").toList 26 := by
    have trimmed : (Text.trim " 0x1A ").toList = '0' :: 'x' :: ['1', 'A'] := by decide +kernel
    have counted : Numeral.Digits 16 ['1', 'A'] 26 :=
      ⟨[1, 10], .cons ⟨by decide, .inl rfl⟩ (.cons ⟨by decide, .inr rfl⟩ .nil), rfl⟩
    rw [trimmed]
    exact .marked (by decide) (by decide) counted
  exact ⟨(number_accepts_exactly_numerals.1 " -0x1A ").2.2.2.1 '-' (by decide) 'x' 16 (by decide)
      ['1', 'A'] (.inl spelled),
    (number_accepts_exactly_numerals.1 "+Infinity").2.2.1 "+" (by decide) "infinity" (by decide)
      word,
    (number_accepts_exactly_numerals.1 " 0x1A ").1.2 (.inr (.inl ⟨26, by decide, bare⟩))⟩

end ParamKind

end RoutePlan
