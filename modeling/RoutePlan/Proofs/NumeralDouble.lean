import RoutePlan.ParamKind
import RoutePlan.Proofs.Numeral

/-!
# The double of a numeral

A numeral is digits of 64 bits after the mark of a radix, or a decimal literal.  No text is
both, so that a numeral denotes one rational (`Denotes`), and its double is the nearest one.
Texts that are no numeral have no double; neither have decimal literals that overflow.
-/

namespace RoutePlan

open Binary64 (IsNearest overflowBound)

namespace Numeral

/-! ## What numerals denote -/

/-- A numeral of either form and the rational that it denotes; digits after a mark have 64
bits. -/
inductive Denotes : List Char → ℚ → Prop
  | radix {text : List Char} {n : ℕ} (spelled : Radix text n)
      (bound : n < 18446744073709551616) : Denotes text n
  | decimal {text : List Char} {r : ℚ} (spelled : Decimal text r) : Denotes text r

theorem splitRadix_eq_some_iff {text digits : List Char} {radix : ℕ} :
    splitRadix text = some (radix, digits) ↔
      ∃ mark, (mark, radix) ∈ marks ∧ text = '0' :: mark :: digits := by
  constructor
  · intro split
    unfold splitRadix at split
    split at split
    · rename_i mark rest
      split_ifs at split with hexadecimal octal binary
      · cases split
        refine ⟨mark, ?_, rfl⟩
        rcases hexadecimal with rfl | rfl <;> decide
      · cases split
        refine ⟨mark, ?_, rfl⟩
        rcases octal with rfl | rfl <;> decide
      · cases split
        refine ⟨mark, ?_, rfl⟩
        rcases binary with rfl | rfl <;> decide
    · cases split
  · rintro ⟨mark, member, rfl⟩
    simp only [marks, List.mem_cons, Prod.mk.injEq, List.not_mem_nil, or_false] at member
    rcases member with ⟨rfl, rfl⟩ | ⟨rfl, rfl⟩ | ⟨rfl, rfl⟩ | ⟨rfl, rfl⟩ | ⟨rfl, rfl⟩ |
      ⟨rfl, rfl⟩ <;> rfl

/-- A mark is no digit, no point and no mark of an exponent, so that after a zero it ends
a decimal literal. -/
theorem apart_of_mem_marks : ∀ entry ∈ marks, entry.2 ≤ 16 ∧ isDigitOf 10 entry.1 = false ∧
    entry.1 ≠ '.' ∧ ¬(entry.1 = 'e' ∨ entry.1 = 'E') := by
  decide

theorem not_decimal_marked {sign digits : List Char} {negative : Bool} {mark : Char} {radix : ℕ}
    (signs : Sign sign negative) (member : (mark, radix) ∈ marks) (r : ℚ) :
    ¬Decimal (sign ++ '0' :: mark :: digits) r := by
  intro decimal
  obtain ⟨_, noDigit, noPoint, noExponent⟩ := apart_of_mem_marks _ member
  obtain ⟨literal, read, _⟩ := DecimalLiteral.exists_literal_of_decimal decimal
  have plain : Unsigned ('0' :: mark :: digits) := fun c first => by
    cases first
    decide
  have split : splitSign (sign ++ '0' :: mark :: digits) = (negative, '0' :: mark :: digits) :=
    splitSign_eq_iff.2 ⟨sign, signs, rfl, fun _ => plain⟩
  have spanned : ('0' :: mark :: digits).span (isDigitOf 10) = (['0'], mark :: digits) :=
    span_eq_iff.2 ⟨rfl, List.forall_mem_singleton.2 rfl, fun c first => by
      cases first
      exact noDigit⟩
  have apart : (mark :: digits).head? ≠ some '.' := fun point => noPoint (Option.some_inj.1 point)
  have stops : readExponent? (mark :: digits) = none := if_neg noExponent
  rw [DecimalLiteral.read?_eq split spanned (DecimalLiteral.splitFraction_of_ne apart),
    stops] at read
  cases read

theorem splitRadix_of_decimal {text : List Char} {r : ℚ} (decimal : Decimal text r) :
    splitRadix text = none := by
  cases split : splitRadix text with
  | none => rfl
  | some found =>
      obtain ⟨mark, member, rfl⟩ := splitRadix_eq_some_iff.1 split
      exact absurd decimal (not_decimal_marked .absent member r)

/-- The digits after a mark are read up to 64 bits. -/
theorem readNaturalBelow?_eq_some_iff {radix : ℕ} (small : radix ≤ 16) {digits : List Char}
    {n : ℕ} : readNaturalBelow? radix UInt64.size digits = some n ↔
      (digits ≠ [] ∧ Digits radix digits n) ∧ n < 18446744073709551616 := by
  rw [readNaturalBelow?, Option.filter_eq_some_iff, readNatural?_eq_some_iff small,
    decide_eq_true_eq]

theorem exists_nearest_ofInt (n : ℕ) (bound : n < 18446744073709551616) :
    ∃ x, Binary64.ofInt n = some x ∧ IsNearest n x := by
  have quotient : ((n : ℤ).natAbs : ℚ) / (1 : ℕ) = n := by
    rw [Nat.cast_one, div_one, Int.natAbs_natCast]
  unfold Binary64.ofInt
  cases found : Binary64.nearest (decide ((n : ℤ) < 0)) (n : ℤ).natAbs 1 with
  | some x =>
      have nearest := Binary64.isNearest_of_nearest Nat.one_pos found
      rw [quotient, decide_eq_false (by omega)] at nearest
      exact ⟨x, rfl, nearest⟩
  | none =>
      have overflows := (Binary64.nearest_eq_none_iff Nat.one_pos).1 found
      rw [quotient] at overflows
      have finite : (n : ℚ) < 18446744073709551616 := by exact_mod_cast bound
      exact absurd overflows (not_le.2 (finite.trans_le Binary64.pow_64_le_overflowBound))

/-- What the double of a numeral is nearest to. -/
theorem numeralDouble?_of_denotes {text : List Char} {r : ℚ} (denotes : Denotes text r) :
    (∃ x, numeralDouble? text = some x ∧ IsNearest r x) ∨
      numeralDouble? text = none ∧ overflowBound ≤ |r| := by
  cases denotes with
  | @radix n spelled bound =>
      obtain @⟨mark, radix, _, digits, member, nonempty, counted⟩ := spelled
      have split : splitRadix ('0' :: mark :: digits) = some (radix, digits) :=
        splitRadix_eq_some_iff.2 ⟨mark, member, rfl⟩
      have read := (readNaturalBelow?_eq_some_iff (apart_of_mem_marks _ member).1).2
        ⟨⟨nonempty, counted⟩, bound⟩
      obtain ⟨x, found, nearest⟩ := exists_nearest_ofInt n bound
      refine .inl ⟨x, ?_, nearest⟩
      rw [numeralDouble?, split]
      dsimp only
      rw [read, Option.bind_some, found]
  | decimal spelled =>
      obtain ⟨literal, read, rfl⟩ := DecimalLiteral.exists_literal_of_decimal spelled
      rw [numeralDouble?, splitRadix_of_decimal spelled]
      dsimp only
      rw [read, Option.bind_some]
      exact literal.nearest_cases

/-- Only numerals have a double. -/
theorem exists_denotes_of_numeralDouble? {text : List Char} {x : Binary64}
    (found : numeralDouble? text = some x) : ∃ r, Denotes text r := by
  unfold numeralDouble? at found
  split at found
  · rename_i radix digits split
    obtain ⟨n, read, _⟩ := Option.bind_eq_some_iff.1 found
    obtain ⟨mark, member, rfl⟩ := splitRadix_eq_some_iff.1 split
    obtain ⟨⟨nonempty, counted⟩, bound⟩ :=
      (readNaturalBelow?_eq_some_iff (apart_of_mem_marks _ member).1).1 read
    exact ⟨n, .radix (.marked member nonempty counted) bound⟩
  · obtain ⟨literal, read, _⟩ := Option.bind_eq_some_iff.1 found
    exact ⟨_, .decimal (DecimalLiteral.decimal_of_read? read)⟩

theorem Radix.unique {text : List Char} {n m : ℕ} (first : Radix text n)
    (second : Radix text m) : n = m := by
  obtain @⟨mark, radix, _, digits, member, _, counted⟩ := first
  obtain @⟨_, other, _, _, memberToo, _, countedToo⟩ := second
  have same : some (radix, digits) = some (other, digits) :=
    (splitRadix_eq_some_iff.2 ⟨mark, member, rfl⟩).symm.trans
      (splitRadix_eq_some_iff.2 ⟨mark, memberToo, rfl⟩)
  cases same
  have small := (apart_of_mem_marks _ member).1
  exact ((digits_iff small).1 counted).2.trans ((digits_iff small).1 countedToo).2.symm

theorem Decimal.unique {text : List Char} {r s : ℚ} (first : Decimal text r)
    (second : Decimal text s) : r = s := by
  obtain ⟨literal, read, rfl⟩ := DecimalLiteral.exists_literal_of_decimal first
  obtain ⟨other, readToo, rfl⟩ := DecimalLiteral.exists_literal_of_decimal second
  rw [Option.some_inj.1 (read.symm.trans readToo)]

theorem Radix.not_decimal {text : List Char} {n : ℕ} (spelled : Radix text n) (r : ℚ) :
    ¬Decimal text r := by
  obtain ⟨member⟩ := spelled
  exact not_decimal_marked .absent member r

/-- A numeral denotes one rational. -/
theorem Denotes.unique {text : List Char} {r s : ℚ} (first : Denotes text r)
    (second : Denotes text s) : r = s := by
  cases first with
  | radix spelled =>
      cases second with
      | radix spelledToo => rw [spelled.unique spelledToo]
      | decimal spelledToo => exact absurd spelledToo (spelled.not_decimal s)
  | decimal spelled =>
      cases second with
      | radix spelledToo => exact absurd spelled (spelledToo.not_decimal r)
      | decimal spelledToo => exact spelled.unique spelledToo

theorem isDigit_of_mem {digits : List Char} {n : ℕ} (counted : Digits 10 digits n) {c : Char}
    (member : c ∈ digits) : IsDigit 10 c (digitValue c) := by
  have digit := ((digits_iff (by decide)).1 counted).1 c member
  exact (isDigit_iff (by decide)).2 ⟨of_decide_eq_true digit, rfl⟩

/-- Every numeral has a decimal digit. -/
theorem Denotes.exists_digit {text : List Char} {r : ℚ} (denotes : Denotes text r) :
    ∃ c ∈ text, ∃ count, IsDigit 10 c count := by
  cases denotes with
  | radix spelled =>
      cases spelled
      exact ⟨'0', List.mem_cons_self, 0, by decide, .inl rfl⟩
  | decimal spelled =>
      obtain @⟨sign, digits, exponent, _, _, _, _, pointed, _⟩ := spelled
      have found : ∃ c ∈ digits, ∃ count, IsDigit 10 c count := by
        cases pointed with
        | whole nonempty counted =>
            obtain ⟨c, member⟩ := List.exists_mem_of_ne_nil _ nonempty
            exact ⟨c, member, _, isDigit_of_mem counted member⟩
        | point nonempty counted countedFraction =>
            obtain ⟨c, member⟩ := List.exists_mem_of_ne_nil _ nonempty
            rcases List.mem_append.1 member with whole | fraction
            · exact ⟨c, List.mem_append_left _ whole, _, isDigit_of_mem counted whole⟩
            · exact ⟨c, List.mem_append_right _ (List.mem_cons_of_mem _ fraction), _,
                isDigit_of_mem countedFraction fraction⟩
      obtain ⟨c, member, digit⟩ := found
      exact ⟨c, List.mem_append_right _ (List.mem_append_left _ member), digit⟩

/-- No numeral has a sign before the mark of a radix. -/
theorem not_denotes_sign_mark {sign mark : Char} {radix : ℕ} {digits : List Char}
    (signs : sign ∈ ['+', '-']) (member : (mark, radix) ∈ marks) (r : ℚ) :
    ¬Denotes (sign :: '0' :: mark :: digits) r := by
  intro denotes
  cases denotes with
  | radix spelled =>
      cases spelled
      exact absurd signs (by decide)
  | decimal spelled =>
      rcases List.mem_pair.1 signs with rfl | rfl
      · exact not_decimal_marked .plus member r spelled
      · exact not_decimal_marked .minus member r spelled

/-- A sign is no digit, so that no numeral has one after the mark of a radix. -/
theorem not_denotes_mark_sign {sign mark : Char} {radix : ℕ} {digits : List Char}
    (signs : sign ∈ ['+', '-']) (member : (mark, radix) ∈ marks) (r : ℚ) :
    ¬Denotes ('0' :: mark :: sign :: digits) r := by
  intro denotes
  cases denotes with
  | radix spelled =>
      obtain ⟨memberToo, _, counted⟩ := spelled
      have small := (apart_of_mem_marks _ memberToo).1
      have digit := of_decide_eq_true (((digits_iff small).1 counted).1 sign List.mem_cons_self)
      have noDigit : digitValue sign = 36 := by rcases List.mem_pair.1 signs with rfl | rfl <;> rfl
      omega
  | decimal spelled => exact not_decimal_marked .absent member r spelled

theorem Denotes.ne_nil {text : List Char} {r : ℚ} (denotes : Denotes text r) : text ≠ [] := by
  rintro rfl
  cases denotes with
  | radix spelled => cases spelled
  | decimal spelled =>
      obtain ⟨literal, read, _⟩ := DecimalLiteral.exists_literal_of_decimal spelled
      cases read

end Numeral

end RoutePlan
