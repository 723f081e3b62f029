import RoutePlan.Proofs.Mail

/-!
# Casting mail addresses

A string is cast to a mail address exactly when it is one, and stays as it is.  No other
value is cast.  Its compact text has no at sign, but for lists and mappings, and outside
quotes an address holds neither the bracket that a list begins with nor the quote of a first
key.
-/

namespace RoutePlan

/-! ## The text of numbers -/

namespace Compact

/-- The characters that numbers are written with. -/
def isNumberChar (c : Char) : Bool :=
  c.isDigit || c == '-' || c == '.' || c == 'e' || c == '+'

theorem all_toDigits (n : ℕ) : (Nat.toDigits 10 n).all isNumberChar = true := by
  rw [List.all_eq_true]
  intro c member
  rw [isNumberChar, Nat.isDigit_of_mem_toDigits (by decide) le_rfl member]
  rfl

theorem all_replicate (n : ℕ) : (List.replicate n '0').all isNumberChar = true := by
  rw [List.all_replicate]
  split_ifs <;> rfl

section Layout

variable {digits : List Char} (numeric : digits.all isNumberChar = true)
include numeric

theorem all_take (n : ℕ) : (digits.take n).all isNumberChar = true :=
  List.all_eq_true.2 fun c member => List.all_eq_true.1 numeric c (List.mem_of_mem_take member)

theorem all_drop (n : ℕ) : (digits.drop n).all isNumberChar = true :=
  List.all_eq_true.2 fun c member => List.all_eq_true.1 numeric c (List.mem_of_mem_drop member)

theorem all_positional (exponent : ℤ) :
    (Binary64.positional compactLayout digits exponent).all isNumberChar = true := by
  unfold Binary64.positional
  dsimp only
  split_ifs
  · rw [List.all_append, List.all_append, numeric, all_replicate]
    decide
  · rw [List.all_append, List.all_cons, all_take numeric, all_drop numeric]
    rfl
  · rw [List.all_append, List.all_cons, List.all_cons, numeric, all_replicate]
    rfl

theorem all_scientific (leading : ℤ) :
    (Binary64.scientific compactLayout digits leading).all isNumberChar = true := by
  have fraction : (if digits.drop 1 = [] then [] else '.' :: digits.drop 1).all isNumberChar =
      true := by
    split_ifs
    · rfl
    · rw [List.all_cons, all_drop numeric]
      rfl
  have mark : compactLayout.exponentMark.toList.all isNumberChar = true := by decide
  have sign : (if leading < 0 then ['-'] else compactLayout.exponentPlus.toList).all isNumberChar =
      true := by
    split_ifs <;> decide
  unfold Binary64.scientific
  dsimp only
  rw [List.all_append, List.all_append, List.all_append, List.all_append, all_take numeric,
    fraction, mark, sign, all_toDigits]
  rfl

end Layout

/-- Numbers are written with digits, signs, points and marks of exponents. -/
theorem all_number (n : Number) : (number n).all isNumberChar = true := by
  cases n with
  | integer k =>
      rw [number, integer]
      split_ifs
      · rw [List.all_cons, all_toDigits]
        rfl
      · exact all_toDigits _
  | double x =>
      have sign : (if x.negative then ['-'] else []).all isNumberChar = true := by
        split_ifs <;> decide
      have digits := all_toDigits (Binary64.shortest x).digits
      rw [number]
      unfold Binary64.write
      dsimp only
      generalize (if x.negative then ['-'] else []) = minus at sign ⊢
      split_ifs
      · rw [List.all_append, sign, all_positional rfl]
        rfl
      · rw [List.all_append, sign, all_positional digits]
        rfl
      · rw [List.all_append, sign, all_scientific digits]
        rfl

/-! ## The text of mappings -/

theorem exists_members_eq {entries : List (String × Value)} (nonempty : entries ≠ []) :
    ∃ rest, members entries = '"' :: rest := by
  match entries with
  | [] => exact absurd rfl nonempty
  | [(key, held)] =>
      rw [members]
      exact ⟨_, rfl⟩
  | (key, held) :: next :: rest =>
      rw [members]
      · exact ⟨_, rfl⟩
      · nofun

end Compact

/-- The text of a value that is no string. -/
theorem Value.toList_text {value : Value} (apart : ∀ text, value ≠ .string text) :
    value.text.toList = Compact.value value := by
  have compact : value.text = value.compact := by
    cases value with
    | string text => exact absurd rfl (apart text)
    | null => rfl
    | bool flag => rfl
    | number n => rfl
    | list items => rfl
    | map entries => rfl
  rw [compact, Value.compact, String.toList_ofList]

/-! ## Texts that are no address -/

namespace Mail

theorem Address.at_mem {text : List Char} (address : Address text) : '@' ∈ text := by
  cases address
  exact List.mem_append_right _ List.mem_cons_self

/-- An address that does not begin with a quote is labels, dots and at signs. -/
theorem Address.apart_of_mem {text : List Char} (address : Address text)
    (unquoted : text.head? ≠ some '"') {c : Char} (member : c ∈ text) :
    c = '@' ∨ c = '.' ∨ isLabelChar c = true := by
  obtain ⟨left, _, right⟩ := address
  rcases List.mem_append.1 member with inMailbox | inDomain
  · cases left with
    | labels _ each => exact .inr (apart_of_mem_dotted each inMailbox)
    | quoted => exact absurd rfl unquoted
  · exact (List.mem_cons.1 inDomain).imp_right right.isLabelChar_of_mem

/-- Compact text is no address. -/
theorem not_address_compact {value : Value} (apart : ∀ text, value ≠ .string text) :
    ¬Address (Compact.value value) := by
  intro address
  cases value with
  | string text => exact apart text rfl
  | null => exact absurd address.at_mem (by decide)
  | bool flag => cases flag <;> exact absurd address.at_mem (by decide)
  | number n =>
      have written := List.all_eq_true.1 (Compact.all_number n) '@' address.at_mem
      exact absurd written (by decide)
  | list items =>
      rw [Compact.value] at address
      have bracket := address.apart_of_mem (by simp) List.mem_cons_self
      exact absurd bracket (by decide)
  | map entries =>
      rw [Compact.value] at address
      by_cases empty : entries = []
      · rw [empty] at address
        exact absurd address.at_mem (by decide)
      · obtain ⟨rest, members_eq⟩ := Compact.exists_members_eq empty
        rw [members_eq] at address
        have quote := address.apart_of_mem (by simp)
          (List.mem_cons_of_mem _ List.mem_cons_self)
        exact absurd quote (by decide)

end Mail

/-! ## Casting -/

namespace ParamKind

/-- The value is rejected as a mail address. -/
def RejectsMail (value : Value) : Prop :=
  ∃ reason, cast .mail value = .error reason ∧ reason.code = 400 ∧
    reason.message = "'" ++ value.text ++ "' doesn't match MAIL pattern"

theorem cast_mail_of_address {value : Value} (address : Mail.Address value.text.toList) :
    cast .mail value = .ok value :=
  if_pos (Mail.isAddress_iff.2 address)

theorem rejectsMail_of_not_address {value : Value} (apart : ¬Mail.Address value.text.toList) :
    RejectsMail value :=
  ⟨.notMail value.text, if_neg fun accepted => apart (Mail.isAddress_iff.1 accepted), rfl, rfl⟩

/-- A string is cast to a mail address, unchanged, exactly when it is an address, which is
when the pattern matches it; any other string is rejected, and so is any other value. -/
theorem mail_accepts_exactly_addresses :
    (∀ text : String,
      (∀ result, cast .mail (.string text) = .ok result ↔
        Mail.Address text.toList ∧ result = .string text) ∧
      (Mail.Address text.toList ↔ text.toList ∈ Mail.pattern) ∧
      (¬Mail.Address text.toList → RejectsMail (.string text))) ∧
    ∀ value, (∀ text, value ≠ .string text) → RejectsMail value := by
  refine ⟨fun text => ⟨fun result => ?_, Mail.mem_pattern_iff.symm,
    fun apart => rejectsMail_of_not_address apart⟩,
    fun value apart => ?_⟩
  · by_cases address : Mail.Address text.toList
    · have accepted : cast .mail (.string text) = .ok (.string text) := cast_mail_of_address address
      rw [accepted, Except.ok.injEq, eq_comm]
      exact (and_iff_right address).symm
    · have rejected : RejectsMail (.string text) := rejectsMail_of_not_address address
      obtain ⟨reason, failed, _⟩ := rejected
      rw [failed]
      exact iff_of_false nofun fun accepted => address accepted.1
  · apply rejectsMail_of_not_address
    rw [Value.toList_text apart]
    exact Mail.not_address_compact apart

/-- A quoted left part may hold an at sign; a list of one address is no address. -/
theorem mail_accepts_exactly_addresses_quoted :
    cast .mail (.string "\"a@b\"@example.org") = .ok (.string "\"a@b\"@example.org") ∧
      RejectsMail (.list [.string "a@example.org"]) := by
  have address : Mail.Address "\"a@b\"@example.org".toList := Mail.isAddress_iff.1 (by decide)
  exact ⟨((mail_accepts_exactly_addresses.1 _).1 _).2 ⟨address, rfl⟩,
    mail_accepts_exactly_addresses.2 _ nofun⟩

end ParamKind

end RoutePlan
