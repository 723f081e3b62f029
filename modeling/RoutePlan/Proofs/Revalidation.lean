import RoutePlan.Proofs.MailCast
import RoutePlan.Proofs.Tree.WellFormed
import RoutePlan.Proofs.Validation

/-!
# Validating again

What validation accepts is of the kind that was declared, or the default as it was declared, and
is left as it is by another validation.  Null and the empty string are the defaults that are not
converted when they are declared.  Null counts as missing the second time too, and is replaced
by itself; the empty string is converted then, which changes it for numbers and booleans and
fails for mail addresses, so that it must not be the default of these kinds.
-/

namespace RoutePlan

namespace ParamKind

/-- The values that a kind is for. -/
def Admits : ParamKind → Value → Prop
  | number, .number _ => True
  | string, .string _ => True
  | boolean, .bool _ => True
  | object, value => value ≠ .null
  | mail, .string text => text.toList ∈ Mail.pattern
  | _, _ => False

/-- Kinds for which the empty string is not a value like any other. -/
def ChangesEmpty (kind : ParamKind) : Prop :=
  kind = number ∨ kind = boolean ∨ kind = mail

variable {kind : ParamKind} {value converted : Value}

theorem Admits.ne_null (admits : kind.Admits value) : value ≠ .null := by
  rintro rfl
  cases kind with
  | object => exact admits rfl
  | _ => exact admits

/-- A mail address is a string. -/
theorem exists_string_of_cast_mail (accepted : cast .mail value = .ok converted) :
    ∃ text, converted = .string text ∧ text.toList ∈ Mail.pattern := by
  by_cases text : ∃ text, value = .string text
  · obtain ⟨text, rfl⟩ := text
    unfold cast at accepted
    dsimp only at accepted
    split at accepted
    · next address =>
        cases accepted
        exact ⟨text, rfl, Mail.mem_pattern_iff.2 (Mail.isAddress_iff.1 address)⟩
    · cases accepted
  · have apart : ∀ text, value ≠ .string text := fun held same => text ⟨held, same⟩
    have rejected : RejectsMail value := by
      apply rejectsMail_of_not_address
      rw [Value.toList_text apart]
      exact Mail.not_address_compact apart
    obtain ⟨reason, failed, _⟩ := rejected
    rw [failed] at accepted
    cases accepted

/-- A present value is converted to one of the kind. -/
theorem admits_of_cast (present : value ≠ .null) (accepted : kind.cast value = .ok converted) :
    kind.Admits converted := by
  cases kind with
  | number =>
      obtain ⟨n, rfl⟩ := exists_number_of_castNumber accepted
      trivial
  | string =>
      cases accepted
      trivial
  | boolean =>
      cases accepted
      trivial
  | object =>
      cases accepted
      exact present
  | mail =>
      obtain ⟨text, rfl, address⟩ := exists_string_of_cast_mail accepted
      exact address

/-- The empty string is a value of the other kinds. -/
theorem cast_empty (kept : ¬kind.ChangesEmpty) :
    kind.cast (.string "") = .ok (.string "") := by
  cases kind with
  | number => exact absurd (.inl rfl) kept
  | boolean => exact absurd (.inr (.inl rfl)) kept
  | mail => exact absurd (.inr (.inr rfl)) kept
  | string => rfl
  | object => rfl

end ParamKind

namespace Parameter

/-! ## One parameter -/

/-- The parameter comes of a declaration. -/
def IsDeclared (parameter : Parameter) : Prop :=
  ∃ name declaration, (declare name declaration).outcome = .ok parameter

variable {parameter : Parameter} {value : Value}

/-- A missing value is replaced by the default. -/
theorem validate_eq_ok_iff_of_missing {raw : Option Value}
    (missing : raw = none ∨ raw = some .null) :
    parameter.validate raw = .ok value ↔ parameter.default? = some value := by
  have filtered : (raw.filter fun value => !value.isNull) = none := by
    rcases missing with rfl | rfl <;> rfl
  unfold validate
  rw [filtered]
  dsimp only
  cases parameter.default? <;> simp

/-- A present value is converted. -/
theorem validate_eq_ok_iff_of_present {present : Value} (filled : present ≠ .null) :
    parameter.validate (some present) = .ok value ↔
      parameter.kind.cast present = .ok value := by
  have filtered : ((some present).filter fun value => !value.isNull) = some present := by
    cases present with
    | null => exact absurd rfl filled
    | _ => rfl
  unfold validate
  rw [filtered]
  dsimp only
  cases parameter.kind.cast present <;> simp

/-- What is accepted is the default, or converted from a present value. -/
theorem default_or_cast_of_validate {raw : Option Value}
    (valid : parameter.validate raw = .ok value) :
    parameter.default? = some value ∨
      ∃ present, present ≠ .null ∧ parameter.kind.cast present = .ok value := by
  by_cases missing : raw = none ∨ raw = some .null
  · exact .inl ((validate_eq_ok_iff_of_missing missing).1 valid)
  · obtain ⟨absent, null⟩ := not_or.1 missing
    obtain ⟨present, rfl⟩ := Option.ne_none_iff_exists'.1 absent
    have filled : present ≠ .null := fun same => null (congrArg some same)
    exact .inr ⟨present, filled, (validate_eq_ok_iff_of_present filled).1 valid⟩

theorem default_or_admits_of_validate {raw : Option Value}
    (valid : parameter.validate raw = .ok value) :
    parameter.default? = some value ∨ parameter.kind.Admits value :=
  (default_or_cast_of_validate valid).imp_right fun ⟨_, filled, accepted⟩ =>
    ParamKind.admits_of_cast filled accepted

/-- What is accepted and present is left as it is by the kind. -/
theorem cast_of_validate (formed : parameter.WellFormed)
    (kept : parameter.kind.ChangesEmpty → parameter.default? ≠ some (.string ""))
    {raw : Option Value} (valid : parameter.validate raw = .ok value) (filled : value ≠ .null) :
    parameter.kind.cast value = .ok value := by
  rcases default_or_cast_of_validate valid with default | ⟨present, _, accepted⟩
  · rcases formed.default value default with null | empty | unchanged
    · exact absurd null filled
    · subst empty
      exact ParamKind.cast_empty fun changes => kept changes default
    · exact unchanged
  · exact ParamKind.cast_cast accepted

/-- What is accepted is accepted again, as it is. -/
theorem validate_again (formed : parameter.WellFormed)
    (kept : parameter.kind.ChangesEmpty → parameter.default? ≠ some (.string ""))
    {raw : Option Value} (valid : parameter.validate raw = .ok value) :
    parameter.validate (some value) = .ok value := by
  by_cases null : value = .null
  · subst null
    -- no kind admits null, so that it is the default
    rw [validate_eq_ok_iff_of_missing (.inr rfl)]
    exact (default_or_admits_of_validate valid).resolve_right fun admits => admits.ne_null rfl
  · rw [validate_eq_ok_iff_of_present null]
    exact cast_of_validate formed kept valid null

/-! ## All parameters -/

section All

variable {source result : Entries String Value} {declared : List Parameter}

/-- Validated values are found under the names of their parameters. -/
theorem lookup_of_readFrom (distinct : DistinctNames declared)
    (read : List.Forall₂ (ReadFrom source) declared result) {entry : String × Value}
    (member : entry ∈ result) : result.lookup entry.1 = some entry.2 := by
  have keys : (Entries.keys result).Nodup := by
    rw [keys_eq_of_forall₂_readFrom read]
    exact distinct
  exact (Entries.lookup_eq_some_iff_mem keys).2 member

/-- What was validated is validated to itself. -/
theorem readFrom_again (distinct : DistinctNames declared)
    (formed : ∀ parameter ∈ declared, parameter.WellFormed)
    (kept : ∀ parameter ∈ declared,
      parameter.kind.ChangesEmpty → parameter.default? ≠ some (.string ""))
    (read : List.Forall₂ (ReadFrom source) declared result) :
    List.Forall₂ (ReadFrom result) declared result := by
  obtain ⟨sameLength, each⟩ := List.forall₂_iff_zip.1 read
  refine List.forall₂_iff_zip.2 ⟨sameLength, fun {parameter entry} together => ?_⟩
  obtain ⟨inDeclared, inResult⟩ := List.of_mem_zip together
  obtain ⟨named, valid⟩ := each together
  refine ⟨named, ?_⟩
  rw [← named, lookup_of_readFrom distinct read inResult]
  exact validate_again (formed parameter inDeclared) (kept parameter inDeclared) valid

end All

/-! ## Declaring again -/

/-- A stored default is stored as it is. -/
theorem castDefault_again {name : String} {kind : ParamKind} {default : Value}
    (stored : castDefault name kind value = .ok default) :
    castDefault name kind default = .ok default := by
  rcases castDefault_eq_ok stored with rfl | rfl | unchanged
  · rfl
  · rfl
  · unfold castDefault
    split
    · rfl
    · rfl
    · rw [unchanged]

/-- Another value of a declared key keeps the keys. -/
theorem keys_insert_of_lookup {key : String} {config : Entries String Value} {held : Value}
    (found : config.lookup key = some held) (value : Value) :
    Entries.keys (Entries.insert key value config) = Entries.keys config := by
  rw [Entries.keys_insert, if_pos]
  by_contra absent
  rw [Entries.lookup_eq_none_iff.2 absent] at found
  cases found

/-- A stored default is converted from a declared one. -/
theorem exists_castDefault_of_defaultField {name : String} {kind : ParamKind}
    {declared : Option Value} {default : Value}
    (read : defaultField name kind declared = .ok (some default)) :
    ∃ held, declared = some held ∧ castDefault name kind held = .ok default := by
  unfold defaultField at read
  split at read
  · cases read
  · next held =>
      obtain ⟨converted, stored, same⟩ := map_eq_ok_iff.1 read
      cases same
      exact ⟨held, rfl, stored⟩

/-- A declaration with the stored default in the place of the one that was declared says the
same. -/
theorem declare_stored {name : String} {config : Entries String Value} {default : Value}
    (declared : (declare name (.map config)).outcome = .ok parameter)
    (stored : parameter.default? = some default) :
    declare name (.map (Entries.insert "default_value" default config)) =
      declare name (.map config) := by
  have named : ¬Text.isBlankText name = true := by simp [(declare_name declared).2]
  unfold declare at declared ⊢
  rw [if_neg named] at declared
  rw [if_neg named, if_neg named]
  dsimp only at declared ⊢
  obtain ⟨_, _, unwarned⟩ := Checked.bind_outcome_eq_ok_iff.1 declared
  obtain ⟨kind, kindRead, withDefault⟩ := Checked.bind_outcome_eq_ok_iff.1 unwarned
  obtain ⟨default?, defaultRead, built⟩ := Checked.bind_outcome_eq_ok_iff.1 withDefault
  cases built
  obtain rfl : default? = some default := stored
  obtain ⟨held, found, converted⟩ := exists_castDefault_of_defaultField defaultRead
  have again : defaultField name kind (some default) = defaultField name kind (some held) := by
    rw [defaultField, defaultField, castDefault_again converted, converted]
  have apart : ("type" : String) ≠ "default_value" := by decide
  rw [unusedKeys, keys_insert_of_lookup found, Entries.lookup_insert_of_ne default apart,
    Entries.lookup_insert_self, found, ← unusedKeys]
  refine Checked.bind_congr_of_ok fun _ _ => Checked.bind_congr_of_ok fun other otherRead => ?_
  obtain rfl : kind = other := Except.ok.inj (kindRead.symm.trans otherRead)
  rw [again]

/-- Validated parameters have the declared names in order, each its default or a value of its
kind, and are validated to themselves; a default is stored in a form that declares it again. -/
theorem validated_is_valid_again :
    (∀ (declared : List Parameter) (source result : Entries String Value),
      (∀ parameter ∈ declared, parameter.IsDeclared) → DistinctNames declared →
      (∀ parameter ∈ declared,
        parameter.kind.ChangesEmpty → parameter.default? ≠ some (.string "")) →
      validateAll declared source = .ok result →
        Entries.keys result = declared.map Parameter.name ∧
        (∀ parameter ∈ declared, ∃ value, result.lookup parameter.name = some value ∧
          (parameter.default? = some value ∨ parameter.kind.Admits value)) ∧
        validateAll declared result = .ok result) ∧
    ∀ (name : String) (config : Entries String Value) (parameter : Parameter) (default : Value),
      (declare name (.map config)).outcome = .ok parameter → parameter.default? = some default →
        declare name (.map (Entries.insert "default_value" default config)) =
          declare name (.map config) := by
  refine ⟨fun declared source result each distinct kept valid => ?_,
    fun name config parameter default => declare_stored⟩
  have formed : ∀ parameter ∈ declared, parameter.WellFormed := by
    intro parameter member
    obtain ⟨name, declaration, built⟩ := each parameter member
    exact wellFormed_of_declare built
  have read := (validateAll_eq_ok_iff distinct).1 valid
  refine ⟨keys_eq_of_forall₂_readFrom read, fun parameter member => ?_,
    (validateAll_eq_ok_iff distinct).2 (readFrom_again distinct formed kept read)⟩
  obtain ⟨⟨key, value⟩, inResult, named, accepted⟩ := exists_rel_of_mem read.flip member
  have found := lookup_of_readFrom distinct read inResult
  exact ⟨value, named ▸ found, default_or_admits_of_validate accepted⟩

/-- Parameters with a converted default, a null and an empty one. -/
def orderParameters : List Parameter :=
  [⟨"gift", .boolean, some (.bool true)⟩, ⟨"mail", .mail, some .null⟩,
    ⟨"note", .string, some (.string "")⟩, ⟨"count", .number, none⟩]

/-- Null and empty defaults stay in the place of missing values, and the converted default is
declared again as it is stored. -/
theorem null_and_empty_defaults_stay :
    validateAll orderParameters [("count", .bool true), ("mail", .null)] =
      .ok [("gift", .bool true), ("mail", .null), ("note", .string ""),
        ("count", .number (.ofNat 1))] ∧
    validateAll orderParameters [("gift", .bool true), ("mail", .null), ("note", .string ""),
        ("count", .number (.ofNat 1))] =
      .ok [("gift", .bool true), ("mail", .null), ("note", .string ""),
        ("count", .number (.ofNat 1))] ∧
    declare "gift" (.map [("type", .string "boolean"), ("default_value", .bool true)]) =
      declare "gift" (.map [("type", .string "boolean"), ("default_value", .string "1")]) := by
  have each : ∀ parameter ∈ orderParameters, parameter.IsDeclared := by
    simp only [orderParameters, List.forall_mem_cons]
    exact ⟨⟨"gift", .map [("type", .string "boolean"), ("default_value", .string "1")], rfl⟩,
      ⟨"mail", .map [("type", .string "mail"), ("default_value", .null)], rfl⟩,
      ⟨"note", .map [("type", .string "string"), ("default_value", .string "")], rfl⟩,
      ⟨"count", .string "number", rfl⟩, List.forall_mem_nil _⟩
  have distinct : DistinctNames orderParameters := by
    unfold DistinctNames
    decide
  have kept : ∀ parameter ∈ orderParameters,
      parameter.kind.ChangesEmpty → parameter.default? ≠ some (.string "") := by
    simp [orderParameters, ParamKind.ChangesEmpty]
  have valid : validateAll orderParameters [("count", .bool true), ("mail", .null)] =
      .ok [("gift", .bool true), ("mail", .null), ("note", .string ""),
        ("count", .number (.ofNat 1))] := rfl
  obtain ⟨_, _, again⟩ := validated_is_valid_again.1 _ _ _ each distinct kept valid
  exact ⟨valid, again, validated_is_valid_again.2 "gift"
    [("type", .string "boolean"), ("default_value", .string "1")]
    ⟨"gift", .boolean, some (.bool true)⟩ (.bool true) rfl rfl⟩

end Parameter

end RoutePlan
