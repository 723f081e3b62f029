import RoutePlan.Proofs.FieldErrors
import RoutePlan.Proofs.SettingsCheck
import RoutePlan.Proofs.Tree.Method

/-!
# Valid settings and the statuses of methods

Settings that pass their check make the statuses of methods safe.  The default is allowed and
every allowed code is a status, so a method without a code has the default, and a code passes
exactly when it is an integer that is allowed.
-/

namespace RoutePlan

/-- A natural is the integer of its size. -/
theorem Number.toNat?_eq_some_iff {n : Number} {code : Nat} :
    n.toNat? = some code ↔ ∃ bounds, n = .integer code bounds := by
  cases n with
  | double x => simp [toNat?]
  | integer n bounds =>
      simp only [toNat?, Option.ite_none_right_eq_some, Option.some.injEq, Number.integer.injEq]
      constructor
      · rintro ⟨positive, rfl⟩
        exact ⟨by omega, by omega⟩
      · rintro ⟨_, rfl⟩
        exact ⟨by omega, by omega⟩

/-! ## Errors on statuses -/

/-- The violation is on the status of a method. -/
def Violation.isOnStatus : Violation → Bool
  | statusNotNumber .. | statusNotAllowed .. | statusNotValid .. => true
  | _ => false

/-- The error is on the status of a method. -/
def PlanError.isOnStatus : PlanError → Bool
  | invalid violation => violation.isOnStatus
  | _ => false

theorem PlanError.OnField.isOnStatus {error : PlanError} (onField : error.OnField) :
    error.isOnStatus = false := by
  cases error with
  | invalid violation => cases violation <;> first | rfl | cases onField
  | _ => rfl

namespace Method

/-! ## The status of a method -/

variable {settings : RouteSettings} {verb : String} {field : Option Value} {code : Nat}
  {error : PlanError}

/-- The status that a method declares: the default unless it gives a code, and else an
integer that is allowed. -/
inductive DeclaresStatus (settings : RouteSettings) : Option Value → Nat → Prop where
  | absent : DeclaresStatus settings none settings.defaultStatus
  | null : DeclaresStatus settings (some .null) settings.defaultStatus
  | integer {code : Nat} {bounds} (allowed : code ∈ settings.allowedStatuses) :
      DeclaresStatus settings (some (.number (.integer code bounds))) code

/-- What is wrong with a code: it is no number, no integer of 16 bits or not allowed. -/
inductive StatusError (settings : RouteSettings) (verb : String) :
    Option Value → PlanError → Prop where
  | notNumber {value : Value} (filled : value ≠ .null) (other : ∀ n, value ≠ .number n) :
      StatusError settings verb (some value) (.invalid (.statusNotNumber verb value.kindName))
  | notCode {n : Number}
      (apart : ∀ (code : Nat) bounds, code < UInt16.size → n ≠ .integer code bounds) :
      StatusError settings verb (some (.number n))
        (.invalid (.statusNotValid verb (Value.number n).text))
  | notAllowed {code : Nat} {bounds} (small : code < UInt16.size)
      (apart : code ∉ settings.allowedStatuses) :
      StatusError settings verb (some (.number (.integer code bounds)))
        (.invalid (.statusNotAllowed verb code))

theorem StatusError.isOnStatus (wrong : StatusError settings verb field error) :
    error.isOnStatus = true := by
  cases wrong <;> rfl

theorem DeclaresStatus.unique {other : Nat} (declares : DeclaresStatus settings field code)
    (also : DeclaresStatus settings field other) : code = other := by
  cases declares with
  | absent => cases also; rfl
  | null => cases also; rfl
  | integer allowed => cases also; rfl

theorem StatusError.unique {other : PlanError} (wrong : StatusError settings verb field error)
    (also : StatusError settings verb field other) : error = other := by
  cases wrong with
  | notNumber filled notNumber =>
      cases also with
      | notNumber => rfl
      | notCode => exact absurd rfl (notNumber _)
      | notAllowed => exact absurd rfl (notNumber _)
  | notCode apart =>
      cases also with
      | notNumber _ notNumber => exact absurd rfl (notNumber _)
      | notCode => rfl
      | notAllowed small => exact absurd rfl (apart _ _ small)
  | notAllowed small apart =>
      cases also with
      | notNumber _ notNumber => exact absurd rfl (notNumber _)
      | notCode apart => exact absurd rfl (apart _ _ small)
      | notAllowed => rfl

theorem readStatus_of_not_allowed (declared : declaredCode settings verb field = .ok code)
    (apart : code ∉ settings.allowedStatuses) :
    readStatus settings verb field = .error (.invalid (.statusNotAllowed verb code)) := by
  have refused : ¬settings.allows code = true := by simpa [RouteSettings.allows] using apart
  rw [readStatus, declared, ok_bind, if_neg refused]
  rfl

section Statuses

variable (statuses : ∀ code ∈ settings.allowedStatuses, Settings.IsStatusCode code)

include statuses

theorem readStatus_of_allowed (declared : declaredCode settings verb field = .ok code)
    (allowed : code ∈ settings.allowedStatuses) :
    ∃ status, readStatus settings verb field = .ok status ∧ status.code = code := by
  have accepted : settings.allows code = true := by simpa [RouteSettings.allows] using allowed
  have status : Status.ofCode? code = some ⟨code, statuses code allowed⟩ :=
    Status.ofCode?_code ⟨code, statuses code allowed⟩
  refine ⟨⟨code, statuses code allowed⟩, ?_, rfl⟩
  rw [readStatus, declared, ok_bind, if_pos accepted, status]
  rfl

theorem DeclaresStatus.not_statusError
    (declares : DeclaresStatus settings field code) :
    ¬StatusError settings verb field error := by
  intro wrong
  cases declares with
  | absent => cases wrong
  | null =>
      cases wrong with
      | notNumber filled => exact filled rfl
  | integer allowed =>
      cases wrong with
      | notNumber _ other => exact other _ rfl
      | notCode apart =>
          have bounds := statuses _ allowed
          exact apart _ _ (Nat.lt_of_le_of_lt bounds.2 (by decide)) rfl
      | notAllowed _ apart => exact apart allowed

variable (default : settings.defaultStatus ∈ settings.allowedStatuses)

include default

/-- A status is read as it is declared, or what is wrong with it is told. -/
theorem readStatus_cases (verb : String) (field : Option Value) :
    (∃ status, readStatus settings verb field = .ok status ∧
      DeclaresStatus settings field status.code) ∨
    ∃ error, readStatus settings verb field = .error error ∧
      StatusError settings verb field error := by
  cases field with
  | none =>
      have declared : declaredCode settings verb none = .ok settings.defaultStatus := rfl
      obtain ⟨status, read, same⟩ := readStatus_of_allowed statuses declared default
      exact .inl ⟨status, read, same ▸ .absent⟩
  | some value =>
      cases value with
      | null =>
          have declared : declaredCode settings verb (some .null) = .ok settings.defaultStatus :=
            rfl
          obtain ⟨status, read, same⟩ := readStatus_of_allowed statuses declared default
          exact .inl ⟨status, read, same ▸ .null⟩
      | number n =>
          by_cases natural : ∃ code : Nat, code < UInt16.size ∧ n.toNat? = some code
          · obtain ⟨code, small, read⟩ := natural
            obtain ⟨bounds, rfl⟩ := Number.toNat?_eq_some_iff.1 read
            have declared : declaredCode settings verb (some (.number (.integer code bounds))) =
                .ok code := by
              rw [declaredCode, read, Option.filter_some, if_pos (by simpa using small)]
            by_cases allowed : code ∈ settings.allowedStatuses
            · obtain ⟨status, readHere, rfl⟩ := readStatus_of_allowed statuses declared allowed
              exact .inl ⟨status, readHere, .integer allowed⟩
            · exact .inr ⟨_, readStatus_of_not_allowed declared allowed,
                .notAllowed small allowed⟩
          · have filtered : n.toNat?.filter (· < UInt16.size) = none := by
              rw [Option.filter_eq_none_iff]
              intro code read small
              exact natural ⟨code, by simpa using small, read⟩
            refine .inr ⟨_, ?_, .notCode fun code bounds small same => ?_⟩
            · rw [readStatus, declaredCode, filtered]
              rfl
            · exact natural ⟨code, small, Number.toNat?_eq_some_iff.2 ⟨bounds, same⟩⟩
      | bool flag => exact .inr ⟨_, rfl, .notNumber nofun fun _ => nofun⟩
      | string text => exact .inr ⟨_, rfl, .notNumber nofun fun _ => nofun⟩
      | list items => exact .inr ⟨_, rfl, .notNumber nofun fun _ => nofun⟩
      | map entries => exact .inr ⟨_, rfl, .notNumber nofun fun _ => nofun⟩

theorem readStatus_eq_ok_iff :
    (∃ status, readStatus settings verb field = .ok status ∧ status.code = code) ↔
      DeclaresStatus settings field code := by
  rcases readStatus_cases statuses default verb field with
    ⟨status, read, declares⟩ | ⟨error, read, wrong⟩
  · rw [read]
    constructor
    · rintro ⟨_, ⟨⟩, rfl⟩
      exact declares
    · intro also
      exact ⟨status, rfl, declares.unique also⟩
  · rw [read]
    constructor
    · rintro ⟨_, ⟨⟩, _⟩
    · intro declares
      exact absurd wrong (declares.not_statusError statuses)

theorem readStatus_eq_error_iff :
    readStatus settings verb field = .error error ↔ StatusError settings verb field error := by
  rcases readStatus_cases statuses default verb field with
    ⟨status, read, declares⟩ | ⟨other, read, wrong⟩
  · rw [read]
    constructor
    · rintro ⟨⟩
    · intro also
      exact absurd also (declares.not_statusError statuses)
  · rw [read]
    constructor
    · rintro ⟨⟩
      exact wrong
    · intro also
      rw [wrong.unique also]

end Statuses

/-! ## Methods -/

variable {params : List Parameter} {name : String} {value : Value}
  {config : Entries String Value}

/-- Only the status of a method is answered with an error on statuses. -/
theorem exists_config_of_isOnStatus
    (failed : (compile settings params name value).outcome = .error error)
    (onStatus : error.isOnStatus = true) :
    ∃ config, requireConfig name value = .ok config ∧
      readStatus settings name (config.lookup "response_code") = .error error := by
  have elsewhere {α : Type} {outcome : Except PlanError α}
      (answers : Answers PlanError.OnField outcome) (failed : outcome = .error error) : False :=
    Bool.false_ne_true ((answers error failed).isOnStatus.symm.trans onStatus)
  unfold compile at failed
  cases parsed : Verb.parse? name with
  | none =>
      rw [parsed] at failed
      cases failed
      cases onStatus
  | some found =>
      simp only [parsed, pure_bind, Checked.outcome_bind, Checked.outcome_ofExcept,
        Checked.outcome_warn, ok_bind] at failed
      rcases bind_eq_error_iff.1 failed with here | ⟨config, configRead, failed⟩
      · exact (elsewhere (requireConfig_onField _ _) here).elim
      · rcases bind_eq_error_iff.1 failed with here | ⟨controller, _, failed⟩
        · exact (elsewhere (readController_onField _ _) here).elim
        · rcases bind_eq_error_iff.1 failed with here | ⟨status, _, failed⟩
          · exact ⟨config, configRead, here⟩
          · refine (elsewhere ?_ failed).elim
            exact (Parameter.declareAll_onField _ _ _).bind fun _ =>
              (readMiddlewares_onField _ _ _).bind fun _ =>
                (readMiddlewares_onField _ _ _).bind fun _ => .ok _

/-- The status is checked once the verb, the mapping and the controller are read. -/
theorem compile_of_readStatus_eq_error {found : Verb} {controller : String}
    (parsed : Verb.parse? name = some found) (configRead : requireConfig name value = .ok config)
    (controllerRead : readController name (config.lookup "controller") = .ok controller)
    (failed : readStatus settings name (config.lookup "response_code") = .error error) :
    (compile settings params name value).outcome = .error error := by
  unfold compile
  simp only [parsed, pure_bind, Checked.outcome_bind, Checked.outcome_ofExcept,
    Checked.outcome_warn, ok_bind, configRead, controllerRead, failed, error_bind]

end Method

namespace Settings

/-- Settings that are read from a text are accepted exactly when they are valid, and else
the text is answered with all that is wrong. -/
theorem ofText_of_read {text : String} {settings : Settings}
    (read : (Toml.read? text).bind (ofValue? true) = some settings) :
    (settings.Valid → ofText text = .ok settings) ∧
      (¬settings.Valid → ofText text = .error (.invalid settings.violations)) := by
  rw [← violations_eq_nil_iff, ofText, read]
  exact ⟨fun none => if_pos none, fun some => if_neg some⟩

/-- The check of settings lists exactly the rules that are broken, an invalid code as often
as it is allowed and every other rule once, in the order of the rules, and nothing exactly
when the settings are valid; only valid settings are read from a text.

Valid settings make the statuses of methods safe.  Every allowed code is a status.  The status
that a method declares is read, which is the default when it gives no code, and an integer
that is allowed when it gives a number; everything else is told as a code that is no number,
no integer of 16 bits or not allowed.  A method that compiles has the status that it declares,
and one that fails on its status declares none; one that declares none fails on it as soon as
its verb, its mapping and its controller are read. -/
theorem valid_settings_make_statuses_safe (settings : Settings) :
    (∀ found, settings.Reports found ↔ found = settings.violations) ∧
    (settings.violations = [] ↔ settings.Valid) ∧
    (∀ text, (Toml.read? text).bind (ofValue? true) = some settings →
      (settings.Valid → ofText text = .ok settings) ∧
        (¬settings.Valid → ofText text = .error (.invalid settings.violations))) ∧
    (settings.Valid →
      (∀ code ∈ settings.routes.allowedStatuses, ∃ status, Status.ofCode? code = some status) ∧
      (∀ verb field code,
        (∃ status, Method.readStatus settings.routes verb field = .ok status ∧
          status.code = code) ↔ Method.DeclaresStatus settings.routes field code) ∧
      (∀ verb field error, Method.readStatus settings.routes verb field = .error error ↔
        Method.StatusError settings.routes verb field error) ∧
      ∀ params name value,
        (∀ method, (Method.compile settings.routes params name value).outcome = .ok method →
          ∃ config, Method.requireConfig name value = .ok config ∧
            Method.DeclaresStatus settings.routes (config.lookup "response_code")
              method.status.code) ∧
        (∀ error, (Method.compile settings.routes params name value).outcome = .error error →
          error.isOnStatus = true →
          ∃ config, Method.requireConfig name value = .ok config ∧
            ¬∃ code, Method.DeclaresStatus settings.routes (config.lookup "response_code") code) ∧
        ∀ verb config controller, Verb.parse? name = some verb →
          Method.requireConfig name value = .ok config →
          Method.readController name (config.lookup "controller") = .ok controller →
          (¬∃ code, Method.DeclaresStatus settings.routes (config.lookup "response_code") code) →
          ∃ error, (Method.compile settings.routes params name value).outcome = .error error ∧
            Method.StatusError settings.routes name (config.lookup "response_code") error) := by
  refine ⟨fun found => ⟨fun reports => reports.unique (reports_violations settings), ?_⟩,
    violations_eq_nil_iff, fun text read => ofText_of_read read, fun valid => ?_⟩
  · rintro rfl
    exact reports_violations settings
  · have statuses := valid.statuses
    refine ⟨fun code allowed => ?_,
      fun verb field code => Method.readStatus_eq_ok_iff statuses valid.default,
      fun verb field error => Method.readStatus_eq_error_iff statuses valid.default,
      fun params name value => ⟨fun method compiled => ?_, fun error failed onStatus => ?_, ?_⟩⟩
    · exact ⟨_, Status.ofCode?_code ⟨code, statuses code allowed⟩⟩
    · obtain ⟨config, _, configRead, statusRead⟩ := Method.exists_config_of_compile compiled
      exact ⟨config, configRead,
        (Method.readStatus_eq_ok_iff statuses valid.default).1 ⟨_, statusRead, rfl⟩⟩
    · obtain ⟨config, configRead, statusFailed⟩ :=
        Method.exists_config_of_isOnStatus failed onStatus
      refine ⟨config, configRead, fun ⟨code, declares⟩ => ?_⟩
      exact declares.not_statusError statuses
        ((Method.readStatus_eq_error_iff statuses valid.default).1 statusFailed)
    · intro verb config controller parsed configRead controllerRead none
      rcases Method.readStatus_cases statuses valid.default name (config.lookup "response_code")
        with ⟨status, _, declares⟩ | ⟨error, statusFailed, wrong⟩
      · exact absurd ⟨_, declares⟩ none
      · exact ⟨error, Method.compile_of_readStatus_eq_error parsed configRead controllerRead
          statusFailed, wrong⟩

/-- The default settings are valid.  With them a method without a code has 200, the integer
418 passes, and no double does. -/
theorem teapot_passes_and_doubles_do_not :
    ({} : Settings).Valid ∧
      (∃ status, Method.readStatus {} "get" none = .ok status ∧ status.code = 200) ∧
      (∃ status, Method.readStatus {} "get" (some (.number (.ofNat 418))) = .ok status ∧
        status.code = 418) ∧
      ∀ x, Method.readStatus {} "get" (some (.number (.double x))) =
        .error (.invalid (.statusNotValid "get" (Value.number (.double x)).text)) := by
  obtain ⟨_, accepted, _, safe⟩ := valid_settings_make_statuses_safe {}
  have valid : ({} : Settings).Valid := accepted.1 (by decide +kernel)
  obtain ⟨_, read, failed, _⟩ := safe valid
  refine ⟨valid, (read "get" none 200).2 .absent, ?_, fun x => ?_⟩
  · exact (read "get" (some (.number (.ofNat 418))) 418).2 (.integer (by decide))
  · exact (failed "get" (some (.number (.double x))) _).2 (.notCode fun _ _ _ => nofun)

end Settings

end RoutePlan
