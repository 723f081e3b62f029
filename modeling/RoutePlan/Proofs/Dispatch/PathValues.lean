import RoutePlan.Proofs.Captures
import RoutePlan.Proofs.Dispatch.Controller
import RoutePlan.Proofs.Validation

/-!
# Values of path parameters

A parameter of a route gets its last segment on a request, converted to its kind, or
its default when the path of the route has no place for it; or it fails.  A method
handler that finds the segments of the request calls its controller with these values,
and fails with the first parameter that has none.
-/

namespace RoutePlan

namespace Parameter

/-- The value that a parameter gets on a request to the path of a route. -/
inductive Gets (parameter : Parameter) (path request : String) : Value → Prop where
  /-- Its last segment, converted. -/
  | segment {segment : String} {value : Value}
      (stands : PathPattern.lastSegment? parameter.name path request = some segment)
      (converts : parameter.kind.cast (.string segment) = .ok value) :
      Gets parameter path request value
  /-- Its default, when the path has no place for it. -/
  | default {value : Value}
      (absent : PathPattern.lastSegment? parameter.name path request = none)
      (declared : parameter.default? = some value) :
      Gets parameter path request value

/-- Why a parameter gets no value, in words that name it. -/
inductive Fails (parameter : Parameter) (path request : String) : String → Prop where
  | rejected {segment : String} {reason : CastError}
      (stands : PathPattern.lastSegment? parameter.name path request = some segment)
      (rejects : parameter.kind.cast (.string segment) = .error reason) :
      Fails parameter path request
        s!"Parameter \"{parameter.name}\" cannot be validated (Reason: {reason.message})"
  | mandatory
      (absent : PathPattern.lastSegment? parameter.name path request = none)
      (required : parameter.default? = none) :
      Fails parameter path request s!"Parameter \"{parameter.name}\" is mandatory"

section Validate

variable {parameter : Parameter} {path request : String}

/-- A missing value is replaced by the default. -/
theorem validate_none (parameter : Parameter) :
    parameter.validate none =
      match parameter.default? with
      | some value => .ok value
      | none => .error ⟨400, s!"Parameter \"{parameter.name}\" is mandatory"⟩ :=
  rfl

/-- A text is converted. -/
theorem validate_text (parameter : Parameter) (text : String) :
    parameter.validate (some (.string text)) =
      match parameter.kind.cast (.string text) with
      | .ok value => .ok value
      | .error reason =>
          .error ⟨400,
            s!"Parameter \"{parameter.name}\" cannot be validated (Reason: {reason.message})"⟩ :=
  rfl

theorem gets_iff_validate {value : Value} :
    parameter.Gets path request value ↔
      parameter.validate
        ((PathPattern.lastSegment? parameter.name path request).map .string) = .ok value := by
  constructor
  · rintro (⟨stands, converts⟩ | ⟨absent, declared⟩)
    · rw [stands, Option.map_some, validate_text, converts]
    · rw [absent, Option.map_none, validate_none, declared]
  · intro valid
    cases stands : PathPattern.lastSegment? parameter.name path request with
    | none =>
        rw [stands, Option.map_none, validate_none] at valid
        split at valid
        · next declared =>
            cases valid
            exact .default stands declared
        · cases valid
    | some segment =>
        rw [stands, Option.map_some, validate_text] at valid
        split at valid
        · next converts =>
            cases valid
            exact .segment stands converts
        · cases valid

theorem validate_of_fails {message : String} (fails : parameter.Fails path request message) :
    parameter.validate
      ((PathPattern.lastSegment? parameter.name path request).map .string) =
        .error ⟨400, message⟩ := by
  cases fails with
  | rejected stands rejects => rw [stands, Option.map_some, validate_text, rejects]
  | mandatory absent required => rw [absent, Option.map_none, validate_none, required]

/-- A parameter gets a value, or there is a reason why not. -/
theorem gets_or_fails (parameter : Parameter) (path request : String) :
    (∃ value, parameter.Gets path request value) ∨
      ∃ message, parameter.Fails path request message := by
  cases stands : PathPattern.lastSegment? parameter.name path request with
  | none =>
      cases declared : parameter.default? with
      | none => exact .inr ⟨_, .mandatory stands declared⟩
      | some value => exact .inl ⟨value, .default stands declared⟩
  | some segment =>
      cases converted : parameter.kind.cast (.string segment) with
      | error reason => exact .inr ⟨_, .rejected stands converted⟩
      | ok value => exact .inl ⟨value, .segment stands converted⟩

end Validate

/-- Why the first parameter without a value has none. -/
def FirstFails (declared : List Parameter) (path request message : String) : Prop :=
  ∃ before parameter after, declared = before ++ parameter :: after ∧
    (∀ earlier ∈ before, ∃ value, earlier.Gets path request value) ∧
    parameter.Fails path request message

/-- Among parameters of which one fails there is a first that does. -/
theorem exists_firstFails {declared : List Parameter} {path request : String}
    (failing : ∃ parameter ∈ declared, ∃ message, parameter.Fails path request message) :
    ∃ message, FirstFails declared path request message := by
  induction declared with
  | nil =>
      obtain ⟨_, member, _⟩ := failing
      cases member
  | cons parameter rest ih =>
      rcases gets_or_fails parameter path request with gets | ⟨message, fails⟩
      · -- the head has a value, so it is not the one that fails
        have later : ∃ other ∈ rest, ∃ message, other.Fails path request message := by
          obtain ⟨other, member, message, fails⟩ := failing
          rcases List.mem_cons.mp member with rfl | member
          · obtain ⟨value, accepted⟩ := gets
            have valid := gets_iff_validate.mp accepted
            rw [validate_of_fails fails] at valid
            cases valid
          · exact ⟨other, member, message, fails⟩
        obtain ⟨message, before, first, after, rfl, earlier, fails⟩ := ih later
        exact ⟨message, parameter :: before, first, after, rfl,
          List.forall_mem_cons.mpr ⟨gets, earlier⟩, fails⟩
      · exact ⟨message, [], parameter, rest, rfl, List.forall_mem_nil _, fails⟩

end Parameter

/-! ## Validation on the captures of a route -/

/-- Each declared parameter is found as its last segment, or not at all. -/
def HoldsSegments (declared : List Parameter) (path request : String)
    (params : Entries String Value) : Prop :=
  ∀ parameter ∈ declared, params.lookup parameter.name =
    (PathPattern.lastSegment? parameter.name path request).map .string

theorem Parameter.forall₂_gets {declared : List Parameter} {path request : String}
    {params entries : Entries String Value} (holds : HoldsSegments declared path request params)
    (read : List.Forall₂ (ReadFrom params) declared entries) :
    List.Forall₂ (fun parameter entry => parameter.Gets path request entry.2) declared entries := by
  induction read with
  | nil => exact .nil
  | @cons parameter entry _ _ first _ ih =>
      obtain ⟨here, others⟩ := List.forall_mem_cons.mp holds
      obtain ⟨_, valid⟩ := first
      rw [here] at valid
      exact .cons (Parameter.gets_iff_validate.mpr valid) (ih others)

namespace MethodHandler

variable {handler : MethodHandler} {context : Context} {path request : String}
  (holds : HoldsSegments handler.params path request context.params)

include holds

/-- What a controller sees of the path parameters. -/
theorem gets_of_input (distinct : Parameter.DistinctNames handler.params)
    {input : ControllerInput} (valid : handler.input context = .ok input) :
    Entries.keys input.params = handler.params.map Parameter.name ∧
      List.Forall₂ (fun parameter entry => parameter.Gets path request entry.2)
        handler.params input.params := by
  obtain ⟨params, paramsValid, valid⟩ := bind_eq_ok_iff.mp valid
  obtain ⟨body, _, same⟩ := bind_eq_ok_iff.mp valid
  cases same
  have read := (Parameter.validateAll_eq_ok_iff distinct).mp paramsValid
  exact ⟨Parameter.keys_eq_of_forall₂_readFrom read, Parameter.forall₂_gets holds read⟩

/-- When each path parameter has a value, the rest of the input is up to the body. -/
theorem isOk_input_of_gets
    (gets : ∀ parameter ∈ handler.params, ∃ value, parameter.Gets path request value) :
    (handler.input context).isOk =
      (Parameter.validateAll handler.body context.body.entriesOrNone).isOk := by
  cases valid : Parameter.validateAll handler.params context.params with
  | error failure =>
      obtain ⟨before, parameter, after, split, _, failed⟩ :=
        Parameter.validateAll_eq_error_iff.mp valid
      have member : parameter ∈ handler.params := by simp [split]
      obtain ⟨value, accepted⟩ := gets parameter member
      rw [holds parameter member, Parameter.gets_iff_validate.mp accepted] at failed
      cases failed
  | ok params =>
      rw [input, valid, ok_bind]
      cases Parameter.validateAll handler.body context.body.entriesOrNone <;> rfl

/-- The first path parameter without a value is the failure of the input. -/
theorem input_of_firstFails {message : String}
    (fails : Parameter.FirstFails handler.params path request message) :
    handler.input context = .error ⟨400, message⟩ := by
  obtain ⟨before, parameter, after, split, earlier, fails⟩ := fails
  rw [HoldsSegments, split] at holds
  obtain ⟨holdsBefore, holdsRest⟩ := List.forall_mem_append.mp holds
  obtain ⟨here, _⟩ := List.forall_mem_cons.mp holdsRest
  have invalid : Parameter.validateAll handler.params context.params =
      .error ⟨400, message⟩ := by
    apply Parameter.validateAll_eq_error_iff.mpr
    refine ⟨before, parameter, after, split, ?_, ?_⟩
    · intro other member
      obtain ⟨value, accepted⟩ := earlier other member
      rw [holdsBefore other member]
      exact ⟨value, Parameter.gets_iff_validate.mp accepted⟩
    · rw [here]
      exact Parameter.validate_of_fails fails
  rw [input, invalid, error_bind]

end MethodHandler

theorem Handler.exists_eq_method {handler : Handler} (isMethod : handler.isMethod = true) :
    ∃ wrapped, handler = .method wrapped := by
  cases handler with
  | initializer => cases isMethod
  | custom _ => cases isMethod
  | method wrapped => exact ⟨wrapped, rfl⟩

namespace HandlerRun

/-- A run of a method handler calls its controller when the input is valid. -/
theorem callsController_eq_isOk {run : HandlerRun} {handler : MethodHandler}
    (wrapped : run.handler = .method handler) :
    run.callsController = (handler.input run.before).isOk := by
  rw [callsController, wrapped]

/-- What a controller that is called gets. -/
theorem exists_input_of_callsController {run : HandlerRun} (calls : run.callsController = true) :
    ∃ handler input, run.handler = .method handler ∧ handler.input run.before = .ok input := by
  obtain ⟨handler, input, wrapped, valid, _⟩ := exists_runLogged_of_callsController calls
  exact ⟨handler, input, wrapped, valid⟩

/-- When the input is not valid, the run ends with the failure. -/
theorem result_of_input_eq_error {run : HandlerRun} {handler : MethodHandler}
    (wrapped : run.handler = .method handler) {failure : ValidationFailure}
    (invalid : handler.input run.before = .error failure) :
    run.result.1 = .error (.validation failure) := by
  rw [result, wrapped, Handler.run, MethodHandler.run, invalid]

end HandlerRun

end RoutePlan
