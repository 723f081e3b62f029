import RoutePlan.Proofs.Dispatch.Controller
import RoutePlan.Proofs.Dispatch.ControllerProgram
import RoutePlan.Proofs.Validation

/-!
# Method handlers are all or nothing

A method handler checks what the request holds for its path parameters, and then for the
fields of the body, in the order of their declarations.  If everything is valid it calls
its controller once; otherwise it does not, and fails for the first thing that is not
valid.  A handler that fails, be it through its controller, leaves the context as it was,
and one that succeeds changes nothing but the prepared response.
-/

namespace RoutePlan

namespace Parameter

/-- A declared parameter, and what a request holds for it. -/
structure Received where
  parameter : Parameter
  raw : Option Value

namespace Received

/-- Why the value is not valid, if it is not. -/
def failure? (received : Received) : Option ValidationFailure :=
  RoutePlan.failure? (received.parameter.validate received.raw)

/-- A value is never rejected with another code. -/
theorem code_of_failure? {received : Received} {failure : ValidationFailure}
    (failed : received.failure? = some failure) : failure.code = 400 := by
  unfold failure? validate at failed
  split at failed
  · split at failed <;> cases failed
    rfl
  · split at failed <;> cases failed
    rfl

end Received

/-- What a source holds for the declared parameters, in their order. -/
def received (declared : List Parameter) (source : Entries String Value) : List Received :=
  declared.map fun parameter => ⟨parameter, source.lookup parameter.name⟩

/-- A validation fails for the first parameter whose value is not valid. -/
theorem failure?_validateFrom (source validated : Entries String Value)
    (declared : List Parameter) :
    failure? (validateFrom source validated declared) =
      (received declared source).findSome? Received.failure? := by
  induction declared generalizing validated with
  | nil => rfl
  | cons parameter rest ih =>
      have split : received (parameter :: rest) source =
          ⟨parameter, source.lookup parameter.name⟩ :: received rest source := rfl
      rw [validateFrom, failure?_bind fun value => ih _, split, List.findSome?_cons]
      unfold Received.failure?
      cases failure? (parameter.validate (source.lookup parameter.name)) <;> rfl

end Parameter

namespace MethodHandler

variable (handler : MethodHandler) (context : Context)

/-- What the context holds for the declared path parameters, and then for the declared
fields of the body. -/
def received : List Parameter.Received :=
  Parameter.received handler.params context.params ++
    Parameter.received handler.body context.body.entriesOrNone

/-- There is no input for the controller exactly when something received is not valid. -/
theorem failure?_input :
    failure? (handler.input context) =
      (handler.received context).findSome? Parameter.Received.failure? := by
  rw [received, List.findSome?_append, ← Parameter.failure?_validateFrom _ [],
    ← Parameter.failure?_validateFrom _ []]
  unfold input Parameter.validateAll
  cases Parameter.validateFrom context.params [] handler.params with
  | error failure => rfl
  | ok params =>
      cases Parameter.validateFrom context.body.entriesOrNone [] handler.body <;> rfl

theorem status_of_input {input : ControllerInput} (valid : handler.input context = .ok input) :
    input.status = handler.status := by
  obtain ⟨params, _, valid⟩ := bind_eq_ok_iff.mp valid
  obtain ⟨body, _, same⟩ := bind_eq_ok_iff.mp valid
  cases same
  rfl

/-- If something received is not valid, the handler fails for the first such thing, with
the code 400 and without a call. -/
theorem runLogged_eq_of_failed {failure : ValidationFailure}
    (failed : (handler.received context).findSome? Parameter.Received.failure? = some failure) :
    handler.runLogged context = ((.error (.validation failure), context), []) ∧
      failure.code = 400 := by
  have first := handler.failure?_input context
  rw [failed] at first
  obtain ⟨received, _, rejected⟩ := List.exists_of_findSome?_eq_some failed
  have code := Parameter.Received.code_of_failure? rejected
  cases invalid : handler.input context with
  | ok input =>
      rw [invalid] at first
      cases first
  | error other =>
      rw [invalid] at first
      cases first
      exact ⟨handler.runLogged_eq_of_invalid context invalid, code⟩

/-- If everything received is valid, there is an input for the controller. -/
theorem exists_input_of_valid
    (valid : ∀ received ∈ handler.received context, received.failure? = none) :
    ∃ input, handler.input context = .ok input := by
  apply failure?_eq_none_iff.mp
  rw [failure?_input, List.findSome?_eq_none_iff.mpr valid]

/-! ## Empty results -/

/-- The results that are sent as an empty body: none at all, null, false, the empty string
and zero, as an integer or as a double of either sign. -/
def SendsNothing (result : Option Value) : Prop :=
  result = none ∨ result = some .null ∨ result = some (.bool false) ∨
    result = some (.string "") ∨ (∃ bounds, result = some (.number (.integer 0 bounds))) ∨
      ∃ negative, result = some (.number (.double (.zero negative)))

/-- The only doubles without significand are the zeros. -/
theorem isZero_double_iff {x : Binary64} : x.isZero = true ↔ ∃ negative, x = .zero negative := by
  constructor
  · intro zero
    obtain ⟨negative, significand, exponent, canonical⟩ := x
    obtain rfl : significand = 0 := by simpa [Binary64.isZero] using zero
    obtain ⟨_, _, _, least⟩ := canonical
    obtain rfl : exponent = -1074 := by omega
    exact ⟨negative, rfl⟩
  · rintro ⟨negative, rfl⟩
    rfl

theorem filter_eq_none_iff_sendsNothing (result : Option Value) :
    (result.filter fun value => !isEmptyResult value) = none ↔ SendsNothing result := by
  cases result with
  | none => simp [SendsNothing]
  | some value =>
      rw [Option.filter_eq_none_iff]
      cases value with
      | number n =>
          cases n with
          | integer n bounds =>
              simp [SendsNothing, isEmptyResult, Number.isZero]
          | double x =>
              simp [SendsNothing, isEmptyResult, Number.isZero, isZero_double_iff]
      | _ => simp [SendsNothing, isEmptyResult]

theorem filter_eq_self_of_not_sendsNothing {result : Option Value}
    (something : ¬ SendsNothing result) :
    (result.filter fun value => !isEmptyResult value) = result := by
  cases result with
  | none => exact absurd (.inl rfl) something
  | some value =>
      have kept := mt (filter_eq_none_iff_sendsNothing (some value)).mp something
      simpa [Option.filter_eq_none_iff] using kept

section Working

variable {handler : MethodHandler} {context : Context} {input : ControllerInput}
  {work : ControllerInput → ControllerProgram}

/-- What a controller that works step by step replies to a handler. -/
theorem controller_eq (works : handler.controller = ControllerProgram.controller work)
    (valid : handler.input context = .ok input) :
    handler.controller input = ((work input).result handler.status).map
      (⟨·, ControllerProgram.lastAccepted handler.status ((work input).codes handler.status)⟩) := by
  have begun : input.status = handler.status := handler.status_of_input context valid
  calc
    handler.controller input = (work input).run input.status := by
      rw [works, ControllerProgram.controller]
    _ = (work input).run handler.status := by rw [begun]
    _ = _ := ControllerProgram.run_eq (work input) handler.status

theorem run_of_result_error {failure : Failure}
    (works : handler.controller = ControllerProgram.controller work)
    (valid : handler.input context = .ok input)
    (failed : (work input).result handler.status = .error failure) :
    handler.run context = (.error failure, context) := by
  have replied := controller_eq works valid
  rw [failed] at replied
  simp only [run, valid, replied, Except.map]

theorem run_of_result_ok {result : Option Value}
    (works : handler.controller = ControllerProgram.controller work)
    (valid : handler.input context = .ok input)
    (ended : (work input).result handler.status = .ok result) :
    handler.run context = (.ok .next, context.respond
      (ControllerProgram.lastAccepted handler.status ((work input).codes handler.status))
      (result.filter fun value => !isEmptyResult value)) := by
  have replied := controller_eq works valid
  rw [ended] at replied
  simp only [run, valid, replied, Except.map]

end Working

/-- A method handler is all or nothing, for whatever parameters it declares, whatever its
controller does, and on every context.

If something received is not valid, the controller is not called, and the handler fails
for the first such thing with the code 400.  If everything is valid, the controller is
called exactly once.  In both cases a failure leaves the context as it was.  Where the
controller ends with a result, the handler goes on, and only the prepared response is
replaced: it has no header fields, the last status that the controller set successfully,
or else the declared one, and the result as its body unless that is empty. -/
theorem all_or_nothing (work : ControllerInput → ControllerProgram) (status : Status)
    (params body : List Parameter) (context : Context) :
    let handler : MethodHandler := ⟨ControllerProgram.controller work, status, params, body⟩
    let calls := (handler.runLogged context).2
    (handler.runLogged context).1 = handler.run context ∧
      (∀ failure,
        (handler.received context).findSome? Parameter.Received.failure? = some failure →
          calls = [] ∧ handler.run context = (.error (.validation failure), context) ∧
            failure.code = 400) ∧
      ((∀ received ∈ handler.received context, received.failure? = none) →
        ∃ input, handler.input context = .ok input ∧ calls = [input] ∧
          (∀ failure, (work input).result status = .error failure →
            handler.run context = (.error failure, context)) ∧
          ∀ result, (work input).result status = .ok result →
            ∃ staged,
              handler.run context = (.ok .next, { context with response := some staged }) ∧
                staged.headers = [] ∧
                staged.status =
                  ControllerProgram.lastAccepted status ((work input).codes status) ∧
                (staged.body = none ↔ SendsNothing result) ∧
                (¬ SendsNothing result → staged.body = result)) := by
  intro handler calls
  refine ⟨handler.runLogged_fst context, ?_, ?_⟩
  · intro failure failed
    obtain ⟨logged, code⟩ := handler.runLogged_eq_of_failed context failed
    refine ⟨congrArg Prod.snd logged, ?_, code⟩
    rw [← runLogged_fst, logged]
  · intro everything
    obtain ⟨input, valid⟩ := handler.exists_input_of_valid context everything
    refine ⟨input, valid, congrArg Prod.snd (handler.runLogged_eq_of_valid context valid),
      fun _ failed => run_of_result_error rfl valid failed, ?_⟩
    intro result ended
    exact ⟨_, run_of_result_ok rfl valid ended, rfl, rfl,
      filter_eq_none_iff_sendsNothing result, filter_eq_self_of_not_sendsNothing⟩

/-- Work that sets a status, sets one that is none, and ends with zero. -/
def creatingWork (_ : ControllerInput) : ControllerProgram :=
  .setStatus 201 fun _ => .setStatus 42 fun _ => .finish (.ok (some (.number (.integer 0))))

/-- A handler with a path parameter and a field of the body. -/
def creating : MethodHandler :=
  ⟨ControllerProgram.controller creatingWork, .ok, [⟨"id", .number, none⟩],
    [⟨"name", .string, none⟩]⟩

/-- A request for an item, with a response that a middleware prepared. -/
def creatingContext (body : Value) : Context :=
  ⟨"PUT", "/item/7", [], [("id", .string "7")], [], body, [], some ⟨.notFound, [], none⟩⟩

/-- Without its field the controller is not called and the prepared response stays.  With
it the response is replaced, with the code that was accepted and no body. -/
theorem rejected_without_field_and_created_with_it :
    (creating.runLogged (creatingContext .null)).2 = [] ∧
      creating.run (creatingContext .null) =
        (.error (.validation ⟨400, "Parameter \"name\" is mandatory"⟩), creatingContext .null) ∧
      (creating.runLogged (creatingContext (.map [("name", .string "x")]))).2.length = 1 ∧
      creating.run (creatingContext (.map [("name", .string "x")])) =
        (.ok .next, { creatingContext (.map [("name", .string "x")]) with
          response := some ⟨⟨201, by decide⟩, [], none⟩ }) := by
  have missing : (creating.received (creatingContext .null)).findSome?
      Parameter.Received.failure? = some ⟨400, "Parameter \"name\" is mandatory"⟩ := by
    decide +kernel
  have valid : (creating.received (creatingContext (.map [("name", .string "x")]))).findSome?
      Parameter.Received.failure? = none := by
    decide +kernel
  obtain ⟨_, rejects, _⟩ := all_or_nothing creatingWork .ok creating.params creating.body
    (creatingContext .null)
  obtain ⟨uncalled, rejected, _⟩ := rejects _ missing
  obtain ⟨_, _, accepts⟩ := all_or_nothing creatingWork .ok creating.params creating.body
    (creatingContext (.map [("name", .string "x")]))
  obtain ⟨input, _, called, _, ends⟩ := accepts (List.findSome?_eq_none_iff.mp valid)
  obtain ⟨⟨status, headers, body⟩, ran, noHeaders, accepted, empty, _⟩ :=
    ends (some (.number (.integer 0))) rfl
  obtain rfl : headers = [] := noHeaders
  obtain rfl : status = ⟨201, by decide⟩ := accepted
  obtain rfl : body = none := empty.mpr (.inr (.inr (.inr (.inr (.inl ⟨_, rfl⟩)))))
  exact ⟨uncalled, rejected, congrArg List.length called, ran⟩

end MethodHandler

end RoutePlan
