import RoutePlan.Proofs.Dispatch.Log
import RoutePlan.Script

/-!
# Declared input

A method handler reads the path parameters and the body only at the declared names,
and takes null for absent.  So two requests that agree there, and in what is handed to
the controller as it is, cannot be told apart: the controller sees the same, or is
called for neither, and both runs end alike.
-/

namespace RoutePlan

namespace Parameter

/-- A value that is not missing: neither absent nor null. -/
def present? (raw : Option Value) : Option Value :=
  raw.filter fun value => !value.isNull

/-- Two sources hold the same values at the declared names, as far as any are present. -/
def Agree (declared : List Parameter) (first second : Entries String Value) : Prop :=
  ∀ parameter ∈ declared,
    present? (first.lookup parameter.name) = present? (second.lookup parameter.name)

/-- Validation reads what is present. -/
theorem validate_congr (parameter : Parameter) {first second : Option Value}
    (same : present? first = present? second) :
    parameter.validate first = parameter.validate second := by
  unfold present? at same
  unfold validate
  rw [same]

theorem validateFrom_congr {declared : List Parameter} {first second : Entries String Value}
    (agree : Agree declared first second) (validated : Entries String Value) :
    validateFrom first validated declared = validateFrom second validated declared := by
  induction declared generalizing validated with
  | nil => rfl
  | cons parameter rest ih =>
      obtain ⟨here, others⟩ := List.forall_mem_cons.mp agree
      rw [validateFrom, validateFrom, parameter.validate_congr here]
      congr 1
      funext value
      exact ih others _

theorem validateAll_congr {declared : List Parameter} {first second : Entries String Value}
    (agree : Agree declared first second) :
    validateAll declared first = validateAll declared second :=
  validateFrom_congr agree []

end Parameter

/-- A context in which a handler has prepared a response, or has not. -/
def Context.staging (context : Context) : Option StagedResponse → Context
  | none => context
  | some staged => { context with response := some staged }

namespace MethodHandler

/-- Two contexts agree in what the handler declares, and in what it hands to the
controller unread.  A body that is no mapping holds nothing. -/
structure Alike (handler : MethodHandler) (first second : Context) : Prop where
  headers : first.headers = second.headers
  query : first.query = second.query
  args : first.args = second.args
  params : Parameter.Agree handler.params first.params second.params
  body : Parameter.Agree handler.body first.body.entriesOrNone second.body.entriesOrNone

theorem Alike.input_eq {handler : MethodHandler} {first second : Context}
    (alike : handler.Alike first second) : handler.input first = handler.input second := by
  unfold input
  rw [Parameter.validateAll_congr alike.params, Parameter.validateAll_congr alike.body,
    alike.headers, alike.query, alike.args]

/-- How a run ends and what it stages is up to the input. -/
theorem exists_run_of_input (handler : MethodHandler)
    (input : Except ValidationFailure ControllerInput) :
    ∃ outcome staged?, ∀ context, handler.input context = input →
      handler.run context = (outcome, context.staging staged?) := by
  cases input with
  | error failure =>
      refine ⟨.error (.validation failure), none, ?_⟩
      intro context invalid
      rw [run, invalid]
      rfl
  | ok input =>
      cases replied : handler.controller input with
      | error failure =>
          refine ⟨.error failure, none, ?_⟩
          intro context valid
          simp only [run, valid, replied]
          rfl
      | ok reply =>
          refine ⟨.ok .next,
            some ⟨reply.status, [], reply.result.filter fun value => !isEmptyResult value⟩, ?_⟩
          intro context valid
          simp only [run, valid, replied]
          rfl

/-- What is not declared never reaches a controller.  On contexts that agree in the
declared names, in the headers, the query and the arguments, a method handler gives its
controller the same input or calls it on neither, and both runs end with the same flow
or failure and prepare the same response, or none. -/
theorem undeclared_never_reaches_controller (handler : MethodHandler) {first second : Context}
    (alike : handler.Alike first second) :
    handler.input first = handler.input second ∧
      ∃ outcome staged?,
        handler.run first = (outcome, first.staging staged?) ∧
        handler.run second = (outcome, second.staging staged?) := by
  have same := alike.input_eq
  obtain ⟨outcome, staged?, ran⟩ := handler.exists_run_of_input (handler.input first)
  exact ⟨same, outcome, staged?, ran first rfl, ran second same.symm⟩

/-! ## A field that is not declared -/

/-- A handler that declares the path parameter `id` and two fields of the body, and
answers all that its controller sees. -/
def signup : MethodHandler where
  controller := Script.controller [.echo]
  status := .ok
  params := [⟨"id", .number, none⟩]
  body := [⟨"name", .string, none⟩, ⟨"plan", .string, some (.string "free")⟩]

/-- A request with the declared names only. -/
def plainSignup : Context :=
  { Context.bare "/users/7" with
    params := [("id", .string "7")]
    body := .map [("name", .string "jane")] }

/-- The same request with a null, in another order, and with fields that are not
declared; an earlier response is prepared. -/
def paddedSignup : Context :=
  { Context.bare "/users/7" with
    params := [("org", .string "acme"), ("id", .string "7")]
    body := .map [("is_admin", .bool true), ("plan", .null), ("name", .string "jane")]
    response := some ⟨.notFound, [], none⟩ }

/-- The controller is called on both, with the declared names alone. -/
theorem padding_never_reaches_controller :
    signup.Alike plainSignup paddedSignup ∧
      (∃ input, signup.input paddedSignup = .ok input ∧ Entries.keys input.params = ["id"] ∧
        Entries.keys input.body = ["name", "plan"]) ∧
      signup.input plainSignup = signup.input paddedSignup ∧
      ∃ outcome staged?,
        signup.run plainSignup = (outcome, plainSignup.staging staged?) ∧
        signup.run paddedSignup = (outcome, paddedSignup.staging staged?) := by
  have alike : signup.Alike plainSignup paddedSignup := by
    refine ⟨rfl, rfl, rfl, ?_, ?_⟩
    · exact List.forall_mem_singleton.mpr rfl
    · exact List.forall_mem_cons.mpr ⟨rfl, List.forall_mem_singleton.mpr rfl⟩
  exact ⟨alike, ⟨_, rfl, rfl, rfl⟩, undeclared_never_reaches_controller signup alike⟩

end MethodHandler

end RoutePlan
