import RoutePlan.Response

/-!
# Handlers

A handler is one step in the handling of a request.  It works on the context of
the request, and says whether to go on, to halt, or that it failed.  The context
after a failure shows what was done before it.

Three kinds are told apart: the one that gives a request its empty bag of
arguments, the one that validates parameters and calls a controller, and any
other.  None of them changes the method or the path of the request.
-/

namespace RoutePlan

/-- What handlers see and change. -/
structure Context where
  method : String
  path : String
  headers : Headers
  /-- The path parameters of the layer that is running. -/
  params : Entries String Value
  query : Entries String Value
  body : Value
  /-- The arguments that middlewares pass to controllers. -/
  args : Entries String Value
  response : Option StagedResponse

namespace Context

/-- Prepare a response in place of any earlier one. -/
def respond (context : Context) (status : Status) (body : Option Value) : Context :=
  { context with response := some ⟨status, [], body⟩ }

/-- Whether a response is prepared. -/
def isAnswered (context : Context) : Bool :=
  context.response.isSome

/-- Two contexts of one request have its method and its path. -/
def SameRequest (first second : Context) : Prop :=
  first.method = second.method ∧ first.path = second.path

@[simp]
theorem isAnswered_respond (context : Context) (status : Status) (body : Option Value) :
    (context.respond status body).isAnswered = true :=
  rfl

theorem SameRequest.refl (context : Context) : context.SameRequest context :=
  ⟨rfl, rfl⟩

theorem SameRequest.trans {first second third : Context} (left : first.SameRequest second)
    (right : second.SameRequest third) : first.SameRequest third :=
  ⟨left.1.trans right.1, left.2.trans right.2⟩

end Context

/-- What is done after a handler that did not fail. -/
inductive Flow where
  | next | halt
deriving DecidableEq

/-- What a controller sees: validated parameters, and the status that it may
replace. -/
structure ControllerInput where
  body : Entries String Value
  headers : Headers
  params : Entries String Value
  query : Entries String Value
  status : Status
  extra : Entries String Value

/-- What a controller answers: its result, and the status that it leaves. -/
structure ControllerReply where
  result : Option Value
  status : Status

/-- User code that a method calls. -/
abbrev Controller := ControllerInput → Except Failure ControllerReply

/-- Whether a result is sent as an empty body: null, false, the empty string and
zero. -/
def isEmptyResult : Value → Bool
  | .null => true
  | .bool flag => !flag
  | .string text => text == ""
  | .number n => n.isZero
  | .list _ => false
  | .map _ => false

/-- A controller with the parameters that are validated before it is called. -/
structure MethodHandler where
  controller : Controller
  status : Status
  params : List Parameter
  body : List Parameter

namespace MethodHandler

/-- What the controller sees of a context, if the parameters are valid.  A body
that is no mapping has no fields. -/
def input (handler : MethodHandler) (context : Context) :
    Except ValidationFailure ControllerInput := do
  let params ← Parameter.validateAll handler.params context.params
  let body ← Parameter.validateAll handler.body context.body.entriesOrNone
  return {
    body, params
    headers := context.headers
    query := context.query
    status := handler.status
    extra := context.args }

/-- Validate the parameters, call the controller, and prepare its result. -/
def run (handler : MethodHandler) (context : Context) : Except Failure Flow × Context :=
  match handler.input context with
  | .error failure => (.error (.validation failure), context)
  | .ok input =>
      match handler.controller input with
      | .error failure => (.error failure, context)
      | .ok reply =>
          (.ok .next,
            context.respond reply.status (reply.result.filter fun value => !isEmptyResult value))

/-- A method handler answers, or it fails and leaves the context as it is. -/
theorem run_cases (handler : MethodHandler) (context : Context) :
    (∃ failure, handler.run context = (.error failure, context)) ∨
      ∃ staged, handler.run context = (.ok .next, { context with response := some staged }) := by
  unfold run
  split
  · next failure _ => exact .inl ⟨.validation failure, rfl⟩
  · split
    · next failure _ => exact .inl ⟨failure, rfl⟩
    · exact .inr ⟨_, rfl⟩

theorem run_sameRequest (handler : MethodHandler) (context : Context) :
    (handler.run context).2.SameRequest context := by
  rcases handler.run_cases context with ⟨failure, failed⟩ | ⟨staged, answered⟩
  · rw [failed]
    exact .refl _
  · rw [answered]
    exact .refl _

end MethodHandler

/-- User code that handles a request.  The method and the path of a request are
its own: no code changes them. -/
structure CustomHandler where
  run : Context → Except Failure Flow × Context
  sameRequest : ∀ context, (run context).2.SameRequest context

/-- A step in the handling of a request. -/
inductive Handler where
  /-- Gives the request an empty bag of arguments. -/
  | initializer
  | method (handler : MethodHandler)
  | custom (handler : CustomHandler)

namespace Handler

/-- Run a handler. -/
def run : Handler → Context → Except Failure Flow × Context
  | initializer, context => (.ok .next, { context with args := [] })
  | method handler, context => handler.run context
  | custom handler, context => handler.run context

/-- Every handler leaves the method and the path of the request alone. -/
theorem run_sameRequest (handler : Handler) (context : Context) :
    (handler.run context).2.SameRequest context := by
  cases handler with
  | initializer => exact .refl _
  | method handler => exact handler.run_sameRequest context
  | custom handler => exact handler.sameRequest context

/-- Run handlers one after the other, up to the first that fails or halts. -/
def runAll : List Handler → Context → Except Failure Flow × Context
  | [], context => (.ok .next, context)
  | handler :: rest, context =>
      match handler.run context with
      | (.ok .next, context) => runAll rest context
      | stopped => stopped

@[simp]
theorem runAll_nil (context : Context) : runAll [] context = (.ok .next, context) :=
  rfl

/-- Handlers in two groups: the second runs where the first went on. -/
theorem runAll_append (first second : List Handler) (context : Context) :
    runAll (first ++ second) context =
      match runAll first context with
      | (.ok .next, context) => runAll second context
      | stopped => stopped := by
  induction first generalizing context with
  | nil => rfl
  | cons handler rest ih =>
      simp only [List.cons_append, runAll]
      split
      · exact ih _
      · next stopped other =>
          split
          · next same => exact absurd same (other _)
          · rfl

end Handler

end RoutePlan
