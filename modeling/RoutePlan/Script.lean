import RoutePlan.Handler

/-!
# Scripted handlers and controllers

Handlers and controllers that are written as lists of steps.  A handler's script
goes on to the next handler at its end, a controller's answers nothing there.
-/

namespace RoutePlan.Script

/-! ## Controllers -/

/-- A step of a controller. -/
inductive ControllerStep where
  /-- Replace the status. -/
  | set (code : Nat)
  | fail (status : Status) (message : String)
  | invalid (code : Nat) (message : String)
  | answer (value : Value)
  /-- Answer everything that the controller sees. -/
  | echo
  /-- Answer a validated path parameter. -/
  | param (name : String)
  /-- Answer a validated field of the body. -/
  | field (name : String)

/-- Header fields as a value: a list of pairs of name and value, sorted, without
the identification of the request. -/
def headersValue (headers : Headers) : Value :=
  .list ((headers.without Headers.requestId).sorted.map fun field =>
    .list [.string field.1, .string field.2])

/-- A status as a value. -/
def statusValue (status : Status) : Value :=
  .number (.ofNat status.code (by have := status.valid; omega))

/-- Everything that a controller sees, with the status as it stands. -/
def echoed (input : ControllerInput) (status : Status) : Value :=
  .map [
    ("params", .map input.params),
    ("body", .map input.body),
    ("query", .map input.query),
    ("extra", .map input.extra),
    ("headers", headersValue input.headers),
    ("status", statusValue status)]

/-- Run the steps of a controller from a status on. -/
def runController (input : ControllerInput) :
    Status → List ControllerStep → Except Failure ControllerReply
  | status, [] => .ok ⟨none, status⟩
  | status, step :: rest =>
      match step with
      | .set code =>
          match Status.ofCode? code with
          | some replaced => runController input replaced rest
          | none => .error (.invalidStatus code)
      | .fail failed message => .error (.http failed message)
      | .invalid code message => .error (.validation ⟨code, message⟩)
      | .answer value => .ok ⟨some value, status⟩
      | .echo => .ok ⟨some (echoed input status), status⟩
      | .param name => .ok ⟨input.params.lookup name, status⟩
      | .field name => .ok ⟨input.body.lookup name, status⟩

/-- The controller that a script describes. -/
def controller (steps : List ControllerStep) : Controller :=
  fun input => runController input input.status steps

/-! ## Handlers -/

/-- A step of a handler. -/
inductive HandlerStep where
  /-- Set an argument. -/
  | extra (key : String) (value : Value)
  /-- Put a value at the end of an argument that is a list. -/
  | append (key : String) (value : Value)
  | respond (status : Status) (body : Option Value)
  /-- Replace the status of the prepared response. -/
  | status (status : Status)
  /-- Set a header field of the prepared response. -/
  | header (name value : String)
  /-- Put a value at the end of the prepared body, if it is a list. -/
  | push (value : Value)
  /-- Copy a header field to an argument; without it, answer and halt. -/
  | need (header key : String) (status : Status)
  /-- Replace the body of the request. -/
  | body (value : Value)
  /-- Answer everything that the handler sees. -/
  | reflect (status : Status)
  | halt
  | next
  | fail (status : Status) (message : String)
  | invalid (code : Nat) (message : String)

/-- Set an argument. -/
def setArg (key : String) (value : Value) (context : Context) : Context :=
  { context with args := Entries.insert key value context.args }

/-- Put a value at the end of an argument; a missing one becomes a list, and
anything else is left alone. -/
def appendArg (key : String) (value : Value) (context : Context) : Context :=
  match context.args.lookup key with
  | none => setArg key (.list [value]) context
  | some (.list items) => setArg key (.list (items ++ [value])) context
  | some _ => context

/-- Change the prepared response, if there is one. -/
def amend (change : StagedResponse → StagedResponse) (context : Context) : Context :=
  { context with response := context.response.map change }

/-- Put a value at the end of a prepared body that is a list. -/
def pushBody (value : Value) (staged : StagedResponse) : StagedResponse :=
  match staged.body with
  | some (.list items) => { staged with body := some (.list (items ++ [value])) }
  | _ => staged

/-- Everything that a handler sees. -/
def reflected (context : Context) : Value :=
  .map [
    ("method", .string context.method),
    ("path", .string context.path),
    ("params", .map context.params),
    ("query", .map context.query),
    ("body", context.body),
    ("extra", .map context.args),
    ("responded", .bool context.isAnswered)]

/-- What a step does: go on with a context, or end the script. -/
inductive Effect where
  | goOn (context : Context)
  | stop (outcome : Except Failure Flow) (context : Context)

/-- The context that a step leaves. -/
def Effect.context : Effect → Context
  | goOn context => context
  | stop _ context => context

/-- Run one step of a handler. -/
def runStep (context : Context) : HandlerStep → Effect
  | .extra key value => .goOn (setArg key value context)
  | .append key value => .goOn (appendArg key value context)
  | .respond status body => .goOn (context.respond status body)
  | .status status => .goOn (amend (fun staged => { staged with status }) context)
  | .header name value =>
      .goOn (amend (fun staged => { staged with headers := staged.headers.set name value }) context)
  | .push value => .goOn (amend (pushBody value) context)
  | .need header key status =>
      match context.headers.value? header with
      | some value => .goOn (setArg key (.string value) context)
      | none =>
          .stop (.ok .halt)
            (context.respond status (some (.map [("missing", .string header)])))
  | .body value => .goOn { context with body := value }
  | .reflect status => .goOn (context.respond status (some (reflected context)))
  | .halt => .stop (.ok .halt) context
  | .next => .stop (.ok .next) context
  | .fail status message => .stop (.error (.http status message)) context
  | .invalid code message => .stop (.error (.validation ⟨code, message⟩)) context

/-- Run the steps of a handler. -/
def runHandler : List HandlerStep → Context → Except Failure Flow × Context
  | [], context => (.ok .next, context)
  | step :: rest, context =>
      match runStep context step with
      | .goOn context => runHandler rest context
      | .stop outcome context => (outcome, context)

/-- What every step preserves is preserved by a script. -/
theorem runHandler_preserves {Holds : Context → Prop}
    (preserved : ∀ context, Holds context → ∀ step, Holds (runStep context step).context)
    (steps : List HandlerStep) {context : Context} (holds : Holds context) :
    Holds (runHandler steps context).2 := by
  induction steps generalizing context with
  | nil => exact holds
  | cons step rest ih =>
      have stepped := preserved context holds step
      unfold runHandler
      cases effect : runStep context step with
      | goOn next =>
          rw [effect] at stepped
          exact ih stepped
      | stop outcome next =>
          rw [effect] at stepped
          exact stepped

/-- No step changes the method or the path of the request. -/
theorem runStep_sameRequest (context : Context) (step : HandlerStep) :
    (runStep context step).context.SameRequest context := by
  cases step with
  | append key value =>
      simp only [runStep, Effect.context, appendArg]
      split <;> exact .refl _
  | need header key status =>
      simp only [runStep]
      split <;> exact .refl _
  | _ => exact .refl context

theorem runHandler_sameRequest (steps : List HandlerStep) (context : Context) :
    (runHandler steps context).2.SameRequest context := by
  have preserved (between : Context) (same : between.SameRequest context) (step : HandlerStep) :
      (runStep between step).context.SameRequest context :=
    (runStep_sameRequest between step).trans same
  exact runHandler_preserves preserved steps (.refl context)

/-- The handler that a script describes. -/
def handler (steps : List HandlerStep) : CustomHandler :=
  ⟨runHandler steps, runHandler_sameRequest steps⟩

end RoutePlan.Script
