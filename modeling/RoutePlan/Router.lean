import RoutePlan.Handler
import RoutePlan.PathPattern
import RoutePlan.Verb

/-!
# The router

A router is a stack of layers in the order of their registration.  A mount runs
its handlers for every request under its path, a route its handlers for requests
to exactly its path with its verb, and only while no response is prepared.  The
layers run one after the other until a handler fails or halts.
-/

namespace RoutePlan

/-- When a layer applies. -/
inductive LayerKind where
  | mount
  | route (verb : Verb)
deriving DecidableEq

/-- A registered layer. -/
structure Layer where
  kind : LayerKind
  pattern : PathPattern
  handlers : List Handler

namespace Layer

/-- A layer that runs a handler under a path. -/
def mount (path : String) (handler : Handler) : Layer :=
  ⟨.mount, .parse path, [handler]⟩

/-- A layer that runs handlers for a verb and a path. -/
def route (verb : Verb) (path : String) (handlers : List Handler) : Layer :=
  ⟨.route verb, .parse path, handlers⟩

/-- The path parameters that a layer binds, if it applies to a request. -/
def captures? (layer : Layer) (context : Context) : Option (Entries String String) :=
  match layer.kind with
  | .mount => layer.pattern.matchLeading context.path
  | .route verb =>
      if !context.isAnswered && verb.accepts context.method then
        layer.pattern.matchExact context.path
      else none

/-- A route applies to an unanswered request with its verb and its path. -/
theorem captures?_eq_some_iff_of_route {layer : Layer} {verb : Verb} {context : Context}
    {captures : Entries String String} (kind : layer.kind = .route verb) :
    layer.captures? context = some captures ↔
      context.isAnswered = false ∧ verb.accepts context.method = true ∧
        layer.pattern.matchExact context.path = some captures := by
  simp [captures?, kind, and_assoc]

/-- Give a context the path parameters of a layer. -/
def enter (captures : Entries String String) (context : Context) : Context :=
  { context with params := captures.map fun bound => (bound.1, .string bound.2) }

/-- Run a layer, if it applies. -/
def run (layer : Layer) (context : Context) : Except Failure Flow × Context :=
  match layer.captures? context with
  | none => (.ok .next, context)
  | some captures => Handler.runAll layer.handlers (enter captures context)

/-- The registration as it was made: what it is for, its path, and how many
handlers it has. -/
def display (layer : Layer) : String :=
  let label :=
    match layer.kind with
    | .mount => "MOUNT"
    | .route verb => verb.name
  label ++ " " ++ layer.pattern.display ++ " x" ++ toString layer.handlers.length

end Layer

/-- Layers in the order of their registration, and the greatest size of a request
body. -/
structure Router where
  layers : List Layer
  bodyLimit : Nat := 1024 * 1024

namespace Router

/-- A router without layers. -/
def empty : Router := { layers := [] }

instance : Inhabited Router := ⟨empty⟩

/-- Register a layer behind all others. -/
def push (router : Router) (layer : Layer) : Router :=
  { router with layers := router.layers ++ [layer] }

/-- The registered routes, in order. -/
def routes (router : Router) : List (Verb × String) :=
  router.layers.filterMap fun layer =>
    match layer.kind with
    | .mount => none
    | .route verb => some (verb, layer.pattern.display)

/-- Run layers one after the other, up to the first that fails or halts. -/
def runLayers : List Layer → Context → Except Failure Flow × Context
  | [], context => (.ok .next, context)
  | layer :: rest, context =>
      match layer.run context with
      | (.ok .next, context) => runLayers rest context
      | stopped => stopped

/-- Run every layer that applies.  A halt is no failure. -/
def dispatch (router : Router) (context : Context) : Except Failure Unit × Context :=
  let (outcome, context) := runLayers router.layers context
  (outcome.map fun _ => (), context)

/-- Run a request and write its answer: to a failure, to the prepared response, or
that nothing was found. -/
def handle (router : Router) (context : Context) : Response :=
  match router.dispatch context with
  | (.error failure, _) => .ofFailure failure
  | (.ok (), context) =>
      match context.response with
      | some staged => .ofStaged staged
      | none => .unanswered context.method context.path

end Router

end RoutePlan
