import RoutePlan.Proofs.Dispatch.RouterLog

/-!
# Handlers and layers that change nothing

A transparent handler goes on and leaves the context as it is.  A layer that does not
apply, and one whose handlers are transparent, changes at most the path parameters,
which each layer that applies sets anew.
-/

namespace RoutePlan

namespace Handler

/-- The handler goes on and changes nothing. -/
def Transparent (handler : Handler) : Prop :=
  ∀ context, handler.run context = (.ok .next, context)

theorem runAll_of_transparent {handlers : List Handler}
    (transparent : ∀ handler ∈ handlers, handler.Transparent) (context : Context) :
    runAll handlers context = (.ok .next, context) := by
  induction handlers with
  | nil => rfl
  | cons handler rest ih =>
      obtain ⟨first, others⟩ := List.forall_mem_cons.mp transparent
      rw [runAll_cons, first context, if_pos rfl]
      exact ih others

/-- Among transparent handlers one handler decides. -/
theorem runAll_surrounded {pre post : List Handler} (handler : Handler)
    (preTransparent : ∀ other ∈ pre, other.Transparent)
    (postTransparent : ∀ other ∈ post, other.Transparent) (context : Context) :
    runAll (pre ++ handler :: post) context = handler.run context := by
  rw [runAll_append, runAll_of_transparent preTransparent]
  show runAll (handler :: post) context = handler.run context
  rw [runAll_cons]
  split
  · next goesOn =>
      rw [runAll_of_transparent postTransparent]
      exact Prod.ext goesOn.symm rfl
  · rfl

end Handler

namespace Layer

/-- The layer goes on and changes at most the path parameters. -/
def PassesBy (layer : Layer) (context : Context) : Prop :=
  ∃ params, layer.run context = (.ok .next, { context with params })

theorem passesBy_of_captures?_eq_none {layer : Layer} {context : Context}
    (skipped : layer.captures? context = none) : layer.PassesBy context := by
  refine ⟨context.params, ?_⟩
  rw [run, skipped]

theorem mount_passesBy {handler : Handler} (transparent : handler.Transparent) (path : String)
    (context : Context) : (mount path handler).PassesBy context := by
  cases applies : (mount path handler).captures? context with
  | none => exact passesBy_of_captures?_eq_none applies
  | some captures =>
      refine ⟨(enter captures context).params, ?_⟩
      rw [run, applies]
      apply Handler.runAll_of_transparent
      intro other member
      rw [List.mem_singleton.mp member]
      exact transparent

end Layer

namespace Router

/-- Layers that pass by one after the other pass by together. -/
theorem runLayers_of_passesBy {layers : List Layer} {context : Context}
    (pass : ∀ layer ∈ layers, ∀ params, layer.PassesBy { context with params }) :
    ∃ params, runLayers layers context = (.ok .next, { context with params }) := by
  induction layers generalizing context with
  | nil => exact ⟨context.params, rfl⟩
  | cons layer rest ih =>
      obtain ⟨first, others⟩ := List.forall_mem_cons.mp pass
      obtain ⟨params, stepped⟩ := first context.params
      have restPass : ∀ layer ∈ rest, ∀ last,
          layer.PassesBy { { context with params } with params := last } := others
      obtain ⟨last, finished⟩ := ih restPass
      refine ⟨last, ?_⟩
      rw [runLayers_cons, stepped, if_pos rfl]
      exact finished

theorem dispatch_eq (router : Router) (context : Context) :
    router.dispatch context =
      ((runLayers router.layers context).1.map fun _ => (), (runLayers router.layers context).2) :=
  rfl

/-- The dispatch ends without failure and without a prepared response. -/
def FindsNothing (router : Router) (context : Context) : Prop :=
  (router.dispatch context).1 = .ok () ∧ (router.dispatch context).2.response = none

/-- The initializer gives every request its empty bag of arguments. -/
theorem runLayers_initializer (layers : List Layer) (context : Context) :
    runLayers (.mount "/" .initializer :: layers) context =
      runLayers layers { context with args := [], params := [] } := by
  have applied : (Layer.mount "/" .initializer).run context =
      (.ok .next, { context with args := [], params := [] }) := rfl
  rw [runLayers_cons, applied, if_pos rfl]

/-! ## Layers that answer as a method handler does -/

/-- Layers run on a request as a method handler does on a context, but for the path
parameters in the end: they fail with its failure, or go on with its answer. -/
def RunAs (layers : List Layer) (request : Context) (handler : MethodHandler)
    (context : Context) : Prop :=
  (∃ failure,
    handler.run context = (.error failure, context) ∧
    runLayers layers request = (.error failure, context)) ∨
  ∃ staged params,
    handler.run context = (.ok .next, { context with response := some staged }) ∧
    runLayers layers request = (.ok .next, { context with response := some staged, params })

namespace RunAs

variable {layers : List Layer} {layer : Layer} {request context : Context}
  {handler : MethodHandler}

/-- The first layer runs the method handler, and the others pass by its answer. -/
theorem of_first (ran : layer.run request = handler.run context)
    (pass : ∀ staged, ∃ params,
      runLayers layers { context with response := some staged } =
        (.ok .next, { context with response := some staged, params })) :
    RunAs (layer :: layers) request handler context := by
  rcases handler.run_cases context with ⟨failure, failed⟩ | ⟨staged, answered⟩
  · refine .inl ⟨failure, failed, ?_⟩
    rw [runLayers_cons, ran, failed, if_neg nofun]
  · obtain ⟨params, finished⟩ := pass staged
    refine .inr ⟨staged, params, answered, ?_⟩
    rw [runLayers_cons, ran, answered, if_pos rfl]
    exact finished

/-- A layer that passes by does not matter. -/
theorem of_passed {params : Entries String Value}
    (ran : RunAs layers { request with params } handler context)
    (passed : layer.run request = (.ok .next, { request with params })) :
    RunAs (layer :: layers) request handler context := by
  unfold RunAs
  rw [runLayers_cons, passed, if_pos rfl]
  exact ran

theorem of_initializer
    (ran : RunAs layers { request with args := [], params := [] } handler context) :
    RunAs (.mount "/" .initializer :: layers) request handler context := by
  unfold RunAs
  rw [runLayers_initializer]
  exact ran

end RunAs

/-- The router answers a request as a method handler does on a context: it fails with
the failure of the handler, or sends the response that the handler prepares. -/
def AnswersAs (router : Router) (request : Context) (handler : MethodHandler)
    (context : Context) : Prop :=
  (∃ failure,
    handler.run context = (.error failure, context) ∧
    router.dispatch request = (.error failure, context) ∧
    router.handle request = .ofFailure failure) ∨
  ∃ staged params,
    handler.run context = (.ok .next, { context with response := some staged }) ∧
    router.dispatch request = (.ok (), { context with response := some staged, params }) ∧
    router.handle request = .ofStaged staged

theorem handle_of_dispatch_error {router : Router} {request context : Context} {failure : Failure}
    (dispatched : router.dispatch request = (.error failure, context)) :
    router.handle request = .ofFailure failure := by
  rw [handle, dispatched]

theorem handle_of_dispatch_ok {router : Router} {request context : Context}
    {staged : StagedResponse} (dispatched : router.dispatch request = (.ok (), context))
    (prepared : context.response = some staged) : router.handle request = .ofStaged staged := by
  rw [handle, dispatched]
  simp [prepared]

theorem handle_of_dispatch_unanswered {router : Router} {request context : Context}
    (dispatched : router.dispatch request = (.ok (), context)) (nothing : context.response = none) :
    router.handle request = .unanswered context.method context.path := by
  rw [handle, dispatched]
  simp [nothing]

theorem AnswersAs.not_findsNothing {router : Router} {request context : Context}
    {handler : MethodHandler} (answers : router.AnswersAs request handler context) :
    ¬router.FindsNothing request := by
  rintro ⟨succeeded, nothing⟩
  rcases answers with ⟨failure, _, dispatched, _⟩ | ⟨staged, params, _, dispatched, _⟩
  · rw [dispatched] at succeeded
    cases succeeded
  · rw [dispatched] at nothing
    cases nothing

theorem RunAs.answersAs {router : Router} {request context : Context} {handler : MethodHandler}
    (ran : RunAs router.layers request handler context) :
    router.AnswersAs request handler context := by
  rcases ran with ⟨failure, failed, ran⟩ | ⟨staged, params, answered, ran⟩
  · have dispatched : router.dispatch request = (.error failure, context) := by
      rw [dispatch_eq, ran]
      rfl
    exact .inl ⟨failure, failed, dispatched, handle_of_dispatch_error dispatched⟩
  · have dispatched : router.dispatch request =
        (.ok (), { context with response := some staged, params }) := by
      rw [dispatch_eq, ran]
      rfl
    exact .inr ⟨staged, params, answered, dispatched, handle_of_dispatch_ok dispatched rfl⟩

end Router

end RoutePlan
