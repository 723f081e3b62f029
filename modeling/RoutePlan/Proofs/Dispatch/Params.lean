import RoutePlan.Proofs.Dispatch.RouterLog
import RoutePlan.Script

/-!
# The path parameters that a handler sees

A layer that applies to a request puts its captures in place of the path parameters.
As long as no handler writes path parameters, each handler of the layer sees these
captures, whatever layers have run before.
-/

namespace RoutePlan

namespace Handler

/-- The handler writes no path parameters. -/
def KeepsParams (handler : Handler) : Prop :=
  ∀ context, (handler.run context).2.params = context.params

theorem method_keepsParams (handler : MethodHandler) : KeepsParams (.method handler) := by
  intro context
  rcases handler.run_cases context with ⟨failure, failed⟩ | ⟨staged, ran⟩
  · rw [run, failed]
  · rw [run, ran]

/-- Handlers that write no path parameters all see those at the start. -/
theorem params_of_mem_log {layer : Nat} {handlers : List (Handler × Nat)} {context : Context}
    (keep : ∀ numbered ∈ handlers, numbered.1.KeepsParams) {run : HandlerRun}
    (member : run ∈ log layer handlers context) : run.before.params = context.params := by
  induction handlers generalizing context with
  | nil => simp [log] at member
  | cons head rest ih =>
      obtain ⟨first, others⟩ := List.forall_mem_cons.mp keep
      rw [log] at member
      rcases List.mem_cons.mp member with rfl | member
      · rfl
      · split at member
        · rw [ih others member, first context]
        · cases member

end Handler

/-- The handlers of a layer see its captures. -/
theorem Layer.exists_captures_of_mem_log {position : Nat} {layer : Layer} {context : Context}
    (keep : ∀ handler ∈ layer.handlers, handler.KeepsParams) {run : HandlerRun}
    (member : run ∈ layer.log position context) :
    ∃ captures, layer.captures? context = some captures ∧
      run.before.params = captures.map fun bound => (bound.1, .string bound.2) := by
  unfold log at member
  split at member
  · cases member
  · next captures applies =>
      refine ⟨captures, applies, ?_⟩
      apply Handler.params_of_mem_log _ member
      intro numbered held
      exact keep numbered.1 (List.fst_mem_of_mem_zipIdx held)

/-- A run that did not go on is the last one, and the dispatch ends with it. -/
theorem Router.dispatch_of_not_wentOn {router : Router} {request : Context} {run : HandlerRun}
    (member : run ∈ router.log request) (stopped : ¬ run.WentOn) :
    (router.dispatch request).1 = run.result.1.map fun _ => () := by
  have filled : router.log request ≠ [] := List.ne_nil_of_mem member
  have last : (router.log request).getLast filled = run := by
    rw [← List.dropLast_append_getLast filled] at member
    rcases List.mem_append.mp member with earlier | last
    · exact absurd (wentOn_of_mem_dropLast_logLayers earlier) stopped
    · exact (List.mem_singleton.mp last).symm
  rw [dispatch_eq_outcome_log, HandlerRun.outcome, List.getLast?_eq_some_getLast filled, last]
  rfl

/-! ## Scripts -/

namespace Script

/-- No step of a script writes path parameters. -/
theorem runStep_params (context : Context) (step : HandlerStep) :
    (runStep context step).context.params = context.params := by
  cases step with
  | append key value =>
      simp only [runStep, Effect.context, appendArg]
      split <;> rfl
  | need header key status =>
      simp only [runStep]
      split <;> rfl
  | _ => rfl

/-- Scripted handlers write no path parameters. -/
theorem handler_keepsParams (steps : List HandlerStep) :
    (Handler.custom (handler steps)).KeepsParams := by
  intro context
  show (runHandler steps context).2.params = context.params
  have preserved (between : Context) (same : between.params = context.params)
      (step : HandlerStep) : (runStep between step).context.params = context.params :=
    (runStep_params between step).trans same
  exact runHandler_preserves preserved steps rfl

end Script

end RoutePlan
