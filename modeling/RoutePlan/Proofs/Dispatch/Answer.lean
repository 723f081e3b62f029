import RoutePlan.Proofs.Checked
import RoutePlan.Proofs.Dispatch.Visits

/-!
# What a request is answered

The runs of a dispatch take over from each other: each starts from the context that the run before
it left, except that a layer sets the path parameters.  So the response that is prepared in the
end is what the runs have made of it.

The answer is to the first failure of the log, else the response that is prepared in the end, else
that nothing was found.
-/

namespace RoutePlan

/-- The same context up to the path parameters. -/
def Context.SameButParams (first second : Context) : Prop :=
  second = { first with params := second.params }

namespace Context.SameButParams

theorem refl (context : Context) : context.SameButParams context :=
  rfl

theorem trans {first second third : Context} (left : first.SameButParams second)
    (right : second.SameButParams third) : first.SameButParams third := by
  unfold SameButParams at *
  rw [right, left]

theorem enter (captures : Entries String String) (context : Context) :
    context.SameButParams (Layer.enter captures context) :=
  rfl

end Context.SameButParams

namespace HandlerRun

/-- Why the run failed, if it did. -/
def failure? (run : HandlerRun) : Option Failure :=
  RoutePlan.failure? run.result.1

/-- Runs take over from each other: the first starts from a context, each other one from what the
run before it left, and a context is left in the end, all up to the path parameters. -/
inductive HandOver : Context → List HandlerRun → Context → Prop where
  | nil {first last : Context} (same : first.SameButParams last) : HandOver first [] last
  | cons {first last : Context} {run : HandlerRun} {rest : List HandlerRun}
      (starts : first.SameButParams run.before) (behind : HandOver run.result.2 rest last) :
      HandOver first (run :: rest) last

theorem HandOver.of_same {first second last : Context} {log : List HandlerRun}
    (same : first.SameButParams second) (runs : HandOver second log last) :
    HandOver first log last := by
  cases runs with
  | nil none => exact .nil (same.trans none)
  | cons starts behind => exact .cons (same.trans starts) behind

theorem HandOver.append {first middle last : Context} {front back : List HandlerRun}
    (before : HandOver first front middle) (behind : HandOver middle back last) :
    HandOver first (front ++ back) last := by
  induction before with
  | nil same => exact .of_same same behind
  | cons starts _ ih => exact .cons starts (ih behind)

/-- When only the last run may stop, the log fails as it ends. -/
theorem findSome?_failure? {log : List HandlerRun} (wentOn : ∀ run ∈ log.dropLast, run.WentOn) :
    log.findSome? failure? = RoutePlan.failure? (outcome log) := by
  cases last : log.getLast? with
  | none =>
      rw [List.getLast?_eq_none_iff.1 last]
      rfl
  | some run =>
      have ending : outcome log = run.result.1 := by
        rw [outcome, last]
        rfl
      -- what ran before the last run went on, and so did not fail
      have passed : log.dropLast.findSome? failure? = none := by
        apply List.findSome?_eq_none_iff.2
        intro earlier member
        exact failure?_eq_none_iff.2 ⟨.next, wentOn earlier member⟩
      calc
        log.findSome? failure? = (log.dropLast ++ [run]).findSome? failure? := by
          rw [List.dropLast_append_getLast? run last]
        _ = failure? run := by
          rw [List.findSome?_append, passed, Option.none_or, List.findSome?_singleton]
        _ = RoutePlan.failure? (outcome log) := by rw [ending, failure?]

end HandlerRun

open HandlerRun (HandOver)

/-- Handlers hand over to each other. -/
theorem Handler.handOver_log (layer : Nat) (handlers : List (Handler × Nat)) (context : Context) :
    HandOver context (log layer handlers context) (runAll (handlers.map Prod.fst) context).2 := by
  induction handlers generalizing context with
  | nil => exact .nil (.refl context)
  | cons head rest ih =>
      rw [log, List.map_cons, runAll_cons]
      split
      · exact .cons (.refl context) (ih _)
      · exact .cons (.refl context) (.nil (.refl _))

theorem Layer.handOver_log (position : Nat) (layer : Layer) (context : Context) :
    HandOver context (layer.log position context) (layer.run context).2 := by
  unfold log run
  cases layer.captures? context with
  | none => exact .nil (.refl context)
  | some captures =>
      have handed := Handler.handOver_log position layer.handlers.zipIdx (enter captures context)
      rw [List.zipIdx_map_fst] at handed
      exact .of_same (.enter captures context) handed

namespace Router

/-- Layers hand over to each other. -/
theorem handOver_logLayers (layers : List (Layer × Nat)) (context : Context) :
    HandOver context (logLayers layers context) (runLayers (layers.map Prod.fst) context).2 := by
  induction layers generalizing context with
  | nil => exact .nil (.refl context)
  | cons head rest ih =>
      obtain ⟨layer, position⟩ := head
      have first := layer.handOver_log position context
      rw [logLayers, List.map_cons, runLayers_cons]
      split
      · exact first.append (ih _)
      · rw [List.append_nil]
        exact first

/-- The runs of a dispatch hand over to each other, from the request to the context in the end. -/
theorem handOver_log (router : Router) (request : Context) :
    HandOver request (router.log request) (router.dispatch request).2 := by
  have handed := handOver_logLayers router.layers.zipIdx request
  rw [List.zipIdx_map_fst] at handed
  exact handed

/-- A dispatch fails for the first failure of its log. -/
theorem failure?_dispatch (router : Router) (request : Context) :
    failure? (router.dispatch request).1 = (router.log request).findSome? HandlerRun.failure? := by
  have wentOn : ∀ run ∈ (router.log request).dropLast, run.WentOn :=
    fun _ => wentOn_of_mem_dropLast_logLayers
  rw [HandlerRun.findSome?_failure? wentOn, dispatch_eq_outcome_log]
  cases HandlerRun.outcome (router.log request) <;> rfl

/-- The answer is to the first failure, else the response that is prepared in the end, else that
nothing was found. -/
theorem handle_eq (router : Router) (request : Context) :
    router.handle request =
      match (router.log request).findSome? HandlerRun.failure?,
        (router.dispatch request).2.response with
      | some failure, _ => .ofFailure failure
      | none, some staged => .ofStaged staged
      | none, none => .unanswered request.method request.path := by
  have same : (router.dispatch request).2.SameRequest request :=
    runLayers_sameRequest router.layers request
  rw [← failure?_dispatch]
  cases dispatched : router.dispatch request with
  | mk outcome context =>
      rw [dispatched] at same
      cases outcome with
      | error failure => exact handle_of_dispatch_error dispatched
      | ok _ =>
          cases prepared : context.response with
          | some staged => exact handle_of_dispatch_ok dispatched prepared
          | none =>
              rw [handle_of_dispatch_unanswered dispatched prepared, same.1, same.2]
              rfl

end Router

end RoutePlan
