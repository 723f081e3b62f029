import RoutePlan.Proofs.Dispatch.Params
import RoutePlan.Proofs.Dispatch.Transparent

/-!
# The layers that a dispatch visits

A dispatch visits the layers that apply, one after the other, and passes over the others.
Whether a layer matches depends on its pattern, its verb and the request only, which no handler
changes.  So a layer that does not match may be put anywhere into a stack, or taken out of it,
without any effect.

Every visit begins by putting the captures of the layer in place of the path parameters.  As long
as no handler writes path parameters, all handlers of the layer see these, and a dispatch leaves
the captures of the layer that it visited last.
-/

namespace RoutePlan

namespace Layer

/-- What the pattern and the verb of a layer make of a request: the captures, if they match. -/
def match? (layer : Layer) (request : Context) : Option (Entries String String) :=
  match layer.kind with
  | .mount => layer.pattern.matchLeading request.path
  | .route verb =>
      if verb.accepts request.method then layer.pattern.matchExact request.path else none

/-- Captures as path parameters. -/
def paramsOf (captures : Entries String String) : Entries String Value :=
  captures.map fun bound => (bound.1, .string bound.2)

theorem match?_of_sameRequest {first second : Context} (same : first.SameRequest second)
    (layer : Layer) : layer.match? first = layer.match? second := by
  rw [match?, match?, same.1, same.2]

/-- A run of any layer leaves what matches. -/
theorem match?_run (layer other : Layer) (context : Context) :
    other.match? (layer.run context).2 = other.match? context :=
  match?_of_sameRequest (layer.run_sameRequest context) other

variable {layer : Layer} {context : Context} {captures : Entries String String}

/-- A layer that applies matches, with the same captures. -/
theorem match?_of_captures? (applies : layer.captures? context = some captures) :
    layer.match? context = some captures := by
  cases kind : layer.kind with
  | mount => simpa [match?, captures?, kind] using applies
  | route verb =>
      obtain ⟨_, accepted, matched⟩ := (captures?_eq_some_iff_of_route kind).mp applies
      simp [match?, kind, accepted, matched]

/-- A layer that does not apply is passed over. -/
theorem run_of_captures?_eq_none (skipped : layer.captures? context = none) :
    layer.run context = (.ok .next, context) := by
  rw [run, skipped]

theorem run_of_match?_eq_none (unmatched : layer.match? context = none) :
    layer.run context = (.ok .next, context) := by
  apply run_of_captures?_eq_none
  by_contra applies
  obtain ⟨captures, applies⟩ := Option.ne_none_iff_exists'.mp applies
  rw [match?_of_captures? applies] at unmatched
  cases unmatched

end Layer

/-! ## Layers that do not match -/

namespace Router

/-- Layers in two groups: the second runs where the first went on. -/
theorem runLayers_append (front back : List Layer) (context : Context) :
    runLayers (front ++ back) context =
      if (runLayers front context).1 = .ok .next then runLayers back (runLayers front context).2
      else runLayers front context := by
  induction front generalizing context with
  | nil => rfl
  | cons layer rest ih =>
      rw [List.cons_append, runLayers_cons, runLayers_cons]
      by_cases goesOn : (layer.run context).1 = .ok .next
      · rw [if_pos goesOn, if_pos goesOn, ih]
      · rw [if_neg goesOn, if_neg goesOn, if_neg goesOn]

theorem runLayers_sameRequest (layers : List Layer) (context : Context) :
    (runLayers layers context).2.SameRequest context := by
  induction layers generalizing context with
  | nil => exact .refl _
  | cons layer rest ih =>
      rw [runLayers_cons]
      split
      · exact (ih _).trans (layer.run_sameRequest context)
      · exact layer.run_sameRequest context

/-- A layer that does not match the request has no effect between others. -/
theorem runLayers_insert {layer : Layer} {request : Context}
    (unmatched : layer.match? request = none) (front back : List Layer) :
    runLayers (front ++ layer :: back) request = runLayers (front ++ back) request := by
  rw [runLayers_append, runLayers_append, runLayers_cons, Layer.run_of_match?_eq_none, if_pos rfl]
  rw [Layer.match?_of_sameRequest (runLayers_sameRequest front request), unmatched]

end Router

/-! ## Visits -/

/-- A visit of a dispatch to a layer that applies. -/
structure Visit where
  /-- The position of the layer in the stack. -/
  position : Nat
  layer : Layer
  /-- The context with which the dispatch comes to the layer. -/
  entered : Context
  captures : Entries String String

namespace Visit

/-- The path parameters that the layer sets. -/
def params (visit : Visit) : Entries String Value :=
  Layer.paramsOf visit.captures

/-- The runs of the handlers of the layer. -/
def log (visit : Visit) : List HandlerRun :=
  visit.layer.log visit.position visit.entered

end Visit

namespace Router

/-- The visits to numbered layers, up to the first that fails or halts. -/
def visitsTo : List (Layer × Nat) → Context → List Visit
  | [], _ => []
  | (layer, position) :: rest, context =>
      match layer.captures? context with
      | none => visitsTo rest context
      | some captures =>
          ⟨position, layer, context, captures⟩ ::
            if (layer.run context).1 = .ok .next then visitsTo rest (layer.run context).2 else []

/-- The visits of the dispatch of a request. -/
def visits (router : Router) (request : Context) : List Visit :=
  visitsTo router.layers.zipIdx request

section Steps

variable {layer : Layer} {context : Context}

theorem visitsTo_cons_of_none (skipped : layer.captures? context = none) (position : Nat)
    (rest : List (Layer × Nat)) :
    visitsTo ((layer, position) :: rest) context = visitsTo rest context := by
  rw [visitsTo, skipped]

theorem visitsTo_cons_of_some {captures : Entries String String}
    (applies : layer.captures? context = some captures) (position : Nat)
    (rest : List (Layer × Nat)) :
    visitsTo ((layer, position) :: rest) context =
      ⟨position, layer, context, captures⟩ ::
        if (layer.run context).1 = .ok .next then visitsTo rest (layer.run context).2 else [] := by
  rw [visitsTo, applies]

end Steps

variable {layers : List (Layer × Nat)} {context : Context}

/-- A layer is visited because it matches, and it sets its own captures. -/
theorem match?_of_mem_visitsTo {visit : Visit} (member : visit ∈ visitsTo layers context) :
    (visit.layer, visit.position) ∈ layers ∧
      visit.layer.match? context = some visit.captures := by
  induction layers generalizing context with
  | nil => cases member
  | cons head rest ih =>
      obtain ⟨layer, position⟩ := head
      cases applies : layer.captures? context with
      | none =>
          rw [visitsTo_cons_of_none applies] at member
          obtain ⟨present, matched⟩ := ih member
          exact ⟨List.mem_cons_of_mem _ present, matched⟩
      | some captures =>
          rw [visitsTo_cons_of_some applies] at member
          rcases List.mem_cons.mp member with rfl | member
          · exact ⟨List.mem_cons_self, Layer.match?_of_captures? applies⟩
          · split at member
            · obtain ⟨present, matched⟩ := ih member
              rw [Layer.match?_run] at matched
              exact ⟨List.mem_cons_of_mem _ present, matched⟩
            · cases member

/-- The log of the layers joins the logs of the visits. -/
theorem logLayers_eq_flatMap_visitsTo (layers : List (Layer × Nat)) (context : Context) :
    logLayers layers context = (visitsTo layers context).flatMap Visit.log := by
  induction layers generalizing context with
  | nil => rfl
  | cons head rest ih =>
      obtain ⟨layer, position⟩ := head
      rw [logLayers]
      cases applies : layer.captures? context with
      | none =>
          rw [visitsTo_cons_of_none applies, Layer.run_of_captures?_eq_none applies, if_pos rfl, ih,
            Layer.log, applies]
          rfl
      | some captures =>
          rw [visitsTo_cons_of_some applies, List.flatMap_cons, Visit.log]
          congr 1
          split
          · exact ih _
          · rfl

end Router

/-! ## The path parameters in the end -/

namespace Handler

theorem runAll_params {handlers : List Handler}
    (keep : ∀ handler ∈ handlers, handler.KeepsParams) (context : Context) :
    (runAll handlers context).2.params = context.params := by
  induction handlers generalizing context with
  | nil => rfl
  | cons handler rest ih =>
      obtain ⟨first, others⟩ := List.forall_mem_cons.mp keep
      rw [runAll_cons]
      split
      · rw [ih others, first context]
      · exact first context

end Handler

/-- A layer that applies leaves its captures. -/
theorem Layer.run_params {layer : Layer} {context : Context} {captures : Entries String String}
    (keep : ∀ handler ∈ layer.handlers, handler.KeepsParams)
    (applies : layer.captures? context = some captures) :
    (layer.run context).2.params = paramsOf captures := by
  rw [run, applies]
  exact Handler.runAll_params keep _

namespace Router

/-- Numbered layers leave the captures of the last one that they visit. -/
theorem params_runLayers {layers : List (Layer × Nat)} {context : Context}
    (keep : ∀ placed ∈ layers, ∀ handler ∈ placed.1.handlers, handler.KeepsParams) :
    (runLayers (layers.map Prod.fst) context).2.params =
      ((visitsTo layers context).getLast?.map Visit.params).getD context.params := by
  induction layers generalizing context with
  | nil => rfl
  | cons head rest ih =>
      obtain ⟨layer, position⟩ := head
      obtain ⟨first, others⟩ := List.forall_mem_cons.mp keep
      rw [List.map_cons, runLayers_cons]
      cases applies : layer.captures? context with
      | none =>
          rw [visitsTo_cons_of_none applies, Layer.run_of_captures?_eq_none applies, if_pos rfl,
            ih others]
      | some captures =>
          have left := Layer.run_params first applies
          rw [visitsTo_cons_of_some applies, List.getLast?_cons, Option.map_some, Option.getD_some]
          by_cases goesOn : (layer.run context).1 = .ok .next
          · rw [if_pos goesOn, if_pos goesOn, ih others, left]
            cases (visitsTo rest (layer.run context).2).getLast? <;> rfl
          · rw [if_neg goesOn, if_neg goesOn, left]
            rfl

/-- A layer that does not match the request changes nothing, wherever it stands.  No handler
changes the request, and the handlers of the tree and of scripts write no path parameters.  So
every handler that runs sees the captures of its own layer, and in the end the path parameters
are those of the layer that was visited last, or the first ones if none was. -/
theorem layers_are_inert_or_set_their_captures :
    (∀ (front back : List Layer) (layer : Layer) (limit : Nat) (request : Context),
      layer.match? request = none →
        dispatch ⟨front ++ layer :: back, limit⟩ request =
          dispatch ⟨front ++ back, limit⟩ request) ∧
    (∀ (handler : Handler) (context : Context),
      (handler.run context).2.SameRequest context) ∧
    (Handler.initializer.KeepsParams ∧ (∀ handler, (Handler.method handler).KeepsParams) ∧
      ∀ steps, (Handler.custom (Script.handler steps)).KeepsParams) ∧
    ∀ (router : Router) (request : Context),
      (∀ layer ∈ router.layers, ∀ handler ∈ layer.handlers, handler.KeepsParams) →
        (∀ run ∈ router.log request, ∃ layer captures,
          router.layers[run.layer]? = some layer ∧
            layer.handlers[run.place]? = some run.handler ∧
            layer.match? request = some captures ∧
            run.before.params = Layer.paramsOf captures) ∧
        router.log request = (router.visits request).flatMap Visit.log ∧
        (∀ visit ∈ router.visits request,
          router.layers[visit.position]? = some visit.layer ∧
            visit.layer.match? request = some visit.captures) ∧
        (router.dispatch request).2.params =
          ((router.visits request).getLast?.map Visit.params).getD request.params := by
  refine ⟨fun front back layer limit request unmatched => ?_, Handler.run_sameRequest,
    ⟨fun _ => rfl, Handler.method_keepsParams, Script.handler_keepsParams⟩,
    fun router request keep => ⟨?_, logLayers_eq_flatMap_visitsTo _ _, ?_, ?_⟩⟩
  · rw [dispatch_eq, dispatch_eq, runLayers_insert unmatched]
  · intro run member
    obtain ⟨layer, entered, present, same, logged, _⟩ := exists_layer_of_mem_log member
    obtain ⟨captures, applies, seen⟩ := Layer.exists_captures_of_mem_log
      (keep layer (List.mem_of_getElem? present)) logged
    have matched := Layer.match?_of_captures? applies
    rw [Layer.match?_of_sameRequest same] at matched
    exact ⟨layer, captures, present, Layer.getElem?_place_of_mem_log logged, matched, seen⟩
  · intro visit member
    obtain ⟨present, matched⟩ := match?_of_mem_visitsTo member
    exact ⟨List.mk_mem_zipIdx_iff_getElem?.mp present, matched⟩
  · have placed : ∀ placed ∈ router.layers.zipIdx, ∀ handler ∈ placed.1.handlers,
        handler.KeepsParams :=
      fun placed member => keep placed.1 (List.fst_mem_of_mem_zipIdx member)
    have left : (runLayers (router.layers.zipIdx.map Prod.fst) request).2.params = _ :=
      params_runLayers placed
    rw [List.zipIdx_map_fst] at left
    exact left

/-- Two layers with other names for the same places, the second without handlers. -/
def renamingRouter : Router :=
  { layers := [.mount "/" .initializer,
      .mount "/shops/:id" (.custom (Script.handler [.extra "seen" .null])),
      .route .all "/shops/:shop/items/:id" []] }

/-- A route for another verb changes nothing, and the parameters of the last layer stay. -/
theorem last_layer_sets_parameters :
    (Layer.route .post "/shops/:id/items/:item" []).match? (.bare "/shops/7/items/8") = none ∧
      (∀ layer ∈ renamingRouter.layers, ∀ handler ∈ layer.handlers, handler.KeepsParams) ∧
      dispatch ⟨.route .post "/shops/:id/items/:item" [] :: renamingRouter.layers, 0⟩
          (.bare "/shops/7/items/8") =
        dispatch ⟨renamingRouter.layers, 0⟩ (.bare "/shops/7/items/8") ∧
      (renamingRouter.log (.bare "/shops/7/items/8")).map (fun run => run.layer) = [0, 1] ∧
      (renamingRouter.dispatch (.bare "/shops/7/items/8")).2.params =
        [("shop", .string "7"), ("id", .string "8")] := by
  have unmatched :
      (Layer.route .post "/shops/:id/items/:item" []).match? (.bare "/shops/7/items/8") = none := by
    decide
  obtain ⟨inert, _, ⟨initializer, _, scripts⟩, own⟩ := layers_are_inert_or_set_their_captures
  have keep : ∀ layer ∈ renamingRouter.layers, ∀ handler ∈ layer.handlers,
      handler.KeepsParams := by
    simp [renamingRouter, Layer.mount, Layer.route, initializer, scripts]
  obtain ⟨_, _, _, left⟩ := own renamingRouter (.bare "/shops/7/items/8") keep
  refine ⟨unmatched, keep, inert [] _ _ 0 _ unmatched, rfl, ?_⟩
  rw [left]
  rfl

end Router

end RoutePlan
