import RoutePlan.Proofs.Dispatch.Controller
import RoutePlan.Proofs.Session.Sites
import RoutePlan.Script

/-!
# At most one controller for each request

Only validated methods call controllers, each in a layer of its own.  However often
documents were compiled and loaded, a request calls at most one controller, and when
it calls one, every earlier route that it matches is one of a method with a handler of
its own and was run to its end without an answer.
-/

namespace RoutePlan

namespace Modules

/-- No registered handler takes a prepared response back. -/
def Keep (modules : Modules) : Prop :=
  ∀ name base handler, modules.handlers.lookup? name base = some handler →
    (Handler.custom handler).Keeps

variable {modules : Modules} {settings : RouteSettings}

/-- No middleware calls a controller. -/
theorem isMethod_eq_false_of_mem {names : List String} {handlers : List Handler}
    (found : modules.middlewares settings names = .ok handlers) {handler : Handler}
    (member : handler ∈ handlers) : handler.isMethod = false := by
  obtain ⟨name, _, middleware⟩ := exists_middleware_of_mem found member
  obtain ⟨registered, _, rfl⟩ := middleware_eq_ok_iff.mp middleware
  rfl

/-- The handler of a method calls a controller exactly when the method is validated. -/
theorem isMethod_methodHandler {method : Method} {handler : Handler}
    (found : modules.methodHandler settings method = .ok handler) :
    handler.isMethod = method.validated := by
  rcases methodHandler_eq_ok_iff.mp found with ⟨validated, _, _, rfl⟩ | ⟨raw, _, _, rfl⟩
  · exact validated.symm
  · exact raw.symm

/-- The layer of a registration is sound. -/
theorem sound_of_layer_eq_ok (keep : modules.Keep) {registration : Registration} {layer : Layer}
    (made : modules.layer settings registration = .ok layer) : layer.Sound := by
  have keeps := forall_mem_handlers_of_layer_eq_ok keep Handler.method_keeps made
  cases registration with
  | mount path name =>
      obtain ⟨handler, found, rfl⟩ := layer_mount_eq_ok_iff.mp made
      obtain ⟨registered, _, rfl⟩ := middleware_eq_ok_iff.mp found
      refine ⟨keeps, ?_, Nat.zero_le 1⟩
      intro _ other member
      rw [List.mem_singleton.mp member]
      rfl
  | route path method =>
      obtain ⟨handler, pre, post, found, preFound, postFound, rfl⟩ := layer_route_eq_ok_iff.mp made
      refine ⟨keeps, nofun, ?_⟩
      have none {names : List String} {handlers : List Handler}
          (found : modules.middlewares settings names = .ok handlers) :
          handlers.countP Handler.isMethod = 0 := by
        apply List.countP_eq_zero.mpr
        intro other member
        rw [isMethod_eq_false_of_mem found member]
        exact Bool.false_ne_true
      show (pre ++ handler :: post).countP Handler.isMethod ≤ 1
      rw [List.countP_append, List.countP_cons, none preFound, none postFound]
      split <;> decide

end Modules

namespace Script

/-- No step of a script takes a prepared response back. -/
theorem runStep_keeps {context : Context} (answered : context.isAnswered = true)
    (step : HandlerStep) : (runStep context step).context.isAnswered = true := by
  cases step with
  | append key value =>
      simp only [runStep, Effect.context, appendArg]
      split <;> exact answered
  | need header key status =>
      simp only [runStep]
      split
      · exact answered
      · rfl
  | respond status body => rfl
  | reflect status => rfl
  | status status => simpa [runStep, Effect.context, amend, Context.isAnswered] using answered
  | header name value => simpa [runStep, Effect.context, amend, Context.isAnswered] using answered
  | push value => simpa [runStep, Effect.context, amend, Context.isAnswered] using answered
  | _ => exact answered

/-- Scripted handlers take no prepared response back. -/
theorem handler_keeps (steps : List HandlerStep) : (Handler.custom (handler steps)).Keeps := by
  intro context answered
  have preserved (between : Context) (still : between.isAnswered = true) (step : HandlerStep) :
      (runStep between step).context.isAnswered = true :=
    runStep_keeps still step
  exact runHandler_preserves preserved steps answered

end Script

namespace Session

variable {sources : Element.Sources} {modules : Modules} {steps : List Step}

theorem sound_of_layer (keep : modules.Keep) {position : Nat} {layer : Layer}
    (present : ((start sources modules).run steps).router.layers[position]? = some layer) :
    layer.Sound := by
  rcases origin_of_layer present with rfl | ⟨_, _, _, registration, _, _, _, made⟩
  · refine ⟨?_, ?_, Nat.zero_le 1⟩
    · intro other held
      rw [List.mem_singleton.mp held]
      exact Handler.initializer_keeps
    · intro _ other held
      rw [List.mem_singleton.mp held]
      rfl
  · exact Modules.sound_of_layer_eq_ok keep made

/-- In the layer of a route, what validates parameters stands at the spot of a validated
method. -/
theorem exists_site_of_isMethod_of_route {run : HandlerRun} {layer : Layer} {verb : Verb}
    (present : ((start sources modules).run steps).router.layers[run.layer]? = some layer)
    (kind : layer.kind = .route verb) (held : layer.handlers[run.place]? = some run.handler)
    (isMethod : run.handler.isMethod = true) :
    ∃ attempt ∈ (start sources modules).attempts steps, ∃ site ∈ attempt.sites,
      attempt.Registers site ∧ run.toSpot = site.spot attempt.firstLayer ∧
      site.method.validated = true := by
  obtain ⟨attempt, member, site, declared, registered, here⟩ := exists_site_of_layer present kind
  obtain ⟨handler, pre, post, found, preFound, postFound, presentHere⟩ :=
    layer_of_registers member declared registered
  rw [here] at present
  cases Option.some.inj (present.symm.trans presentHere)
  obtain ⟨place, rfl⟩ := Handler.place_of_isMethod
    (fun _ => Modules.isMethod_eq_false_of_mem preFound)
    (fun _ => Modules.isMethod_eq_false_of_mem postFound) held isMethod
  refine ⟨attempt, member, site, declared, registered, ?_, ?_⟩
  · rw [Modules.length_eq_of_middlewares preFound] at place
    unfold Site.spot
    rw [← here, ← place]
  · rw [← Modules.isMethod_methodHandler found, isMethod]

/-- A controller is called at the spot of a validated method. -/
theorem exists_site_of_callsController (keep : modules.Keep) {request : Context} {run : HandlerRun}
    (logged : run ∈ ((start sources modules).run steps).router.log request)
    (calls : run.callsController = true) :
    ∃ attempt ∈ (start sources modules).attempts steps, ∃ site ∈ attempt.sites,
      attempt.Registers site ∧ run.toSpot = site.spot attempt.firstLayer ∧
      site.method.validated = true := by
  obtain ⟨layer, entered, present, _, inLayer, _⟩ := Router.exists_layer_of_mem_log logged
  have held := Layer.getElem?_place_of_mem_log inLayer
  have isMethod := HandlerRun.isMethod_of_callsController calls
  cases kind : layer.kind with
  | mount =>
      have other := (sound_of_layer keep present).mount kind _ (List.mem_of_getElem? held)
      exact absurd (other.symm.trans isMethod) Bool.false_ne_true
  | route verb => exact exists_site_of_isMethod_of_route present kind held isMethod

/-- A method whose layer was run to its end without an answer is not validated. -/
theorem validated_eq_false_of_ranThrough {attempt : Session} {site : Site} {layer : Layer}
    {log : List HandlerRun} (member : attempt ∈ (start sources modules).attempts steps)
    (declared : site ∈ attempt.sites) (registered : attempt.Registers site)
    (present : ((start sources modules).run steps).router.layers[
      attempt.firstLayer + site.position]? = some layer)
    (ran : RanThrough log layer (attempt.firstLayer + site.position)) :
    site.method.validated = false := by
  by_contra validated
  rw [Bool.not_eq_false] at validated
  obtain ⟨handler, pre, post, found, _, _, presentHere⟩ :=
    layer_of_registers member declared registered
  cases Option.some.inj (present.symm.trans presentHere)
  have held : (pre ++ handler :: post)[pre.length]? = some handler := by
    rw [List.getElem?_append_right (Nat.le_refl _), Nat.sub_self, List.getElem?_cons_zero]
  have numbered := List.mk_mem_zipIdx_iff_getElem?.mpr held
  rw [show (pre ++ handler :: post).zipIdx = _ from ran.complete.symm] at numbered
  obtain ⟨run, logged, same⟩ := List.mem_map.mp numbered
  obtain ⟨inLog, here⟩ := List.mem_filter.mp logged
  obtain ⟨rfl, _⟩ := Prod.mk.inj same
  have isMethod : run.handler.isMethod = true := by
    rw [Modules.isMethod_methodHandler found, validated]
  have runHere : run.layer = attempt.firstLayer + site.position := by simpa using here
  have answered := Handler.isAnswered_of_goesOn isMethod (ran.wentOn run inLog runHere)
  exact Bool.false_ne_true ((ran.unanswered run inLog runHere).symm.trans answered)

/-- However documents were compiled and loaded, and whatever the other handlers do short
of taking a prepared response back: a request calls at most one controller.  It is that
of a registered method that is validated, and when it is called, every earlier route
that the request matches was run to its end without an answer and is that of a method
with a handler of its own. -/
theorem at_most_one_controller (sources : Element.Sources) (modules : Modules)
    (keep : modules.Keep) (steps : List Step) (request : Context) :
    (((start sources modules).run steps).router.log request).countP
        HandlerRun.callsController ≤ 1 ∧
    ∀ run ∈ ((start sources modules).run steps).router.log request,
      run.callsController = true →
      (∃ attempt ∈ (start sources modules).attempts steps, ∃ site ∈ attempt.sites,
        attempt.Registers site ∧ run.toSpot = site.spot attempt.firstLayer ∧
        site.method.validated = true) ∧
      ∀ layer position verb, position < run.layer →
        ((start sources modules).run steps).router.layers[position]? = some layer →
        layer.kind = .route verb → verb.accepts request.method = true →
        (layer.pattern.matchExact request.path).isSome →
        RanThrough (((start sources modules).run steps).router.log request) layer position ∧
        ∃ attempt ∈ (start sources modules).attempts steps, ∃ site ∈ attempt.sites,
          attempt.Registers site ∧ position = attempt.firstLayer + site.position ∧
          site.method.validated = false := by
  have sound : ∀ numbered ∈ ((start sources modules).run steps).router.layers.zipIdx,
      numbered.1.Sound := by
    intro numbered member
    exact sound_of_layer keep (List.mem_zipIdx_iff_getElem?.mp member)
  have ordered := pairwise_snd_zipIdx ((start sources modules).run steps).router.layers 0
  refine ⟨Router.countP_logLayers_le_one sound request, ?_⟩
  intro run logged calls
  constructor
  · exact exists_site_of_callsController keep logged calls
  · intro layer position verb earlier present kind accepts matched
    have ran := Router.ranThrough_of_callsController sound ordered (.refl request) logged calls
      earlier (List.mk_mem_zipIdx_iff_getElem?.mpr present) kind accepts matched
    refine ⟨ran, ?_⟩
    obtain ⟨attempt, member, site, declared, registered, rfl⟩ := exists_site_of_layer present kind
    exact ⟨attempt, member, site, declared, registered, rfl,
      validated_eq_false_of_ranThrough member declared registered present ran⟩

/-! ## A route that falls through -/

/-- A document with two routes for the same path; the first of them has a handler of its
own. -/
def fallThroughDocument : Value :=
  .map [
    ("probe", .map [
      ("path", .string "/item"),
      ("methods", .map [("get", .map [
        ("controller", .string "probe"),
        ("abstract", .bool false)])])]),
    ("item", .map [
      ("path", .string "/item"),
      ("methods", .map [("get", .string "item")])])]

/-- The controller, and a handler that goes on without an answer. -/
def fallThroughModules : Modules where
  controllers := Registry.empty.register "controller/item" none (Script.controller [])
  handlers := Registry.empty.register "controller/probe" none (Script.handler [.next])

/-- The session that has compiled and loaded the document. -/
def fallThroughSession : Session :=
  (start ⟨{}, .empty⟩ fallThroughModules).run [.parseValue fallThroughDocument, .load]

theorem fallThroughModules_keep : fallThroughModules.Keep := by
  intro name base handler means
  rcases Registry.lookup?_register_cases means with rfl | earlier
  · exact Script.handler_keeps _
  · rw [Registry.lookup?_empty] at earlier
    cases earlier

/-- The controller of the second route is called after the first one was run to its
end. -/
theorem fallThrough_ranThrough :
    ∃ run ∈ fallThroughSession.router.log (.bare "/item"), run.callsController = true ∧
      ∃ layer ∈ fallThroughSession.router.layers[1]?,
        RanThrough (fallThroughSession.router.log (.bare "/item")) layer 1 := by
  have called : ∃ run ∈ fallThroughSession.router.log (.bare "/item"),
      run.callsController = true ∧ 1 < run.layer := by
    decide +kernel
  have matched : ∃ layer ∈ fallThroughSession.router.layers[1]?,
      layer.kind = .route .get ∧ Verb.get.accepts (Context.bare "/item").method = true ∧
        (layer.pattern.matchExact (Context.bare "/item").path).isSome := by
    decide +kernel
  obtain ⟨run, logged, calls, earlier⟩ := called
  obtain ⟨layer, present, kind, accepts, exact⟩ := matched
  obtain ⟨_, controllers⟩ := at_most_one_controller ⟨{}, .empty⟩ fallThroughModules
    fallThroughModules_keep [.parseValue fallThroughDocument, .load] (.bare "/item")
  obtain ⟨_, routes⟩ := controllers run logged calls
  obtain ⟨ran, _⟩ := routes layer 1 .get earlier present kind accepts exact
  exact ⟨run, logged, calls, layer, present, ran⟩

end Session

end RoutePlan
