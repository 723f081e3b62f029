import RoutePlan.Proofs.Dispatch.Transparent
import RoutePlan.Proofs.Session.Listing
import RoutePlan.Proofs.Session.Sites
import RoutePlan.Script

/-!
# The first match of the listing

A tree whose methods are all validated and whose middlewares change nothing answers a
request as its listing says: the first listed route that the request matches decides
alone.  Later matches do not run, whether the first one answers or fails, and without
a match nothing is found.
-/

namespace RoutePlan

namespace ListedRoute

/-- The route accepts the verb of the request and matches its path exactly. -/
def accepts (request : Context) (route : ListedRoute) : Bool :=
  route.verb.accepts request.method &&
    ((PathPattern.parse route.path).matchExact request.path).isSome

end ListedRoute

namespace Registration

/-- The registration is one of a route that accepts the request. -/
def accepts (request : Context) (registration : Registration) : Bool :=
  registration.listed?.any (ListedRoute.accepts request)

end Registration

namespace Modules

variable {modules : Modules} {settings : RouteSettings}

/-- The middlewares with some names are transparent. -/
def Transparent (modules : Modules) (settings : RouteSettings) (names : List String) : Prop :=
  ∀ name ∈ names, ∀ handler, modules.middleware settings name = .ok handler → handler.Transparent

theorem Transparent.forall_mem {names : List String} {handlers : List Handler}
    (transparent : modules.Transparent settings names)
    (found : modules.middlewares settings names = .ok handlers) :
    ∀ handler ∈ handlers, handler.Transparent := by
  intro handler member
  obtain ⟨name, named, middleware⟩ := exists_middleware_of_mem found member
  exact transparent name named handler middleware

/-- A validated method whose middlewares are transparent has a layer that runs its
controller. -/
theorem route_run_of_transparent {path : String} {method : Method} {layer : Layer}
    (made : modules.layer settings (.route path method) = .ok layer)
    (validated : method.validated = true)
    (transparent : modules.Transparent settings (Registration.route path method).middlewares) :
    ∃ controller,
      modules.controllers.lookup? method.controller settings.controllerDir = some controller ∧
      layer.kind = .route method.verb ∧ layer.pattern = .parse path ∧
      ∀ context, Handler.runAll layer.handlers context =
        MethodHandler.run ⟨controller, method.status, method.params, method.body⟩ context := by
  obtain ⟨handler, pre, post, found, preFound, postFound, rfl⟩ := layer_route_eq_ok_iff.mp made
  obtain ⟨preTransparent, postTransparent⟩ := List.forall_mem_append.mp transparent
  rcases methodHandler_eq_ok_iff.mp found with ⟨_, controller, looked, rfl⟩ | ⟨raw, _⟩
  · refine ⟨controller, looked, rfl, rfl, ?_⟩
    intro context
    exact Handler.runAll_surrounded _ (Transparent.forall_mem preTransparent preFound)
      (Transparent.forall_mem postTransparent postFound) context
  · exact absurd (raw.symm.trans validated) Bool.false_ne_true

/-- A layer passes by a request that is answered, or that its registration does not
accept. -/
theorem passesBy_of_layer_eq_ok {registration : Registration} {layer : Layer}
    (made : modules.layer settings registration = .ok layer)
    (transparent : modules.Transparent settings registration.middlewares) {context : Context}
    (other : context.isAnswered = true ∨ registration.accepts context = false) :
    layer.PassesBy context := by
  cases registration with
  | mount path name =>
      obtain ⟨handler, found, rfl⟩ := layer_mount_eq_ok_iff.mp made
      exact Layer.mount_passesBy (transparent name List.mem_cons_self handler found) path context
  | route path method =>
      obtain ⟨handler, pre, post, _, _, _, rfl⟩ := layer_route_eq_ok_iff.mp made
      apply Layer.passesBy_of_captures?_eq_none
      unfold Layer.captures? Layer.route
      rcases other with answered | refused
      · simp [answered]
      · simp only [Registration.accepts, Registration.listed?, Option.any_some,
          ListedRoute.accepts, Bool.and_eq_false_iff, Option.isSome_eq_false_iff,
          Option.isNone_iff_eq_none] at refused
        rcases refused with verb | path
        · simp [verb]
        · simp [path]

/-- The layer of a route that accepts an unanswered request runs the method handler on
the path parameters of the route. -/
theorem route_run_of_accepts {path : String} {method : Method} {layer : Layer}
    (made : modules.layer settings (.route path method) = .ok layer)
    (validated : method.validated = true)
    (transparent : modules.Transparent settings (Registration.route path method).middlewares)
    {context : Context} (unanswered : context.isAnswered = false)
    (accepted : (Registration.route path method).accepts context = true) :
    ∃ controller captures,
      modules.controllers.lookup? method.controller settings.controllerDir = some controller ∧
      (PathPattern.parse path).matchExact context.path = some captures ∧
      layer.run context =
        MethodHandler.run ⟨controller, method.status, method.params, method.body⟩
          (Layer.enter captures context) := by
  obtain ⟨controller, found, kind, pattern, ran⟩ :=
    route_run_of_transparent made validated transparent
  obtain ⟨verb, matched⟩ := Bool.and_eq_true_iff.mp accepted
  obtain ⟨captures, bound⟩ := Option.isSome_iff_exists.mp matched
  refine ⟨controller, captures, found, bound, ?_⟩
  have applies : layer.captures? context = some captures := by
    apply (Layer.captures?_eq_some_iff_of_route kind).mpr
    rw [pattern]
    exact ⟨unanswered, verb, bound⟩
  rw [Layer.run, applies]
  exact ran _

/-! ## The layers of registrations -/

variable {registrations : List Registration} {layers : List Layer} {context : Context}
  (made : List.Forall₂ (fun registration layer => modules.layer settings registration = .ok layer)
    registrations layers)
  (transparent : ∀ registration ∈ registrations,
    modules.Transparent settings registration.middlewares)

include made transparent

/-- Layers pass by a request together when it is answered, or when none of their
registrations accepts it. -/
theorem runLayers_of_forall_not_accepts
    (others : context.isAnswered = true ∨
      ∀ registration ∈ registrations, registration.accepts context = false) :
    ∃ params, Router.runLayers layers context = (.ok .next, { context with params }) := by
  apply Router.runLayers_of_passesBy
  intro layer member params
  obtain ⟨registration, declared, layerMade⟩ := exists_rel_of_mem made member
  apply passesBy_of_layer_eq_ok layerMade (transparent registration declared)
  exact others.imp id fun refused => refused registration declared

/-- The first registration that accepts an unanswered request decides. -/
theorem runAs_of_find?_eq_some
    (validated : ∀ path method, .route path method ∈ registrations → method.validated = true)
    (unanswered : context.isAnswered = false) {registration : Registration}
    (first : registrations.find? (Registration.accepts context) = some registration) :
    ∃ path method controller captures, registration = .route path method ∧
      modules.controllers.lookup? method.controller settings.controllerDir = some controller ∧
      (PathPattern.parse path).matchExact context.path = some captures ∧
      Router.RunAs layers context ⟨controller, method.status, method.params, method.body⟩
        (Layer.enter captures context) := by
  induction made generalizing context with
  | nil => simp at first
  | @cons head layer rest others headMade restMade ih =>
      obtain ⟨headTransparent, restTransparent⟩ := List.forall_mem_cons.mp transparent
      by_cases accepted : head.accepts context = true
      · rw [List.find?_cons_of_pos accepted] at first
        cases Option.some.inj first
        cases registration with
        | mount path name => simp [Registration.accepts, Registration.listed?] at accepted
        | route path method =>
            obtain ⟨controller, captures, found, matched, ran_eq⟩ :=
              route_run_of_accepts headMade (validated path method List.mem_cons_self)
                headTransparent unanswered accepted
            refine ⟨path, method, controller, captures, rfl, found, matched, ?_⟩
            apply Router.RunAs.of_first ran_eq
            intro staged
            exact runLayers_of_forall_not_accepts restMade restTransparent (.inl rfl)
      · rw [List.find?_cons_of_neg accepted] at first
        rw [Bool.not_eq_true] at accepted
        obtain ⟨params, passed⟩ :=
          passesBy_of_layer_eq_ok headMade headTransparent (.inr accepted)
        have stillUnanswered : { context with params }.isAnswered = false := unanswered
        have restValidated : ∀ path method,
            .route path method ∈ rest → method.validated = true := by
          intro path method member
          exact validated path method (List.mem_cons_of_mem _ member)
        obtain ⟨path, method, controller, captures, same, found, matched, ran⟩ :=
          ih restTransparent restValidated stillUnanswered first
        exact ⟨path, method, controller, captures, same, found, matched, ran.of_passed passed⟩

end Modules

namespace Session

/-- The first listed route that accepts a request is listed by the first registration
that does. -/
theorem find?_registrations_of_find?_routes {session : Session} {request : Context}
    {entry : ListedRoute}
    (first : session.routes.find? (ListedRoute.accepts request) = some entry) :
    ∃ registration,
      session.registrations.find? (Registration.accepts request) = some registration ∧
        registration.listed? = some entry := by
  rw [routes_eq_filterMap_listed?, List.find?_filterMap] at first
  exact Option.bind_eq_some_iff.mp first

/-- A request that no listed route accepts is accepted by no registration. -/
theorem accepts_eq_false_of_forall_routes {session : Session} {request : Context}
    (refused : ∀ entry ∈ session.routes, entry.accepts request = false) :
    ∀ registration ∈ session.registrations, registration.accepts request = false := by
  intro registration declared
  cases listed : registration.listed? with
  | none => simp [Registration.accepts, listed]
  | some entry =>
      rw [Registration.accepts, listed, Option.any_some]
      apply refused
      rw [routes_eq_filterMap_listed?]
      exact List.mem_filterMap.mpr ⟨registration, declared, listed⟩

/-- What a successful load of a fresh session leaves behind: the initializer and the
layers of all registrations. -/
theorem layers_of_loaded {sources : Element.Sources} {modules : Modules} {parse : Step}
    {session final : Session} {warnings loadWarnings : List Warning}
    (parsed : (start sources modules).step parse = ⟨session, warnings, none⟩)
    (loaded : session.load = ⟨final, loadWarnings, none⟩) :
    ∃ layers, final.router.layers = .mount "/" .initializer :: layers ∧
      List.Forall₂
        (fun registration layer => modules.layer sources.settings registration = .ok layer)
        session.registrations layers := by
  have succeeded : session.load.error = none := by rw [loaded]
  have compiled := phase_eq_of_load_error_eq_none succeeded
  have session_eq : ((start sources modules).step parse).session = session := by rw [parsed]
  have notCompiled : (start sources modules).phase ≠ .compiled := nofun
  have router : session.router = .empty := by
    rw [← session_eq, step_router_of_not_load (.inr notCompiled)]
    rfl
  have sameModules : session.modules = modules := by
    rw [← session_eq, step_modules]
    rfl
  have sameSettings : session.sources.settings = sources.settings := by
    rw [← session_eq, step_settings]
    rfl
  have complete : session.loaded.layers.length = session.registrations.length := by
    rw [load_error_of_compiled compiled] at succeeded
    exact (load_error_eq_none_iff _ _ _).mp succeeded
  refine ⟨session.loaded.layers, ?_, ?_⟩
  · have final_eq : final = session.load.session := by rw [loaded]
    rw [final_eq, load_layers_of_compiled compiled, router]
    rfl
  · have made := load_layers session.modules session.sources.settings session.registrations
    rw [sameModules, sameSettings] at made
    unfold Session.loaded at complete ⊢
    rw [sameModules, sameSettings] at complete ⊢
    rw [complete, List.take_length] at made
    exact made

section FreshSession

variable {sources : Element.Sources} {modules : Modules} {parse : Step} {session final : Session}
  {warnings loadWarnings : List Warning}
  (parsed : (start sources modules).step parse = ⟨session, warnings, none⟩)
  (loaded : session.load = ⟨final, loadWarnings, none⟩)
  (transparent : ∀ registration ∈ session.registrations,
    modules.Transparent sources.settings registration.middlewares)
  {request : Context}

include parsed loaded transparent

/-- The first listed route that accepts the request answers it. -/
theorem answersAs_of_find?_eq_some
    (validated : ∀ site ∈ session.sites, site.method.validated = true)
    (unanswered : request.response = none) {entry : ListedRoute}
    (first : session.routes.find? (ListedRoute.accepts request) = some entry) :
    ∃ method controller captures,
      session.registrations.find? (Registration.accepts request) =
        some (.route entry.path method) ∧
      method.verb = entry.verb ∧ method.controller = entry.controller ∧
      modules.controllers.lookup? entry.controller sources.settings.controllerDir =
        some controller ∧
      (PathPattern.parse entry.path).matchExact request.path = some captures ∧
      final.router.AnswersAs request ⟨controller, method.status, method.params, method.body⟩
        (Layer.enter captures { request with args := [] }) := by
  obtain ⟨layers, layers_eq, made⟩ := layers_of_loaded parsed loaded
  obtain ⟨registration, firstDeclared, listed⟩ := find?_registrations_of_find?_routes first
  have methodsValidated : ∀ path method,
      .route path method ∈ session.registrations → method.validated = true := by
    intro path method declared
    obtain ⟨position, held⟩ := List.mem_iff_getElem?.mp declared
    obtain ⟨site, member, rfl, _⟩ := exists_site_of_route held
    exact validated site member
  have stillUnanswered : { request with args := [], params := [] }.isAnswered = false := by
    simp [Context.isAnswered, unanswered]
  obtain ⟨path, method, controller, captures, rfl, found, matched, ran⟩ :=
    Modules.runAs_of_find?_eq_some made transparent methodsValidated stillUnanswered
      firstDeclared
  cases Option.some.inj listed
  refine ⟨method, controller, captures, firstDeclared, rfl, rfl, found, matched, ?_⟩
  apply Router.RunAs.answersAs
  rw [layers_eq]
  exact ran.of_initializer

/-- Without a listed route that accepts the request nothing happens to it. -/
theorem dispatch_of_forall_routes
    (refused : ∀ entry ∈ session.routes, entry.accepts request = false) :
    ∃ params, final.router.dispatch request = (.ok (), { request with args := [], params }) := by
  obtain ⟨layers, layers_eq, made⟩ := layers_of_loaded parsed loaded
  have others : ∀ registration ∈ session.registrations,
      registration.accepts { request with args := [], params := [] } = false :=
    accepts_eq_false_of_forall_routes refused
  obtain ⟨params, ran⟩ := Modules.runLayers_of_forall_not_accepts made transparent (.inr others)
  refine ⟨params, ?_⟩
  rw [Router.dispatch_eq, layers_eq, Router.runLayers_initializer, ran]
  rfl

end FreshSession

/-- A document with two routes for the same path, the first of them with a
middleware. -/
def overlappingDocument : Value :=
  .map [
    ("item", .map [
      ("path", .string "/item/:id"),
      ("pre_middlewares", .list [.string "pass"]),
      ("methods", .map [("get", .string "item")])]),
    ("first", .map [
      ("path", .string "/item/first"),
      ("methods", .map [("all", .string "item")])])]

/-- The controller and a middleware that changes nothing. -/
def overlappingModules : Modules where
  controllers := Registry.empty.register "controller/item" none (Script.controller [.param "id"])
  handlers := Registry.empty.register "middleware/pass" none (Script.handler [.next])

theorem After.eq_of_error_eq_none {after : After} (succeeded : after.error = none) :
    after = ⟨after.session, after.warnings, none⟩ := by
  cases after
  cases succeeded
  rfl

/-- The session that has compiled the document. -/
def overlappingSession : Session :=
  ((start ⟨{}, .empty⟩ overlappingModules).step (.parseValue overlappingDocument)).session

end Session

end RoutePlan
