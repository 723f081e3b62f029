import RoutePlan.Proofs.Session.Run
import RoutePlan.Proofs.Tree.Listing

/-!
# Listed and registered routes of a run

The router of a run lists the routes of its loads one after the other: all that the
tree lists for a load that succeeded, and the leading ones for a load that failed.
No other step changes the routes.
-/

namespace RoutePlan

namespace ListedRoute

/-- What a router shows of a listed route. -/
def shown (route : ListedRoute) : Verb × String :=
  (route.verb, route.path)

end ListedRoute

namespace Layer

/-- What a router shows of a layer; mounts are not shown. -/
def shown? (layer : Layer) : Option (Verb × String) :=
  match layer.kind with
  | .mount => none
  | .route verb => some (verb, layer.pattern.display)

/-- The layer of a registration is shown as the tree lists the registration. -/
theorem shown?_of_layer_eq_ok {modules : Modules} {settings : RouteSettings}
    {registration : Registration} {layer : Layer}
    (normal : (PathPattern.parse registration.path).display = registration.path)
    (made : modules.layer settings registration = .ok layer) :
    layer.shown? = registration.listed?.map ListedRoute.shown := by
  cases registration with
  | mount path name =>
      obtain ⟨handler, _, rfl⟩ := Modules.layer_mount_eq_ok_iff.mp made
      rfl
  | route path method =>
      obtain ⟨handler, pre, post, _, _, _, rfl⟩ := Modules.layer_route_eq_ok_iff.mp made
      exact congrArg (fun shown => some (method.verb, shown)) normal

end Layer

namespace Router

theorem routes_eq_filterMap (router : Router) :
    router.routes = router.layers.filterMap Layer.shown? :=
  rfl

end Router

namespace Session

/-- Layers of registrations are shown as the registrations are listed. -/
private theorem filterMap_shown?_of_forall₂ {modules : Modules} {settings : RouteSettings}
    {registrations : List Registration} {layers : List Layer}
    (normal : ∀ registration ∈ registrations,
      (PathPattern.parse registration.path).display = registration.path)
    (made : List.Forall₂ (fun registration layer => modules.layer settings registration = .ok layer)
      registrations layers) :
    layers.filterMap Layer.shown? =
      (registrations.filterMap Registration.listed?).map ListedRoute.shown := by
  induction made with
  | nil => rfl
  | @cons registration layer _ _ first _ ih =>
      obtain ⟨firstNormal, restNormal⟩ := List.forall_mem_cons.mp normal
      rw [List.filterMap_cons, List.filterMap_cons, Layer.shown?_of_layer_eq_ok firstNormal first,
        ih restNormal]
      cases registration.listed? <;> rfl

/-- The routes that the load of a session registers. -/
def registeredRoutes (session : Session) : List (Verb × String) :=
  session.loaded.layers.filterMap Layer.shown?

theorem registeredRoutes_eq (session : Session) :
    session.registeredRoutes =
      ((session.registrations.take session.loaded.layers.length).filterMap
        Registration.listed?).map ListedRoute.shown := by
  apply filterMap_shown?_of_forall₂
  · intro registration member
    exact Element.display_parse_of_mem_registrationsAll (List.mem_of_mem_take member)
  · exact RoutePlan.load_layers _ _ _

theorem routes_eq_filterMap_listed? (session : Session) :
    session.routes = session.registrations.filterMap Registration.listed? :=
  (Element.filterMap_listed?_registrationsAll "/" session.forest).symm

/-- A load registers the leading routes of the listing. -/
theorem registeredRoutes_isPrefix (session : Session) :
    session.registeredRoutes <+: session.routes.map ListedRoute.shown := by
  rw [registeredRoutes_eq, routes_eq_filterMap_listed?]
  have leading := List.take_prefix session.loaded.layers.length session.registrations
  exact (leading.filterMap _).map _

/-- A load that succeeds registers all routes of the listing. -/
theorem registeredRoutes_eq_of_error_eq_none {session : Session}
    (compiled : session.phase = .compiled) (succeeded : session.load.error = none) :
    session.registeredRoutes = session.routes.map ListedRoute.shown := by
  rw [load_error_of_compiled compiled] at succeeded
  have complete := (load_error_eq_none_iff _ _ _).mp succeeded
  rw [registeredRoutes_eq, routes_eq_filterMap_listed?, loaded, complete, List.take_length]

/-- A load of a compiled tree adds the routes that it registers, and no other step
changes the routes. -/
theorem routes_run (session : Session) (steps : List Step) :
    (session.run steps).router.routes =
      session.router.routes ++ (session.attempts steps).flatMap registeredRoutes := by
  induction steps generalizing session with
  | nil => simp [run, attempts]
  | cons step rest ih =>
      by_cases loads : step = .load ∧ session.phase = .compiled
      · obtain ⟨rfl, compiled⟩ := loads
        rw [run, ih, Session.step, attempts_cons_load compiled, List.flatMap_cons,
          Router.routes_eq_filterMap, load_layers_of_compiled compiled, List.filterMap_append,
          List.filterMap_cons_none rfl, List.append_assoc]
        rfl
      · have other := not_and_or.mp loads
        rw [run, ih, attempts_cons_of_not_load other, step_router_of_not_load other]

/-- The routes of the router are those of the loads of the run in their order: all
that the tree listed for a load that succeeded and the leading ones for a load that
failed.  No other step changes them, and every listed path is in normal form. -/
theorem routes_run_start (sources : Element.Sources) (modules : Modules) (steps : List Step) :
    ∃ parts : List (List (Verb × String)),
      ((start sources modules).run steps).router.routes = parts.flatten ∧
      List.Forall₂
        (fun attempt part =>
          part <+: attempt.routes.map ListedRoute.shown ∧
            (attempt.load.error = none → part = attempt.routes.map ListedRoute.shown))
        ((start sources modules).attempts steps) parts ∧
      (∀ earlier step later, steps = earlier ++ step :: later →
        step ≠ .load ∨ ((start sources modules).run earlier).phase ≠ .compiled →
        ((start sources modules).run (earlier ++ [step])).router.routes =
          ((start sources modules).run earlier).router.routes) ∧
      (∀ shown ∈ ((start sources modules).run steps).router.routes, UrlPath.IsNormal shown.2) ∧
      ∀ entry ∈ ((start sources modules).run steps).routes, UrlPath.IsNormal entry.path := by
  refine ⟨((start sources modules).attempts steps).map registeredRoutes, ?_, ?_, ?_, ?_, ?_⟩
  · rw [routes_run, List.flatMap_def]
    rfl
  · rw [List.forall₂_map_right_iff, List.forall₂_same]
    intro attempt member
    obtain ⟨_, _, compiled, _⟩ := of_mem_attempts member
    exact ⟨attempt.registeredRoutes_isPrefix, registeredRoutes_eq_of_error_eq_none compiled⟩
  · intro earlier step later _ other
    rw [run_append, run, run, step_router_of_not_load other]
  · intro shown member
    rw [routes_run] at member
    obtain ⟨attempt, _, registered⟩ := List.mem_flatMap.mp member
    obtain ⟨entry, listed, rfl⟩ :=
      List.mem_map.mp (attempt.registeredRoutes_isPrefix.subset registered)
    exact Element.isNormal_of_mem_listingAll listed
  · intro entry member
    exact Element.isNormal_of_mem_listingAll member

end Session

end RoutePlan
