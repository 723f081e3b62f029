import RoutePlan.Proofs.PathPattern
import RoutePlan.Proofs.Session.Sites
import RoutePlan.Script

/-!
# Middlewares around the handler of a method

When the handler of a method runs, the middlewares of the roots that enclose it, of
its route and of the method have run before it and went on, in this order.  When
the load was complete and the dispatch goes on from the handler to its end, the
middlewares behind it run after it.  No path, no nesting and no failed load leads
around a middleware.
-/

namespace RoutePlan.Session

section Runs

variable {start attempt : Session} {steps : List Step} {site : Site}
  (member : attempt ∈ start.attempts steps) (declared : site ∈ attempt.sites)

include member declared

/-- A mount around a method whose path the request has serves its station once the
dispatch has passed it. -/
theorem served_of_mount {mount : PlacedMount} (around : mount ∈ site.before ++ site.behind)
    (registered : mount.position < attempt.loaded.layers.length) {request : Context}
    (matched : ((PathPattern.parse site.path).matchExact request.path).isSome)
    (passed : Router.Passed ((start.run steps).router.log request)
      (attempt.firstLayer + mount.position)) :
    ∃ run ∈ (start.run steps).router.log request,
      (mount.station attempt.firstLayer).ServedBy start.modules start.sources.settings run := by
  obtain ⟨handler, found, present⟩ := layer_of_mount member declared around registered
  have applies : ∀ entered : Context, entered.SameRequest request →
      ((Layer.mount mount.path handler).captures? entered).isSome := by
    intro entered same
    have leads := Element.leads_of_mem_sitesAll declared mount around
    have leading := PathPattern.matchLeading_isSome_of_matchExact leads matched
    rw [← same.2] at leading
    exact leading
  have held : (Layer.mount mount.path handler).handlers[0]? = some handler := rfl
  obtain ⟨run, logged, spot, rfl, wentOn⟩ :=
    Router.exists_run_of_passed present passed applies held
  exact ⟨run, logged, spot, found, wentOn⟩

variable {request : Context} {run : HandlerRun} (registered : attempt.Registers site)
  (logged : run ∈ (start.run steps).router.log request)
  (here : run.toSpot = site.spot attempt.firstLayer)

include registered logged here

/-- The layer of the method is the layer of the run. -/
theorem exists_layer_of_run :
    ∃ handler pre post entered,
      start.modules.methodHandler start.sources.settings site.method = .ok handler ∧
      start.modules.middlewares start.sources.settings site.method.pre = .ok pre ∧
      start.modules.middlewares start.sources.settings site.method.post = .ok post ∧
      entered.SameRequest request ∧
      run ∈
        (Layer.route site.method.verb site.path (pre ++ handler :: post)).log run.layer entered ∧
      (Layer.route site.method.verb site.path (pre ++ handler :: post)).log run.layer entered ⊆
        (start.run steps).router.log request := by
  obtain ⟨handler, pre, post, found, preFound, postFound, present⟩ :=
    layer_of_registers member declared registered
  obtain ⟨layer, entered, presentHere, same, runLogged, contained⟩ :=
    Router.exists_layer_of_mem_log logged
  have sameLayer : run.layer = attempt.firstLayer + site.position := congrArg Spot.layer here
  rw [sameLayer, present] at presentHere
  cases Option.some.inj presentHere
  exact ⟨handler, pre, post, entered, found, preFound, postFound, same, runLogged, contained⟩

theorem methodHandler_of_run :
    start.modules.methodHandler start.sources.settings site.method = .ok run.handler := by
  obtain ⟨handler, pre, post, entered, found, preFound, _, _, runLogged, _⟩ :=
    exists_layer_of_run member declared registered logged here
  have held := Layer.getElem?_place_of_mem_log runLogged
  have place : run.place = pre.length := by
    rw [Modules.length_eq_of_middlewares preFound]
    exact congrArg Spot.place here
  rw [place, Layer.route, List.getElem?_append_right (Nat.le_refl _), Nat.sub_self] at held
  rw [found, Option.some.inj held]

theorem matchExact_of_run : ((PathPattern.parse site.path).matchExact request.path).isSome := by
  obtain ⟨handler, pre, post, entered, _, _, _, same, runLogged, _⟩ :=
    exists_layer_of_run member declared registered logged here
  obtain ⟨captures, applies⟩ :=
    Option.isSome_iff_exists.mp (Layer.captures?_isSome_of_mem_log runLogged)
  obtain ⟨_, _, matched⟩ := (Layer.captures?_eq_some_iff_of_route rfl).mp applies
  rw [← same.2]
  exact Option.isSome_of_eq_some matched

/-- Every middleware of the method before its handler has run. -/
theorem ran_of_mem_pre {station : Station}
    (own : station ∈ site.ownStations attempt.firstLayer 0 site.method.pre) :
    ∃ earlier ∈ (start.run steps).router.log request, earlier.toSpot = station.toSpot ∧
      start.modules.middleware start.sources.settings station.middleware = .ok earlier.handler := by
  obtain ⟨handler, pre, post, entered, _, preFound, _, _, runLogged, contained⟩ :=
    exists_layer_of_run member declared registered logged here
  obtain ⟨index, middleware, spot, held, found⟩ := Site.handler_of_mem_ownStations preFound own
  have inLayer : (pre ++ handler :: post)[index]? = some middleware := by
    rw [List.getElem?_append_left (List.getElem?_eq_some_iff.mp held).1, held]
  have within : index ≤ run.place := by
    have place : run.place = site.method.pre.length := congrArg Spot.place here
    rw [place, ← Modules.length_eq_of_middlewares preFound]
    exact Nat.le_of_lt (List.getElem?_eq_some_iff.mp held).1
  obtain ⟨earlier, earlierLogged, numbered⟩ :=
    Layer.exists_run_of_place_le runLogged inLayer within
  obtain ⟨rfl, samePlace⟩ := Prod.mk.inj numbered
  refine ⟨earlier, contained earlierLogged, ?_, found⟩
  have sameLayer := (Layer.layer_of_mem_log earlierLogged).trans (congrArg Spot.layer here)
  rw [spot, Nat.zero_add, ← samePlace]
  exact congrArg (Spot.mk · earlier.place) sameLayer

/-- When every run went on, every middleware of the method behind its handler has
run. -/
theorem ran_of_mem_post
    (wentOn : ∀ other ∈ (start.run steps).router.log request, other.WentOn) {station : Station}
    (own : station ∈
      site.ownStations attempt.firstLayer (site.method.pre.length + 1) site.method.post) :
    ∃ later ∈ (start.run steps).router.log request, later.toSpot = station.toSpot ∧
      start.modules.middleware start.sources.settings station.middleware = .ok later.handler := by
  obtain ⟨handler, pre, post, entered, _, preFound, postFound, _, runLogged, contained⟩ :=
    exists_layer_of_run member declared registered logged here
  obtain ⟨index, middleware, spot, held, found⟩ := Site.handler_of_mem_ownStations postFound own
  rw [← Modules.length_eq_of_middlewares preFound] at spot
  have inLayer : (pre ++ handler :: post)[pre.length + 1 + index]? = some middleware := by
    rw [Nat.add_assoc, List.getElem?_append_right (Nat.le_add_right _ _), Nat.add_sub_cancel_left,
      Nat.add_comm 1 index, List.getElem?_cons_succ, held]
  obtain ⟨later, laterLogged, numbered⟩ :=
    Layer.exists_run_of_forall_wentOn (Layer.captures?_isSome_of_mem_log runLogged)
      (fun other otherLogged => wentOn other (contained otherLogged)) inLayer
  obtain ⟨rfl, samePlace⟩ := Prod.mk.inj numbered
  refine ⟨later, contained laterLogged, ?_, found⟩
  have sameLayer := (Layer.layer_of_mem_log laterLogged).trans (congrArg Spot.layer here)
  rw [spot, ← samePlace]
  exact congrArg (Spot.mk · later.place) sameLayer

/-- Every station before the handler is served in the log. -/
theorem served_of_mem_guards {time : Nat}
    (loggedAt : ((start.run steps).router.log request)[time]? = some run) {station : Station}
    (guard : station ∈ site.guards attempt.firstLayer) :
    ∃ earlier ∈ ((start.run steps).router.log request).take time,
      station.ServedBy start.modules start.sources.settings earlier := by
  have inOrder := inOrder_of_mem_sites declared
  have before := inOrder.guards_precede guard
  have ran : ∃ earlier ∈ (start.run steps).router.log request, earlier.toSpot = station.toSpot ∧
      start.modules.middleware start.sources.settings station.middleware = .ok earlier.handler := by
    rcases List.mem_append.mp guard with mounted | own
    · obtain ⟨mount, outer, rfl⟩ := List.mem_map.mp mounted
      have ahead := inOrder.lt mount outer
      have passed : Router.Passed ((start.run steps).router.log request)
          (attempt.firstLayer + mount.position) := by
        refine .inl ⟨run, logged, ?_⟩
        rw [here]
        exact Nat.add_lt_add_left ahead attempt.firstLayer
      obtain ⟨earlier, earlierLogged, served⟩ :=
        served_of_mount member declared (List.mem_append_left _ outer)
          (Nat.lt_trans ahead registered)
          (matchExact_of_run member declared registered logged here) passed
      exact ⟨earlier, earlierLogged, served.spot, served.handler⟩
    · exact ran_of_mem_pre member declared registered logged here own
  obtain ⟨earlier, earlierLogged, spot, found⟩ := ran
  have precedes : earlier.Precedes run := by
    unfold HandlerRun.Precedes
    rw [spot, here]
    exact before
  have taken := HandlerRun.mem_take_of_precedes (Router.pairwise_precedes_log _ request) loggedAt
    earlierLogged precedes
  exact ⟨earlier, taken, spot, found, Router.wentOn_of_mem_take_log loggedAt taken⟩

/-- When the load was complete and every run went on, every station behind the
handler is served in the log. -/
theorem served_of_mem_followers {time : Nat}
    (loggedAt : ((start.run steps).router.log request)[time]? = some run)
    (complete : attempt.loaded.layers.length = attempt.registrations.length)
    (wentOn : ∀ other ∈ (start.run steps).router.log request, other.WentOn) {station : Station}
    (follower : station ∈ site.followers attempt.firstLayer) :
    ∃ later ∈ ((start.run steps).router.log request).drop (time + 1),
      station.ServedBy start.modules start.sources.settings later := by
  have inOrder := inOrder_of_mem_sites declared
  have behind := inOrder.precedes_followers follower
  have ran : ∃ later ∈ (start.run steps).router.log request, later.toSpot = station.toSpot ∧
      start.modules.middleware start.sources.settings station.middleware = .ok later.handler := by
    rcases List.mem_append.mp follower with own | mounted
    · exact ran_of_mem_post member declared registered logged here wentOn own
    · obtain ⟨mount, outer, rfl⟩ := List.mem_map.mp mounted
      have around := List.mem_append_right site.before outer
      have within : mount.position < attempt.loaded.layers.length := by
        rw [complete]
        exact (List.getElem?_eq_some_iff.mp (registrations_mount declared around)).1
      obtain ⟨later, laterLogged, served⟩ :=
        served_of_mount member declared around within
          (matchExact_of_run member declared registered logged here) (.inr wentOn)
      exact ⟨later, laterLogged, served.spot, served.handler⟩
  obtain ⟨later, laterLogged, spot, found⟩ := ran
  have precedes : run.Precedes later := by
    unfold HandlerRun.Precedes
    rw [spot, here]
    exact behind
  have dropped := HandlerRun.mem_drop_of_precedes (Router.pairwise_precedes_log _ request) loggedAt
    laterLogged precedes
  exact ⟨later, dropped, spot, found, wentOn later laterLogged⟩

end Runs

/-- Every layer of a route is that of a method that a load has registered.  When the
handler of such a method runs, the middlewares of the enclosing roots, of the route
and of the method have run before it, in this order, and went on.  When its load
succeeded and the dispatch goes on from the handler to its end, the middlewares of
the method, of the route and of the enclosing roots run after it, in this order. -/
theorem middlewares_around_method (sources : Element.Sources) (modules : Modules)
    (steps : List Step) (request : Context) {time : Nat} {run : HandlerRun}
    (logged : (((start sources modules).run steps).router.log request)[time]? = some run) :
    (∀ layer verb,
      ((start sources modules).run steps).router.layers[run.layer]? = some layer →
      layer.kind = .route verb →
      ∃ attempt ∈ (start sources modules).attempts steps, ∃ site ∈ attempt.sites,
        attempt.Registers site ∧ run.layer = attempt.firstLayer + site.position) ∧
    ∀ attempt ∈ (start sources modules).attempts steps, ∀ site ∈ attempt.sites,
      attempt.Registers site → run.toSpot = site.spot attempt.firstLayer →
      modules.methodHandler sources.settings site.method = .ok run.handler ∧
      (∃ earlier,
        earlier.Sublist ((((start sources modules).run steps).router.log request).take time) ∧
        List.Forall₂ (Station.ServedBy modules sources.settings)
          (site.guards attempt.firstLayer) earlier) ∧
      (attempt.load.error = none → run.WentOn →
        (∀ other ∈ (((start sources modules).run steps).router.log request).drop (time + 1),
          other.WentOn) →
        ∃ later,
          later.Sublist
            ((((start sources modules).run steps).router.log request).drop (time + 1)) ∧
          List.Forall₂ (Station.ServedBy modules sources.settings)
            (site.followers attempt.firstLayer) later) := by
  constructor
  · intro layer verb present kind
    exact exists_site_of_layer present kind
  intro attempt member site declared registered here
  have present := List.mem_of_getElem? logged
  have inOrder := inOrder_of_mem_sites declared
  have ordered := Router.pairwise_precedes_log ((start sources modules).run steps).router request
  refine ⟨methodHandler_of_run member declared registered present here, ?_, ?_⟩
  · apply Station.exists_sublist_of_forall_served (inOrder.pairwise_guards attempt.firstLayer)
    · exact ordered.sublist (List.take_sublist _ _)
    · intro station guard
      exact served_of_mem_guards member declared registered present here logged guard
  · intro succeeded runWentOn laterWentOn
    obtain ⟨_, _, compiled, _⟩ := of_mem_attempts member
    rw [load_error_of_compiled compiled] at succeeded
    have complete := (load_error_eq_none_iff _ _ _).mp succeeded
    have wentOn : ∀ other ∈ ((start sources modules).run steps).router.log request,
        other.WentOn := by
      intro other otherLogged
      rw [HandlerRun.split_at logged] at otherLogged
      rcases List.mem_append.mp otherLogged with early | late
      · exact Router.wentOn_of_mem_take_log logged early
      · rcases List.mem_cons.mp late with rfl | late
        · exact runWentOn
        · exact laterWentOn other late
    apply Station.exists_sublist_of_forall_served (inOrder.pairwise_followers attempt.firstLayer)
    · exact ordered.sublist (List.drop_sublist _ _)
    · intro station follower
      exact served_of_mem_followers member declared registered present here logged complete wentOn
        follower

/-! ## A method between two middlewares -/

/-- A document with one method, whose handler is its own, in a root with a middleware
before and one behind it. -/
def guardedDocument : Value :=
  .map [("api", .map [
    ("root", .string "/api"),
    ("pre_middlewares", .list [.string "auth"]),
    ("post_middlewares", .list [.string "audit"]),
    ("routes", .map [("item", .map [
      ("path", .string "/item"),
      ("methods", .map [("get", .map [
        ("controller", .string "item"),
        ("abstract", .bool false)])])])])])]

/-- The handler of the method answers and ends with a step; the middleware behind it
replaces the status. -/
def guardedModules (last : Script.HandlerStep) : Modules where
  controllers := .empty
  handlers :=
    ((Registry.empty.register "middleware/auth" none (Script.handler [.next])).register
      "middleware/audit" none (Script.handler [.status .internalError])).register
      "controller/item" none (Script.handler [.respond .ok none, last])

/-- The session that compiles and loads the document. -/
def guardedStart (last : Script.HandlerStep) : Session :=
  start ⟨{}, .empty⟩ (guardedModules last)

/-- Compile the document and load it. -/
def guardedSteps : List Step :=
  [.parseValue guardedDocument, .load]

/-- The log of the request. -/
def guardedLog (last : Script.HandlerStep) : List HandlerRun :=
  ((guardedStart last).run guardedSteps).router.log (.bare "/api/item")

/-- A handler that goes on runs between the middlewares. -/
theorem middlewares_around_guarded_method :
    ∃ run ∈ (guardedLog .next)[2]?,
      ∃ attempt ∈ (guardedStart .next).attempts guardedSteps, ∃ site ∈ attempt.sites,
        attempt.Registers site ∧ run.toSpot = site.spot attempt.firstLayer ∧
        attempt.load.error = none ∧ run.WentOn ∧
        (site.guards attempt.firstLayer).length = 1 ∧
        (site.followers attempt.firstLayer).length = 1 ∧
        (∃ earlier, earlier.Sublist ((guardedLog .next).take 2) ∧
          List.Forall₂ (Station.ServedBy (guardedModules .next) {})
            (site.guards attempt.firstLayer) earlier) ∧
        ∃ later, later.Sublist ((guardedLog .next).drop 3) ∧
          List.Forall₂ (Station.ServedBy (guardedModules .next) {})
            (site.followers attempt.firstLayer) later := by
  have facts : ∃ run ∈ (guardedLog .next)[2]?,
      ∃ attempt ∈ (guardedStart .next).attempts guardedSteps, ∃ site ∈ attempt.sites,
        site.position < attempt.loaded.layers.length ∧
        run.toSpot = site.spot attempt.firstLayer ∧ attempt.load.error = none ∧ run.WentOn ∧
        (∀ other ∈ (guardedLog .next).drop 3, other.WentOn) ∧
        (site.guards attempt.firstLayer).length = 1 ∧
        (site.followers attempt.firstLayer).length = 1 := by
    decide +kernel
  obtain ⟨run, logged, attempt, member, site, declared, registered, here, succeeded, wentOn,
    laterWentOn, guards, followers⟩ := facts
  obtain ⟨_, around⟩ := middlewares_around_method _ _ guardedSteps (.bare "/api/item") logged
  obtain ⟨_, guarded, followed⟩ := around attempt member site declared registered here
  exact ⟨run, logged, attempt, member, site, declared, registered, here, succeeded, wentOn, guards,
    followers, guarded, followed succeeded wentOn laterWentOn⟩

/-- A handler that halts is not followed by the middleware behind it, although the
load succeeded and nothing that ran after the handler failed or halted. -/
theorem not_followed_of_halt :
    ∃ run ∈ (guardedLog .halt)[2]?,
      ∃ attempt ∈ (guardedStart .halt).attempts guardedSteps, ∃ site ∈ attempt.sites,
        attempt.Registers site ∧ run.toSpot = site.spot attempt.firstLayer ∧
        attempt.load.error = none ∧ (∀ other ∈ (guardedLog .halt).drop 3, other.WentOn) ∧
        ¬∃ later, later.Sublist ((guardedLog .halt).drop 3) ∧
          List.Forall₂ (Station.ServedBy (guardedModules .halt) {})
            (site.followers attempt.firstLayer) later := by
  have facts : ∃ run ∈ (guardedLog .halt)[2]?,
      ∃ attempt ∈ (guardedStart .halt).attempts guardedSteps, ∃ site ∈ attempt.sites,
        site.position < attempt.loaded.layers.length ∧
        run.toSpot = site.spot attempt.firstLayer ∧ attempt.load.error = none ∧
        (site.followers attempt.firstLayer).length = 1 ∧
        ((guardedLog .halt).drop 3).length = 0 := by
    decide +kernel
  obtain ⟨run, logged, attempt, member, site, declared, registered, here, succeeded, follower,
    nothing⟩ := facts
  have empty := List.length_eq_zero_iff.mp nothing
  refine ⟨run, logged, attempt, member, site, declared, registered, here, succeeded, ?_, ?_⟩
  · intro other late
    rw [empty] at late
    exact absurd late List.not_mem_nil
  · rintro ⟨later, part, served⟩
    rw [empty, List.sublist_nil] at part
    rw [part, List.forall₂_nil_right_iff] at served
    rw [served] at follower
    exact absurd follower (by decide)

end RoutePlan.Session
