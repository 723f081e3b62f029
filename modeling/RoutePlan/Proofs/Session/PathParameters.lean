import RoutePlan.Proofs.Dispatch.Params
import RoutePlan.Proofs.Dispatch.PathValues
import RoutePlan.Proofs.Session.Guards
import RoutePlan.Proofs.Session.Inheritance
import RoutePlan.Proofs.Session.Origin
import RoutePlan.Proofs.Session.SingleController

/-!
# Path parameters from the request to the controller

A controller gets the parameters of its route, in order.  Each has the segment of the
request at its last place in the path of the route, converted to its kind, or its
default when the path has no place for it.  When a parameter has neither, or its
segment does not convert, the controller is not called and the dispatch fails with
the first such parameter.
-/

namespace RoutePlan

/-! ## Handlers that write no path parameters -/

namespace Modules

/-- No registered handler writes path parameters. -/
def KeepParams (modules : Modules) : Prop :=
  ∀ name base handler, modules.handlers.lookup? name base = some handler →
    (Handler.custom handler).KeepsParams

end Modules

/-! ## The parameters of a site -/

namespace Element

/-- The method of a site is one of a node of the forest. -/
theorem exists_node_of_mem_sitesAll {mount : String} {offset : Nat} {forest : List Element}
    {site : Site} (member : site ∈ sitesAll mount offset forest) :
    ∃ node ∈ nodesAll forest, site.method ∈ node.methods := by
  induction forest using forestInduction generalizing mount offset site with
  | nil => cases member
  | root head children rest inner others =>
      rcases List.mem_append.mp member with member | member
      · obtain ⟨nested, declared, rfl⟩ := List.mem_map.mp member
        obtain ⟨node, found, held⟩ := inner declared
        exact ⟨node, List.mem_append_left _ (List.mem_cons_of_mem _ found), held⟩
      · obtain ⟨node, found, held⟩ := others member
        exact ⟨node, List.mem_append_right _ found, held⟩
  | route node rest others =>
      rcases List.mem_append.mp member with member | member
      · obtain ⟨placed, declared, rfl⟩ := List.mem_map.mp member
        exact ⟨_, List.mem_append_left _ (List.mem_singleton_self _),
          List.fst_mem_of_mem_zipIdx declared⟩
      · obtain ⟨node, found, held⟩ := others member
        exact ⟨node, List.mem_append_right _ found, held⟩
  | imports sources children rest inner others =>
      rcases List.mem_append.mp member with member | member
      · obtain ⟨node, found, held⟩ := inner member
        exact ⟨node, List.mem_append_left _ found, held⟩
      · obtain ⟨node, found, held⟩ := others member
        exact ⟨node, List.mem_append_right _ found, held⟩

end Element

namespace Session

/-- A declared name is not empty. -/
theorem name_ne_empty_of_declare (name : String) (declaration : Value) (parameter : Parameter)
    (declared : (Parameter.declare name declaration).outcome = .ok parameter) :
    parameter.name ≠ "" := by
  obtain ⟨same, filled⟩ := Parameter.declare_name declared
  rw [same]
  rintro rfl
  exact absurd filled (by decide)

/-- A method has the parameters of its route; their names are distinct and not empty. -/
theorem params_of_mem_sites {attempt : Session} (origin : attempt.HasOrigin)
    (compiled : attempt.phase = .compiled) {site : Site} (declared : site ∈ attempt.sites) :
    (∃ node ∈ Element.nodesAll attempt.forest,
      site.method ∈ node.methods ∧ site.method.params = node.params) ∧
    Parameter.DistinctNames site.method.params ∧
    ∀ parameter ∈ site.method.params, parameter.name ≠ "" := by
  obtain ⟨sources, document, outcome⟩ := origin (by simp [compiled])
  obtain ⟨declarations, describes⟩ := exists_describes outcome
  obtain ⟨nodes, _⟩ := nodes_of_compile describes outcome
  have distinct := distinctNames_of_compile describes outcome
  obtain ⟨entry, rest, _, declares⟩ := describes
  have named := declares.forall_mem_params name_ne_empty_of_declare (List.forall_mem_nil _)
  obtain ⟨node, found, held⟩ := Element.exists_node_of_mem_sitesAll declared
  have described := found
  rw [nodes] at described
  obtain ⟨declaration, member, rfl⟩ := List.mem_map.mp described
  obtain ⟨method, _, same⟩ := List.mem_map.mp held
  have params : site.method.params = declaration.params := by
    rw [← same]
  refine ⟨⟨declaration.node, found, held, params⟩, ?_⟩
  rw [params]
  exact ⟨distinct declaration member, named declaration member⟩

/-- The handler of a validated method has the parameters of the method. -/
theorem params_of_methodHandler {modules : Modules} {settings : RouteSettings} {method : Method}
    {handler : MethodHandler}
    (found : modules.methodHandler settings method = .ok (.method handler)) :
    handler.params = method.params := by
  rcases Modules.methodHandler_eq_ok_iff.mp found with ⟨_, _, _, same⟩ | ⟨_, _, _, other⟩
  · cases same
    rfl
  · cases other

section Run

variable {sources : Element.Sources} {modules : Modules} {steps : List Step} {request : Context}
  {run : HandlerRun} (logged : run ∈ ((start sources modules).run steps).router.log request)

include logged

/-- What validates parameters stands at the spot of a validated method. -/
theorem exists_site_of_isMethod (isMethod : run.handler.isMethod = true) :
    ∃ attempt ∈ (start sources modules).attempts steps, ∃ site ∈ attempt.sites,
      attempt.Registers site ∧ run.toSpot = site.spot attempt.firstLayer ∧
      site.method.validated = true := by
  obtain ⟨layer, entered, present, _, inLayer, _⟩ := Router.exists_layer_of_mem_log logged
  have held := Layer.getElem?_place_of_mem_log inLayer
  have among := List.mem_of_getElem? held
  rcases origin_of_layer present with rfl | ⟨_, _, _, registration, _, _, _, made⟩
  · -- the initializer validates nothing
    rw [List.mem_singleton.mp among] at isMethod
    cases isMethod
  · cases registration with
    | mount path name =>
        obtain ⟨handler, found, rfl⟩ := Modules.layer_mount_eq_ok_iff.mp made
        obtain ⟨registered, _, rfl⟩ := Modules.middleware_eq_ok_iff.mp found
        rw [List.mem_singleton.mp among] at isMethod
        cases isMethod
    | route path method =>
        obtain ⟨_, _, _, _, _, _, rfl⟩ := Modules.layer_route_eq_ok_iff.mp made
        exact exists_site_of_isMethod_of_route present rfl held isMethod

/-- The handler of a method finds a parameter bound to its last segment. -/
theorem lookup_params_of_run (keep : modules.KeepParams) {attempt : Session} {site : Site}
    (member : attempt ∈ (start sources modules).attempts steps) (declared : site ∈ attempt.sites)
    (registered : attempt.Registers site) (here : run.toSpot = site.spot attempt.firstLayer)
    {name : String} (filled : name ≠ "") :
    run.before.params.lookup name =
      (PathPattern.lastSegment? name site.path request.path).map .string := by
  obtain ⟨handler, pre, post, entered, found, preFound, postFound, same, inLayer, _⟩ :=
    exists_layer_of_run member declared registered logged here
  have made : modules.layer sources.settings (.route site.path site.method) =
      .ok (.route site.method.verb site.path (pre ++ handler :: post)) :=
    Modules.layer_route_eq_ok_iff.mpr ⟨handler, pre, post, found, preFound, postFound, rfl⟩
  have keeps := Modules.forall_mem_handlers_of_layer_eq_ok keep Handler.method_keepsParams made
  obtain ⟨captures, applies, params⟩ := Layer.exists_captures_of_mem_log keeps inLayer
  obtain ⟨_, _, matched⟩ := (Layer.captures?_eq_some_iff_of_route rfl).mp applies
  rw [same.2] at matched
  rw [params, ← PathPattern.lookup_of_matchExact filled matched, Entries.lookup_map_snd]

end Run

/-- A controller that is reached through a dispatch gets exactly the parameters of its
route.  Every run of what validates parameters is that of a registered method, which
has the parameters of its route.  When the controller is called, it gets a value for
each of them, in order: the last segment that stands for it in the path of the route,
converted, or else its default.  It is called, as far as the path parameters go, when
each of them has a value.  Otherwise it is not called, and the dispatch fails with the
first that has none. -/
theorem controller_gets_path_parameters (sources : Element.Sources) (modules : Modules)
    (keep : modules.KeepParams) (steps : List Step) (request : Context) :
    ∀ run ∈ ((start sources modules).run steps).router.log request,
      ∀ handler, run.handler = .method handler →
      ∃ attempt ∈ (start sources modules).attempts steps, ∃ site ∈ attempt.sites,
        attempt.Registers site ∧ run.toSpot = site.spot attempt.firstLayer ∧
        site.method.validated = true ∧
        (∃ node ∈ Element.nodesAll attempt.forest,
          site.method ∈ node.methods ∧ handler.params = node.params) ∧
        (∀ input, handler.input run.before = .ok input →
          Entries.keys input.params = handler.params.map Parameter.name ∧
          List.Forall₂
            (fun parameter entry => parameter.Gets site.path request.path entry.2)
            handler.params input.params) ∧
        ((∀ parameter ∈ handler.params, ∃ value,
            parameter.Gets site.path request.path value) →
          run.callsController =
            (Parameter.validateAll handler.body run.before.body.entriesOrNone).isOk) ∧
        ((∃ parameter ∈ handler.params, ∃ message,
            parameter.Fails site.path request.path message) →
          run.callsController = false ∧
          ∃ message, Parameter.FirstFails handler.params site.path request.path message ∧
            (((start sources modules).run steps).router.dispatch request).1 =
              .error (.validation ⟨400, message⟩)) := by
  intro run logged handler wrapped
  have isMethod : run.handler.isMethod = true := by rw [wrapped]; rfl
  obtain ⟨attempt, member, site, declared, registered, here, validated⟩ :=
    exists_site_of_isMethod logged isMethod
  have found := methodHandler_of_run member declared registered logged here
  rw [wrapped] at found
  have params := params_of_methodHandler found
  obtain ⟨_, _, compiled, _⟩ := of_mem_attempts member
  have origin := hasOrigin_of_mem_attempts (start_hasOrigin sources modules) member
  obtain ⟨shared, distinct, named⟩ := params_of_mem_sites origin compiled declared
  rw [← params] at shared distinct named
  have holds : HoldsSegments handler.params site.path request.path run.before.params := by
    intro parameter held
    exact lookup_params_of_run logged keep member declared registered here (named parameter held)
  refine ⟨attempt, member, site, declared, registered, here, validated, shared, ?_, ?_, ?_⟩
  · intro input valid
    exact MethodHandler.gets_of_input holds distinct valid
  · intro gets
    rw [HandlerRun.callsController_eq_isOk wrapped]
    exact MethodHandler.isOk_input_of_gets holds gets
  · intro failing
    obtain ⟨message, fails⟩ := Parameter.exists_firstFails failing
    have invalid := MethodHandler.input_of_firstFails holds fails
    have result := HandlerRun.result_of_input_eq_error wrapped invalid
    have stopped : ¬ run.WentOn := by
      rw [HandlerRun.WentOn, result]
      rintro ⟨⟩
    constructor
    · rw [HandlerRun.callsController_eq_isOk wrapped, invalid]
      rfl
    · refine ⟨message, fails, ?_⟩
      rw [Router.dispatch_of_not_wentOn logged stopped, result]
      rfl

/-! ## A placeholder that stands twice -/

/-- A root and a route below it with a place for `id` each, which the root declares; the
route declares another parameter with a default. -/
def shopDocument : Value :=
  .map [("shops", .map [
    ("root", .string "/shops/:id"),
    ("params", .map [("id", .string "number")]),
    ("pre_middlewares", .list [.string "auth"]),
    ("routes", .map [("item", .map [
      ("path", .string "/items/:id"),
      ("params", .map [("lang", .map [
        ("type", .string "string"),
        ("default_value", .string "en")])]),
      ("methods", .map [("get", .string "item")])])])])]

/-- The controller answers `id`. -/
def shopModules : Modules where
  controllers := Registry.empty.register "controller/item" none (Script.controller [.param "id"])
  handlers := Registry.empty.register "middleware/auth" none (Script.handler [.next])

/-- Compile the document and load it. -/
def shopSteps : List Step :=
  [.parseValue shopDocument, .load]

/-- The session after that. -/
def shopSession : Session :=
  (start ⟨{}, .empty⟩ shopModules).run shopSteps

theorem shopModules_keepParams : shopModules.KeepParams := by
  intro name base handler means
  rcases Registry.lookup?_register_cases means with rfl | earlier
  · exact Script.handler_keepsParams _
  · rw [Registry.lookup?_empty] at earlier
    cases earlier

/-- The last of the two segments is the value of `id`, and the controller is not called
when that segment is no number. -/
theorem shop_parameters :
    (∃ run ∈ shopSession.router.log (.bare "/shops/1/items/2"), ∃ handler input,
      run.handler = .method handler ∧ handler.input run.before = .ok input ∧
      Entries.keys input.params = ["id", "lang"] ∧
      List.Forall₂
        (fun parameter entry =>
          parameter.Gets "/shops/:id/items/:id" "/shops/1/items/2" entry.2)
        handler.params input.params) ∧
    ∃ run ∈ shopSession.router.log (.bare "/shops/1/items/two"), ∃ handler message,
      run.handler = .method handler ∧ run.callsController = false ∧
      Parameter.FirstFails handler.params "/shops/:id/items/:id" "/shops/1/items/two" message ∧
      (shopSession.router.dispatch (.bare "/shops/1/items/two")).1 =
        .error (.validation ⟨400, message⟩) := by
  have paths : ∀ attempt ∈ (start ⟨{}, .empty⟩ shopModules).attempts shopSteps,
      ∀ site ∈ attempt.sites, site.path = "/shops/:id/items/:id" := by
    decide +kernel
  have nodes : ∀ attempt ∈ (start ⟨{}, .empty⟩ shopModules).attempts shopSteps,
      ∀ node ∈ Element.nodesAll attempt.forest, ∀ method ∈ node.methods,
        node.params.map Parameter.name = ["id", "lang"] ∧
        ∃ parameter ∈ node.params, parameter.name = "id" ∧ parameter.kind = .number := by
    decide +kernel
  constructor
  · have called : ∃ run ∈ shopSession.router.log (.bare "/shops/1/items/2"),
        run.callsController = true := by
      decide +kernel
    obtain ⟨run, logged, calls⟩ := called
    obtain ⟨handler, input, wrapped, valid⟩ := HandlerRun.exists_input_of_callsController calls
    obtain ⟨attempt, member, site, declared, _, _, _, ⟨node, found, held, params⟩, gets, _⟩ :=
      controller_gets_path_parameters ⟨{}, .empty⟩ shopModules shopModules_keepParams shopSteps
        (.bare "/shops/1/items/2") run logged handler wrapped
    obtain ⟨keys, values⟩ := gets input valid
    rw [params, (nodes attempt member node found site.method held).1] at keys
    rw [paths attempt member site declared] at values
    exact ⟨run, logged, handler, input, wrapped, valid, keys, values⟩
  · have reached : ∃ run ∈ shopSession.router.log (.bare "/shops/1/items/two"),
        run.handler.isMethod = true := by
      decide +kernel
    have stands : PathPattern.lastSegment? "id" "/shops/:id/items/:id" "/shops/1/items/two" =
        some "two" := by
      decide +kernel
    obtain ⟨run, logged, isMethod⟩ := reached
    obtain ⟨handler, wrapped⟩ := Handler.exists_eq_method isMethod
    obtain ⟨attempt, member, site, declared, _, _, _, ⟨node, found, held, params⟩, _, _, fails⟩ :=
      controller_gets_path_parameters ⟨{}, .empty⟩ shopModules shopModules_keepParams shopSteps
        (.bare "/shops/1/items/two") run logged handler wrapped
    obtain ⟨_, parameter, among, named, kind⟩ := nodes attempt member node found site.method held
    rw [paths attempt member site declared, params] at fails
    have rejected : ∃ message, parameter.Fails "/shops/:id/items/:id" "/shops/1/items/two"
        message := by
      rw [← named] at stands
      exact ⟨_, .rejected stands (by rw [kind]; rfl)⟩
    obtain ⟨silent, message, first, ended⟩ := fails ⟨parameter, among, rejected⟩
    rw [← params] at first
    exact ⟨run, logged, handler, message, wrapped, silent, first, ended⟩

end Session

end RoutePlan
