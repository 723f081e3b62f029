import RoutePlan.Proofs.Checked
import RoutePlan.Tree.Load

/-!
# What a load registers

A load makes the leading registrations whose modules it finds, in order, and is
complete exactly when it reports no error.  The layer of a registration has the
path and the verb of the registration, and the handlers that its names stand for.
-/

namespace RoutePlan

namespace Modules

variable {modules : Modules} {settings : RouteSettings}

/-- A middleware is a registered handler. -/
theorem middleware_eq_ok_iff {name : String} {handler : Handler} :
    modules.middleware settings name = .ok handler ↔
      ∃ registered, modules.handlers.lookup? name settings.middlewareDir = some registered ∧
        handler = .custom registered := by
  unfold middleware
  cases modules.handlers.lookup? name settings.middlewareDir with
  | none => simp
  | some registered => simp [eq_comm]

/-- The handler of a method is its controller behind the validation of its parameters, or
a registered handler. -/
theorem methodHandler_eq_ok_iff {method : Method} {handler : Handler} :
    modules.methodHandler settings method = .ok handler ↔
      (method.validated = true ∧ ∃ controller,
        modules.controllers.lookup? method.controller settings.controllerDir = some controller ∧
        handler = .method ⟨controller, method.status, method.params, method.body⟩) ∨
      (method.validated = false ∧ ∃ registered,
        modules.handlers.lookup? method.controller settings.controllerDir = some registered ∧
        handler = .custom registered) := by
  unfold methodHandler
  cases method.validated with
  | true =>
      cases modules.controllers.lookup? method.controller settings.controllerDir with
      | none => simp
      | some controller => simp [eq_comm]
  | false =>
      cases modules.handlers.lookup? method.controller settings.controllerDir with
      | none => simp
      | some registered => simp [eq_comm]

/-- Middlewares are found when each of them is. -/
theorem middlewares_eq_ok_iff {names : List String} {handlers : List Handler} :
    modules.middlewares settings names = .ok handlers ↔
      List.Forall₂ (fun name handler => modules.middleware settings name = .ok handler)
        names handlers := by
  have traversal :
      modules.middlewares settings names = names.mapM (modules.middleware settings) := by
    induction names with
    | nil => rfl
    | cons name rest ih => rw [middlewares, ih, List.mapM_cons]
  rw [traversal, mapM_eq_ok_iff]

theorem length_eq_of_middlewares {names : List String} {handlers : List Handler}
    (found : modules.middlewares settings names = .ok handlers) :
    handlers.length = names.length :=
  (middlewares_eq_ok_iff.mp found).length_eq.symm

/-- The middleware at a place is that of the name at the place. -/
theorem middleware_of_getElem? {names : List String} {handlers : List Handler} {place : Nat}
    {name : String} {handler : Handler} (found : modules.middlewares settings names = .ok handlers)
    (named : names[place]? = some name) (held : handlers[place]? = some handler) :
    modules.middleware settings name = .ok handler :=
  rel_of_getElem? (middlewares_eq_ok_iff.mp found) named held

/-- Each middleware that is found has one of the names. -/
theorem exists_middleware_of_mem {names : List String} {handlers : List Handler}
    (found : modules.middlewares settings names = .ok handlers) {handler : Handler}
    (member : handler ∈ handlers) :
    ∃ name ∈ names, modules.middleware settings name = .ok handler :=
  exists_rel_of_mem (middlewares_eq_ok_iff.mp found) member

/-- A mount becomes a layer that runs its middleware. -/
theorem layer_mount_eq_ok_iff {path name : String} {layer : Layer} :
    modules.layer settings (.mount path name) = .ok layer ↔
      ∃ handler, modules.middleware settings name = .ok handler ∧ layer = .mount path handler := by
  constructor
  · intro made
    obtain ⟨handler, found, made⟩ := bind_eq_ok_iff.mp made
    cases made
    exact ⟨handler, found, rfl⟩
  · rintro ⟨handler, found, rfl⟩
    rw [Modules.layer, found]
    rfl

/-- A method becomes a layer that runs its handler between its middlewares. -/
theorem layer_route_eq_ok_iff {path : String} {method : Method} {layer : Layer} :
    modules.layer settings (.route path method) = .ok layer ↔
      ∃ handler pre post, modules.methodHandler settings method = .ok handler ∧
        modules.middlewares settings method.pre = .ok pre ∧
        modules.middlewares settings method.post = .ok post ∧
        layer = .route method.verb path (pre ++ handler :: post) := by
  constructor
  · intro made
    obtain ⟨handler, found, made⟩ := bind_eq_ok_iff.mp made
    obtain ⟨pre, preFound, made⟩ := bind_eq_ok_iff.mp made
    obtain ⟨post, postFound, made⟩ := bind_eq_ok_iff.mp made
    cases made
    exact ⟨handler, pre, post, found, preFound, postFound, rfl⟩
  · rintro ⟨handler, pre, post, found, preFound, postFound, rfl⟩
    rw [Modules.layer, found, preFound, postFound]
    rfl

/-- What holds of the registered handlers and of all method handlers holds of the
handlers of a layer. -/
theorem forall_mem_handlers_of_layer_eq_ok {Holds : Handler → Prop}
    (custom : ∀ name base registered, modules.handlers.lookup? name base = some registered →
      Holds (.custom registered))
    (method : ∀ handler, Holds (.method handler)) {registration : Registration} {layer : Layer}
    (made : modules.layer settings registration = .ok layer) :
    ∀ handler ∈ layer.handlers, Holds handler := by
  have middleware {name : String} {handler : Handler}
      (found : modules.middleware settings name = .ok handler) : Holds handler := by
    obtain ⟨registered, looked, rfl⟩ := middleware_eq_ok_iff.mp found
    exact custom _ _ _ looked
  have middlewares {names : List String} {handlers : List Handler}
      (found : modules.middlewares settings names = .ok handlers) :
      ∀ handler ∈ handlers, Holds handler := by
    intro handler member
    obtain ⟨name, _, each⟩ := exists_middleware_of_mem found member
    exact middleware each
  cases registration with
  | mount path name =>
      obtain ⟨handler, found, rfl⟩ := layer_mount_eq_ok_iff.mp made
      exact List.forall_mem_singleton.mpr (middleware found)
  | route path declared =>
      obtain ⟨handler, pre, post, found, preFound, postFound, rfl⟩ := layer_route_eq_ok_iff.mp made
      have wrapped : Holds handler := by
        rcases methodHandler_eq_ok_iff.mp found with ⟨_, _, _, rfl⟩ | ⟨_, _, looked, rfl⟩
        · exact method _
        · exact custom _ _ _ looked
      exact List.forall_mem_append.mpr ⟨middlewares preFound,
        List.forall_mem_cons.mpr ⟨wrapped, middlewares postFound⟩⟩

end Modules

/-- The layers of a load are those of the leading registrations. -/
theorem load_layers (modules : Modules) (settings : RouteSettings)
    (registrations : List Registration) :
    List.Forall₂ (fun registration layer => modules.layer settings registration = .ok layer)
      (registrations.take (load modules settings registrations).layers.length)
      (load modules settings registrations).layers := by
  induction registrations with
  | nil => exact .nil
  | cons registration rest ih =>
      rw [RoutePlan.load]
      cases made : modules.layer settings registration with
      | error error => exact .nil
      | ok layer => exact .cons made ih

theorem load_layers_length_le (modules : Modules) (settings : RouteSettings)
    (registrations : List Registration) :
    (load modules settings registrations).layers.length ≤ registrations.length := by
  have paired := (load_layers modules settings registrations).length_eq
  rw [List.length_take] at paired
  omega

/-- A load is complete exactly when it reports no error. -/
theorem load_error_eq_none_iff (modules : Modules) (settings : RouteSettings)
    (registrations : List Registration) :
    (load modules settings registrations).error = none ↔
      (load modules settings registrations).layers.length = registrations.length := by
  induction registrations with
  | nil => simp [load]
  | cons registration rest ih =>
      rw [RoutePlan.load]
      cases made : modules.layer settings registration with
      | error error => simp
      | ok layer => simpa using ih

/-- The layer at a place of a load is that of the registration at the place. -/
theorem layer_eq_ok_of_getElem?_load {modules : Modules} {settings : RouteSettings}
    {registrations : List Registration} {place : Nat} {registration : Registration} {layer : Layer}
    (declared : registrations[place]? = some registration)
    (registered : (load modules settings registrations).layers[place]? = some layer) :
    modules.layer settings registration = .ok layer := by
  have within : place < (load modules settings registrations).layers.length :=
    (List.getElem?_eq_some_iff.mp registered).1
  apply rel_of_getElem? (load_layers modules settings registrations) _ registered
  rw [List.getElem?_take_of_lt within, declared]

end RoutePlan
