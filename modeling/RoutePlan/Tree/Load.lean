import RoutePlan.Registry
import RoutePlan.RouteSettings
import RoutePlan.Router
import RoutePlan.Tree.Listing

/-!
# Loading trees

A tree is loaded by making its registrations one after the other.  Each needs its
modules: a mount its middleware, a route its controller, then the middlewares
before and behind it.  The first name that resolves to nothing ends the load; what
was registered before stays.
-/

namespace RoutePlan

/-- The modules that a load may use. -/
structure Modules where
  controllers : Registry Controller
  /-- Middlewares, and the controllers of methods that are not validated. -/
  handlers : Registry CustomHandler

namespace Modules

/-- The middleware with a name. -/
def middleware (modules : Modules) (settings : RouteSettings) (name : String) :
    Except PlanError Handler :=
  match modules.handlers.lookup? name settings.middlewareDir with
  | some handler => .ok (.custom handler)
  | none =>
      .error (.middlewareNotFound name ((ModuleName.parse name).display settings.middlewareDir))

/-- The middlewares with some names, in order. -/
def middlewares (modules : Modules) (settings : RouteSettings) :
    List String → Except PlanError (List Handler)
  | [] => .ok []
  | name :: rest => do
      let handler ← modules.middleware settings name
      let others ← middlewares modules settings rest
      return handler :: others

/-- The handler of a method: its controller behind the validation of parameters,
or a handler of its own. -/
def methodHandler (modules : Modules) (settings : RouteSettings) (method : Method) :
    Except PlanError Handler :=
  let notFound : PlanError :=
    .controllerNotFound method.controller
      ((ModuleName.parse method.controller).display settings.controllerDir)
  if method.validated then
    match modules.controllers.lookup? method.controller settings.controllerDir with
    | some controller => .ok (.method ⟨controller, method.status, method.params, method.body⟩)
    | none => .error notFound
  else
    match modules.handlers.lookup? method.controller settings.controllerDir with
    | some handler => .ok (.custom handler)
    | none => .error notFound

/-- The layer of a registration. -/
def layer (modules : Modules) (settings : RouteSettings) :
    Registration → Except PlanError Layer
  | .mount path name => do return .mount path (← modules.middleware settings name)
  | .route path method => do
      let handler ← modules.methodHandler settings method
      let pre ← modules.middlewares settings method.pre
      let post ← modules.middlewares settings method.post
      return .route method.verb path (pre ++ handler :: post)

/-- How many references of a registration resolve before the first that does
not. -/
def resolvedCount (modules : Modules) (settings : RouteSettings)
    (registration : Registration) : Nat :=
  let leading := registration.middlewares.takeWhile fun name =>
    (modules.handlers.lookup? name settings.middlewareDir).isSome
  match registration with
  | .mount .. => leading.length
  | .route _ method =>
      match modules.methodHandler settings method with
      | .ok _ => leading.length
      | .error _ => 0

end Modules

/-- What a load did: the layers that it registered, how many references to
middlewares it resolved, and why it ended early, if it did. -/
structure Loaded where
  layers : List Layer
  resolved : Nat
  error : Option PlanError

/-- Make registrations one after the other, up to the first that lacks a module. -/
def load (modules : Modules) (settings : RouteSettings) : List Registration → Loaded
  | [] => ⟨[], 0, none⟩
  | registration :: rest =>
      let resolved := modules.resolvedCount settings registration
      match modules.layer settings registration with
      | .error error => ⟨[], resolved, some error⟩
      | .ok layer =>
          let loaded := load modules settings rest
          { loaded with
            layers := layer :: loaded.layers
            resolved := resolved + loaded.resolved }

end RoutePlan
