import RoutePlan.Parameter
import RoutePlan.Status
import RoutePlan.Verb

/-!
# The route tree

A compiled document is a forest of elements.  A root is a path under which
further elements are mounted, a route is a path with its methods, and an import
holds the elements of other documents in place.  Middlewares and controllers are
held by name; they are looked up when the tree is loaded.
-/

namespace RoutePlan

/-- A verb of a route, bound to a controller. -/
structure Method where
  verb : Verb
  controller : String
  status : Status
  /-- Whether the controller is called with validated parameters.  If not, it is
  itself a request handler. -/
  validated : Bool
  /-- The path parameters of the route. -/
  params : List Parameter
  body : List Parameter
  pre : List String
  post : List String

/-- A path and its methods. -/
structure Route where
  name : String
  path : String
  /-- Inherited and own parameters. -/
  params : List Parameter
  methods : List Method
  pre : List String
  post : List String

/-- A path under which elements are mounted. -/
structure Root where
  name : String
  path : String
  /-- Inherited and own parameters. -/
  params : List Parameter
  pre : List String
  post : List String

/-- A node of the route tree. -/
inductive Element where
  | root (root : Root) (children : List Element)
  | route (route : Route)
  | imports (sources : List String) (children : List Element)

namespace Element

/-- The shapes of configuration entries. -/
inductive Shape where
  | root | route | imports
deriving DecidableEq

/-- The shape of a configuration entry.  The key `import` makes an import;
otherwise a `root` that is not null makes a root, and a `path` a route. -/
def classify (key : String) (value : Value) : Except PlanError Shape :=
  let declares (field : String) : Bool :=
    match value.field? field with
    | none => false
    | some held => !held.isNull
  if key = "import" then .ok .imports
  else if value.isNull then .error (.elementMissing key)
  else if declares "root" then .ok .root
  else if declares "path" then .ok .route
  else .error (.unrecognizedElement key)

/-- The shape of an element. -/
def shape : Element → Shape
  | root .. => .root
  | route .. => .route
  | imports .. => .imports

end Element

end RoutePlan
