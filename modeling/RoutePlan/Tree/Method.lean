import RoutePlan.RouteSettings
import RoutePlan.Tree.Element

/-!
# Methods and routes from their configuration

A method is configured by a mapping, or by the bare name of its controller.  A
route is configured by a mapping with its path and its methods.
-/

namespace RoutePlan

namespace Method

/-- The keys that methods use. -/
def recognizedKeys : List String :=
  ["controller", "response_code", "abstract", "body", "pre_middlewares", "post_middlewares"]

/-- The mapping that configures a method. -/
def requireConfig (verb : String) : Value → Except PlanError (Entries String Value)
  | .null => .error (.nodeMissing ⟨.method, verb⟩)
  | .string controller => .ok [("controller", .string controller)]
  | .map config => .ok config
  | other => .error (.invalid (.methodShape verb other.kindName))

/-- The name of the controller. -/
def readController (verb : String) (field : Option Value) : Except PlanError String :=
  match field.bind readName? with
  | some name => .ok name
  | none => .error (.invalid (.controllerNotNamed verb))

/-- The code that a method declares; absent and null are the default. -/
def declaredCode (settings : RouteSettings) (verb : String) :
    Option Value → Except PlanError Nat
  | none => .ok settings.defaultStatus
  | some .null => .ok settings.defaultStatus
  | some (.number n) =>
      match n.toNat?.filter (· < UInt16.size) with
      | some code => .ok code
      | none => .error (.invalid (.statusNotValid verb (Value.number n).text))
  | some other => .error (.invalid (.statusNotNumber verb other.kindName))

/-- The status of a method: a code that the settings allow. -/
def readStatus (settings : RouteSettings) (verb : String) (field : Option Value) :
    Except PlanError Status := do
  let code ← declaredCode settings verb field
  if settings.allows code then
    match Status.ofCode? code with
    | some status => return status
    | none => throw (.invalid (.statusNotValid verb (toString code)))
  else throw (.invalid (.statusNotAllowed verb code))

/-- Whether parameters are validated before the controller is called: unless
`abstract` is false or `no`. -/
def readValidated : Option Value → Bool
  | some (.bool flag) => flag
  | some (.string text) => text != "no"
  | _ => true

/-- Compile a method of a route that has the path parameters. -/
def compile (settings : RouteSettings) (params : List Parameter) (verbName : String)
    (value : Value) : Checked Method := do
  let verb ← match Verb.parse? verbName with
    | some verb => pure verb
    | none => Checked.reject (.unknownVerb verbName)
  let config ← Checked.ofExcept (requireConfig verbName value)
  let node : NodeName := ⟨.method, verbName⟩
  Checked.warn (unusedKeys node recognizedKeys config)
  let controller ← Checked.ofExcept (readController verbName (config.lookup "controller"))
  let status ← Checked.ofExcept (readStatus settings verbName (config.lookup "response_code"))
  let body ← Parameter.declareAll node "body" (config.lookup "body")
  let pre ← Checked.ofExcept
    (readMiddlewares node "pre_middlewares" (config.lookup "pre_middlewares"))
  let post ← Checked.ofExcept
    (readMiddlewares node "post_middlewares" (config.lookup "post_middlewares"))
  return {
    verb, controller, status, params, body, pre, post
    validated := readValidated (config.lookup "abstract") }

end Method

/-- The fields that roots and routes share. -/
structure MountHead where
  path : String
  params : List Parameter
  pre : List String
  post : List String

namespace MountHead

/-- Compile the shared fields of a root or a route.  `pathField` is the key of
its path. -/
def compile (node : NodeName) (pathField : String) (recognized : List String)
    (inherited : List Parameter) (config : Entries String Value) : Checked MountHead := do
  Checked.warn (unusedKeys node recognized config)
  let pre ← Checked.ofExcept
    (readMiddlewares node "pre_middlewares" (config.lookup "pre_middlewares"))
  let post ← Checked.ofExcept
    (readMiddlewares node "post_middlewares" (config.lookup "post_middlewares"))
  let path ← Checked.ofExcept (readPath node pathField (config.lookup pathField))
  let own ← Parameter.declareAll node "params" (config.lookup "params")
  let params ← Checked.ofExcept (Parameter.inherit node inherited own)
  return { path, params, pre, post }

end MountHead

namespace Route

/-- The keys that routes use. -/
def recognizedKeys : List String :=
  ["path", "params", "methods", "pre_middlewares", "post_middlewares"]

/-- Compile the methods of a route; there is at least one. -/
def compileMethods (settings : RouteSettings) (name : String) (params : List Parameter) :
    Option Value → Checked (List Method)
  | none => .fail (.emptyMethods name)
  | some .null => .fail (.emptyMethods name)
  | some (.map []) => .fail (.emptyMethods name)
  | some (.map methods) =>
      Checked.traverse (fun entry => Method.compile settings params entry.1 entry.2) methods
  | some other => .reject (.fieldNotMapping ⟨.route, name⟩ "methods" other.kindName)

/-- Compile a route. -/
def compile (settings : RouteSettings) (inherited : List Parameter) (name : String)
    (value : Value) : Checked Route := do
  let config ← Checked.ofExcept (requireMapping ⟨.route, name⟩ value)
  let head ← MountHead.compile ⟨.route, name⟩ "path" recognizedKeys inherited config
  let methods ← compileMethods settings name head.params (config.lookup "methods")
  return {
    name, methods
    path := head.path
    params := head.params
    pre := head.pre
    post := head.post }

end Route

end RoutePlan
