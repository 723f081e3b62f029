import RoutePlan.Handler
import RoutePlan.Registry
import RoutePlan.RouteSettings
import RoutePlan.Text.Quoted
import RoutePlan.Tree.Listing

/-!
# Inspection of trees

A tree as one line that shows every field: records with their field names, lists
in brackets, texts quoted.  Every reference to a middleware shows whether it was
already resolved; references are resolved in the order in which a load reaches
them, so that their count says which ones they are.
-/

namespace RoutePlan.Inspect

/-- A record with its fields.  `more` marks a record that has further fields. -/
def record (name : String) (fields : List (String × String)) (more : Bool) : String :=
  name ++ " \x7b "
    ++ String.intercalate ", "
      (fields.map (fun field => field.1 ++ ": " ++ field.2) ++ if more then [".."] else [])
    ++ " \x7d"

/-- A list in brackets. -/
def list (items : List String) : String :=
  "[" ++ String.intercalate ", " items ++ "]"

/-- A name with what it holds in parentheses. -/
def wrapped (name content : String) : String :=
  name ++ "(" ++ content ++ ")"

/-- Something that may be absent. -/
def optional (item : Option String) : String :=
  match item with
  | none => "None"
  | some item => wrapped "Some" item

/-- The name with an upper-case first letter and lower-case others. -/
def capitalized (name : String) : String :=
  match name.toList with
  | [] => ""
  | c :: rest => String.ofList (c :: rest.map Char.toLower)

mutual

/-- A value. -/
def value : Value → String
  | .null => "Null"
  | .bool flag => wrapped "Bool" (toString flag)
  | .number n => wrapped "Number" (String.ofList (Compact.number n))
  | .string text => wrapped "String" (Text.quote text)
  | .list items => "Array [" ++ String.intercalate ", " (values items) ++ "]"
  | .map entries => "Object \x7b" ++ String.intercalate ", " (members entries) ++ "\x7d"

/-- The items of a list. -/
def values : List Value → List String
  | [] => []
  | item :: rest => value item :: values rest

/-- The entries of a mapping. -/
def members : List (String × Value) → List String
  | [] => []
  | (key, held) :: rest => (Text.quote key ++ ": " ++ value held) :: members rest

end

/-- A declared parameter. -/
def parameter (parameter : Parameter) : String :=
  record "Parameter"
    [("name", Text.quote parameter.name), ("param_type", capitalized parameter.kind.name),
      ("default", optional (parameter.default?.map value))] false

/-- Declared parameters. -/
def parameters (params : List Parameter) : String :=
  list (params.map parameter)

/-- A handler that validates parameters.  Its controller is not shown. -/
def methodHandler (handler : MethodHandler) : String :=
  record "MethodHandler"
    [("status", toString handler.status.code), ("params", parameters handler.params),
      ("body", parameters handler.body)] true

/-- A registry with its units. -/
def registry {α : Type} (registry : Registry α) : String :=
  record "ModuleRegistry"
    [("units", list (registry.locations.map fun location => Text.quote location.display))] false

/-- A reference to a middleware. -/
def middleware (name : String) (resolved : Bool) : String :=
  record "Middleware" [("name", Text.quote name), ("resolved", toString resolved)] false

/-- References to middlewares from the `first` one of the tree on, the first
`resolved` of the whole tree being resolved. -/
def middlewares (resolved first : Nat) (names : List String) : String :=
  list ((names.zipIdx first).map fun (name, place) => middleware name (decide (place < resolved)))

/-- A method whose references begin with the `first` one of the tree. -/
def method (resolved first : Nat) (method : Method) : String :=
  record "Method"
    [("verb", capitalized method.verb.name), ("controller_name", Text.quote method.controller),
      ("response_code", toString method.status.code),
      ("is_abstract", toString method.validated), ("params", parameters method.params),
      ("body", parameters method.body), ("pre", middlewares resolved first method.pre),
      ("post", middlewares resolved (first + method.pre.length) method.post)] false

/-- Methods whose references begin with the `first` one of the tree. -/
def methods (resolved : Nat) : Nat → List Method → List String
  | _, [] => []
  | first, current :: rest =>
      method resolved first current
        :: methods resolved (first + current.pre.length + current.post.length) rest

/-- How many references the methods of a route have. -/
def methodReferences (methods : List Method) : Nat :=
  (methods.flatMap fun method => method.pre ++ method.post).length

/-- A route whose references begin with the `first` one of the tree. -/
def route (resolved first : Nat) (route : Route) : String :=
  let atMethods := first + route.pre.length
  record "Route"
    [("name", Text.quote route.name), ("path", Text.quote route.path),
      ("params", parameters route.params),
      ("methods", list (methods resolved atMethods route.methods)),
      ("pre", middlewares resolved first route.pre),
      ("post", middlewares resolved (atMethods + methodReferences route.methods) route.post)]
    false

mutual

/-- How many references an element has. -/
def references : Element → Nat
  | .root root children => root.pre.length + referencesAll children + root.post.length
  | .route route => route.pre.length + methodReferences route.methods + route.post.length
  | .imports _ children => referencesAll children

/-- How many references a forest has. -/
def referencesAll : List Element → Nat
  | [] => 0
  | element :: rest => references element + referencesAll rest

end

mutual

/-- An element whose references begin with the `first` one of the tree. -/
def element (resolved first : Nat) : Element → String
  | .root root children =>
      let atChildren := first + root.pre.length
      wrapped "Root" (record "Root"
        [("name", Text.quote root.name), ("root", Text.quote root.path),
          ("params", parameters root.params),
          ("children", list (elements resolved atChildren children)),
          ("pre", middlewares resolved first root.pre),
          ("post", middlewares resolved (atChildren + referencesAll children) root.post)] false)
  | .route current => wrapped "Route" (route resolved first current)
  | .imports sources children =>
      wrapped "Import" (record "Import"
        [("sources", list (sources.map Text.quote)),
          ("children", list (elements resolved first children))] false)

/-- The elements of a forest. -/
def elements (resolved first : Nat) : List Element → List String
  | [] => []
  | current :: rest =>
      element resolved first current
        :: elements resolved (first + references current) rest

end

/-- A router with its number of layers. -/
def router (layers bodyLimit : Nat) : String :=
  record "Dispatcher" [("layers", toString layers), ("body_limit", toString bodyLimit)] false

/-- The settings of a compiler. -/
def settings (settings : RouteSettings) : String :=
  record "ParserConfig"
    [("config_dir", Text.quote settings.configDir),
      ("controller_dir", Text.quote settings.controllerDir),
      ("middleware_dir", Text.quote settings.middlewareDir),
      ("http_default_response_code", toString settings.defaultStatus),
      ("http_responses_code", list (settings.allowedStatuses.map toString))] false

end RoutePlan.Inspect
