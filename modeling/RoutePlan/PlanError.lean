import RoutePlan.FilePath

/-!
# Why a plan is rejected

The causes for which a route document does not compile, or a compiled tree does
not load, and their wording.  `Violation` holds the causes that share the name
of an invalid argument.
-/

namespace RoutePlan

/-- The kinds of nodes, as messages name them. -/
inductive NodeKind where
  | root | route | method | parameter | imports
deriving DecidableEq

namespace NodeKind

/-- The name in messages. -/
def label : NodeKind → String
  | root => "Root"
  | route => "Route"
  | method => "RouteMethod"
  | parameter => "Parameter"
  | imports => "Import"

end NodeKind

/-- A node in messages: its kind and its quoted name. -/
structure NodeName where
  kind : NodeKind
  name : String
deriving DecidableEq

namespace NodeName

/-- The node as messages name it. -/
def display (node : NodeName) : String :=
  s!"{node.kind.label} \"{node.name}\""

end NodeName

/-- A malformed part of a configuration.  What stands in the wrong place is told
by the name of its kind. -/
inductive Violation where
  | nodeNotMapping (node : NodeName) (got : String)
  | badPath (node : NodeName) (field path : String)
  | pathNotText (node : NodeName) (field got : String)
  | pathMissing (node : NodeName) (field : String)
  | middlewaresNotList (node : NodeName) (field got : String)
  | middlewareNotNamed (node : NodeName) (field : String)
  | fieldNotMapping (node : NodeName) (field got : String)
  | parameterRedeclared (node : NodeName) (parameter : String)
  | parameterNotNamed
  | parameterShape (parameter got : String)
  | parameterKindMissing (parameter : String)
  | parameterKindNotText (parameter got : String)
  | unknownParameterKind (name : String)
  | defaultRejected (parameter reason : String)
  | unknownVerb (verb : String)
  | methodShape (verb got : String)
  | controllerNotNamed (verb : String)
  | statusNotNumber (verb got : String)
  | statusNotAllowed (verb : String) (code : Nat)
  | statusNotValid (verb code : String)
  | importShape (got : String)
  | importsNothing
  | importNotNamed
  | importCycle (chain : List Location)
  | documentNotMapping (got : String)
  | middlewareName (got : String)
  | nothingCompiled
  | alreadyLoaded
deriving DecidableEq

namespace Violation

/-- The wording. -/
def message : Violation → String
  | nodeNotMapping node got => s!"{node.display} configuration must be a mapping, got {got}"
  | badPath node field path => s!"{node.display}: {field} \"{path}\" is not a valid path"
  | pathNotText node field got => s!"{node.display}: {field} must be a string, got {got}"
  | pathMissing node field => s!"{node.display}: {field} is required"
  | middlewaresNotList node field got => s!"{node.display}: {field} must be a list, got {got}"
  | middlewareNotNamed node field =>
      s!"{node.display}: {field} must only contain non-empty strings"
  | fieldNotMapping node field got => s!"{node.display}: {field} must be a mapping, got {got}"
  | parameterRedeclared node parameter =>
      s!"{node.display}: parameter \"{parameter}\" is already declared by an enclosing element"
  | parameterNotNamed => "parameter name must be a non-empty string"
  | parameterShape parameter got =>
      s!"Parameter \"{parameter}\" must be a type name or a mapping, got {got}"
  | parameterKindMissing parameter => s!"Parameter \"{parameter}\": type is required"
  | parameterKindNotText parameter got =>
      s!"Parameter \"{parameter}\": type must be a string, got {got}"
  | unknownParameterKind name => s!"\"{name}\" is not a valid parameter type"
  | defaultRejected parameter reason =>
      s!"Parameter \"{parameter}\": default value rejected ({reason})"
  | unknownVerb verb => s!"Router does not provide \"{verb}\" method"
  | methodShape verb got =>
      s!"RouteMethod \"{verb}\" configuration must be a mapping or a controller name, got {got}"
  | controllerNotNamed verb => s!"RouteMethod \"{verb}\": controller must be a non-empty string"
  | statusNotNumber verb got =>
      s!"RouteMethod \"{verb}\": response_code must be a number, got {got}"
  | statusNotAllowed verb code =>
      s!"RouteMethod \"{verb}\": \"{code}\" is not an allowed response code"
  | statusNotValid verb code =>
      s!"RouteMethod \"{verb}\": \"{code}\" is not a valid HTTP response code"
  | importShape got => s!"import must be a file name or a list of file names, got {got}"
  | importsNothing => "import must list at least one file"
  | importNotNamed => "import must only list non-empty file names"
  | importCycle chain =>
      "import cycle: " ++ String.intercalate " -> " (chain.map Location.display)
  | documentNotMapping got => s!"top-level configuration must be a mapping, got {got}"
  | middlewareName got => s!"middleware name must be a non-empty string, got {got}"
  | nothingCompiled => "no route configuration has been parsed"
  | alreadyLoaded => "route configuration is already loaded"

end Violation

/-- Why a document does not compile or a tree does not load. -/
inductive PlanError where
  /-- An entry of a mapping of elements is null. -/
  | elementMissing (key : String)
  /-- The configuration of a node is absent or null. -/
  | nodeMissing (node : NodeName)
  | invalid (violation : Violation)
  | emptyRoutes (root : String)
  | emptyMethods (route : String)
  | unrecognizedElement (key : String)
  | fileNotFound (path : String)
  | emptyDocument
  /-- The file does not hold text. -/
  | fileNotText (path : String)
  /-- The text is not YAML. -/
  | malformedDocument
  | moduleNotFound (path : String)
  | controllerNotFound (name path : String)
  | middlewareNotFound (name path : String)
deriving DecidableEq

namespace PlanError

/-- The wording. -/
def message : PlanError → String
  | elementMissing key => s!"element \"{key}\" configuration is undefined"
  | nodeMissing node => s!"{node.display} configuration is undefined"
  | invalid violation => "invalid argument: " ++ violation.message
  | emptyRoutes root => s!"root \"{root}\" does not provide routes"
  | emptyMethods route => s!"route \"{route}\" does not provide methods"
  | unrecognizedElement key => s!"\"{key}\" is not recognized as a root or as a route"
  | fileNotFound path => s!"configuration file \"{path}\" not found"
  | emptyDocument => "configuration is empty"
  | fileNotText path => s!"failed to read \"{path}\": stream did not contain valid UTF-8"
  | malformedDocument => "malformed document"
  | moduleNotFound path =>
      s!"\"{path}\" is not a valid module path, or does not provide (default) export"
  | controllerNotFound name path => s!"controller \"{name}\" not found (looked up \"{path}\")"
  | middlewareNotFound name path => s!"middleware \"{name}\" not found (looked up \"{path}\")"

/-- The place looked up by a failed resolution. -/
def modulePath? : PlanError → Option String
  | moduleNotFound path => some path
  | controllerNotFound _ path => some path
  | middlewareNotFound _ path => some path
  | _ => none

end PlanError

end RoutePlan
