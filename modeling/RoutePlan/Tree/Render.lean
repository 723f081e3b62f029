import RoutePlan.Text.Lines
import RoutePlan.Tree.Element

/-!
# Rendering of trees

A forest as indented text: a line for each node, its parts two spaces further in.
Middlewares stand where they are mounted, around the children of a root and the
methods of a route.
-/

namespace RoutePlan

/-- Declared parameters between braces behind a label, or nothing when none are
declared. -/
def renderParams (label : String) : List Parameter → String
  | [] => ""
  | params =>
      label ++ " \x7b " ++ String.intercalate ", " (params.map Parameter.display) ++ " \x7d"

/-- The line of a middleware. -/
def renderMiddleware (name : String) : String :=
  "<Middleware name=\"" ++ name ++ "\">"

/-- A header with its parts on the lines below, indented. -/
def renderBlock (header : String) (parts : List String) : String :=
  header ++ "\n" ++ Text.indent (String.intercalate "\n" parts)

namespace Method

/-- The line of a method. -/
def render (method : Method) : String :=
  method.verb.name ++ " -> " ++ method.controller ++ " (" ++ toString method.status.code ++ ")"
    ++ (if method.validated then "" else " raw") ++ renderParams " body" method.body

end Method

namespace Route

/-- A route with its methods. -/
def render (route : Route) : String :=
  renderBlock ("Route \"" ++ route.name ++ "\" " ++ route.path ++ renderParams "" route.params)
    (route.pre.map renderMiddleware ++ route.methods.map Method.render
      ++ route.post.map renderMiddleware)

end Route

namespace Root

/-- The header of a root. -/
def header (root : Root) : String :=
  "Root \"" ++ root.name ++ "\" " ++ root.path ++ renderParams "" root.params

end Root

namespace Element

mutual

/-- An element with everything below it. -/
def render : Element → String
  | .root head children =>
      renderBlock head.header
        (head.pre.map renderMiddleware ++ renderParts children ++ head.post.map renderMiddleware)
  | .route node => node.render
  | .imports sources children =>
      let header := "Import [" ++ String.intercalate ", " sources ++ "]"
      match renderParts children with
      | [] => header
      | parts => renderBlock header parts

/-- The elements of a forest, one text for each. -/
def renderParts : List Element → List String
  | [] => []
  | element :: rest => render element :: renderParts rest

end

/-- A forest as text. -/
def renderAll (forest : List Element) : String :=
  String.intercalate "\n" (renderParts forest)

end Element

end RoutePlan
