import RoutePlan.Tree.Element
import RoutePlan.UrlPath

/-!
# What a tree registers

The routes that a forest lists and the registrations that it makes when it is
loaded, both under a mount path and in the order of declaration.  A root mounts
its middlewares around its children, a route around its methods, all at the full
path; an import adds nothing of its own.
-/

namespace RoutePlan

/-- A listed route. -/
structure ListedRoute where
  verb : Verb
  path : String
  controller : String
deriving DecidableEq

namespace ListedRoute

/-- The route as listings show it, the verb padded to seven characters. -/
def display (route : ListedRoute) : String :=
  let verb := route.verb.name
  verb ++ String.ofList (List.replicate (7 - verb.toList.length) ' ') ++ " " ++ route.path
    ++ " -> " ++ route.controller

end ListedRoute

/-- What the tree registers on a router. -/
inductive Registration where
  | mount (path middleware : String)
  | route (path : String) (method : Method)

namespace Registration

/-- The middleware names that a registration needs, in the order of their
look-up. -/
def middlewares : Registration → List String
  | mount _ middleware => [middleware]
  | route _ method => method.pre ++ method.post

/-- The listed route of a registration. -/
def listed? : Registration → Option ListedRoute
  | mount .. => none
  | route path method => some ⟨method.verb, path, method.controller⟩

end Registration

/-- The mounts of middlewares at a path. -/
def mounts (path : String) (middlewares : List String) : List Registration :=
  middlewares.map (.mount path)

namespace Route

/-- The routes that a route lists. -/
def listing (mount : String) (route : Route) : List ListedRoute :=
  route.methods.map fun method =>
    ⟨method.verb, UrlPath.join mount route.path, method.controller⟩

/-- The registrations of a route. -/
def registrations (mount : String) (route : Route) : List Registration :=
  let path := UrlPath.join mount route.path
  mounts path route.pre ++ route.methods.map (.route path) ++ mounts path route.post

end Route

namespace Element

mutual

/-- The routes that an element lists. -/
def listing (mount : String) : Element → List ListedRoute
  | .root head children => listingAll (UrlPath.join mount head.path) children
  | .route node => node.listing mount
  | .imports _ children => listingAll mount children

/-- The routes that a forest lists. -/
def listingAll (mount : String) : List Element → List ListedRoute
  | [] => []
  | element :: rest => listing mount element ++ listingAll mount rest

end

mutual

/-- The registrations of an element. -/
def registrations (mount : String) : Element → List Registration
  | .root head children =>
      let path := UrlPath.join mount head.path
      mounts path head.pre ++ registrationsAll path children ++ mounts path head.post
  | .route node => node.registrations mount
  | .imports _ children => registrationsAll mount children

/-- The registrations of a forest. -/
def registrationsAll (mount : String) : List Element → List Registration
  | [] => []
  | element :: rest => registrations mount element ++ registrationsAll mount rest

end

/-- The routes that a compiled document lists. -/
def routes (forest : List Element) : List ListedRoute :=
  listingAll "/" forest

end Element

end RoutePlan
