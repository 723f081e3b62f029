/-!
# Settings of the compiler

Where route documents and modules are looked up, and which statuses methods may
declare.
-/

namespace RoutePlan

/-- What a compilation and a load depend on besides the document. -/
structure RouteSettings where
  /-- The directory of route documents and imports. -/
  configDir : String := "config"
  /-- The base directory of controller names. -/
  controllerDir : String := "controller"
  /-- The base directory of middleware names. -/
  middlewareDir : String := "middleware"
  /-- The status of methods that declare none. -/
  defaultStatus : Nat := 200
  /-- The statuses that a method may have. -/
  allowedStatuses : List Nat := [200, 201, 202, 203, 204, 205, 206, 418]
deriving DecidableEq, Inhabited

namespace RouteSettings

/-- Whether a method may have the status. -/
def allows (settings : RouteSettings) (code : Nat) : Bool :=
  settings.allowedStatuses.contains code

end RouteSettings

end RoutePlan
