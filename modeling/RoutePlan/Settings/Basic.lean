import RoutePlan.RouteSettings

/-!
# Settings

What a program that compiles and serves route documents is set up with.  Every
part has a default.
-/

namespace RoutePlan

/-- What a server needs besides its router. -/
structure ServerSettings where
  /-- The socket address that the server listens on. -/
  address : String := "0.0.0.0:8080"
  /-- The seconds that a request may take. -/
  timeoutSeconds : Nat := 30
  /-- The greatest length of a request body in octets. -/
  bodyLimit : Nat := 1048576
deriving DecidableEq, Inhabited

/-- The settings of a program. -/
structure Settings where
  routes : RouteSettings := {}
  server : ServerSettings := {}
  /-- What the program logs. -/
  logLevel : String := "info"
deriving DecidableEq, Inhabited

namespace Settings

/-- The filter that a log level stands for: one directive for the program and one
for its server. -/
def logFilter (level : String) : String :=
  s!"config_router={level},tower_http={level}"

end Settings

end RoutePlan
