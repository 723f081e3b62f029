import RoutePlan.Settings.Basic
import RoutePlan.Value

/-!
# Settings as values

A section is a mapping from the names of its fields, or a list of fields in their
order.  A field that is missing has its default, and what is no field of the
section does not count.  Whether a list may be longer than the section depends on
the format that it comes from.
-/

namespace RoutePlan

namespace Section

/-- The fields of a section by their names. -/
def fields? (names : List String) (longer : Bool) : Value → Option (Entries String Value)
  | .map entries => some entries
  | .list items =>
      if longer ∨ items.length ≤ names.length then some (names.zip items) else none
  | _ => none

/-- Read a field, or take its default. -/
def read {α : Type} (fields : Entries String Value) (name : String) (default : α)
    (readValue : Value → Option α) : Option α :=
  match fields.lookup name with
  | none => some default
  | some value => readValue value

/-- Read a text. -/
def text? : Value → Option String
  | .string text => some text
  | _ => none

/-- Read a natural below a bound. -/
def below? (bound : Nat) : Value → Option Nat
  | .number n => n.toNat?.filter (· < bound)
  | _ => none

/-- Read a list of naturals below a bound. -/
def listBelow? (bound : Nat) : Value → Option (List Nat)
  | .list items => items.mapM (below? bound)
  | _ => none

end Section

/-- Read the settings of a compiler. -/
def RouteSettings.ofValue? (longer : Bool) (value : Value) : Option RouteSettings := do
  let names :=
    ["config_dir", "controller_dir", "middleware_dir", "http_default_response_code",
      "http_responses_code"]
  let fields ← Section.fields? names longer value
  let default : RouteSettings := {}
  let configDir ← Section.read fields "config_dir" default.configDir Section.text?
  let controllerDir ← Section.read fields "controller_dir" default.controllerDir Section.text?
  let middlewareDir ← Section.read fields "middleware_dir" default.middlewareDir Section.text?
  let defaultStatus ←
    Section.read fields "http_default_response_code" default.defaultStatus
      (Section.below? UInt16.size)
  let allowedStatuses ←
    Section.read fields "http_responses_code" default.allowedStatuses
      (Section.listBelow? UInt16.size)
  return { configDir, controllerDir, middlewareDir, defaultStatus, allowedStatuses }

/-- Read the settings of a server. -/
def ServerSettings.ofValue? (longer : Bool) (value : Value) : Option ServerSettings := do
  let names := ["bind_address", "request_timeout_secs", "body_limit_bytes"]
  let fields ← Section.fields? names longer value
  let default : ServerSettings := {}
  let address ← Section.read fields "bind_address" default.address Section.text?
  let timeoutSeconds ←
    Section.read fields "request_timeout_secs" default.timeoutSeconds (Section.below? UInt64.size)
  let bodyLimit ←
    Section.read fields "body_limit_bytes" default.bodyLimit (Section.below? UInt64.size)
  return { address, timeoutSeconds, bodyLimit }

/-- Read the log level of a section. -/
def Settings.readLogLevel (longer : Bool) (value : Value) : Option String := do
  let fields ← Section.fields? ["level"] longer value
  Section.read fields "level" ({} : Settings).logLevel Section.text?

/-- Read settings. -/
def Settings.ofValue? (longer : Bool) (value : Value) : Option Settings := do
  let fields ← Section.fields? ["parser", "server", "logging"] longer value
  let default : Settings := {}
  let routes ← Section.read fields "parser" default.routes (RouteSettings.ofValue? longer)
  let server ← Section.read fields "server" default.server (ServerSettings.ofValue? longer)
  let logLevel ← Section.read fields "logging" default.logLevel (readLogLevel longer)
  return { routes, server, logLevel }

end RoutePlan
