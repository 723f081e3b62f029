import RoutePlan.Settings.Address
import RoutePlan.Settings.Basic
import RoutePlan.Status
import RoutePlan.Text.Blank

/-!
# Checking settings

Settings that were read may still be of no use.  `Settings.violations` lists all
that is wrong with them, in the order of the fields; settings without violations
are valid.
-/

namespace RoutePlan.Settings

/-- What is wrong with settings. -/
inductive Violation where
  | noStatuses
  | notStatus (code : Nat)
  | defaultNotAllowed (code : Nat)
  | notAddress (text : String)
  | noTimeout
  | noBody
  | noLogLevel
deriving DecidableEq

namespace Violation

/-- The field that is wrong. -/
def field : Violation → String
  | noStatuses | notStatus _ => "parser.http_responses_code"
  | defaultNotAllowed _ => "parser.http_default_response_code"
  | notAddress _ => "server.bind_address"
  | noTimeout => "server.request_timeout_secs"
  | noBody => "server.body_limit_bytes"
  | noLogLevel => "logging.level"

/-- What is wrong with it. -/
def message : Violation → String
  | noStatuses => "at least one response code must be allowed"
  | notStatus code => s!"{code} is not a valid HTTP status"
  | defaultNotAllowed code => s!"{code} is not in the allowed response codes"
  | notAddress text => s!"\"{text}\" is not a socket address"
  | noTimeout | noBody => "must be greater than zero"
  | noLogLevel => "must not be empty"

/-- The field and what is wrong with it. -/
def display (violation : Violation) : String :=
  s!"{violation.field}: {violation.message}"

end Violation

/-- One violation, if a condition holds. -/
def violationIf (condition : Bool) (violation : Violation) : List Violation :=
  if condition then [violation] else []

/-- The violations of settings. -/
def violations (settings : Settings) : List Violation :=
  let routes := settings.routes
  violationIf routes.allowedStatuses.isEmpty .noStatuses
    ++ (routes.allowedStatuses.filter fun code => (Status.ofCode? code).isNone).map .notStatus
    ++ violationIf (!routes.allows routes.defaultStatus) (.defaultNotAllowed routes.defaultStatus)
    ++ violationIf (!Address.isSocket settings.server.address)
      (.notAddress settings.server.address)
    ++ violationIf (settings.server.timeoutSeconds == 0) .noTimeout
    ++ violationIf (settings.server.bodyLimit == 0) .noBody
    ++ violationIf (Text.isBlankText settings.logLevel) .noLogLevel

end RoutePlan.Settings
