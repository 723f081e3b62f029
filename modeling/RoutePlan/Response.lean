import RoutePlan.Headers
import RoutePlan.Parameter
import RoutePlan.Status

/-!
# Failures and responses

Why the handling of a request fails, the responses that handlers prepare, and how
both are written.  A failure is answered by a JSON body with its status, the name
of its kind and its wording.
-/

namespace RoutePlan

/-- Why the handling of a request fails. -/
inductive Failure where
  | validation (failure : ValidationFailure)
  /-- A controller set a status that is none. -/
  | invalidStatus (code : Nat)
  /-- The body of the request cannot be read. -/
  | invalidBody (detail : String)
  | http (status : Status) (message : String)
deriving DecidableEq

namespace Failure

/-- The status that answers the failure.  A validation failure with a code that
is none is an internal error. -/
def status : Failure → Status
  | validation failure => (Status.ofCode? failure.code).getD .internalError
  | invalidStatus _ => .internalError
  | invalidBody _ => .badRequest
  | http status _ => status

/-- The name of the kind of failure. -/
def kind : Failure → String
  | validation _ => "ValidationData"
  | invalidStatus _ => "InvalidArgument"
  | invalidBody _ => "InvalidBody"
  | http .. => "HttpError"

/-- The wording. -/
def message : Failure → String
  | validation failure => failure.message
  | invalidStatus code => "\"" ++ toString code ++ "\" is not a valid HTTP response code"
  | invalidBody detail => "invalid request body: " ++ detail
  | http _ message => message

end Failure

/-- A response that a handler has prepared.  Without body it is sent empty. -/
structure StagedResponse where
  status : Status
  headers : Headers
  body : Option Value

/-- A response as it is written. -/
structure Response where
  status : Status
  headers : Headers
  body : String
deriving DecidableEq

namespace Response

/-- A response with a JSON body. -/
def json (status : Status) (body : Value) : Response :=
  ⟨status, [("content-type", "application/json")], body.compact⟩

/-- The JSON body that answers a failure. -/
def failureBody (failure : Failure) : Value :=
  .map [
    ("code", .number (.integer failure.status.code
      ⟨by omega, by have := failure.status.valid; omega⟩)),
    ("error", .string failure.kind),
    ("message", .string failure.message)]

/-- The answer to a failure. -/
def ofFailure (failure : Failure) : Response :=
  json failure.status (failureBody failure)

/-- A prepared response as it is written.  Its own fields, with all their values, replace
those that its body brings. -/
def ofStaged (staged : StagedResponse) : Response :=
  match staged.body with
  | some body =>
      let response := json staged.status body
      { response with headers := response.headers.extend staged.headers }
  | none => ⟨staged.status, Headers.extend [] staged.headers, ""⟩

/-- The same response without its body. -/
def withoutBody (response : Response) : Response :=
  { response with body := "" }

/-- The answer to a request for which no response was prepared. -/
def unanswered (method path : String) : Response :=
  ofFailure (.http .notFound ("Cannot " ++ method ++ " " ++ path))

end Response

end RoutePlan
