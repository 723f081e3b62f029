import RoutePlan.Json.Reader
import RoutePlan.Router
import RoutePlan.Text.Utf8
import RoutePlan.Wire.Query
import RoutePlan.Wire.Target

/-!
# Requests from the wire

A request as it arrives: a method, a target, header fields and the octets of a
body.  Its query is decoded and its body read as JSON, a blank body as an empty
mapping, before the router handles it.

A server may identify requests: it gives the identification of a request to its
answer, unless the answer has one of its own.

The answer is sent with the length of its body in a header field, unless it has such
a field of its own.  To `HEAD` the body itself is not sent.  Nor is it sent to a
`CONNECT` that succeeds, since the connection is open then; this answer gets no length
either.
-/

namespace RoutePlan.Wire

/-- A request as it arrives. -/
structure Request where
  method : String
  target : Target
  headers : Headers
  body : List UInt8

/-- The ASCII white space of bodies. -/
def isBlankOctet (octet : UInt8) : Bool :=
  octet == 0x20 || octet == 0x09 || octet == 0x0A || octet == 0x0C || octet == 0x0D

/-- Read a body of limited size. -/
def readBody (limit : Nat) (octets : List UInt8) : Except Failure Value :=
  if limit < octets.length then .error (.invalidBody "length limit exceeded")
  else if octets.all isBlankOctet then .ok .emptyMap
  else
    match (Text.Utf8.decode? octets).bind Json.read? with
    | some value => .ok value
    | none => .error (.invalidBody "<json>")

/-- The fields of a query as strings. -/
def queryValues (query : Option String) : Entries String Value :=
  match query with
  | none => []
  | some query => (Query.read query).map fun field => (field.1, .string field.2)

/-- The context in which a request is handled. -/
def context (limit : Nat) (request : Request) : Except Failure Context := do
  let body ← readBody limit request.body
  return {
    body
    method := request.method
    path := request.target.path
    headers := request.headers
    params := []
    query := queryValues request.target.query
    args := []
    response := none }

/-- The answer of a router to a request. -/
def answer (router : Router) (request : Request) : Response :=
  match context router.bodyLimit request with
  | .error failure => .ofFailure failure
  | .ok context => router.handle context

/-- An answer with the identification of the request. -/
def identify (request : Request) (response : Response) : Response :=
  match request.headers.value? Headers.requestId with
  | none => response
  | some identification =>
      { response with
        headers := response.headers.setIfAbsent Headers.requestId identification }

/-- Whether an answer to a request opens a connection. -/
def opensConnection (method : String) (status : Status) : Bool :=
  method == "CONNECT" && status.isSuccess

/-- A response with the length of its body in octets. -/
def measured (response : Response) : Response :=
  { response with
    headers := response.headers.setIfAbsent Headers.contentLength
      (toString response.body.utf8ByteSize) }

/-- A response as it is sent. -/
def sent (method : String) (response : Response) : Response :=
  if opensConnection method response.status then response.withoutBody
  else if method = "HEAD" then (measured response).withoutBody
  else measured response

/-- Answer a request from the wire. -/
def serve (router : Router) (request : Request) : Response :=
  sent request.method (answer router request)

/-- Answer a request from the wire and identify the answer. -/
def serveIdentified (router : Router) (request : Request) : Response :=
  sent request.method (identify request (answer router request))

end RoutePlan.Wire
