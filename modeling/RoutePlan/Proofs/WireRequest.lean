import RoutePlan.Proofs.Captures
import RoutePlan.Proofs.Dispatch.Answer
import RoutePlan.Proofs.Insertion
import RoutePlan.Proofs.WrittenJson
import RoutePlan.Wire.Service

/-!
# Requests from the wire are handled as in process

A body that is not too long and is blank or JSON makes a request a context, and the answer is the
one to this context, but for the length of its body and for a body that is not sent.  Every other
body is refused, and no handler runs.

To list the handlers that run, a request is also answered with a way to handle contexts that has
effects (`serveWith`), of which the plain answer is the case without effects.
-/

namespace RoutePlan

/-! ## Blank bodies -/

/-- Octets below `80` are characters each. -/
theorem Text.Utf8.decode?_of_ascii {octets : List UInt8}
    (ascii : ∀ octet ∈ octets, octet.toNat < 0x80) :
    decode? octets = some (String.ofList (octets.map fun octet => Char.ofNat octet.toNat)) := by
  have decoded (reversed : List (Option Char)) : octets.foldl step ⟨reversed, none⟩ =
      ⟨(octets.map fun octet => some (Char.ofNat octet.toNat)).reverse ++ reversed, none⟩ := by
    induction octets generalizing reversed with
    | nil => rfl
    | cons octet rest ih =>
        obtain ⟨first, others⟩ := List.forall_mem_cons.1 ascii
        have begun : step ⟨reversed, none⟩ octet =
            ⟨some (Char.ofNat octet.toNat) :: reversed, none⟩ := by
          simp only [step, begin, lead, if_pos first]
        rw [List.foldl_cons, begun, ih others, List.map_cons, List.reverse_cons, List.append_assoc]
        rfl
  have whole : parts octets = octets.map fun octet => some (Char.ofNat octet.toNat) := by
    rw [parts, decoded []]
    simp
  have characters : (octets.map fun octet => some (Char.ofNat octet.toNat)).mapM id =
      some (octets.map fun octet => Char.ofNat octet.toNat) := by
    rw [List.mapM_map]
    exact List.mapM_pure
  rw [decode?, whole, characters]
  rfl

namespace Json

/-- Blanks are no tokens. -/
theorem scan_blanks {chars : List Char}
    (blank : ∀ c ∈ chars, c ∈ [' ', '\t', '\n', '\x0c', '\r']) :
    chars.foldlM scanStep ⟨[], .between⟩ = none ∨
      chars.foldlM scanStep ⟨[], .between⟩ = some ⟨[], .between⟩ := by
  induction chars with
  | nil => exact .inr rfl
  | cons c rest ih =>
      obtain ⟨first, others⟩ := List.forall_mem_cons.1 blank
      simp only [List.mem_cons, List.not_mem_nil, or_false] at first
      rcases first with rfl | rfl | rfl | rfl | rfl
      -- a form feed is blank in a body, but not in JSON
      case inr.inr.inr.inl => exact .inl rfl
      all_goals exact ih others

/-- Blanks are no JSON. -/
theorem read?_blanks {chars : List Char}
    (blank : ∀ c ∈ chars, c ∈ [' ', '\t', '\n', '\x0c', '\r']) :
    read? (String.ofList chars) = none := by
  rw [read?, String.toList_ofList, tokens?]
  rcases scan_blanks blank with refused | nothing
  · rw [refused]
    rfl
  · rw [nothing]
    rfl

end Json

namespace Wire

/-- What the octets of a body stand for: blank ones for the empty mapping, others for the JSON that
they spell. -/
inductive Holds (octets : List UInt8) : Value → Prop where
  | blank (all : octets.all isBlankOctet = true) : Holds octets .emptyMap
  | json {text : String} {value : Value} (decoded : Text.Utf8.decode? octets = some text)
      (read : Json.read? text = some value) : Holds octets value

theorem char_of_isBlankOctet {octet : UInt8} (blank : isBlankOctet octet = true) :
    octet.toNat < 0x80 ∧ Char.ofNat octet.toNat ∈ [' ', '\t', '\n', '\x0c', '\r'] := by
  simp only [isBlankOctet, Bool.or_eq_true, beq_iff_eq] at blank
  rcases blank with (((rfl | rfl) | rfl) | rfl) | rfl <;> decide

/-- A blank body is no JSON. -/
theorem read?_of_blank {octets : List UInt8} (blank : octets.all isBlankOctet = true) :
    (Text.Utf8.decode? octets).bind Json.read? = none := by
  have each := List.all_eq_true.1 blank
  rw [Text.Utf8.decode?_of_ascii fun octet member => (char_of_isBlankOctet (each octet member)).1,
    Option.bind_some]
  apply Json.read?_blanks
  intro c member
  obtain ⟨octet, held, rfl⟩ := List.mem_map.1 member
  exact (char_of_isBlankOctet (each octet held)).2

/-- A body is read when it is not too long and stands for a value. -/
theorem readBody_eq_ok_iff {limit : Nat} {octets : List UInt8} {value : Value} :
    readBody limit octets = .ok value ↔ octets.length ≤ limit ∧ Holds octets value := by
  constructor
  · intro read
    unfold readBody at read
    split at read
    · cases read
    · next short =>
        refine ⟨Nat.le_of_not_lt short, ?_⟩
        split at read
        · next blank =>
            cases read
            exact .blank blank
        · split at read
          · next found spelled =>
              cases read
              obtain ⟨text, decoded, read⟩ := Option.bind_eq_some_iff.1 spelled
              exact .json decoded read
          · cases read
  · rintro ⟨short, holds⟩
    rw [readBody, if_neg (Nat.not_lt.2 short)]
    cases holds with
    | blank all => rw [if_pos all]
    | json decoded read =>
        have spelled : (Text.Utf8.decode? octets).bind Json.read? = some value := by
          rw [decoded, Option.bind_some, read]
        have filled : ¬octets.all isBlankOctet = true := by
          intro blank
          rw [read?_of_blank blank] at spelled
          cases spelled
        rw [if_neg filled, spelled]

/-- A body that cannot be read is invalid. -/
theorem readBody_eq_error {limit : Nat} {octets : List UInt8} {failure : Failure}
    (refused : readBody limit octets = .error failure) :
    ∃ detail, failure = .invalidBody detail := by
  unfold readBody at refused
  split at refused
  · cases refused
    exact ⟨_, rfl⟩
  · split at refused
    · cases refused
    · split at refused
      · cases refused
      · cases refused
        exact ⟨_, rfl⟩

/-! ## The context of a request -/

/-- The context of a request whose body stands for a value. -/
def inProcess (request : Request) (body : Value) : Context where
  method := request.method
  path := request.target.path
  headers := request.headers
  params := []
  query := queryValues request.target.query
  body
  args := []
  response := none

theorem context_eq (limit : Nat) (request : Request) :
    context limit request = (readBody limit request.body).map (inProcess request) := by
  unfold context
  cases readBody limit request.body <;> rfl

theorem context_eq_ok {limit : Nat} {request : Request} {value : Value}
    (short : request.body.length ≤ limit) (holds : Holds request.body value) :
    context limit request = .ok (inProcess request value) := by
  rw [context_eq, readBody_eq_ok_iff.2 ⟨short, holds⟩]
  rfl

theorem context_of_bad_body {limit : Nat} {request : Request}
    (bad : limit < request.body.length ∨ ¬∃ value, Holds request.body value) :
    ∃ detail, context limit request = .error (.invalidBody detail) := by
  rw [context_eq]
  cases read : readBody limit request.body with
  | error failure =>
      obtain ⟨detail, rfl⟩ := readBody_eq_error read
      exact ⟨detail, rfl⟩
  | ok value =>
      obtain ⟨short, holds⟩ := readBody_eq_ok_iff.1 read
      rcases bad with long | unreadable
      · exact absurd long (Nat.not_lt.2 short)
      · exact absurd ⟨value, holds⟩ unreadable

/-- The fields of a query have its names in the order in which they come first, each with the value
that comes last. -/
theorem queryValues_some (text : String) :
    Entries.keys (queryValues (some text)) = ((Query.fields text).map Prod.fst).eraseDups ∧
      ∀ name, (queryValues (some text)).lookup name =
        ((Query.fields text).reverse.lookup name).map .string := by
  have gathered : Query.read text = Entries.insertAll (Query.fields text) [] :=
    Entries.ofPairs_eq_insertAll (Query.fields text)
  constructor
  · have named : Entries.keys (queryValues (some text)) = Entries.keys (Query.read text) := by
      simp only [queryValues, Entries.keys, List.map_map, Function.comp_def]
    have all : (Entries.keys (Query.fields text)).filter
        (fun name => decide (name ∉ Entries.keys ([] : Entries String String))) =
          (Query.fields text).map Prod.fst :=
      List.filter_eq_self.2 fun _ _ => rfl
    rw [named, gathered, Entries.keys_insertAll, all]
    rfl
  · intro name
    rw [queryValues, Entries.lookup_map_snd, gathered, Entries.lookup_insertAll, List.lookup_nil,
      Option.or_none]

/-! ## Answers -/

theorem opensConnection_iff {method : String} {status : Status} :
    opensConnection method status = true ↔
      method = "CONNECT" ∧ 200 ≤ status.code ∧ status.code < 300 := by
  simp [opensConnection, Status.isSuccess]

theorem status_sent (method : String) (response : Response) :
    (sent method response).status = response.status := by
  unfold sent
  split
  · rfl
  · split <;> rfl

/-- The body is sent but to `HEAD` and when a connection is opened. -/
theorem body_sent (method : String) (response : Response) :
    (sent method response).body =
      if method = "HEAD" ∨ opensConnection method response.status = true then ""
      else response.body := by
  by_cases opens : opensConnection method response.status = true
  · rw [sent, if_pos opens, if_pos (.inr opens), Response.withoutBody]
  · by_cases head : method = "HEAD"
    · rw [sent, if_neg opens, if_pos head, if_pos (.inl head), Response.withoutBody]
    · rw [sent, if_neg opens, if_neg head, if_neg (by simp [head, opens]), measured]

theorem values_measured (response : Response) (name : String) :
    (measured response).headers.values name =
      if Headers.canonical name = Headers.contentLength ∧
          response.headers.values Headers.contentLength = [] then
        [toString response.body.utf8ByteSize]
      else response.headers.values name := by
  have lower : Headers.canonical Headers.contentLength = Headers.contentLength := by
    decide +kernel
  rw [measured, Headers.values_setIfAbsent, lower]

/-- The length of the body is added but when a connection is opened. -/
theorem values_sent (method : String) (response : Response) (name : String) :
    (sent method response).headers.values name =
      if ¬opensConnection method response.status = true ∧
          Headers.canonical name = Headers.contentLength ∧
          response.headers.values Headers.contentLength = [] then
        [toString response.body.utf8ByteSize]
      else response.headers.values name := by
  unfold sent
  by_cases opens : opensConnection method response.status = true
  · rw [if_pos opens, if_neg fun told => told.1 opens, Response.withoutBody]
  · have told : (measured response).headers.values name =
        if ¬opensConnection method response.status = true ∧
            Headers.canonical name = Headers.contentLength ∧
            response.headers.values Headers.contentLength = [] then
          [toString response.body.utf8ByteSize]
        else response.headers.values name := by
      simp [values_measured, opens]
    rw [if_neg opens]
    split <;> exact told

/-- A prepared response is written with all values of its fields.  A body brings its type. -/
theorem values_ofStaged (staged : StagedResponse) (name : String) :
    (Response.ofStaged staged).headers.values name =
      if staged.headers.values name ≠ [] then staged.headers.values name
      else if staged.body.isSome ∧ Headers.canonical name = "content-type" then
        ["application/json"]
      else [] := by
  have fields : (Response.ofStaged staged).headers =
      Headers.extend (if staged.body.isSome then [("content-type", "application/json")] else [])
        staged.headers := by
    unfold Response.ofStaged
    cases staged.body <;> rfl
  have typed : Headers.values name [("content-type", "application/json")] =
      if Headers.canonical name = "content-type" then ["application/json"] else [] := by
    by_cases same : Headers.canonical name = "content-type"
    · simp [Headers.values, same]
    · simp [Headers.values, same, Ne.symm same]
  rw [fields, Headers.values_extend]
  by_cases absent : staged.headers.values name = []
  · rw [if_pos absent, if_neg (not_not.2 absent)]
    cases staged.body with
    | none => rfl
    | some body => simp [typed]
  · rw [if_neg absent, if_pos absent]

/-- Answer a request from the wire with a way to handle contexts that may have effects. -/
def serveWith {m : Type → Type} [Monad m] (handle : Context → m Response) (limit : Nat)
    (request : Request) : m Response :=
  match context limit request with
  | .error failure => pure (sent request.method (.ofFailure failure))
  | .ok context => do
      let response ← handle context
      return sent request.method response

/-- The plain answer is the one without effects. -/
theorem serve_eq_serveWith (router : Router) (request : Request) :
    serve router request =
      Id.run (serveWith (fun context => router.handle context) router.bodyLimit request) := by
  unfold serve answer serveWith
  cases context router.bodyLimit request <;> rfl

/-- Answer a request from the wire, and list the handlers that run. -/
def serveLogged (router : Router) (request : Request) : Response × List HandlerRun :=
  (serveWith (m := StateM (List HandlerRun)) (fun context => do
    modify (· ++ router.log context)
    return router.handle context) router.bodyLimit request).run []

theorem serveLogged_of_refused {router : Router} {request : Request} {failure : Failure}
    (refused : context router.bodyLimit request = .error failure) :
    serveLogged router request = (sent request.method (.ofFailure failure), []) := by
  unfold serveLogged serveWith
  rw [refused]
  rfl

theorem serveLogged_of_received {router : Router} {request : Request} {received : Context}
    (accepted : context router.bodyLimit request = .ok received) :
    serveLogged router request =
      (sent request.method (router.handle received), router.log received) := by
  unfold serveLogged serveWith
  rw [accepted]
  rfl

/-- Listing the handlers changes nothing. -/
theorem serveLogged_fst (router : Router) (request : Request) :
    (serveLogged router request).1 = serve router request := by
  rw [serve_eq_serveWith, serveWith]
  cases received : context router.bodyLimit request with
  | error failure =>
      rw [serveLogged_of_refused received]
      rfl
  | ok received' =>
      rw [serveLogged_of_received received]
      rfl

/-! ## Written failures -/

theorem failureBody_exact (failure : Failure) : (Response.failureBody failure).Exact 1 := by
  have distinct : ["code", "error", "message"].Nodup := by decide
  refine .map distinct ?_
  intro entry member
  simp only [List.mem_cons, List.not_mem_nil, or_false] at member
  rcases member with rfl | rfl | rfl
  · exact .integer _ _
  · exact .string _
  · exact .string _

/-- A written failure is read back. -/
theorem read?_ofFailure (failure : Failure) :
    Json.read? (Response.ofFailure failure).body = some (Response.failureBody failure) :=
  Json.read?_compact (failureBody_exact failure) (by decide)

/-! ## Requests from the wire -/

/-- A request whose body is too long, or neither blank nor JSON, is refused with the status 400,
and no handler runs.  Any other request is answered as its context is, which has the method, the
path and the header fields of the request, the fields of its query and the value of its body.  The
answer is sent with the length of its body, unless it has that field, and without the body to
`HEAD`; a `CONNECT` that succeeds gets neither.

A context is answered with the first failure of its handlers, which take over from each other;
without one, with the response that is prepared in the end and all values of its fields; without
either, with the status 404.  Every written failure is JSON whose code is the status of the
response. -/
theorem requests_are_answered_as_contexts (router : Router) :
    (∀ request, (serveLogged router request).1 = serve router request) ∧
    (∀ request, router.bodyLimit < request.body.length ∨ (¬∃ value, Holds request.body value) →
      (serve router request).status.code = 400 ∧
        ∃ detail, serveLogged router request =
          (sent request.method (.ofFailure (.invalidBody detail)), [])) ∧
    (∀ request value, request.body.length ≤ router.bodyLimit → Holds request.body value →
      serveLogged router request =
        (sent request.method (router.handle (inProcess request value)),
          router.log (inProcess request value))) ∧
    (∀ method response,
      let opens := method = "CONNECT" ∧ 200 ≤ response.status.code ∧ response.status.code < 300
      (sent method response).status = response.status ∧
      (sent method response).body = (if method = "HEAD" ∨ opens then "" else response.body) ∧
      ∀ name, (sent method response).headers.values name =
        if ¬opens ∧ Headers.canonical name = "content-length" ∧
            response.headers.values "content-length" = [] then
          [toString response.body.utf8ByteSize]
        else response.headers.values name) ∧
    (queryValues none = [] ∧ ∀ text,
      Entries.keys (queryValues (some text)) = ((Query.fields text).map Prod.fst).eraseDups ∧
        ∀ name, (queryValues (some text)).lookup name =
          ((Query.fields text).reverse.lookup name).map .string) ∧
    (∀ context,
      (router.log context).Pairwise HandlerRun.Precedes ∧
      (∀ run ∈ router.log context, ∃ layer, router.layers[run.layer]? = some layer ∧
        layer.handlers[run.place]? = some run.handler) ∧
      HandlerRun.HandOver context (router.log context) (router.dispatch context).2 ∧
      router.handle context =
        match (router.log context).findSome? HandlerRun.failure?,
          (router.dispatch context).2.response with
        | some failure, _ => .ofFailure failure
        | none, some staged => .ofStaged staged
        | none, none =>
            .ofFailure (.http .notFound ("Cannot " ++ context.method ++ " " ++ context.path))) ∧
    (∀ staged name, (Response.ofStaged staged).headers.values name =
      if staged.headers.values name ≠ [] then staged.headers.values name
      else if staged.body.isSome ∧ Headers.canonical name = "content-type" then
        ["application/json"]
      else []) ∧
    ∀ failure,
      Json.read? (Response.ofFailure failure).body = some (Response.failureBody failure) ∧
        ∃ bounds, (Response.failureBody failure).field? "code" =
          some (.number (.integer (Response.ofFailure failure).status.code bounds)) := by
  refine ⟨serveLogged_fst router, fun request bad => ?_, fun request value short holds => ?_,
    fun method response => ?_, ⟨rfl, queryValues_some⟩, fun context => ⟨?_, ?_, ?_, ?_⟩,
    values_ofStaged, fun failure => ⟨read?_ofFailure failure, _, rfl⟩⟩
  · obtain ⟨detail, refused⟩ := context_of_bad_body bad
    have logged := serveLogged_of_refused refused
    refine ⟨?_, detail, logged⟩
    rw [← serveLogged_fst, logged, status_sent]
    rfl
  · exact serveLogged_of_received (context_eq_ok short holds)
  · simp only [← opensConnection_iff]
    exact ⟨status_sent method response, body_sent method response, values_sent method response⟩
  · exact router.pairwise_precedes_log context
  · intro run member
    obtain ⟨layer, _, present, _, logged, _⟩ := Router.exists_layer_of_mem_log member
    exact ⟨layer, present, Layer.getElem?_place_of_mem_log logged⟩
  · exact router.handOver_log context
  · exact router.handle_eq context

/-- A router with a limit of two octets whose second layer fails after the first has prepared a
response. -/
def stagingRouter : Router where
  layers := [.mount "/" (.custom (Script.handler [.respond ⟨201, by decide⟩ (some (.list []))])),
    .mount "/taken" (.custom (Script.handler [.fail ⟨409, by decide⟩ "taken"]))]
  bodyLimit := 2

/-- A request with a field twice in its query, for the layer that fails. -/
def takenRequest : Request :=
  ⟨"POST", ⟨"/taken", some "a=1&b=2&a=3"⟩, [], [0x7b, 0x7d]⟩

/-- A response that sets two cookies. -/
def cookieResponse : StagedResponse :=
  ⟨.ok, [("set-cookie", "a=1"), ("set-cookie", "b=2")], some .null⟩

/-- A failure is answered though a response is prepared, and what is no JSON or too long is refused
before any handler runs.  Both cookies of a response are written, and the length of its body. -/
theorem prepared_response_gives_way_to_failure :
    takenRequest.body.length ≤ stagingRouter.bodyLimit ∧ Holds takenRequest.body .emptyMap ∧
      (inProcess takenRequest .emptyMap).query = [("a", .string "3"), ("b", .string "2")] ∧
      serveLogged stagingRouter takenRequest =
        (sent "POST" (.ofFailure (.http ⟨409, by decide⟩ "taken")),
          stagingRouter.log (inProcess takenRequest .emptyMap)) ∧
      (stagingRouter.log (inProcess takenRequest .emptyMap)).length = 2 ∧
      (¬∃ value, Holds [0x5b] value) ∧
      (serve stagingRouter ⟨"POST", ⟨"/taken", none⟩, [], [0x5b]⟩).status.code = 400 ∧
      (serve stagingRouter ⟨"HEAD", ⟨"/", none⟩, [], [0x20, 0x20, 0x20]⟩).status.code = 400 ∧
      (sent "GET" (.ofStaged cookieResponse)).headers.values "Set-Cookie" = ["a=1", "b=2"] ∧
      (sent "GET" (.ofStaged cookieResponse)).headers.values "content-length" = ["4"] ∧
      (sent "HEAD" (.ofStaged cookieResponse)).headers.values "content-length" = ["4"] := by
  have decoded : Text.Utf8.decode? takenRequest.body = some "\x7b\x7d" := rfl
  have holds : Holds takenRequest.body .emptyMap := .json decoded rfl
  have fields : Query.fields "a=1&b=2&a=3" = [("a", "1"), ("b", "2"), ("a", "3")] := by
    decide +kernel
  have query : queryValues (some "a=1&b=2&a=3") = [("a", .string "3"), ("b", .string "2")] := by
    rw [queryValues, Query.read, fields]
    rfl
  have unreadable : ¬∃ value, Holds [0x5b] value := by
    rintro ⟨value, spelled⟩
    have read : readBody 2 [0x5b] = .ok value := readBody_eq_ok_iff.2 ⟨by decide, spelled⟩
    cases read
  obtain ⟨_, refused, received, transmits, _, _, writes, _⟩ :=
    requests_are_answered_as_contexts stagingRouter
  have served := received takenRequest .emptyMap (by decide) holds
  have cookies := (transmits "GET" (.ofStaged cookieResponse)).2.2 "Set-Cookie"
  rw [writes] at cookies
  refine ⟨by decide, holds, query, served.trans rfl, rfl, unreadable, ?_, ?_, ?_, ?_, ?_⟩
  · exact (refused _ (.inr unreadable)).1
  · exact (refused _ (.inl (by decide))).1
  · exact cookies.trans (by decide +kernel)
  · exact ((transmits "GET" _).2.2 _).trans (by decide +kernel)
  · exact ((transmits "HEAD" _).2.2 _).trans (by decide +kernel)

/-- A request to the same router that the first layer answers with success. -/
def connectRequest : Request :=
  ⟨"CONNECT", ⟨"/", none⟩, [], []⟩

/-- The same request to `GET` what it answers. -/
def plainRequest : Request :=
  { connectRequest with method := "GET" }

/-- The answer to `HEAD` is not the only one that loses its body, and any other answer has the
length of its body in addition. -/
theorem answer_to_connect_has_no_body :
    connectRequest.method ≠ "HEAD" ∧
      connectRequest.body.length ≤ stagingRouter.bodyLimit ∧
      Holds connectRequest.body .emptyMap ∧
      (stagingRouter.handle (inProcess connectRequest .emptyMap)).body = "[]" ∧
      (serve stagingRouter connectRequest).body = "" ∧
      serve stagingRouter connectRequest ≠
        stagingRouter.handle (inProcess connectRequest .emptyMap) ∧
      (stagingRouter.handle (inProcess plainRequest .emptyMap)).headers.values "content-length" =
        [] ∧
      (serve stagingRouter plainRequest).headers.values "content-length" = ["2"] := by
  refine ⟨by decide, by decide, .blank rfl, rfl, rfl, fun same => ?_, by decide +kernel,
    by decide +kernel⟩
  have bodies : "" = "[]" := congrArg Response.body same
  exact absurd bodies (by decide)

end Wire

end RoutePlan
