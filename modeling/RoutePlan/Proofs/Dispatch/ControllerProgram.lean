import RoutePlan.Script

/-!
# Controllers at work

A controller says what it answers and which status it leaves.  Here it is user code that
works step by step: it sets and reads its status as often as it likes, learns whether a
code was accepted, and ends with a result or with a failure.

The status that such code leaves is the last accepted one among the codes that it sets,
or else the one it was given (`run_eq`).  Every controller is user code of this kind
(`exists_program`).
-/

namespace RoutePlan

/-- The work of a controller on one request. -/
inductive ControllerProgram where
  | finish (result : Except Failure (Option Value))
  /-- Set the status, and go on with whether the code was accepted. -/
  | setStatus (code : Nat) (next : Except Failure Unit → ControllerProgram)
  | getStatus (next : Status → ControllerProgram)

namespace ControllerProgram

/-- What setting a status answers. -/
def acceptance (code : Nat) : Except Failure Unit :=
  match Status.ofCode? code with
  | some _ => .ok ()
  | none => .error (.invalidStatus code)

/-- Work with a status at hand.  A code that is none leaves the status as it is. -/
def run : ControllerProgram → Status → Except Failure ControllerReply
  | finish result, status => result.map (⟨·, status⟩)
  | setStatus code next, status =>
      (next (acceptance code)).run ((Status.ofCode? code).getD status)
  | getStatus next, status => (next status).run status

/-- The codes that are set, one after the other, accepted or not. -/
def codes : ControllerProgram → Status → List Nat
  | finish _, _ => []
  | setStatus code next, status =>
      code :: (next (acceptance code)).codes ((Status.ofCode? code).getD status)
  | getStatus next, status => (next status).codes status

/-- The result in the end. -/
def result : ControllerProgram → Status → Except Failure (Option Value)
  | finish result, _ => result
  | setStatus code next, status =>
      (next (acceptance code)).result ((Status.ofCode? code).getD status)
  | getStatus next, status => (next status).result status

/-- The last accepted status among some codes, or else the declared one. -/
def lastAccepted (declared : Status) (codes : List Nat) : Status :=
  (codes.filterMap Status.ofCode?).getLast?.getD declared

theorem lastAccepted_cons (declared : Status) (code : Nat) (rest : List Nat) :
    lastAccepted declared (code :: rest) =
      lastAccepted ((Status.ofCode? code).getD declared) rest := by
  unfold lastAccepted
  rw [List.filterMap_cons]
  cases Status.ofCode? code with
  | none => rfl
  | some status =>
      rw [List.getLast?_cons]
      rfl

/-- The reply is the result with the last accepted status. -/
theorem run_eq (program : ControllerProgram) (declared : Status) :
    program.run declared =
      (program.result declared).map (⟨·, lastAccepted declared (program.codes declared)⟩) := by
  induction program generalizing declared with
  | finish result => rfl
  | setStatus code next ih =>
      rw [run, result, codes, lastAccepted_cons]
      exact ih _ _
  | getStatus next ih =>
      rw [run, result, codes]
      exact ih _ _

/-- The controller that works on each input, from the status of the input on. -/
def controller (work : ControllerInput → ControllerProgram) : Controller :=
  fun input => (work input).run input.status

/-- Work that gives a reply: it sets the status of the reply, and ends. -/
def ofReply : Except Failure ControllerReply → ControllerProgram
  | .error failure => finish (.error failure)
  | .ok reply => setStatus reply.status.code fun _ => finish (.ok reply.result)

theorem run_ofReply (reply : Except Failure ControllerReply) (status : Status) :
    (ofReply reply).run status = reply := by
  cases reply with
  | error failure => rfl
  | ok reply =>
      rw [ofReply, run, Status.ofCode?_code]
      rfl

/-- Every controller works in this way. -/
theorem exists_program (called : Controller) : ∃ work, controller work = called :=
  ⟨fun input => ofReply (called input), funext fun input => run_ofReply (called input) _⟩

end ControllerProgram

end RoutePlan
