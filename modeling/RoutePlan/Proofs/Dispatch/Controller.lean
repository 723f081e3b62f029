import RoutePlan.Proofs.Dispatch.RouterLog

/-!
# At most one controller

A request that is answered stays answered when no handler takes its response back, and
routes do not apply to it.  A controller that is called either fails, which ends the
dispatch, or leaves the request answered, so no other controller is called after it.

To count the calls of a controller, a method handler is also run with a controller that has
effects (`runWith`), of which the plain run is the case without effects.  A run calls its
controller once or not at all, and `callsController` tells which.
-/

namespace RoutePlan

namespace Handler

/-- The handler validates parameters and calls a controller. -/
def isMethod : Handler → Bool
  | method _ => true
  | _ => false

/-- The handler takes no prepared response back. -/
def Keeps (handler : Handler) : Prop :=
  ∀ context, context.isAnswered = true → (handler.run context).2.isAnswered = true

theorem initializer_keeps : Keeps .initializer :=
  fun _ answered => answered

theorem method_keeps (handler : MethodHandler) : Keeps (.method handler) := by
  intro context answered
  rcases handler.run_cases context with ⟨failure, failed⟩ | ⟨staged, ran⟩
  · rw [run, failed]
    exact answered
  · rw [run, ran]
    rfl

/-- A method handler that goes on leaves the request answered. -/
theorem isAnswered_of_goesOn {handler : Handler} (isMethod : handler.isMethod = true)
    {context : Context} (goesOn : (handler.run context).1 = .ok .next) :
    (handler.run context).2.isAnswered = true := by
  cases handler with
  | initializer => cases isMethod
  | custom handler => cases isMethod
  | method handler =>
      rcases handler.run_cases context with ⟨failure, failed⟩ | ⟨staged, ran⟩
      · rw [run, failed] at goesOn
        cases goesOn
      · rw [run, ran]
        rfl

/-- Among handlers of which only one calls a controller, it is found at its place. -/
theorem place_of_isMethod {pre post : List Handler} {handler found : Handler} {place : Nat}
    (preOther : ∀ other ∈ pre, other.isMethod = false)
    (postOther : ∀ other ∈ post, other.isMethod = false)
    (held : (pre ++ handler :: post)[place]? = some found) (isMethod : found.isMethod = true) :
    place = pre.length ∧ found = handler := by
  rcases Nat.lt_trichotomy place pre.length with before | rfl | behind
  · rw [List.getElem?_append_left before] at held
    have other := preOther found (List.mem_of_getElem? held)
    exact absurd (other.symm.trans isMethod) Bool.false_ne_true
  · rw [List.getElem?_append_right (Nat.le_refl _), Nat.sub_self, List.getElem?_cons_zero] at held
    exact ⟨rfl, (Option.some.inj held).symm⟩
  · obtain ⟨index, rfl⟩ := Nat.exists_eq_add_of_lt behind
    rw [Nat.add_assoc, List.getElem?_append_right (Nat.le_add_right _ _),
      Nat.add_sub_cancel_left, List.getElem?_cons_succ] at held
    have other := postOther found (List.mem_of_getElem? held)
    exact absurd (other.symm.trans isMethod) Bool.false_ne_true

theorem runAll_keeps {handlers : List Handler} (keep : ∀ handler ∈ handlers, handler.Keeps)
    {context : Context} (answered : context.isAnswered = true) :
    (runAll handlers context).2.isAnswered = true := by
  induction handlers generalizing context with
  | nil => exact answered
  | cons handler rest ih =>
      obtain ⟨first, others⟩ := List.forall_mem_cons.mp keep
      rw [runAll_cons]
      split
      · exact ih others (first context answered)
      · exact first context answered

/-- When handlers leave a request unanswered, so did each of their runs. -/
theorem unanswered_of_mem_log {layer : Nat} {handlers : List (Handler × Nat)} {context : Context}
    (keep : ∀ handler ∈ handlers.map Prod.fst, handler.Keeps)
    (unanswered : (runAll (handlers.map Prod.fst) context).2.isAnswered = false)
    {run : HandlerRun} (member : run ∈ log layer handlers context) :
    run.result.2.isAnswered = false := by
  induction handlers generalizing context with
  | nil => simp [log] at member
  | cons head rest ih =>
      obtain ⟨_, others⟩ := List.forall_mem_cons.mp keep
      rw [List.map_cons, runAll_cons] at unanswered
      rw [log] at member
      split at unanswered
      · next goesOn =>
          rw [if_pos goesOn] at member
          rcases List.mem_cons.mp member with rfl | member
          · by_contra answered
            rw [Bool.not_eq_false] at answered
            have still := runAll_keeps others answered
            exact Bool.false_ne_true (unanswered.symm.trans still)
          · exact ih others unanswered member
      · next stops =>
          rw [if_neg stops, List.mem_singleton] at member
          rw [member]
          exact unanswered

end Handler

/-! ## Calls of a controller -/

namespace MethodHandler

variable (handler : MethodHandler) (context : Context)

/-- Run the handler with a controller that has effects. -/
def runWith {m : Type → Type} [Monad m]
    (call : ControllerInput → m (Except Failure ControllerReply)) :
    m (Except Failure Flow × Context) :=
  match handler.input context with
  | .error failure => pure (.error (.validation failure), context)
  | .ok input => do
      match ← call input with
      | .error failure => return (.error failure, context)
      | .ok reply =>
          return (.ok .next,
            context.respond reply.status (reply.result.filter fun value => !isEmptyResult value))

/-- The plain run is the one without effects. -/
theorem run_eq_runWith :
    handler.run context =
      Id.run (handler.runWith context fun input => handler.controller input) := by
  unfold run runWith
  cases handler.input context with
  | error failure => rfl
  | ok input =>
      dsimp only [Id.run, bind]
      cases handler.controller input <;> rfl

/-- Run the handler, and list what its controller is called with, one call after the
other. -/
def runLogged : (Except Failure Flow × Context) × List ControllerInput :=
  (handler.runWith (m := StateM (List ControllerInput)) context fun input => do
    modify (· ++ [input])
    return handler.controller input).run []

theorem runLogged_eq_of_invalid {failure : ValidationFailure}
    (invalid : handler.input context = .error failure) :
    handler.runLogged context = ((.error (.validation failure), context), []) := by
  unfold runLogged runWith
  rw [invalid]
  rfl

theorem runLogged_eq_of_valid {input : ControllerInput}
    (valid : handler.input context = .ok input) :
    handler.runLogged context = (handler.run context, [input]) := by
  unfold runLogged runWith run
  rw [valid]
  dsimp only
  cases handler.controller input <;> rfl

/-- Counting the calls changes nothing. -/
theorem runLogged_fst : (handler.runLogged context).1 = handler.run context := by
  cases valid : handler.input context with
  | error failure =>
      rw [handler.runLogged_eq_of_invalid context valid, run, valid]
  | ok input => rw [handler.runLogged_eq_of_valid context valid]

end MethodHandler

namespace HandlerRun

/-- The run calls a controller: its handler is one of a method, and the parameters are
valid. -/
def callsController (run : HandlerRun) : Bool :=
  match run.handler with
  | .method handler => (handler.input run.before).isOk
  | _ => false

theorem isMethod_of_callsController {run : HandlerRun} (calls : run.callsController = true) :
    run.handler.isMethod = true := by
  unfold callsController at calls
  split at calls
  · next handler same => rw [same]; rfl
  · contradiction

/-- A run that calls its controller calls it once, with the input of its handler. -/
theorem exists_runLogged_of_callsController {run : HandlerRun}
    (calls : run.callsController = true) :
    ∃ handler input, run.handler = .method handler ∧ handler.input run.before = .ok input ∧
      handler.runLogged run.before = (run.result, [input]) := by
  unfold callsController at calls
  split at calls
  · next handler same =>
      cases valid : handler.input run.before with
      | error failure =>
          rw [valid] at calls
          cases calls
      | ok input =>
          refine ⟨handler, input, same, valid, ?_⟩
          rw [handler.runLogged_eq_of_valid run.before valid, result, same, Handler.run]
  · contradiction

/-- Any other run of a method handler does not call its controller. -/
theorem runLogged_of_not_callsController {run : HandlerRun} {handler : MethodHandler}
    (same : run.handler = .method handler) (silent : run.callsController = false) :
    handler.runLogged run.before = (run.result, []) := by
  rw [callsController, same] at silent
  dsimp only at silent
  cases received : handler.input run.before with
  | error failure =>
      have logged := handler.runLogged_eq_of_invalid run.before received
      rw [result, same, Handler.run, ← handler.runLogged_fst, logged]
  | ok input =>
      rw [received] at silent
      cases silent

/-- What the controller is called with in a run, one call after the other. -/
def calls (run : HandlerRun) : List ControllerInput :=
  match run.handler with
  | .method handler => (handler.runLogged run.before).2
  | _ => []

/-- The runs of a log that call a controller are as many as the calls. -/
theorem length_flatMap_calls (log : List HandlerRun) :
    (log.flatMap calls).length = log.countP callsController := by
  have each (run : HandlerRun) : run.calls.length = if run.callsController then 1 else 0 := by
    cases called : run.callsController with
    | true =>
        obtain ⟨handler, input, same, _, logged⟩ := exists_runLogged_of_callsController called
        simp [calls, same, logged]
    | false =>
        unfold calls
        split
        · next handler same => simp [runLogged_of_not_callsController same called]
        · rfl
  induction log with
  | nil => rfl
  | cons run rest ih =>
      rw [List.flatMap_cons, List.length_append, ih, each, List.countP_cons, Nat.add_comm]

end HandlerRun

namespace Layer

/-- The handlers of the layer take no response back, and at most one of them calls a
controller; in a mount none does. -/
structure Sound (layer : Layer) : Prop where
  keep : ∀ handler ∈ layer.handlers, handler.Keeps
  mount : layer.kind = .mount → ∀ handler ∈ layer.handlers, handler.isMethod = false
  single : layer.handlers.countP Handler.isMethod ≤ 1

namespace Sound

variable {layer : Layer} (sound : layer.Sound)

include sound

theorem run_keeps {context : Context} (answered : context.isAnswered = true) :
    (layer.run context).2.isAnswered = true := by
  unfold run
  split
  · exact answered
  · exact Handler.runAll_keeps sound.keep answered

/-- When a layer leaves a request unanswered, so did each of its runs. -/
theorem unanswered_of_mem_log {position : Nat} {context : Context}
    (unanswered : (layer.run context).2.isAnswered = false) {run : HandlerRun}
    (member : run ∈ layer.log position context) : run.result.2.isAnswered = false := by
  unfold log at member
  unfold Layer.run at unanswered
  split at member
  · simp at member
  · next captures applies =>
      rw [applies] at unanswered
      apply Handler.unanswered_of_mem_log _ _ member
      · rw [List.zipIdx_map_fst]
        exact sound.keep
      · rw [List.zipIdx_map_fst]
        exact unanswered

/-- A layer calls no controller for a request that is answered. -/
theorem not_callsController_of_answered {position : Nat} {context : Context}
    (answered : context.isAnswered = true) {run : HandlerRun}
    (member : run ∈ layer.log position context) : run.callsController = false := by
  by_contra calls
  rw [Bool.not_eq_false] at calls
  have isMethod := HandlerRun.isMethod_of_callsController calls
  have held := List.mem_of_getElem? (Layer.getElem?_place_of_mem_log member)
  cases kind : layer.kind with
  | mount => exact Bool.false_ne_true ((sound.mount kind run.handler held).symm.trans isMethod)
  | route verb =>
      obtain ⟨captures, applies⟩ :=
        Option.isSome_iff_exists.mp (Layer.captures?_isSome_of_mem_log member)
      obtain ⟨unanswered, _⟩ := (Layer.captures?_eq_some_iff_of_route kind).mp applies
      exact Bool.false_ne_true (unanswered.symm.trans answered)

/-- A layer calls at most one controller. -/
theorem countP_log_le_one (position : Nat) (context : Context) :
    (layer.log position context).countP HandlerRun.callsController ≤ 1 := by
  have handlers : ((layer.log position context).map HandlerRun.handler).Sublist
      layer.handlers := by
    have leading := ((layer.log_numbered_isPrefix position context).map Prod.fst).sublist
    rw [List.zipIdx_map_fst, List.map_map] at leading
    exact leading
  calc
    (layer.log position context).countP HandlerRun.callsController
      ≤ (layer.log position context).countP (Handler.isMethod ∘ HandlerRun.handler) :=
        List.countP_mono_left fun run _ => HandlerRun.isMethod_of_callsController
    _ = ((layer.log position context).map HandlerRun.handler).countP Handler.isMethod :=
        List.countP_map.symm
    _ ≤ layer.handlers.countP Handler.isMethod := handlers.countP_le
    _ ≤ 1 := sound.single

/-- A layer that has called a controller and goes on leaves the request answered. -/
theorem answered_of_callsController {position : Nat} {context : Context} {run : HandlerRun}
    (member : run ∈ layer.log position context) (calls : run.callsController = true)
    (goesOn : (layer.run context).1 = .ok .next) : (layer.run context).2.isAnswered = true := by
  by_contra unanswered
  rw [Bool.not_eq_true] at unanswered
  have wentOn := (layer.forall_wentOn_log_iff position context).mpr goesOn run member
  have answered := Handler.isAnswered_of_goesOn
    (HandlerRun.isMethod_of_callsController calls) wentOn
  have still := sound.unanswered_of_mem_log unanswered member
  exact Bool.false_ne_true (still.symm.trans answered)

end Sound

end Layer

/-- In the log a layer was run to its end: each of its handlers ran once and went on,
and left the request unanswered. -/
structure RanThrough (log : List HandlerRun) (layer : Layer) (position : Nat) : Prop where
  complete : (log.filter fun run => run.layer = position).map HandlerRun.numbered =
    layer.handlers.zipIdx
  wentOn : ∀ run ∈ log, run.layer = position → run.WentOn
  unanswered : ∀ run ∈ log, run.layer = position → run.result.2.isAnswered = false

namespace RanThrough

variable {first second : List HandlerRun} {layer : Layer} {position : Nat}

theorem append_left (ran : RanThrough first layer position)
    (apart : ∀ run ∈ second, run.layer ≠ position) :
    RanThrough (first ++ second) layer position := by
  constructor
  · have nothing : second.filter (fun run => run.layer = position) = [] := by
      apply List.filter_eq_nil_iff.mpr
      intro run member
      simpa using apart run member
    rw [List.filter_append, nothing, List.append_nil]
    exact ran.complete
  · intro run member here
    rcases List.mem_append.mp member with member | member
    · exact ran.wentOn run member here
    · exact absurd here (apart run member)
  · intro run member here
    rcases List.mem_append.mp member with member | member
    · exact ran.unanswered run member here
    · exact absurd here (apart run member)

theorem append_right (ran : RanThrough second layer position)
    (apart : ∀ run ∈ first, run.layer ≠ position) :
    RanThrough (first ++ second) layer position := by
  constructor
  · have nothing : first.filter (fun run => run.layer = position) = [] := by
      apply List.filter_eq_nil_iff.mpr
      intro run member
      simpa using apart run member
    rw [List.filter_append, nothing, List.nil_append]
    exact ran.complete
  · intro run member here
    rcases List.mem_append.mp member with member | member
    · exact absurd here (apart run member)
    · exact ran.wentOn run member here
  · intro run member here
    rcases List.mem_append.mp member with member | member
    · exact absurd here (apart run member)
    · exact ran.unanswered run member here

end RanThrough

theorem Layer.Sound.ranThrough {layer : Layer} (sound : layer.Sound) {position : Nat}
    {context : Context} (applies : (layer.captures? context).isSome)
    (goesOn : (layer.run context).1 = .ok .next)
    (unanswered : (layer.run context).2.isAnswered = false) :
    RanThrough (layer.log position context) layer position := by
  have wentOn := (layer.forall_wentOn_log_iff position context).mpr goesOn
  constructor
  · rw [List.filter_eq_self.mpr]
    · exact Layer.log_numbered_eq applies wentOn
    · intro run member
      simpa using Layer.layer_of_mem_log member
  · intro run member _
    exact wentOn run member
  · intro run member _
    exact sound.unanswered_of_mem_log unanswered member

namespace Layer

theorem captures?_isSome_of_route {layer : Layer} {verb : Verb} {context : Context}
    (kind : layer.kind = .route verb) (unanswered : context.isAnswered = false)
    (accepts : verb.accepts context.method = true)
    (matched : (layer.pattern.matchExact context.path).isSome) :
    (layer.captures? context).isSome := by
  obtain ⟨captures, bound⟩ := Option.isSome_iff_exists.mp matched
  exact Option.isSome_of_eq_some
    ((captures?_eq_some_iff_of_route kind).mpr ⟨unanswered, accepts, bound⟩)

end Layer

namespace Router

variable {layers : List (Layer × Nat)} (sound : ∀ numbered ∈ layers, numbered.1.Sound)

include sound

/-- No controller is called for a request that is answered. -/
theorem not_callsController_of_answered {context : Context} (answered : context.isAnswered = true)
    {run : HandlerRun} (member : run ∈ logLayers layers context) : run.callsController = false := by
  induction layers generalizing context with
  | nil => simp [logLayers] at member
  | cons head rest ih =>
      obtain ⟨layer, position⟩ := head
      obtain ⟨headSound, restSound⟩ := List.forall_mem_cons.mp sound
      rw [logLayers] at member
      rcases List.mem_append.mp member with member | member
      · exact headSound.not_callsController_of_answered answered member
      · split at member
        · exact ih restSound (headSound.run_keeps answered) member
        · simp at member

/-- At most one controller is called. -/
theorem countP_logLayers_le_one (context : Context) :
    (logLayers layers context).countP HandlerRun.callsController ≤ 1 := by
  induction layers generalizing context with
  | nil => exact Nat.zero_le 1
  | cons head rest ih =>
      obtain ⟨layer, position⟩ := head
      obtain ⟨headSound, restSound⟩ := List.forall_mem_cons.mp sound
      have headCalls := headSound.countP_log_le_one position context
      rw [logLayers, List.countP_append]
      split
      · next goesOn =>
          by_cases called : ∃ run ∈ layer.log position context, run.callsController = true
          · obtain ⟨run, member, calls⟩ := called
            have answered := headSound.answered_of_callsController member calls goesOn
            have others : (logLayers rest (layer.run context).2).countP
                HandlerRun.callsController = 0 := by
              apply List.countP_eq_zero.mpr
              intro later laterMem
              rw [not_callsController_of_answered restSound answered laterMem]
              exact Bool.false_ne_true
            rw [others]
            exact headCalls
          · have none : (layer.log position context).countP HandlerRun.callsController = 0 := by
              apply List.countP_eq_zero.mpr
              intro run member calls
              exact called ⟨run, member, calls⟩
            rw [none, Nat.zero_add]
            exact ih restSound _
      · exact headCalls

/-- When a controller is called, every earlier route that the request matches was run
to its end without an answer. -/
theorem ranThrough_of_callsController (ordered : (layers.map Prod.snd).Pairwise (· < ·))
    {context request : Context} (same : context.SameRequest request) {run : HandlerRun}
    (member : run ∈ logLayers layers context) (calls : run.callsController = true)
    {layer : Layer} {position : Nat} {verb : Verb} (earlier : position < run.layer)
    (present : (layer, position) ∈ layers) (kind : layer.kind = .route verb)
    (accepts : verb.accepts request.method = true)
    (matched : (layer.pattern.matchExact request.path).isSome) :
    RanThrough (logLayers layers context) layer position := by
  induction layers generalizing context with
  | nil => simp at present
  | cons head rest ih =>
      obtain ⟨first, place⟩ := head
      obtain ⟨headSound, restSound⟩ := List.forall_mem_cons.mp sound
      obtain ⟨before, restOrdered⟩ := List.pairwise_cons.mp ordered
      have later : ∀ numbered ∈ rest, place < numbered.2 := by
        intro numbered numberedMem
        exact before numbered.2 (List.mem_map_of_mem numberedMem)
      have unanswered : context.isAnswered = false := by
        by_contra answered
        rw [Bool.not_eq_false] at answered
        have silent := not_callsController_of_answered sound answered member
        exact Bool.false_ne_true (silent.symm.trans calls)
      rw [logLayers] at member ⊢
      rcases List.mem_append.mp member with here | further
      · -- The controller is in the first layer, so no layer stands before it.
        have place_eq := Layer.layer_of_mem_log here
        rcases List.mem_cons.mp present with head_eq | present
        · cases head_eq
          omega
        · have beyond := later _ present
          omega
      · split at further
        · next goesOn =>
            rw [if_pos goesOn]
            rcases List.mem_cons.mp present with head_eq | present
            · cases head_eq
              apply RanThrough.append_left
              · apply headSound.ranThrough _ goesOn
                · by_contra answered
                  rw [Bool.not_eq_false] at answered
                  have silent := not_callsController_of_answered restSound answered further
                  exact Bool.false_ne_true (silent.symm.trans calls)
                · rw [← same.1] at accepts
                  rw [← same.2] at matched
                  exact Layer.captures?_isSome_of_route kind unanswered accepts matched
              · intro other otherMem
                obtain ⟨found, _, foundMem, _⟩ := exists_layer_of_mem_logLayers otherMem
                exact (later _ foundMem).ne'
            · apply RanThrough.append_right
              · exact ih restSound restOrdered
                  ((first.run_sameRequest context).trans same) further present
              · intro other otherMem
                rw [Layer.layer_of_mem_log otherMem]
                exact (later _ present).ne
        · simp at further

end Router

end RoutePlan
