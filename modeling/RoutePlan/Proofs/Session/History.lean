import RoutePlan.Proofs.Session.Run

/-!
# Steps that leave no trace

The history of a session lists what was done with it, steps and questions, each with the
session that it found and what it answered.  A document that does not compile and a load
without a tree to load leave the session as it was.  So a history without such steps is
the history of the other steps alone, whatever the steps are and wherever they stand.
-/

namespace RoutePlan.Session

/-- Something that is done with a session: a step, or a question. -/
inductive Action where
  | step (step : Step)
  /-- The compiled tree. -/
  | elements
  /-- The compiled tree as text. -/
  | render
  /-- The routes that the tree lists. -/
  | routes
  /-- The layers of the router. -/
  | registrations
  /-- The routes that the router has registered. -/
  | registeredRoutes
  /-- The whole session as text. -/
  | inspect
  | dispatch (request : Context)
  | handle (request : Context)

/-- What an action answers. -/
inductive Answer where
  | done (phase : Phase) (error : Option PlanError) (warnings : List Warning)
  | elements (forest : List Element)
  | text (text : String)
  | routes (routes : List ListedRoute)
  | registrations (layers : List Layer)
  | registeredRoutes (routes : List (Verb × String))
  | dispatched (outcome : Except Failure Unit) (context : Context)
  | response (response : Response)

/-- The answer of an action. -/
def answer (session : Session) : Action → Answer
  | .step step =>
      let after := session.step step
      .done after.session.phase after.error after.warnings
  | .elements => .elements session.forest
  | .render => .text session.render
  | .routes => .routes session.routes
  | .registrations => .registrations session.router.layers
  | .registeredRoutes => .registeredRoutes session.router.routes
  | .inspect => .text session.inspect
  | .dispatch request =>
      let (outcome, context) := session.router.dispatch request
      .dispatched outcome context
  | .handle request => .response (session.router.handle request)

/-- The session after an action.  Questions change nothing. -/
def after (session : Session) : Action → Session
  | .step step => (session.step step).session
  | _ => session

/-- The session after actions one after the other. -/
def perform (session : Session) (actions : List Action) : Session :=
  actions.foldl after session

/-- An action with the session that it found and its answer. -/
structure Event where
  session : Session
  action : Action
  answer : Answer

namespace Event

/-- The event is a document that does not compile, or a load without a compiled tree that
is still to be loaded. -/
def isIdle (event : Event) : Bool :=
  match event.action with
  | .step .load => event.session.phase != .compiled
  | .step (.changeFiles _) => false
  | .step parse => (event.session.step parse).error.isSome
  | _ => false

end Event

/-- What is done with a session, and what it answers. -/
def history (session : Session) : List Action → List Event
  | [] => []
  | action :: rest =>
      ⟨session, action, session.answer action⟩ :: history (session.after action) rest

theorem adopt_of_error {session : Session} {compilation : Checked (List Element)}
    (failed : (session.adopt compilation).error.isSome) :
    (session.adopt compilation).session = session := by
  unfold adopt at *
  split at failed
  · rfl
  · contradiction

/-- An idle event leaves the session as it was. -/
theorem after_of_isIdle {session : Session} {action : Action}
    (idle : Event.isIdle ⟨session, action, session.answer action⟩ = true) :
    session.after action = session := by
  cases action with
  | step step =>
      cases step with
      | parseValue document => exact adopt_of_error idle
      | parseText text => exact adopt_of_error idle
      | parseFile name => exact adopt_of_error idle
      | load => exact load_of_phase_ne (by simpa [Event.isIdle] using idle)
      | changeFiles files => cases idle
  | _ => rfl

theorem layers_prefix_after (session : Session) (action : Action) :
    session.router.layers <+: (session.after action).router.layers := by
  cases action with
  | step step => exact session.layers_prefix_step step
  | _ => exact List.prefix_rfl

theorem layers_prefix_perform (session : Session) (actions : List Action) :
    session.router.layers <+: (session.perform actions).router.layers := by
  induction actions generalizing session with
  | nil => exact List.prefix_rfl
  | cons action rest ih => exact (session.layers_prefix_after action).trans (ih _)

theorem layers_prefix_of_mem_history {session : Session} {actions : List Action} {event : Event}
    (member : event ∈ session.history actions) :
    session.router.layers <+: event.session.router.layers ∧
      event.session.router.layers <+: (session.perform actions).router.layers := by
  induction actions generalizing session with
  | nil => simp [history] at member
  | cons action rest ih =>
      rcases List.mem_cons.mp member with rfl | member
      · exact ⟨List.prefix_rfl, session.layers_prefix_perform (action :: rest)⟩
      · obtain ⟨begun, kept⟩ := ih member
        exact ⟨(session.layers_prefix_after action).trans begun, kept⟩

/-- The layers that a session has found are the leading ones of every later session. -/
theorem pairwise_layers_prefix_history (session : Session) (actions : List Action) :
    (session.history actions).Pairwise fun earlier later =>
      earlier.session.router.layers <+: later.session.router.layers := by
  induction actions generalizing session with
  | nil => exact .nil
  | cons action rest ih =>
      refine .cons ?_ (ih _)
      intro event member
      exact (session.layers_prefix_after action).trans (layers_prefix_of_mem_history member).1

/-- The actions of a history that are not idle. -/
def lasting (session : Session) (actions : List Action) : List Action :=
  ((session.history actions).filter fun event => !event.isIdle).map Event.action

theorem lasting_cons (session : Session) (action : Action) (rest : List Action) :
    session.lasting (action :: rest) =
      if Event.isIdle ⟨session, action, session.answer action⟩ then session.lasting rest
      else action :: (session.after action).lasting rest := by
  unfold lasting
  rw [history]
  split
  · next idle =>
      rw [List.filter_cons_of_neg (by simp [idle]), after_of_isIdle idle]
  · next lasts =>
      rw [List.filter_cons_of_pos (by simpa using lasts), List.map_cons]

theorem perform_lasting (session : Session) (actions : List Action) :
    session.perform (session.lasting actions) = session.perform actions := by
  induction actions generalizing session with
  | nil => rfl
  | cons action rest ih =>
      rw [lasting_cons]
      split
      · next idle =>
          rw [ih, perform, perform, List.foldl_cons, after_of_isIdle idle]
      · exact ih _

/-- The history of the actions that are not idle is the history without the idle
events. -/
theorem history_lasting (session : Session) (actions : List Action) :
    session.history (session.lasting actions) =
      (session.history actions).filter fun event => !event.isIdle := by
  induction actions generalizing session with
  | nil => rfl
  | cons action rest ih =>
      rw [lasting_cons, history]
      split
      · next idle =>
          rw [List.filter_cons_of_neg (by simp [idle]), ih, after_of_isIdle idle]
      · next lasts =>
          rw [List.filter_cons_of_pos (by simpa using lasts), history, ih]

/-- Leaving out every document that does not compile and every load that finds nothing to
load changes nothing else: the other actions find the same sessions and answer the same,
and the session in the end is the same.  The layers that any action finds are the
leading ones of those that every later action finds, and of those in the end. -/
theorem idle_events_leave_no_trace (session : Session) (actions : List Action) :
    session.history (session.lasting actions) =
        (session.history actions).filter (fun event => !event.isIdle) ∧
      session.perform (session.lasting actions) = session.perform actions ∧
      (session.history actions).Pairwise (fun earlier later =>
        earlier.session.router.layers <+: later.session.router.layers) ∧
      ∀ event ∈ session.history actions,
        event.session.router.layers <+: (session.perform actions).router.layers :=
  ⟨session.history_lasting actions, session.perform_lasting actions,
    session.pairwise_layers_prefix_history actions,
    fun _ member => (layers_prefix_of_mem_history member).2⟩

end RoutePlan.Session
