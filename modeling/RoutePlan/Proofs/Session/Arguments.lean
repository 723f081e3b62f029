import RoutePlan.Proofs.Dispatch.Arguments
import RoutePlan.Proofs.Session.PathParameters

/-!
# Arguments that middlewares pass to controllers

Every load of a tree registers an initializer before the layers of the tree.  So from
the first load on, the arguments that a request arrives with do not matter.  And between
the initializer of a load and the last of its layers no other initializer stands: what
the middlewares of a load write reaches the controllers of the same load.
-/

namespace RoutePlan

namespace Modules

/-- No registered handler removes a key from the bag of arguments. -/
def KeepArgs (modules : Modules) : Prop :=
  ∀ name base handler, modules.handlers.lookup? name base = some handler →
    (Handler.custom handler).KeepsArgs

end Modules

namespace Entries

/-- An insertion keeps every key. -/
theorem isSome_lookup_insert {key other : String} {value : Value} {entries : Entries String Value}
    (held : (entries.lookup other).isSome) : ((insert key value entries).lookup other).isSome := by
  by_cases same : other = key
  · rw [same, lookup_insert_self]
    rfl
  · rwa [lookup_insert_of_ne value same]

end Entries

namespace Script

/-- No step of a script removes a key from the bag. -/
theorem runStep_keepsArgs {context : Context} {key : String}
    (held : (context.args.lookup key).isSome) (step : HandlerStep) :
    ((runStep context step).context.args.lookup key).isSome := by
  cases step with
  | extra written value => exact Entries.isSome_lookup_insert held
  | append written value =>
      simp only [runStep, Effect.context, appendArg]
      split
      · exact Entries.isSome_lookup_insert held
      · exact Entries.isSome_lookup_insert held
      · exact held
  | need header written status =>
      simp only [runStep]
      split
      · exact Entries.isSome_lookup_insert held
      · exact held
  | _ => exact held

/-- Scripted handlers remove no key from the bag. -/
theorem handler_keepsArgs (steps : List HandlerStep) :
    (Handler.custom (handler steps)).KeepsArgs := by
  intro context key held
  have preserved (between : Context) (still : (between.args.lookup key).isSome)
      (step : HandlerStep) : ((runStep between step).context.args.lookup key).isSome :=
    runStep_keepsArgs still step
  exact runHandler_preserves preserved steps held

end Script

/-- A controller gets the bag of the request as its extra arguments. -/
theorem MethodHandler.extra_of_input {handler : MethodHandler} {context : Context}
    {input : ControllerInput} (valid : handler.input context = .ok input) :
    input.extra = context.args := by
  obtain ⟨_, _, valid⟩ := bind_eq_ok_iff.mp valid
  obtain ⟨_, _, same⟩ := bind_eq_ok_iff.mp valid
  cases same
  rfl

namespace Session

/-- The layer at a position of the stack is one that the load of the session registers. -/
def RegistersLayer (session : Session) (position : Nat) : Prop :=
  session.firstLayer ≤ position ∧ position < session.firstLayer + session.loaded.layers.length

instance (session : Session) (position : Nat) : Decidable (session.RegistersLayer position) :=
  inferInstanceAs (Decidable (_ ∧ _))

/-- Among some runs, those in layers that the load of the session registers. -/
def ownRuns (session : Session) (runs : List HandlerRun) : List HandlerRun :=
  runs.filter fun run => session.RegistersLayer run.layer

variable {sources : Element.Sources} {modules : Modules} {steps : List Step}

/-- From the first load on, the stack begins with an initializer. -/
theorem exists_layers_eq_cons (loads : (start sources modules).attempts steps ≠ []) :
    ∃ rest, ((start sources modules).run steps).router.layers =
      .mount "/" .initializer :: rest := by
  obtain ⟨some, member⟩ := List.exists_mem_of_ne_nil _ loads
  have filled : 0 < ((start sources modules).run steps).router.layers.length :=
    Nat.lt_of_le_of_lt (Nat.zero_le _)
      (List.getElem?_eq_some_iff.mp (initializer_of_mem_attempts member)).1
  obtain ⟨attempt, member, found⟩ := exists_attempt_of_lt (Nat.zero_le 0) filled
  rcases found with first | ⟨place, _, first⟩
  · have initial := initializer_of_mem_attempts member
    rw [← first, ← List.head?_eq_getElem?] at initial
    exact ⟨_, List.eq_cons_of_mem_head? initial⟩
  · -- a layer of the tree stands behind an initializer
    unfold firstLayer at first
    omega

section Block

variable {attempt : Session} (member : attempt ∈ (start sources modules).attempts steps)

include member

/-- The handlers in the layers of a load are registered handlers and method handlers. -/
theorem keepsArgs_of_registersLayer (keep : modules.KeepArgs) {request : Context}
    {run : HandlerRun} (logged : run ∈ ((start sources modules).run steps).router.log request)
    (own : attempt.RegistersLayer run.layer) : run.handler.KeepsArgs := by
  obtain ⟨layer, entered, present, _, inLayer, _⟩ := Router.exists_layer_of_mem_log logged
  obtain ⟨place, here⟩ := Nat.exists_eq_add_of_le own.1
  have within : place < attempt.loaded.layers.length := by
    have below := own.2
    omega
  have declared :=
    List.getElem?_eq_getElem (Nat.lt_of_lt_of_le within (load_layers_length_le _ _ _))
  obtain ⟨made, presentHere, made_eq⟩ := layer_of_registered member declared within
  rw [here] at present
  cases Option.some.inj (present.symm.trans presentHere)
  exact Modules.forall_mem_handlers_of_layer_eq_ok keep Handler.method_keepsArgs made_eq _
    (List.mem_of_getElem? (Layer.getElem?_place_of_mem_log inLayer))

/-- What a method of a load finds in the bag is what the layers of this load have
written. -/
theorem lookup_before_iff_ownRuns (keep : modules.KeepArgs) {request : Context} {time : Nat}
    {run : HandlerRun}
    (logged : (((start sources modules).run steps).router.log request)[time]? = some run)
    (own : attempt.RegistersLayer run.layer) {key : String} {value : Value} :
    run.before.args.lookup key = some value ↔
      HandlerRun.LastWrites
        (attempt.ownRuns ((((start sources modules).run steps).router.log request).take time))
        key value := by
  have ordered := Router.pairwise_precedes_log ((start sources modules).run steps).router request
  have ownIff : ∀ earlier ∈ (((start sources modules).run steps).router.log request).take time,
      attempt.RegistersLayer earlier.layer ↔ attempt.router.layers.length < earlier.layer := by
    intro earlier taken
    have before := HandlerRun.precedes_of_mem_take ordered logged taken
    unfold HandlerRun.Precedes Spot.Precedes at before
    unfold RegistersLayer firstLayer at *
    omega
  rw [Router.lookup_before_iff (initializer_of_mem_attempts member) logged own.1, ownRuns]
  · apply Iff.of_eq
    congr 1
    apply List.filter_congr
    intro earlier taken
    simp only [ownIff earlier taken]
  · intro earlier taken behind
    exact keepsArgs_of_registersLayer member keep (List.mem_of_mem_take taken)
      ((ownIff earlier taken).mpr behind)

/-- A key that a run of a load leaves in the bag was written by the load. -/
theorem exists_writes_of_lookup_result (keep : modules.KeepArgs) {request : Context} {time : Nat}
    {run : HandlerRun}
    (logged : (((start sources modules).run steps).router.log request)[time]? = some run)
    (own : attempt.RegistersLayer run.layer) {key : String} {value : Value}
    (left : run.result.2.args.lookup key = some value) :
    ∃ writer ∈ attempt.ownRuns
        ((((start sources modules).run steps).router.log request).take (time + 1)),
      ∃ other, writer.Writes key other := by
  have keeps := keepsArgs_of_registersLayer member keep (List.mem_of_getElem? logged) own
  rcases (HandlerRun.lookup_result_iff keeps).mp left with writes | ⟨found, _⟩
  · have taken : run ∈ (((start sources modules).run steps).router.log request).take
        (time + 1) := by
      apply List.mem_of_getElem?
      rw [List.getElem?_take_of_lt (Nat.lt_succ_self time), logged]
    exact ⟨run, List.mem_filter.mpr ⟨taken, decide_eq_true own⟩, value, writes⟩
  · obtain ⟨before, writer, after, split, writes, _⟩ :=
      (lookup_before_iff_ownRuns member keep logged own).mp found
    have among : writer ∈ attempt.ownRuns
        ((((start sources modules).run steps).router.log request).take time) := by
      rw [split]
      exact List.mem_append_right _ List.mem_cons_self
    obtain ⟨taken, ownWriter⟩ := List.mem_filter.mp among
    have sooner := List.take_subset_take_left
      (((start sources modules).run steps).router.log request) (Nat.le_succ time)
    exact ⟨writer, List.mem_filter.mpr ⟨sooner taken, ownWriter⟩, value, writes⟩

end Block

/-- The bag of arguments is that of the request, and nothing in it is lost.  Once a
compiled tree was loaded, in full or in part, a dispatch does not depend on the arguments
that the request arrives with.  And when handlers remove no keys, a controller that is
called gets as its extra arguments exactly what the layers of its own load have written
before it in this dispatch, each key with the value that was written last; it gets every
key that one of them has left in the bag. -/
theorem arguments_per_request_and_kept (sources : Element.Sources) (modules : Modules)
    (steps : List Step) :
    ((start sources modules).attempts steps ≠ [] →
      ∀ (request : Context) args,
        ((start sources modules).run steps).router.dispatch { request with args } =
          ((start sources modules).run steps).router.dispatch request) ∧
    (modules.KeepArgs →
      ∀ (request : Context) (time : Nat) run,
        (((start sources modules).run steps).router.log request)[time]? = some run →
        run.callsController = true →
        ∃ attempt ∈ (start sources modules).attempts steps, ∃ site ∈ attempt.sites,
          attempt.Registers site ∧ run.toSpot = site.spot attempt.firstLayer ∧
          ∃ handler input, run.handler = .method handler ∧
            handler.input run.before = .ok input ∧
            (∀ key value, input.extra.lookup key = some value ↔
              HandlerRun.LastWrites (attempt.ownRuns
                ((((start sources modules).run steps).router.log request).take time))
                key value) ∧
            ∀ earlier ∈ attempt.ownRuns
                ((((start sources modules).run steps).router.log request).take time),
              ∀ key, (earlier.result.2.args.lookup key).isSome →
                (input.extra.lookup key).isSome) := by
  constructor
  · intro loads request args
    obtain ⟨rest, layers_eq⟩ := exists_layers_eq_cons loads
    rw [Router.dispatch_eq, Router.dispatch_eq, layers_eq, Router.runLayers_initializer,
      Router.runLayers_initializer]
  · intro keep request time run logged calls
    have isMethod := HandlerRun.isMethod_of_callsController calls
    obtain ⟨attempt, member, site, declared, registered, here, _⟩ :=
      exists_site_of_isMethod (List.mem_of_getElem? logged) isMethod
    obtain ⟨handler, input, wrapped, valid⟩ := HandlerRun.exists_input_of_callsController calls
    have own : attempt.RegistersLayer run.layer := by
      rw [show run.layer = attempt.firstLayer + site.position from congrArg Spot.layer here]
      exact ⟨Nat.le_add_right _ _, Nat.add_lt_add_left registered _⟩
    have written (key : String) (value : Value) : input.extra.lookup key = some value ↔
        HandlerRun.LastWrites (attempt.ownRuns
          ((((start sources modules).run steps).router.log request).take time)) key value := by
      rw [MethodHandler.extra_of_input valid]
      exact lookup_before_iff_ownRuns member keep logged own
    refine ⟨attempt, member, site, declared, registered, here, handler, input, wrapped, valid,
      written, ?_⟩
    intro earlier among key left
    obtain ⟨value, left⟩ := Option.isSome_iff_exists.mp left
    obtain ⟨taken, ownEarlier⟩ := List.mem_filter.mp among
    obtain ⟨sooner, earlierLogged⟩ := List.mem_iff_getElem?.mp taken
    have before : sooner < time :=
      Nat.lt_of_lt_of_le (List.getElem?_eq_some_iff.mp earlierLogged).1 (List.length_take_le _ _)
    rw [List.getElem?_take_of_lt before] at earlierLogged
    obtain ⟨writer, writerAmong, other, writes⟩ :=
      exists_writes_of_lookup_result member keep earlierLogged (of_decide_eq_true ownEarlier) left
    have leading : attempt.ownRuns
          ((((start sources modules).run steps).router.log request).take (sooner + 1)) ⊆
        attempt.ownRuns ((((start sources modules).run steps).router.log request).take time) :=
      List.filter_subset _ (List.take_subset_take_left _ before)
    obtain ⟨last, lastWrites⟩ := HandlerRun.exists_lastWrites_of_mem (leading writerAmong) writes
    exact Option.isSome_of_eq_some ((written key last).mpr lastWrites)

/-! ## A load that is tried again -/

/-- A root whose middleware notes each request, with a route whose method needs a
middleware of the given name. -/
def notedDocument (middleware : String) : Value :=
  .map [("api", .map [
    ("root", .string "/api"),
    ("pre_middlewares", .list [.string "note"]),
    ("routes", .map [("item", .map [
      ("path", .string "/item"),
      ("methods", .map [("get", .map [
        ("controller", .string "item"),
        ("pre_middlewares", .list [.string middleware])])])])])])]

/-- The controller, and a middleware that puts a note at the end of a list. -/
def notedModules : Modules where
  controllers := Registry.empty.register "controller/item" none (Script.controller [])
  handlers := Registry.empty.register "middleware/note" none
    (Script.handler [.append "notes" (.string "seen")])

/-- The first load stops at a middleware that is not registered, the second one is
complete. -/
def notedSteps : List Step :=
  [.parseValue (notedDocument "gone"), .load, .parseValue (notedDocument "note"), .load]

/-- The session after that. -/
def notedSession : Session :=
  (start ⟨{}, .empty⟩ notedModules).run notedSteps

theorem notedModules_keepArgs : notedModules.KeepArgs := by
  intro name base handler means
  rcases Registry.lookup?_register_cases means with rfl | earlier
  · exact Script.handler_keepsArgs _
  · rw [Registry.lookup?_empty] at earlier
    cases earlier

/-- The middleware runs once for the first load and twice for the second one.  The
controller gets what the second load has written, whatever the request arrives with. -/
theorem noted_arguments :
    (start ⟨{}, .empty⟩ notedModules).attempts notedSteps ≠ [] ∧ notedModules.KeepArgs ∧
      notedSession.router.dispatch
          { Context.bare "/api/item" with args := [("notes", .list [.string "old"])] } =
        notedSession.router.dispatch (.bare "/api/item") ∧
      ∃ run ∈ (notedSession.router.log (.bare "/api/item"))[5]?, run.callsController = true ∧
        ∃ handler input, run.handler = .method handler ∧ handler.input run.before = .ok input ∧
          (input.extra.lookup "notes").isSome := by
  have loads : (start ⟨{}, .empty⟩ notedModules).attempts notedSteps ≠ [] := by
    apply List.ne_nil_of_length_pos
    decide +kernel
  have called : ∃ run ∈ (notedSession.router.log (.bare "/api/item"))[5]?,
      run.callsController = true := by
    decide +kernel
  have noted : ∀ attempt ∈ (start ⟨{}, .empty⟩ notedModules).attempts notedSteps,
      ∀ site ∈ attempt.sites, attempt.Registers site →
        ∃ earlier ∈ attempt.ownRuns ((notedSession.router.log (.bare "/api/item")).take 5),
          (earlier.result.2.args.lookup "notes").isSome := by
    unfold Registers
    decide +kernel
  have keep := notedModules_keepArgs
  obtain ⟨isolated, kept⟩ := arguments_per_request_and_kept ⟨{}, .empty⟩ notedModules notedSteps
  obtain ⟨run, logged, calls⟩ := called
  obtain ⟨attempt, member, site, declared, registered, _, handler, input, wrapped, valid, _,
    keys⟩ := kept keep (.bare "/api/item") 5 run logged calls
  obtain ⟨earlier, among, left⟩ := noted attempt member site declared registered
  exact ⟨loads, keep, isolated loads (.bare "/api/item") [("notes", .list [.string "old"])],
    run, logged, calls, handler, input, wrapped, valid, keys earlier among "notes" left⟩

end Session

end RoutePlan
