import RoutePlan.Proofs.Dispatch.Shadow
import RoutePlan.Proofs.Session.Compile
import RoutePlan.Proofs.Session.SingleController
import RoutePlan.Proofs.Tree.MethodVerbs

/-!
# One method for each verb

The keys of the methods of a route are distinct as texts only.  So a route has two methods
of one verb when two of its keys differ in case or in white space around them, and of these
the later one never runs if the earlier one is validated.
-/

namespace RoutePlan

/-- An earlier method with the same path and verb that leaves no request unanswered. -/
structure Site.Shadows (earlier later : Site) : Prop where
  path : earlier.path = later.path
  verb : earlier.method.verb = later.method.verb
  before : earlier.position < later.position
  validated : earlier.method.validated = true

namespace Session

/-- A method that is shadowed does not run, and neither do its middlewares. -/
theorem layer_ne_of_shadows {sources : Element.Sources} {modules : Modules} (keep : modules.Keep)
    {steps : List Step} {attempt : Session}
    (member : attempt ∈ (start sources modules).attempts steps) {earlier later : Site}
    (earlierDeclared : earlier ∈ attempt.sites) (laterDeclared : later ∈ attempt.sites)
    (shadows : earlier.Shadows later) (registered : attempt.Registers later)
    {request : Context} {run : HandlerRun}
    (logged : run ∈ ((start sources modules).run steps).router.log request) :
    run.layer ≠ attempt.firstLayer + later.position := by
  intro here
  obtain ⟨handler, pre, post, found, _, _, earlierPresent⟩ :=
    layer_of_registers member earlierDeclared (Nat.lt_trans shadows.before registered)
  obtain ⟨_, _, _, _, _, _, laterPresent⟩ := layer_of_registers member laterDeclared registered
  obtain ⟨layer, entered, present, same, inLayer, _⟩ := Router.exists_layer_of_mem_log logged
  rw [here] at present
  cases Option.some.inj (present.symm.trans laterPresent)
  obtain ⟨captures, applies⟩ :=
    Option.isSome_iff_exists.mp (Layer.captures?_isSome_of_mem_log inLayer)
  obtain ⟨_, accepts, matched⟩ := (Layer.captures?_eq_some_iff_of_route rfl).mp applies
  rw [same.1, ← shadows.verb] at accepts
  rw [same.2] at matched
  have isMethod : handler.isMethod = true := by
    rw [Modules.isMethod_methodHandler found, shadows.validated]
  have sound : ∀ numbered ∈ ((start sources modules).run steps).router.layers.zipIdx,
      numbered.1.Sound := by
    intro numbered among
    exact sound_of_layer keep (List.mem_zipIdx_iff_getElem?.mp among)
  have matchedEarlier : ((Layer.route earlier.method.verb earlier.path
      (pre ++ handler :: post)).pattern.matchExact request.path).isSome := by
    rw [shadows.path]
    exact Option.isSome_of_eq_some matched
  obtain ⟨other, among, mount⟩ := Router.exists_mount_behind sound
    (pairwise_snd_zipIdx ((start sources modules).run steps).router.layers 0) (.refl request)
    logged (by rw [here]; exact Nat.add_lt_add_left shadows.before _)
    (List.mk_mem_zipIdx_iff_getElem?.mpr earlierPresent) rfl accepts matchedEarlier
    (List.mem_append_right pre List.mem_cons_self) isMethod
  rw [here, List.mk_mem_zipIdx_iff_getElem?, laterPresent] at among
  cases among
  cases mount

/-- Every route of a compiled tree, at any depth and in any imported file, has the verbs
that the keys of its methods spell, in their order.  So the routes have distinct verbs each
exactly when no two keys of the same methods differ in case and in white space around them
only.  The methods of a route are registered at one path one behind the other, and a method
behind a validated one with its path and its verb does not run for any request. -/
theorem verbs_distinct_iff_spelled_apart (sources : Element.Sources) (modules : Modules)
    (before after : List Step) (step : Step) {document : Value}
    (reads : step.document? ((start sources modules).run before).sources = some (.ok document))
    (compiles : (((start sources modules).run before).step step).error = none) :
    let session := (start sources modules).run before
    let compiled := (session.step step).session
    (∀ held, .route held ∈ Element.partsAll compiled.forest →
      held.PlacedIn compiled.sites ∧
        ∃ methods, Element.ReachesMethods session.sources [] (documentItems document) methods ∧
          held.SpelledBy methods ∧
          ((held.methods.map Method.verb).Nodup ↔ Route.SpellsApart methods)) ∧
    ((∀ held, .route held ∈ Element.partsAll compiled.forest →
        (held.methods.map Method.verb).Nodup) ↔
      ∀ methods, Element.ReachesMethods session.sources [] (documentItems document) methods →
        Route.SpellsApart methods) ∧
    (modules.Keep → ∀ earlier ∈ compiled.sites, ∀ later ∈ compiled.sites,
      earlier.Shadows later → compiled.Registers later →
      ∀ request, ∀ run ∈
        ((start sources modules).run (before ++ step :: .load :: after)).router.log request,
        run.layer ≠ compiled.firstLayer + later.position) := by
  intro session compiled
  have built := compileItems_of_step reads compiles
  refine ⟨?_, Element.forall_nodup_verbs_iff built, ?_⟩
  · intro held member
    obtain ⟨methods, reaches, spelled⟩ :=
      Element.exists_reachesMethods_of_mem_partsAll built member
    exact ⟨Element.placedIn_of_mem_partsAll member, methods, reaches, spelled,
      spelled.nodup_iff⟩
  · intro keep earlier earlierDeclared later laterDeclared shadows registered request run logged
    have other : step ≠ .load := by
      rintro rfl
      cases reads
    have member : compiled ∈
        (start sources modules).attempts (before ++ step :: .load :: after) := by
      rw [attempts_append, attempts_cons_of_not_load (.inl other),
        attempts_cons_load (phase_of_step reads compiles)]
      exact List.mem_append_right _ List.mem_cons_self
    exact layer_ne_of_shadows keep member earlierDeclared laterDeclared shadows registered logged

/-! ## Two spellings of one verb -/

/-- A document with a route that spells one verb in two ways. -/
def spelledTwiceDocument : Value :=
  .map [("item", .map [
    ("path", .string "/item"),
    ("methods", .map [("get", .string "item"), ("GET", .string "other")])])]

/-- The controllers of both methods. -/
def spelledTwiceModules : Modules where
  controllers := (Registry.empty.register "controller/item" none (Script.controller [])).register
    "controller/other" none (Script.controller [])
  handlers := Registry.empty

/-- The session that has compiled the document. -/
def spelledTwiceSession : Session :=
  ((start ⟨{}, .empty⟩ spelledTwiceModules).step (.parseValue spelledTwiceDocument)).session

theorem spelledTwiceModules_keep : spelledTwiceModules.Keep := by
  intro name base handler means
  exact absurd means (by rw [spelledTwiceModules, Registry.lookup?_empty]; exact nofun)

/-- Both spellings compile, and the route has two methods of one verb. -/
theorem two_spellings_compile_to_one_verb :
    ((start ⟨{}, .empty⟩ spelledTwiceModules).step (.parseValue spelledTwiceDocument)).error =
        none ∧
      ∃ held, .route held ∈ Element.partsAll spelledTwiceSession.forest ∧
        held.methods.map Method.verb = [.get, .get] ∧
        ¬(held.methods.map Method.verb).Nodup := by
  have compiles : ((start ⟨{}, .empty⟩ spelledTwiceModules).step
      (.parseValue spelledTwiceDocument)).error = none := by
    decide +kernel
  have verbs : ∃ element ∈ Element.partsAll spelledTwiceSession.forest,
      (match element with
        | .route held => held.methods.map Method.verb
        | _ => []) = [.get, .get] := by
    decide +kernel
  obtain ⟨element, member, verbs⟩ := verbs
  cases element with
  | route held =>
      refine ⟨compiles, held, member, verbs, ?_⟩
      rw [show held.methods.map Method.verb = [.get, .get] from verbs]
      decide
  | root mount children => cases verbs
  | imports paths children => cases verbs

/-- The second spelling is registered, and its method does not run for any request. -/
theorem second_spelling_never_runs :
    ∃ later ∈ spelledTwiceSession.sites, later.method.controller = "other" ∧
      spelledTwiceSession.Registers later ∧
      ∀ request, ∀ run ∈ spelledTwiceSession.load.session.router.log request,
        run.layer ≠ spelledTwiceSession.firstLayer + later.position := by
  have compiles : ((start ⟨{}, .empty⟩ spelledTwiceModules).step
      (.parseValue spelledTwiceDocument)).error = none := by
    decide +kernel
  have sites : ∃ earlier ∈ spelledTwiceSession.sites, ∃ later ∈ spelledTwiceSession.sites,
      earlier.path = later.path ∧ earlier.method.verb = later.method.verb ∧
        earlier.position < later.position ∧ earlier.method.validated = true ∧
        later.method.controller = "other" ∧
        later.position < spelledTwiceSession.loaded.layers.length := by
    decide +kernel
  obtain ⟨earlier, earlierDeclared, later, laterDeclared, path, verb, before, validated, named,
    registered⟩ := sites
  obtain ⟨_, _, silent⟩ := verbs_distinct_iff_spelled_apart ⟨{}, .empty⟩ spelledTwiceModules [] []
    (.parseValue spelledTwiceDocument) rfl compiles
  exact ⟨later, laterDeclared, named, registered,
    silent spelledTwiceModules_keep earlier earlierDeclared later laterDeclared
      ⟨path, verb, before, validated⟩ registered⟩

end Session

end RoutePlan
