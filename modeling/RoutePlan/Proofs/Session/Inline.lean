import RoutePlan.Proofs.Session.Imports
import RoutePlan.Proofs.Session.PathParameters
import RoutePlan.Proofs.Tree.Inline

/-!
# Inlining an import changes nothing

A step that compiles a document may be made with an import inlined instead: in the
document itself, or in a file of the configuration directory, be it imported or the one
that the document is read from.  The step compiles then too, and the session lists the same
routes, makes the same registrations and answers every request in the same way.
-/

namespace RoutePlan.Session

/-- An import is inlined in what a step compiles: in its document, or in one of the
files. -/
inductive Step.Inlines : Element.Sources → Step → Element.Sources → Step → Prop where
  | value {sources entries others} (inlined : Element.Inlines sources entries others) :
      Inlines sources (.parseValue (.map entries)) sources (.parseValue (.map others))
  | text {sources text other entries others} (read : Document.read text = .ok (.map entries))
      (otherRead : Document.read other = .ok (.map others))
      (inlined : Element.Inlines sources entries others) :
      Inlines sources (.parseText text) sources (.parseText other)
  | file {sources step place octets} (inlined : Element.InlinesFile sources place octets) :
      Inlines sources step (sources.replace place octets) step

section Compiled

variable {sources : Element.Sources} {entries others : Entries String Value}
  {forest : List Element}

/-- A document compiles to the same, but for imports, when an import is inlined in it. -/
theorem spliced_compile_of_inlines (inlined : Element.Inlines sources entries others)
    (compiled : (compile sources (.map entries)).outcome = .ok forest) :
    Element.spliceAll <$> compile sources (.map others) =
      Element.spliceAll <$> compile sources (.map entries) := by
  rw [compile_map inlined.ne_nil_left] at compiled ⊢
  rw [compile_map inlined.ne_nil]
  exact inlined.spliced_eq compiled

/-- A document compiles to the same, but for imports, when an import is inlined in a file. -/
theorem spliced_compile_of_inlinesFile {place : List String} {octets : List UInt8}
    {document : Value} (inlined : Element.InlinesFile sources place octets)
    (compiled : (compile sources document).outcome = .ok forest) :
    Element.spliceAll <$> compile (sources.replace place octets) document =
      Element.spliceAll <$> compile sources document := by
  obtain ⟨entries, rfl, filled, compiledItems⟩ := compileItems_of_compile compiled
  rw [compile_map filled, compile_map filled]
  exact inlined.spliced_eq compiledItems

/-- The document of a step compiles to the same, but for imports, when an import is inlined
in what the step compiles. -/
theorem Step.Inlines.exists_document {otherSources : Element.Sources} {step other : Step}
    {document : Value} (inlined : Step.Inlines sources step otherSources other)
    (reads : step.document? sources = some (.ok document))
    (compiled : (compile sources document).outcome = .ok forest) :
    ∃ replaced, other.document? otherSources = some (.ok replaced) ∧
      Element.spliceAll <$> compile otherSources replaced =
        Element.spliceAll <$> compile sources document := by
  cases inlined with
  | value inlined =>
      cases reads
      exact ⟨_, rfl, spliced_compile_of_inlines inlined compiled⟩
  | text read otherRead inlined =>
      obtain rfl : .map _ = document := Except.ok.inj (read.symm.trans (Option.some.inj reads))
      exact ⟨_, congrArg some otherRead, spliced_compile_of_inlines inlined compiled⟩
  | @file _ place octets inlined =>
      have below := spliced_compile_of_inlinesFile inlined compiled
      cases step with
      | parseValue value => exact ⟨document, reads, below⟩
      | parseText text => exact ⟨document, reads, below⟩
      | load => cases reads
      | changeFiles files => cases reads
      | parseFile name =>
          obtain ⟨entries, rfl, _, _⟩ := compileItems_of_compile compiled
          have holds := readDocument_map_iff.1 (Option.some.inj reads)
          by_cases same : sources.place name = place
          · -- the document of the step is the one with the import
            have inlinedFile := inlined
            obtain ⟨held, read, others, present, readHeld, replaced, inlined⟩ := inlined
            obtain rfl := holds.entries_of_contents same present readHeld
            have inDocument := spliced_compile_of_inlines inlined compiled
            obtain ⟨built, compiledOthers, _⟩ :=
              Checked.exists_outcome_of_map_eq inDocument compiled
            have inFile := spliced_compile_of_inlinesFile inlinedFile compiledOthers
            exact ⟨.map others,
              congrArg some (readDocument_map_iff.2 (holds.replace_of_eq same replaced)),
              inFile.trans inDocument⟩
          · exact ⟨.map entries,
              congrArg some (readDocument_map_iff.2 (holds.replace_of_ne same)), below⟩

end Compiled

theorem Step.Inlines.settings_eq {sources otherSources : Element.Sources} {step other : Step}
    (inlined : Step.Inlines sources step otherSources other) :
    otherSources.settings = sources.settings := by
  cases inlined <;> rfl

/-- Sessions with the same modules, settings, registrations and router load alike. -/
theorem load_eq_of_registrations_eq (first second : Session)
    (firstCompiled : first.phase = .compiled) (secondCompiled : second.phase = .compiled)
    (modules : second.modules = first.modules)
    (settings : second.sources.settings = first.sources.settings)
    (registrations : second.registrations = first.registrations)
    (router : second.router = first.router) :
    second.load.error = first.load.error ∧
      second.load.session.router = first.load.session.router := by
  unfold load
  rw [firstCompiled, secondCompiled]
  dsimp only
  rw [modules, settings, registrations, router]
  exact ⟨rfl, rfl⟩

/-- When an import is inlined in what a step compiles, be it in a mapping of its document
or of a file, the step compiles as before.  The trees have the same roots, routes and
methods with all their fields, but for the nodes of imports.  The session lists the same
routes and makes the same registrations; a load of it fails for the same reason, if at all,
and leaves the same router, which gives each request the same outcome. -/
theorem inlining_an_import_changes_nothing (session : Session) {sources : Element.Sources}
    {step other : Step} {document : Value}
    (reads : step.document? session.sources = some (.ok document))
    (compiles : (session.step step).error = none)
    (inlined : Step.Inlines session.sources step sources other) :
    let before := session.step step
    let after := { session with sources }.step other
    after.error = none ∧ after.warnings = before.warnings ∧
      Element.spliceAll after.session.forest = Element.spliceAll before.session.forest ∧
      after.session.routes = before.session.routes ∧
      after.session.registrations = before.session.registrations ∧
      after.session.load.error = before.session.load.error ∧
      after.session.load.session.router = before.session.load.session.router ∧
      ∀ request, after.session.load.session.router.dispatch request =
        before.session.load.session.router.dispatch request := by
  rw [step_eq_adopt reads, adopt_error_eq_none_iff] at compiles
  obtain ⟨forest, compiled⟩ := compiles
  obtain ⟨replaced, readsOther, same⟩ := inlined.exists_document reads compiled
  obtain ⟨built, compiledOther, spliced⟩ := Checked.exists_outcome_of_map_eq same compiled
  have warnings : (compile sources replaced).warnings =
      (compile session.sources document).warnings := by
    simpa using congrArg Checked.warnings same
  have registrations : Element.registrationsAll "/" built =
      Element.registrationsAll "/" forest := by
    rw [← Element.registrationsAll_spliceAll, spliced, Element.registrationsAll_spliceAll]
  have routes : Element.routes built = Element.routes forest := by
    rw [Element.routes, ← Element.listingAll_spliceAll, spliced, Element.listingAll_spliceAll,
      Element.routes]
  have stepEq : session.step step = ⟨{ session with forest, phase := .compiled, resolved := 0 },
      (compile session.sources document).warnings, none⟩ := by
    rw [step_eq_adopt reads, adopt, compiled]
  have readsThere : other.document? { session with sources }.sources = some (.ok replaced) :=
    readsOther
  have otherEq : { session with sources }.step other =
      ⟨{ session with sources, forest := built, phase := .compiled, resolved := 0 },
        (compile sources replaced).warnings, none⟩ := by
    rw [step_eq_adopt readsThere, adopt, compiledOther]
  intro before after
  simp only [before, after, stepEq, otherEq]
  obtain ⟨errors, routers⟩ := load_eq_of_registrations_eq
    { session with forest, phase := .compiled, resolved := 0 }
    { session with sources, forest := built, phase := .compiled, resolved := 0 }
    rfl rfl rfl inlined.settings_eq registrations rfl
  exact ⟨trivial, warnings, spliced, routes, registrations, errors, routers,
    fun request => congrArg (Router.dispatch · request) routers⟩

/-! ## An import below a root -/

/-- A route beside an import. -/
def itemEntry : String × Value :=
  ("item", .map [("path", .string "/item"), ("methods", .map [("get", .string "item")])])

/-- A root with both. -/
def mountedEntries (imported : String) : Entries String Value :=
  [("api", .map [("root", .string "/v1"),
    ("routes", .map [("import", .string imported), itemEntry])])]

/-- A root with the entries of the shared file in place of an import. -/
def shelvedEntries : Entries String Value :=
  [("api", .map [("root", .string "/v1"), ("routes", .map (shelfEntries ++ [itemEntry]))])]

/-- What the route compiles to. -/
def itemRoute : Route :=
  ⟨"item", "/item", [], [⟨.get, "item", .ok, true, [], [], [], []⟩], [], []⟩

theorem compileItem_item :
    Element.compileItem sharedSources [] [] (.entry itemEntry.1 itemEntry.2) =
      pure [.route itemRoute] := by
  have frame : Element.frame sharedSources [] itemEntry.1 itemEntry.2 =
      pure (.route itemRoute) := rfl
  rw [Element.compileItem_entry, frame, pure_bind]
  rfl

/-- What the root with an import of `l` compiles to. -/
def mountedForest : List Element :=
  [.root ⟨"api", "/v1", [], [], []⟩
    [.imports ["/srv/config/l"] [.imports ["/srv/config/b"] [shelfElement]], .route itemRoute]]

theorem compile_mounted :
    (compile sharedSources (.map (mountedEntries "l"))).outcome = .ok mountedForest := by
  have routes : Element.compileItems sharedSources [] []
      (Element.items [("import", .string "l"), itemEntry]) =
        pure [.imports ["/srv/config/l"] [.imports ["/srv/config/b"] [shelfElement]],
          .route itemRoute] := by
    rw [Element.items_cons, Element.compileItems_cons, Element.compileItem_import,
      compileItem_sharing (.inl rfl), Element.items_cons, Element.compileItems_cons,
      compileItem_item]
    rfl
  have frame : Element.frame sharedSources [] "api" (.map [("root", .string "/v1"),
      ("routes", .map [("import", .string "l"), itemEntry])]) =
        pure (.root ⟨"api", "/v1", [], [], []⟩) := rfl
  have inside : Element.inside "api" (.map [("root", .string "/v1"),
      ("routes", .map [("import", .string "l"), itemEntry])]) =
        Element.items [("import", .string "l"), itemEntry] := rfl
  have handedOn : (Element.Frame.root ⟨"api", "/v1", [], [], []⟩).params = [] := rfl
  rw [mountedEntries, compile_map (List.cons_ne_nil _ _), Element.items_cons,
    Element.compileItems_cons, Element.compileItem_entry, frame, pure_bind, inside, handedOn,
    routes]
  rfl

/-- An import below the root replaced by the entries of its file. -/
theorem inlines_mounted {name : String} {entries : Entries String Value}
    (holds : sharedSources.Holds [] name entries) :
    Element.Inlines sharedSources (mountedEntries name)
      [("api", .map [("root", .string "/v1"), ("routes", .map (entries ++ [itemEntry]))])] := by
  have below : Element.Inlines sharedSources [("import", .string name), itemEntry]
      (entries ++ [itemEntry]) := by
    have inPlace := @Element.Inlines.here _ [] [itemEntry] (.string name) _ [entries] rfl
      (.cons holds .nil) (by simp)
    simpa using inPlace
  exact @Element.Inlines.inside _ [] [] "api" [("root", .string "/v1")] [] _ _ rfl
    (by decide) below

/-- The text of `b` in place of that of `l`, which imports `b`. -/
theorem inlinesFile_shelf :
    Element.InlinesFile sharedSources ["srv", "config", "l"] (Text.Utf8.encode shelfText) := by
  have holds : sharedSources.Holds [] "b" shelfEntries :=
    holds_shelf List.not_mem_nil
  have inlined := @Element.Inlines.here sharedSources [] [] (.string "b") _ [shelfEntries] rfl
    (.cons holds .nil) (by decide)
  exact ⟨importingText, _, _, by decide +kernel, fileEntries_importingText _,
    fileEntries_shelfText _, by simpa using inlined⟩

/-- A session that compiles the root, with the modules of the shop. -/
def mountedSession : Session :=
  start sharedSources shopModules

/-- The session after the root with an import of `l` is compiled. -/
def mountedAfter : Session :=
  { mountedSession with forest := mountedForest, phase := .compiled, resolved := 0 }

theorem mounted_step :
    (mountedSession.step (.parseValue (.map (mountedEntries "l")))).error = none ∧
      (mountedSession.step (.parseValue (.map (mountedEntries "l")))).session = mountedAfter := by
  have outcome : (compile mountedSession.sources (.map (mountedEntries "l"))).outcome =
      .ok mountedForest := compile_mounted
  rw [step_eq_adopt rfl, adopt, outcome]
  exact ⟨rfl, rfl⟩

/-- The root has been compiled with the route of the shared file in it, has the parameters,
the status and the middleware of that route, and loads; the route calls its controller with
the parameter of the imported root. -/
structure After.HoldsShelf (after : After) : Prop where
  error : after.error = none
  forest : Element.spliceAll after.session.forest =
    [.root ⟨"api", "/v1", [], [], []⟩ [shelfElement, .route itemRoute]]
  routes : after.session.routes =
    [⟨.get, "/v1/s/:id/book", "item"⟩, ⟨.get, "/v1/item", "item"⟩]
  loads : after.session.load.error = none
  answers : (after.session.load.session.router.handle (.bare "/v1/s/7/book")).body = "7"

theorem After.HoldsShelf.of_eq {before after : After} (holds : before.HoldsShelf)
    (error : after.error = none)
    (forest : Element.spliceAll after.session.forest = Element.spliceAll before.session.forest)
    (routes : after.session.routes = before.session.routes)
    (loads : after.session.load.error = before.session.load.error)
    (router : after.session.load.session.router = before.session.load.session.router) :
    after.HoldsShelf :=
  ⟨error, forest.trans holds.forest, routes.trans holds.routes, loads.trans holds.loads,
    router ▸ holds.answers⟩

theorem mounted_holdsShelf :
    (mountedSession.step (.parseValue (.map (mountedEntries "l")))).HoldsShelf := by
  obtain ⟨compiles, same⟩ := mounted_step
  refine ⟨compiles, ?_, ?_, ?_, ?_⟩ <;> rw [same]
  · rfl
  · decide +kernel
  · decide +kernel
  · decide +kernel

/-- With the import of `l` inlined, then that of `b`, the root compiles to the same route with
all its fields, and so it does with the import of `b` inlined in the file `l`.  Each request
has the same outcome. -/
theorem mounted_import_inlines :
    let rewritten := sharedSources.replace ["srv", "config", "l"] (Text.Utf8.encode shelfText)
    let mounted := mountedSession.step (.parseValue (.map (mountedEntries "l")))
    let named := mountedSession.step (.parseValue (.map (mountedEntries "b")))
    let shelved := mountedSession.step (.parseValue (.map shelvedEntries))
    let filed := { mountedSession with sources := rewritten }.step
      (.parseValue (.map (mountedEntries "l")))
    Step.Inlines sharedSources (.parseValue (.map (mountedEntries "l"))) sharedSources
        (.parseValue (.map (mountedEntries "b"))) ∧
      Step.Inlines sharedSources (.parseValue (.map (mountedEntries "b"))) sharedSources
        (.parseValue (.map shelvedEntries)) ∧
      Step.Inlines sharedSources (.parseValue (.map (mountedEntries "l"))) rewritten
        (.parseValue (.map (mountedEntries "l"))) ∧
      mounted.HoldsShelf ∧ named.HoldsShelf ∧ shelved.HoldsShelf ∧ filed.HoldsShelf ∧
      (∀ request, shelved.session.load.session.router.dispatch request =
        mounted.session.load.session.router.dispatch request) ∧
      ∀ request, filed.session.load.session.router.dispatch request =
        mounted.session.load.session.router.dispatch request := by
  have toFile : Step.Inlines sharedSources (.parseValue (.map (mountedEntries "l")))
      sharedSources (.parseValue (.map (mountedEntries "b"))) :=
    .value (inlines_mounted (holds_importing (.inl rfl)))
  have toRoot : Step.Inlines sharedSources (.parseValue (.map (mountedEntries "b")))
      sharedSources (.parseValue (.map shelvedEntries)) :=
    .value (inlines_mounted (holds_shelf List.not_mem_nil))
  have inFile := @Step.Inlines.file sharedSources (.parseValue (.map (mountedEntries "l"))) _ _
    inlinesFile_shelf
  have unchanged : { mountedSession with sources := sharedSources } = mountedSession := rfl
  have mounted := mounted_holdsShelf
  have byFile := inlining_an_import_changes_nothing mountedSession rfl mounted.error toFile
  rw [unchanged] at byFile
  obtain ⟨namedOk, _, namedForest, namedRoutes, _, namedLoads, namedRouter, same⟩ := byFile
  have named := mounted.of_eq namedOk namedForest namedRoutes namedLoads namedRouter
  have byRoot := inlining_an_import_changes_nothing mountedSession rfl namedOk toRoot
  rw [unchanged] at byRoot
  obtain ⟨shelvedOk, _, shelvedForest, shelvedRoutes, _, shelvedLoads, shelvedRouter, alike⟩ :=
    byRoot
  have shelved := named.of_eq shelvedOk shelvedForest shelvedRoutes shelvedLoads shelvedRouter
  obtain ⟨filedOk, _, filedForest, filedRoutes, _, filedLoads, filedRouter, answers⟩ :=
    inlining_an_import_changes_nothing mountedSession rfl mounted.error inFile
  have filed := mounted.of_eq filedOk filedForest filedRoutes filedLoads filedRouter
  exact ⟨toFile, toRoot, inFile, mounted, named, shelved, filed,
    fun request => (alike request).trans (same request), answers⟩

end RoutePlan.Session
