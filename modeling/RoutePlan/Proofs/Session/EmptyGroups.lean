import RoutePlan.Proofs.Session.Inline
import RoutePlan.Proofs.Tree.Barren

/-!
# Empty groups

What is empty itself does not compile: a document, a root, a route, an import or a text.
The one exception is a file that holds the empty mapping and is imported.  So a compiled tree
and every root and import of it lists a route, unless such files are all that is inside.
-/

namespace RoutePlan.Session

/-- A step that reads nothing, with the error that says so: an empty text, a null document
or an empty mapping. -/
inductive Step.ReadsNothing (sources : Element.Sources) : Step → PlanError → Prop where
  | text {text : String} (empty : Element.IsEmptyText text) :
      ReadsNothing sources (.parseText text) .emptyDocument
  | file {name text : String} {octets : List UInt8}
      (contents : sources.files.read (sources.path name) = .ok octets)
      (decoded : Text.Utf8.decode? octets = some text) (empty : Element.IsEmptyText text) :
      ReadsNothing sources (.parseFile name) .emptyDocument
  | null : ReadsNothing sources (.parseValue .null) .emptyDocument
  | mapping {step : Step} (reads : step.document? sources = some (.ok (.map []))) :
      ReadsNothing sources step (.emptyRoutes "/")

/-- A step fails with the error of what it reads. -/
theorem step_error_of_document?_eq_error {session : Session} {step : Step} {error : PlanError}
    (reads : step.document? session.sources = some (.error error)) :
    (session.step step).error = some error := by
  cases step with
  | parseValue value => cases reads
  | parseText text =>
      rw [Session.step, parseText, Option.some.inj reads]
      rfl
  | parseFile name =>
      rw [Session.step, parseFile, Option.some.inj reads]
      rfl
  | load => cases reads
  | changeFiles files => cases reads

theorem Step.ReadsNothing.step_error {session : Session} {step : Step} {error : PlanError}
    (nothing : step.ReadsNothing session.sources error) :
    (session.step step).error = some error := by
  cases nothing with
  | text empty =>
      exact step_error_of_document?_eq_error
        (congrArg some (Element.read_eq_emptyDocument_iff.2 empty))
  | @file name text octets contents decoded empty =>
      apply step_error_of_document?_eq_error
      rw [Step.document?, readDocument_eq_read contents decoded]
      exact congrArg some (Element.read_eq_emptyDocument_iff.2 empty)
  | null => rfl
  | mapping reads =>
      rw [step_eq_adopt reads]
      rfl

/-- A document that compiles is not empty. -/
theorem documentItems_ne_nil {session : Session} {step : Step} {document : Value}
    (reads : step.document? session.sources = some (.ok document))
    (compiles : (session.step step).error = none) : documentItems document ≠ [] := by
  rw [step_eq_adopt reads] at compiles
  obtain ⟨forest, compiled⟩ := adopt_error_eq_none_iff.1 compiles
  obtain ⟨entries, rfl, filled, _⟩ := compileItems_of_compile compiled
  simpa [documentItems, Value.entriesOrNone, Element.items] using filled

/-- What is empty itself is rejected.  A step that reads nothing fails with the error that
says so, and a step fails if it comes to a root without routes, a route without methods,
an import without files or a file with an empty text, in any imported file; each of these
fails with the error that says so as soon as the checks before have passed.

A step that compiles its document makes a tree whose roots and imports come from entries of
the document or of an imported file, and the tree or one of them lists no route exactly when
roots, imports and files are all that is inside, at any depth.  Then one of these files holds
the empty mapping; without such files the tree and each of its roots and imports lists a
route. -/
theorem groups_are_empty_through_imports (session : Session) (step : Step) :
    (∀ error, step.ReadsNothing session.sources error →
      (session.step step).error = some error) ∧
    ∀ document, step.document? session.sources = some (.ok document) →
      (∀ there item error,
        Element.Reaches session.sources item there [] (documentItems document) →
        Element.Vacant session.sources there item error →
        (session.step step).error ≠ none ∧
          ∀ inherited, (Element.compileItem session.sources there inherited item).outcome =
            Element.checkMount inherited item >>= fun _ => .error error) ∧
      ((session.step step).error = none →
        ((session.step step).session.routes = [] ↔
          ∀ item ∈ documentItems document, Element.Barren session.sources [] item) ∧
        (∀ element ∈ Element.partsAll (session.step step).session.forest,
          ∃ there key value,
            Element.Reaches session.sources (.entry key value) there []
              (documentItems document) ∧
            ∀ mount, Element.listing mount element = [] ↔
              Element.Barren session.sources there (.entry key value)) ∧
        ((∀ there name,
            Element.Reaches session.sources (.file name) there [] (documentItems document) →
            ¬session.sources.Holds there name []) →
          (session.step step).session.routes ≠ [] ∧
            ∀ element ∈ Element.partsAll (session.step step).session.forest, ∀ mount,
              Element.listing mount element ≠ [])) := by
  refine ⟨fun error nothing => nothing.step_error, fun document reads => ⟨?_, fun compiles => ?_⟩⟩
  · intro there item error reaches vacant
    refine ⟨fun compiles => ?_, vacant.compileItem_eq⟩
    exact reaches.outcome_ne_ok vacant (compileItems_of_step reads compiles)
  · have compiled := compileItems_of_step reads compiles
    have whole : (session.step step).session.routes = [] ↔
        ∀ item ∈ documentItems document, Element.Barren session.sources [] item :=
      Element.listingAll_eq_nil_iff compiled "/"
    refine ⟨whole, fun element member => ?_, fun filled => ⟨fun none => ?_, ?_⟩⟩
    · obtain ⟨there, _, key, value, reaches, _, same⟩ :=
        Element.exists_listing_eq_nil_iff compiled member
      exact ⟨there, key, value, reaches, same⟩
    · obtain ⟨item, member⟩ :=
        List.exists_mem_of_ne_nil _ (documentItems_ne_nil reads compiles)
      obtain ⟨built, found, _⟩ := Element.exists_of_mem_compileItems compiled member
      obtain ⟨there, name, reaches, holds⟩ := (whole.1 none item member).exists_holds_nil found
      exact filled there name (reaches.of_mem member) holds
    · intro element member mount none
      obtain ⟨there, params, key, value, reaches, found, same⟩ :=
        Element.exists_listing_eq_nil_iff compiled member
      obtain ⟨deeper, name, below, holds⟩ := ((same mount).1 none).exists_holds_nil found
      exact filled deeper name (reaches.trans below) holds

/-! ## A file that holds the empty mapping -/

open Yaml.Node in
theorem ofTokens?_emptyMapping :
    ofTokens? [.flowMapStart, .flowMapEnd] = some (.map ⟨none, none⟩ []) := by
  simp [ofTokens?, readDirectives, Yaml.Node.read, readContent, readFlowEntries, endsStream]

theorem fileEntries_emptyMapping :
    ∀ path, Element.fileEntries path (Text.Utf8.encode "\x7b\x7d") = .ok [] :=
  fileEntries_encode _ _ (by decide +kernel) (by decide +kernel) (by decide +kernel)
    ofTokens?_emptyMapping rfl

/-- A file that holds the empty mapping. -/
def emptySources : Element.Sources where
  settings := {}
  files := ⟨["srv"], [(["srv", "config", "b"], Text.Utf8.encode "\x7b\x7d")], []⟩

/-- A session without modules that reads the file. -/
def emptySession : Session :=
  start emptySources ⟨.empty, .empty⟩

/-- The document that imports the file. -/
def emptyImportDocument : Value :=
  .map [("import", .string "b")]

theorem compile_emptyImport :
    (compile emptySources emptyImportDocument).outcome = .ok [.imports ["config/b"] []] := by
  have empty : emptySources.Holds [] "b" [] :=
    ⟨List.not_mem_nil, _, by decide +kernel, fileEntries_emptyMapping _⟩
  rw [emptyImportDocument, compile_map (List.cons_ne_nil _ _), Element.compileItems_import,
    empty.compileItem]
  rfl

theorem emptyImport_error :
    (emptySession.step (.parseValue emptyImportDocument)).error = none := by
  rw [step_eq_adopt rfl, adopt_error_eq_none_iff]
  exact ⟨_, compile_emptyImport⟩

theorem emptyImport_forest :
    (emptySession.step (.parseValue emptyImportDocument)).session.forest =
      [.imports ["config/b"] []] := by
  have outcome : (compile emptySession.sources emptyImportDocument).outcome = _ :=
    compile_emptyImport
  rw [step_eq_adopt rfl, adopt, outcome]

/-- The document compiles, although it and its import list no route. -/
theorem empty_import_compiles :
    (emptySession.step (.parseValue emptyImportDocument)).error = none ∧
      (emptySession.step (.parseValue emptyImportDocument)).session.routes = [] ∧
      ∃ element ∈ Element.partsAll
          (emptySession.step (.parseValue emptyImportDocument)).session.forest,
        element.shape = .imports ∧ ∀ mount, Element.listing mount element = [] := by
  refine ⟨emptyImport_error, ?_, .imports ["config/b"] [], ?_, rfl, fun _ => rfl⟩
  · rw [routes, emptyImport_forest]
    rfl
  · rw [emptyImport_forest]
    exact List.mem_cons_self

/-- Nothing but an import of nothing is inside the document.  A root without routes does not
compile, and a document without imports lists a route. -/
theorem empty_import_is_barren :
    (∀ item ∈ documentItems emptyImportDocument, Element.Barren emptySources [] item) ∧
      (emptySession.step (.parseValue
        (.map [("api", .map [("root", .string "/api")])]))).error ≠ none ∧
      (emptySession.step (.parseValue (.map [itemEntry]))).error = none ∧
      (emptySession.step (.parseValue (.map [itemEntry]))).session.routes ≠ [] := by
  have compiled : (emptySession.step (.parseValue (.map [itemEntry]))).error = none := by
    decide +kernel
  have nothing : (emptySession.step (.parseValue emptyImportDocument)).session.routes = [] := by
    rw [routes, emptyImport_forest]
    rfl
  have unimported : ∀ there name, Element.Reaches emptySources (.file name) there []
      (documentItems (.map [itemEntry])) → ¬emptySources.Holds there name [] := by
    rintro there name (member | ⟨member, below⟩ | ⟨member, _, _⟩)
    · cases List.mem_singleton.1 member
    · cases List.mem_singleton.1 member
      rcases below with member | ⟨member, _⟩ | ⟨member, _, _⟩ <;> cases member
    · cases List.mem_singleton.1 member
  obtain ⟨_, empty⟩ :=
    groups_are_empty_through_imports emptySession (.parseValue emptyImportDocument)
  obtain ⟨_, rejected⟩ := groups_are_empty_through_imports emptySession
    (.parseValue (.map [("api", .map [("root", .string "/api")])]))
  obtain ⟨_, filled⟩ :=
    groups_are_empty_through_imports emptySession (.parseValue (.map [itemEntry]))
  obtain ⟨vacant, _⟩ := rejected _ rfl
  obtain ⟨_, barren⟩ := empty _ rfl
  obtain ⟨_, lists⟩ := filled _ rfl
  have root : Element.Vacant emptySources [] (.entry "api" (.map [("root", .string "/api")]))
      (.emptyRoutes "api") := .root rfl (.inl rfl)
  exact ⟨(barren emptyImport_error).1.1 nothing,
    (vacant [] _ _ (.here List.mem_cons_self) root).1, compiled,
    ((lists compiled).2.2 unimported).1⟩

end RoutePlan.Session
