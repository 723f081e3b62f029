import RoutePlan.Proofs.Session.Inline
import RoutePlan.Proofs.Session.PathParameters
import RoutePlan.Proofs.Tree.WellFormed

/-!
# Well-formed sessions

A session holds only well-formed trees after a document compiles, whether it was given as a
value, as a text or as a file.  A text cannot declare a key twice; a value is asked not to.
-/

namespace RoutePlan.Session

section Documents

variable {sources : Element.Sources} {document : Value}

/-- What a file holds has distinct keys. -/
theorem hasDistinctKeys_of_readDocument {name : String}
    (read : readDocument sources name = .ok document) : document.HasDistinctKeys := by
  obtain ⟨_, text, _, _, parsed⟩ := readDocument_eq_ok_iff.1 read
  exact Document.hasDistinctKeys_of_read parsed

/-- What a step reads has distinct keys, if a value that it is given has. -/
theorem Step.hasDistinctKeys_of_document? {step : Step}
    (given : ∀ value, step = .parseValue value → value.HasDistinctKeys)
    (reads : step.document? sources = some (.ok document)) : document.HasDistinctKeys := by
  cases step with
  | parseValue value =>
      cases reads
      exact given document rfl
  | parseText text => exact Document.hasDistinctKeys_of_read (Option.some.inj reads)
  | parseFile name => exact hasDistinctKeys_of_readDocument (Option.some.inj reads)
  | load => cases reads
  | changeFiles files => cases reads

theorem wellFormed_of_compile {forest : List Element} (distinct : document.HasDistinctKeys)
    (compiled : (compile sources document).outcome = .ok forest) :
    ∀ element ∈ forest, element.WellFormed sources.settings := by
  obtain ⟨entries, rfl, _, compiled⟩ := compileItems_of_compile compiled
  have keys := Value.hasDistinctKeys_map_iff.1 distinct
  exact Element.wellFormed_of_compileItems .nil (Element.items_haveDistinctKeys keys) compiled

end Documents

/-- A document that compiles compiles to a well-formed tree. -/
theorem compiled_tree_wellFormed (session : Session) (step : Step) {document : Value}
    (reads : step.document? session.sources = some (.ok document))
    (distinct : ∀ value, step = .parseValue value → value.HasDistinctKeys)
    (compiles : (session.step step).error = none) :
    ∀ element ∈ (session.step step).session.forest,
      element.WellFormed session.sources.settings := by
  rw [step_eq_adopt reads] at compiles ⊢
  obtain ⟨forest, compiled⟩ := adopt_error_eq_none_iff.1 compiles
  rw [adopt, compiled]
  exact wellFormed_of_compile (step.hasDistinctKeys_of_document? distinct reads) compiled

theorem mountedEntries_hasDistinctKeys (imported : String) :
    (Value.map (mountedEntries imported)).HasDistinctKeys := by
  simp [mountedEntries, itemEntry, Value.hasDistinctKeys_map_iff, Entries.haveDistinctKeys_iff,
    Entries.keys, Value.HasDistinctKeys.string]

theorem shopDocument_hasDistinctKeys : shopDocument.HasDistinctKeys := by
  have named : (Value.list [.string "auth"]).HasDistinctKeys :=
    .list fun item member => List.mem_singleton.1 member ▸ .string "auth"
  simp [shopDocument, Value.hasDistinctKeys_map_iff, Entries.haveDistinctKeys_iff,
    Entries.keys, Value.HasDistinctKeys.string, named]

/-- Both the root with an import in an imported file and the one with a default are well
formed. -/
theorem mounted_and_shop_wellFormed :
    (mountedSession.step (.parseValue (.map (mountedEntries "l")))).error = none ∧
      (∀ element ∈ mountedForest, element.WellFormed sharedSources.settings) ∧
      ((start ⟨{}, .empty⟩ shopModules).step (.parseValue shopDocument)).error = none ∧
      ∀ element ∈ ((start ⟨{}, .empty⟩ shopModules).step (.parseValue shopDocument)).session.forest,
        element.WellFormed {} := by
  obtain ⟨compiles, same⟩ := mounted_step
  have mounted := compiled_tree_wellFormed mountedSession (.parseValue (.map (mountedEntries "l")))
    rfl (fun value same => by cases same; exact mountedEntries_hasDistinctKeys "l") compiles
  have shop : ((start ⟨{}, .empty⟩ shopModules).step (.parseValue shopDocument)).error = none := by
    decide +kernel
  rw [same] at mounted
  refine ⟨compiles, mounted, shop, ?_⟩
  exact compiled_tree_wellFormed (start ⟨{}, .empty⟩ shopModules) (.parseValue shopDocument)
    rfl (fun value same => by cases same; exact shopDocument_hasDistinctKeys) shop

end RoutePlan.Session
