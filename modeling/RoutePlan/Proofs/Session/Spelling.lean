import Mathlib.Logic.Relation
import RoutePlan.Proofs.Session.Inline
import RoutePlan.Proofs.Session.Rewrite
import RoutePlan.Proofs.Tree.Spelling

/-!
# Spellings make no difference

However often a shorthand is written in full or a default is spelled out, or the other way
round, anywhere in the document of a step or in the files: the step answers the same, with
the same warnings, and leaves the same session.
-/

namespace RoutePlan.Session

namespace After.Agrees

variable {first second third : After}

theorem refl (first : After) : first.Agrees first :=
  ⟨rfl, rfl⟩

theorem symm (agrees : first.Agrees second) : second.Agrees first := by
  refine ⟨agrees.error.symm, ?_⟩
  rw [agrees.session]
  rfl

theorem trans (agrees : first.Agrees second) (next : second.Agrees third) :
    first.Agrees third := by
  refine ⟨next.error.trans agrees.error, ?_⟩
  rw [next.session, agrees.session]
  rfl

end After.Agrees

/-- The steps do the same in a session, each with its own files. -/
def SameSteps (session : Session) (first second : FileSet × Step) : Prop :=
  let before := (session.withFiles first.1).step first.2
  let after := (session.withFiles second.1).step second.2
  before.Agrees after ∧ after.warnings = before.warnings

theorem sameSteps_equivalence (session : Session) : Equivalence (SameSteps session) where
  refl _ := ⟨.refl _, rfl⟩
  symm same := ⟨same.1.symm, same.2.symm⟩
  trans same next := ⟨same.1.trans next.1, next.2.trans same.2⟩

/-- A step with its files, and one with another spelling of a document: the one that it
compiles, or one in a file. -/
def Respells (settings : RouteSettings) (first second : FileSet × Step) : Prop :=
  ∃ entries others file?, Respelled settings entries others ∧
    Step.Edits ⟨settings, first.1⟩ entries others first.2 second.1 second.2 file?

/-- A step does the same with another spelling of a document. -/
theorem Respells.sameSteps {session : Session} {first second : FileSet × Step}
    (respells : Respells session.sources.settings first second) :
    SameSteps session first second := by
  obtain ⟨files, step⟩ := first
  obtain ⟨others, other⟩ := second
  obtain ⟨entries, rewritten, file?, respelled, edits⟩ := respells
  replace edits : Step.Edits (session.withFiles files).sources entries rewritten step others other
      file? := edits
  obtain ⟨keys, revised⟩ :=
    @Respelled.exists_revised ((session.withFiles files).sources.withFiles others) _ _ respelled
  cases compiles : step.trace? (session.withFiles files).sources with
  | none =>
      obtain ⟨agrees, silent, silentAfter⟩ := edits.step_of_trace?_eq_none compiles
      exact ⟨agrees, silentAfter.trans silent.symm⟩
  | some traced =>
      have before := step_eq_adopt_erase compiles
      have after := edits.step_eq revised respelled.isEmpty_eq compiles
      rw [Traced.revise_id] at after
      show After.Agrees ((session.withFiles files).step step)
          (((session.withFiles files).withFiles others).step other) ∧
        (((session.withFiles files).withFiles others).step other).warnings =
          ((session.withFiles files).step step).warnings
      rw [before, after]
      exact ⟨adopt_agrees others rfl, by rw [adopt_warnings, adopt_warnings]⟩

/-- Shorthands and defaults that are spelled out mean the same. -/
theorem spelling_changes_nothing (session : Session) {files others : FileSet}
    {step other : Step}
    (respelled : Relation.EqvGen (Respells session.sources.settings) (files, step)
      (others, other)) :
    let before := (session.withFiles files).step step
    let after := (session.withFiles others).step other
    before.Agrees after ∧ after.warnings = before.warnings :=
  (sameSteps_equivalence session).eqvGen_iff.1
    (respelled.mono fun _ _ respells => respells.sameSteps)

/-! ## A root in short and in full -/

/-- A root with an import and a route, which has a method. -/
def spelledEntries (imported method : Value) : Entries String Value :=
  [("api", .map [("root", .string "/v1"), ("routes", .map [("import", imported),
    ("item", .map [("path", .string "/item"), ("methods", .map [("get", method)])])])])]

/-- The place of the import. -/
theorem hole_import (method : Value) :
    Hole .elements .element ["api", "routes", "import"] "import" (spelledEntries · method) := by
  have routes : Hole .elements .element ["import"] "import" fun value =>
      [] ++ ("import", value) :: [("item", .map [("path", .string "/item"),
        ("methods", .map [("get", method)])])] :=
    .here rfl (by decide) (by simp [Entries.keys])
  have root := @Hole.within .root .elements .element _ "routes" _ [("root", .string "/v1")] [] _
    .null .routes (by decide) (by decide) routes
  exact @Hole.within .elements .root .element _ "api" _ [] [] _ .null (.root rfl) (by decide)
    (by decide) root

/-- The place of the method. -/
theorem hole_method (imported : Value) :
    Hole .elements .method ["api", "routes", "item", "methods", "get"] "get"
      (spelledEntries imported) := by
  have methods : Hole .methods .method ["get"] "get" fun value => [] ++ ("get", value) :: [] :=
    .here rfl (by decide) (by decide)
  have route := @Hole.within .route .methods .method _ "methods" _ [("path", .string "/item")] []
    _ .null .methods (by decide) (by decide) methods
  have routes := @Hole.within .elements .route .method _ "item" _ [("import", imported)] [] _
    .null (.route rfl) (by simp [Entries.keys]) (by decide) route
  have root := @Hole.within .root .elements .method _ "routes" _ [("root", .string "/v1")] [] _
    .null .routes (by decide) (by decide) routes
  exact @Hole.within .elements .root .method _ "api" _ [] [] _ .null (.root rfl) (by decide)
    (by decide) root

theorem respells_value {settings : RouteSettings} {entries others : Entries String Value}
    (respelled : Respelled settings entries others) (files : FileSet) :
    Respells settings (files, .parseValue (.map entries)) (files, .parseValue (.map others)) :=
  ⟨entries, others, none, respelled, .value⟩

/-- The method in full. -/
def spelledMethod : Entries String Value :=
  [("controller", .string "item"), ("response_code", .number (.integer 200))]

/-- The text `import: [b]`. -/
def listingText : List UInt8 :=
  Text.Utf8.encode "import: [b]"

open Yaml.Token in
/-- The tokens of the text. -/
def listingTokens : List Yaml.Token :=
  [blockMapStart, key, scalar "import" true, value, flowListStart, scalar "b" true,
    flowListEnd, blockEnd]

open Yaml.Node in
theorem ofTokens?_listingTokens : ofTokens? listingTokens =
    some (mappingNode [("import", .list ⟨none, none⟩ [plainNode "b"])]) := by
  simp [ofTokens?, listingTokens, readDirectives, Yaml.Node.read, readContent,
    readBlockEntries, readBlockPart, readBlockValue, readFlowItems, readFlowItem, emptyInBlock,
    endsStream, mappingNode, plainNode]

theorem fileEntries_listingText :
    ∀ path, Element.fileEntries path listingText = .ok [("import", .list [.string "b"])] :=
  fileEntries_encode _ _ (by decide +kernel) (by decide +kernel) (by decide +kernel)
    ofTokens?_listingTokens rfl

/-- The files in which the file that is imported lists its own import. -/
def listingFiles : FileSet :=
  sharedSources.files.replace ["srv", "config", "l"] listingText

theorem respells_listingFiles (settings : RouteSettings) (step : Step) :
    Respells settings (sharedSources.files, step) (listingFiles, step) := by
  have hole : Hole .elements .element ["import"] "import" fun value =>
      [] ++ ("import", value) :: [] := .here rfl (by decide) (by decide)
  have present : sharedSources.files.contents? ["srv", "config", "l"] = some importingText := by
    decide +kernel
  have rewrites : Element.Sources.Rewrites ⟨settings, sharedSources.files⟩ listingFiles
      ["srv", "config", "l"] [("import", .string "b")] [("import", .list [.string "b"])] :=
    Element.Sources.rewrites_replace present (fileEntries_importingText _)
      (fileEntries_listingText _)
  exact ⟨_, _, _, .node hole (.file (by decide +kernel)), .file rewrites⟩

/-- With the file of each import in a list, and the method by its controller and with the
default code, the root is the same. -/
theorem root_in_full_is_the_same :
    let before := mountedSession.step (.parseValue (.map (mountedEntries "l")))
    let after := (mountedSession.withFiles listingFiles).step
      (.parseValue (.map (spelledEntries (.list [.string "l"]) (.map spelledMethod))))
    before.error = none ∧ after.error = none ∧ after.warnings = before.warnings ∧
      after.session.routes =
        [⟨.get, "/v1/s/:id/book", "item"⟩, ⟨.get, "/v1/item", "item"⟩] := by
  let settings := mountedSession.sources.settings
  let files := mountedSession.sources.files
  have named : Respells settings (files, .parseValue (.map (mountedEntries "l")))
      (files, .parseValue (.map (spelledEntries (.string "l")
        (.map [("controller", .string "item")])))) :=
    respells_value (.node (hole_method _) .controller) files
  have coded : Respells settings
      (files, .parseValue (.map (spelledEntries (.string "l")
        (.map [("controller", .string "item")]))))
      (files, .parseValue (.map (spelledEntries (.string "l") (.map spelledMethod)))) := by
    refine respells_value (.node (hole_method _) ?_) files
    refine @Role.Spells.field settings .method "get" .method [("controller", .string "item")] []
      "response_code" _ .method (by decide) ⟨by decide, .inr ?_⟩
    exact ⟨.integer 200, rfl, rfl⟩
  have listed : Respells settings
      (files, .parseValue (.map (spelledEntries (.string "l") (.map spelledMethod))))
      (files, .parseValue (.map (spelledEntries (.list [.string "l"]) (.map spelledMethod)))) :=
    respells_value (.node (hole_import _) (.file (by decide +kernel))) files
  have imported := respells_listingFiles settings
    (.parseValue (.map (spelledEntries (.list [.string "l"]) (.map spelledMethod))))
  have chain := (((Relation.EqvGen.rel _ _ named).trans _ _ _ (.rel _ _ coded)).trans _ _ _
    (.rel _ _ listed)).trans _ _ _ (.rel _ _ imported)
  obtain ⟨agrees, warnings⟩ := spelling_changes_nothing mountedSession chain
  obtain ⟨succeeds, compiled⟩ := mounted_step
  have same : ((mountedSession.withFiles listingFiles).step (.parseValue
      (.map (spelledEntries (.list [.string "l"]) (.map spelledMethod))))).session.forest =
      (mountedSession.step (.parseValue (.map (mountedEntries "l")))).session.forest :=
    agrees.forest
  refine ⟨succeeds, agrees.error.trans succeeds, warnings, ?_⟩
  rw [routes, same, compiled]
  decide +kernel

end RoutePlan.Session
