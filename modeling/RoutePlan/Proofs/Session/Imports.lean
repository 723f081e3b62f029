import RoutePlan.Proofs.Session.Compile
import RoutePlan.Proofs.Session.Load
import RoutePlan.Proofs.Tree.ImportStack

/-!
# Imports end, and cycles are caught

Whatever the files import, a compilation comes to an end, and its import stack holds
distinct locations all the way and is left as it was found.  A step that compiles its
document shows that no chain of nested imports visits a location or a file twice, and one
that answers an import cycle shows a chain that does.

The locations that the imports lead to bound the compilation, not the files.  A file can have
several: with `config` as the directory of imports, `/srv/config/b` is read as `config/b` and
as itself.  In turn a location may be that of several files, since the second of two `..`
takes back the first.  So the file that a step reads, which is not on the stack, is told by
its place.
-/

namespace RoutePlan.Session

/-- Compile a document on an import stack, with fuel for nested imports. -/
def compileOnStack (sources : Element.Sources) (fuel : Nat) (document : Value) :
    Element.Process (List Element) := do
  let entries ← Element.Process.lift (.ofExcept (Document.entries document))
  if entries.isEmpty then Element.Process.lift (.fail (.emptyRoutes "/"))
  else Element.process sources fuel [] (Element.items entries)

theorem compileOnStack_leaves {sources : Element.Sources} {document : Value} {fuel : Nat}
    (enough : (Element.importLocations sources (documentItems document)).ncard ≤ fuel) :
    Element.Leaves [] (Element.StackOf sources [] (documentItems document))
      (compileOnStack sources fuel document) (compile sources document) := by
  rw [compileOnStack, compile_eq_compileItems]
  refine (Element.Leaves.lift _).bind fun entries mapping => ?_
  obtain rfl := entries_eq_ok_iff.1 mapping
  split
  · exact .lift _
  · exact Element.process_leaves ((Element.locationsLeft_le sources [] _).trans enough)
      List.nodup_nil

/-- A stack of a compilation is no longer than the number of locations that the imports
of the document lead to. -/
theorem length_le_of_stackOf {sources : Element.Sources} {stack : List Location}
    {list : List Element.Item} (seen : Element.StackOf sources [] list stack) :
    stack.length ≤ (Element.importLocations sources list).ncard := by
  refine Element.length_le_ncard_importLocations seen.distinct fun location member => ?_
  rcases seen.chain with same | ⟨chain, nested, same⟩
  · rw [same] at member
    cases member
  · rw [same] at member
    exact ⟨chain, nested, member⟩

section Cycles

variable {session : Session} {step : Step} {cycle : List Location}

/-- A load does not answer that an import is a cycle. -/
theorem load_error_ne_importCycle :
    session.load.error ≠ some (.invalid (.importCycle cycle)) := by
  cases phase : session.phase with
  | blank => simp [load, phase]
  | loaded => simp [load, phase]
  | compiled =>
      rw [load_error_of_compiled phase, loaded, RoutePlan.load_error, Modules.missing?, Ne,
        Option.map_eq_some_iff]
      rintro ⟨reference, _, missing⟩
      cases reference <;> cases missing

theorem readDocument_answersNoCycle (sources : Element.Sources) (name : String) :
    AnswersNoCycle (readDocument sources name) := by
  unfold readDocument
  dsimp only
  split
  · exact Document.read_answersNoCycle _
  · intro cycle failed
    cases failed
  · intro cycle failed
    cases failed

/-- A step that answers an import cycle has read a document. -/
theorem exists_document_of_importCycle
    (failed : (session.step step).error = some (.invalid (.importCycle cycle))) :
    ∃ document, step.document? session.sources = some (.ok document) := by
  cases step with
  | parseValue document => exact ⟨document, rfl⟩
  | parseText text =>
      cases reads : Document.read text with
      | error error =>
          rw [Session.step, parseText, reads, adopt_error_eq_some_iff] at failed
          cases failed
          exact absurd reads (Document.read_answersNoCycle text cycle)
      | ok document => exact ⟨document, congrArg some reads⟩
  | parseFile name =>
      cases reads : readDocument session.sources name with
      | error error =>
          rw [Session.step, parseFile, reads, adopt_error_eq_some_iff] at failed
          cases failed
          exact absurd reads (readDocument_answersNoCycle _ name cycle)
      | ok document => exact ⟨document, congrArg some reads⟩
  | load => exact absurd failed load_error_ne_importCycle
  | changeFiles files => cases failed

end Cycles

/-- Whatever the files and the document import: compiling on an import stack comes to an
end with the outcome of the compilation, and so does every single import.  The stack is
left as it was found, and all the time it holds distinct locations, no more than the
imports of the document lead to.

If a step compiles its document, no chain of nested imports visits a location twice, or a
file twice under whatever names, or the file that the document was read from.  If a step
answers an import cycle, the locations that it shows are those of a chain of nested imports,
and one of them is there twice. -/
theorem imports_end_and_cycles_are_caught (session : Session) (step : Step) :
    (∀ document, (Element.importLocations session.sources (documentItems document)).Finite ∧
      ∀ fuel, (Element.importLocations session.sources (documentItems document)).ncard ≤ fuel →
        ∃ history,
          compileOnStack session.sources fuel document .start =
            some (compile session.sources document, ⟨[], history⟩) ∧
          ∀ stack ∈ history, stack.Nodup ∧
            stack.length ≤
              (Element.importLocations session.sources (documentItems document)).ncard) ∧
    (∀ name fuel, (Element.importLocations session.sources [.file name]).ncard ≤ fuel →
      ∀ inherited stack history, stack.Nodup → ∃ later,
        Element.process session.sources fuel inherited [.file name] ⟨stack, history⟩ =
          some (Element.compileItem session.sources stack inherited (.file name),
            ⟨stack, later⟩)) ∧
    (∀ document, step.document? session.sources = some (.ok document) →
      (session.step step).error = none →
        ∀ chain, Element.Nested session.sources (documentItems document) chain →
          (chain.map session.sources.location).Nodup ∧
          (chain.map session.sources.place).Nodup ∧
          ∀ name, step = .parseFile name →
            ∀ other ∈ chain, session.sources.place other ≠ session.sources.place name) ∧
    (∀ cycle, (session.step step).error = some (.invalid (.importCycle cycle)) →
      ∃ document chain, step.document? session.sources = some (.ok document) ∧
        Element.Nested session.sources (documentItems document) chain ∧
        cycle = chain.map session.sources.location ∧ ¬ cycle.Nodup) := by
  refine ⟨fun document => ⟨Element.importLocations_finite _ _, fun fuel enough => ?_⟩,
    fun name fuel enough inherited stack history distinct => ?_,
    fun document reads succeeded chain nested => ?_, fun cycle failed => ?_⟩
  · obtain ⟨seen, ended, each⟩ := compileOnStack_leaves enough [[]]
    refine ⟨[[]] ++ seen, ended, fun stack member => ?_⟩
    rcases List.mem_append.1 member with start | later
    · obtain rfl := List.mem_singleton.1 start
      exact ⟨List.nodup_nil, Nat.zero_le _⟩
    · exact ⟨(each stack later).distinct, length_le_of_stackOf (each stack later)⟩
  · have leaves : Element.Leaves stack (Element.StackOf session.sources stack [.file name])
        (Element.process session.sources fuel inherited [.file name]) _ :=
      Element.process_leaves ((Element.locationsLeft_le _ stack _).trans enough) distinct
    obtain ⟨seen, ended, _⟩ := leaves history
    exact ⟨history ++ seen, by rw [ended, Element.compileItems_singleton]⟩
  · rw [step_eq_adopt reads, adopt_error_eq_none_iff] at succeeded
    obtain ⟨forest, compiled⟩ := succeeded
    obtain ⟨entries, rfl, _, compiled⟩ := compileItems_of_compile compiled
    refine ⟨nested.nodup_of_compileItems List.nodup_nil compiled,
      nested.places_nodup_of_compileItems List.nodup_nil compiled, ?_⟩
    rintro name rfl other through
    have holds := readDocument_map_iff.1 (Option.some.inj reads)
    exact nested.place_ne_of_compileItems compiled List.nodup_nil holds through
  · obtain ⟨document, reads⟩ := exists_document_of_importCycle failed
    rw [step_eq_adopt reads, adopt_error_eq_some_iff, compile_eq_compileItems,
      Checked.outcome_bind, bind_eq_error_iff] at failed
    rcases failed with unread | ⟨entries, mapping, failed⟩
    · exact absurd unread (Document.entries_answersNoCycle document cycle)
    · obtain rfl := entries_eq_ok_iff.1 mapping
      split at failed
      · cases failed
      · obtain ⟨chain, nested, shown, repeated⟩ := Element.nested_of_cycle _ failed
        exact ⟨_, chain, reads, nested, shown, repeated⟩

/-! ## A shared file -/

/-- A plain scalar. -/
def plainNode (text : String) : Yaml.Node :=
  .scalar ⟨none, none⟩ text true

/-- A mapping with plain keys. -/
def mappingNode (entries : List (String × Yaml.Node)) : Yaml.Node :=
  .map ⟨none, none⟩ (entries.map fun entry => (plainNode entry.1, entry.2))

open Yaml.Token in
/-- The tokens of a document that imports a file. -/
def importingTokens (name : String) : List Yaml.Token :=
  [blockMapStart, key, scalar "import" true, value, scalar name true, blockEnd]

open Yaml.Node in
theorem ofTokens?_importingTokens (name : String) :
    ofTokens? (importingTokens name) = some (mappingNode [("import", plainNode name)]) := by
  simp [ofTokens?, importingTokens, readDirectives, Yaml.Node.read, readContent,
    readBlockEntries, readBlockPart, readBlockValue, emptyInBlock, endsStream, mappingNode,
    plainNode]

/-- The text `import: b`. -/
def importingText : List UInt8 :=
  Text.Utf8.encode "import: b"

theorem fileEntries_importingText :
    ∀ path, Element.fileEntries path importingText = .ok [("import", .string "b")] :=
  fileEntries_encode _ _ (by decide +kernel) (by decide +kernel) (by decide +kernel)
    (ofTokens?_importingTokens "b") rfl

/-- The text of a root with a parameter and a middleware, and of a route below it. -/
def shelfText : String :=
  "shelf:
 root: /s/:id
 params:
  id: number
 pre_middlewares: [auth]
 routes:
  book:
   path: /book
   methods:
    get: item
"

/-- The entry of the route. -/
def bookEntry : String × Value :=
  ("book", .map [("path", .string "/book"), ("methods", .map [("get", .string "item")])])

/-- The entries that the text is read as. -/
def shelfEntries : Entries String Value :=
  [("shelf", .map [("root", .string "/s/:id"), ("params", .map [("id", .string "number")]),
    ("pre_middlewares", .list [.string "auth"]), ("routes", .map [bookEntry])])]

open Yaml.Token in
/-- The tokens of the text. -/
def shelfTokens : List Yaml.Token :=
  [blockMapStart, key, scalar "shelf" true, value,
    blockMapStart, key, scalar "root" true, value, scalar "/s/:id" true,
      key, scalar "params" true, value,
        blockMapStart, key, scalar "id" true, value, scalar "number" true, blockEnd,
      key, scalar "pre_middlewares" true, value,
        flowListStart, scalar "auth" true, flowListEnd,
      key, scalar "routes" true, value,
        blockMapStart, key, scalar "book" true, value,
          blockMapStart, key, scalar "path" true, value, scalar "/book" true,
            key, scalar "methods" true, value,
              blockMapStart, key, scalar "get" true, value, scalar "item" true, blockEnd,
          blockEnd,
        blockEnd,
      blockEnd,
    blockEnd]

/-- The node that the tokens make up. -/
def shelfNode : Yaml.Node :=
  mappingNode [("shelf", mappingNode [
    ("root", plainNode "/s/:id"),
    ("params", mappingNode [("id", plainNode "number")]),
    ("pre_middlewares", .list ⟨none, none⟩ [plainNode "auth"]),
    ("routes", mappingNode [("book", mappingNode [
      ("path", plainNode "/book"),
      ("methods", mappingNode [("get", plainNode "item")])])])])]

open Yaml.Node in
theorem ofTokens?_shelfTokens : ofTokens? shelfTokens = some shelfNode := by
  simp [ofTokens?, shelfTokens, readDirectives, Yaml.Node.read, readContent, readBlockEntries,
    readBlockPart, readBlockValue, readFlowItems, readFlowItem, emptyInBlock, endsStream,
    shelfNode, mappingNode, plainNode]

theorem fileEntries_shelfText :
    ∀ path, Element.fileEntries path (Text.Utf8.encode shelfText) = .ok shelfEntries :=
  fileEntries_encode _ _ (by decide +kernel) (by decide +kernel) (by decide +kernel)
    ofTokens?_shelfTokens rfl

/-- Two files that import a third, which holds the root, in a directory with an absolute
name. -/
def sharedSources : Element.Sources where
  settings := { configDir := "/srv/config" }
  files := ⟨["srv"], [(["srv", "config", "l"], importingText),
    (["srv", "config", "r"], importingText),
    (["srv", "config", "b"], Text.Utf8.encode shelfText)], []⟩

/-- A document that imports both. -/
def sharingDocument : Value :=
  .map [("import", .list [.string "l", .string "r"])]

/-- The parameter of the root. -/
def shelfId : Parameter :=
  ⟨"id", .number, none⟩

/-- What the root compiles to. -/
def shelfRoot : Root :=
  ⟨"shelf", "/s/:id", [shelfId], ["auth"], []⟩

/-- What the route compiles to. -/
def bookRoute : Route :=
  ⟨"book", "/book", [shelfId], [⟨.get, "item", .ok, true, [shelfId], [], [], []⟩], [], []⟩

/-- What the entries of the third file compile to. -/
def shelfElement : Element :=
  .root shelfRoot [.route bookRoute]

theorem compileItems_shelf (visited : List Location) :
    Element.compileItems sharedSources visited [] (Element.items shelfEntries) =
      pure [shelfElement] := by
  have route : Element.compileItem sharedSources visited [shelfId]
      (.entry bookEntry.1 bookEntry.2) = pure [.route bookRoute] := by
    have frame : Element.frame sharedSources [shelfId] bookEntry.1 bookEntry.2 =
        pure (.route bookRoute) := rfl
    rw [Element.compileItem_entry, frame, pure_bind]
    rfl
  have frame : Element.frame sharedSources [] "shelf" (.map [("root", .string "/s/:id"),
      ("params", .map [("id", .string "number")]), ("pre_middlewares", .list [.string "auth"]),
      ("routes", .map [bookEntry])]) = pure (.root shelfRoot) := rfl
  have inside : Element.inside "shelf" (.map [("root", .string "/s/:id"),
      ("params", .map [("id", .string "number")]), ("pre_middlewares", .list [.string "auth"]),
      ("routes", .map [bookEntry])]) = [.entry bookEntry.1 bookEntry.2] := rfl
  have handedOn : (Element.Frame.root shelfRoot).params = [shelfId] := rfl
  rw [shelfEntries, Element.items, List.map_singleton, Element.compileItems_singleton,
    Element.compileItem_entry, frame, pure_bind, inside, handedOn,
    Element.compileItems_singleton, route]
  rfl

theorem holds_shelf {visited : List Location} (fresh : sharedSources.location "b" ∉ visited) :
    sharedSources.Holds visited "b" shelfEntries :=
  ⟨fresh, Text.Utf8.encode shelfText, by decide +kernel, fileEntries_shelfText _⟩

/-- The third file compiles to what it holds wherever it is not being imported. -/
theorem compileItem_shelf {visited : List Location}
    (fresh : sharedSources.location "b" ∉ visited) :
    Element.compileItem sharedSources visited [] (.file "b") = pure [shelfElement] := by
  rw [(holds_shelf fresh).compileItem, compileItems_shelf]

/-- The document of the two files compiles to an import of the root. -/
theorem compileItems_importing {visited : List Location}
    (fresh : sharedSources.location "b" ∉ visited) :
    Element.compileItems sharedSources visited [] (Element.items [("import", .string "b")]) =
      pure [.imports ["/srv/config/b"] [shelfElement]] := by
  rw [Element.compileItems_import, compileItem_shelf fresh]
  rfl

/-- Either file holds an import of the third. -/
theorem holds_importing {name : String} (named : name = "l" ∨ name = "r") :
    sharedSources.Holds [] name [("import", .string "b")] := by
  refine ⟨List.not_mem_nil, importingText, ?_, fileEntries_importingText _⟩
  rcases named with rfl | rfl <;> decide +kernel

theorem compileItem_sharing {name : String} (named : name = "l" ∨ name = "r") :
    Element.compileItem sharedSources [] [] (.file name) =
      pure [.imports ["/srv/config/b"] [shelfElement]] := by
  rw [(holds_importing named).compileItem, compileItems_importing]
  rcases named with rfl | rfl <;> decide +kernel

theorem compile_sharing :
    (compile sharedSources sharingDocument).outcome =
      .ok [.imports ["/srv/config/l", "/srv/config/r"]
        [.imports ["/srv/config/b"] [shelfElement],
          .imports ["/srv/config/b"] [shelfElement]]] := by
  have named : Element.importNames (.list [.string "l", .string "r"]) = .ok ["l", "r"] := rfl
  rw [sharingDocument, compile_map (List.cons_ne_nil _ _), Element.items, List.map_singleton,
    Element.compileItems_singleton, Element.compileItem_imports rfl named]
  simp only [List.map_cons, List.map_nil]
  rw [Element.compileItems_cons, compileItem_sharing (.inl rfl), Element.compileItems_singleton,
    compileItem_sharing (.inr rfl)]
  rfl

theorem compile_importing :
    (compile sharedSources (.map [("import", .string "b")])).outcome =
      .ok [.imports ["/srv/config/b"] [shelfElement]] := by
  rw [compile_map (List.cons_ne_nil _ _), compileItems_importing List.not_mem_nil]
  rfl

/-- The chains through either file to the one that they share. -/
theorem nested_sharing {name : String} (named : name = "l" ∨ name = "r") :
    Element.Nested sharedSources (documentItems sharingDocument) [name, "b"] := by
  have files : Element.fileNames (documentItems sharingDocument) = ["l", "r"] :=
    Element.fileNames_imports rfl rfl
  have shared : Element.fileNames (Element.items [("import", .string "b")]) = ["b"] :=
    Element.fileNames_imports rfl rfl
  exact .within (by simpa [files] using named) (holds_importing named) (.here (by simp [shared]))

/-! ## A file that imports itself -/

/-- The text `import: /srv/config/b`. -/
def loopText : List UInt8 :=
  Text.Utf8.encode "import: /srv/config/b"

/-- The entries that it is read as. -/
def loopEntries : Entries String Value :=
  [("import", .string "/srv/config/b")]

theorem fileEntries_loopText :
    ∀ path, Element.fileEntries path loopText = .ok loopEntries :=
  fileEntries_encode _ _ (by decide +kernel) (by decide +kernel) (by decide +kernel)
    (ofTokens?_importingTokens "/srv/config/b") rfl

/-- A file that imports itself by its absolute name. -/
def loopSources : Element.Sources where
  settings := {}
  files := ⟨["srv"], [(["srv", "config", "b"], loopText)], []⟩

/-- The location that it imports itself at. -/
def loopLocation : Location :=
  ⟨true, ["srv", "config", "b"]⟩

theorem location_loop : loopSources.location "/srv/config/b" = loopLocation := by
  decide +kernel

theorem holds_loop {visited : List Location} {name : String}
    (named : name = "b" ∨ name = "/srv/config/b") (fresh : loopSources.location name ∉ visited) :
    loopSources.Holds visited name loopEntries := by
  refine ⟨fresh, loopText, ?_, fileEntries_loopText _⟩
  rcases named with rfl | rfl <;> decide +kernel

/-- The document has a cycle while the file is being imported at that location. -/
theorem compileItem_loop {visited : List Location} (importing : loopLocation ∈ visited) :
    Element.compileItem loopSources visited [] (.file "/srv/config/b") =
      .reject (.importCycle (visited ++ [loopLocation])) := by
  rw [Element.compileItem_file, location_loop, if_pos importing]

/-- Otherwise it is imported first. -/
theorem compileItems_loop {visited : List Location} (fresh : loopLocation ∉ visited) :
    Element.compileItems loopSources visited [] (Element.items loopEntries) =
      .reject (.importCycle (visited ++ [loopLocation, loopLocation])) := by
  have again : Element.compileItems loopSources (visited ++ [loopLocation]) []
      (Element.items loopEntries) =
        .reject (.importCycle (visited ++ [loopLocation] ++ [loopLocation])) := by
    rw [loopEntries, Element.compileItems_import, compileItem_loop (by simp)]
    rfl
  have holds : loopSources.Holds visited "/srv/config/b" loopEntries :=
    holds_loop (.inr rfl) (location_loop ▸ fresh)
  rw [loopEntries, Element.compileItems_import, holds.compileItem, location_loop, again,
    List.append_assoc]
  rfl

theorem compile_loop :
    (compile loopSources (.map loopEntries)).outcome =
      .error (.invalid (.importCycle [loopLocation, loopLocation])) := by
  rw [compile_map (by decide), compileItems_loop List.not_mem_nil]
  rfl

/-- Imported by its other name, the file is on the stack at two locations when the cycle is
found. -/
theorem compile_loopByName :
    (compile loopSources (.map [("import", .string "b")])).outcome =
      .error (.invalid (.importCycle [⟨false, ["config", "b"]⟩, loopLocation, loopLocation])) := by
  have location : loopSources.location "b" = ⟨false, ["config", "b"]⟩ := by decide +kernel
  have holds : loopSources.Holds [] "b" loopEntries := holds_loop (.inl rfl) List.not_mem_nil
  rw [compile_map (List.cons_ne_nil _ _), Element.compileItems_import, holds.compileItem,
    location, compileItems_loop (by decide)]
  rfl

/-- The imports of the file lead to one location. -/
theorem ncard_importLocations_loop :
    (Element.importLocations loopSources [.file "/srv/config/b"]).ncard ≤ 1 := by
  rw [← Set.ncard_singleton loopLocation]
  refine Set.ncard_le_ncard ?_
  rintro location ⟨chain, nested, visits⟩
  obtain ⟨name, through, rfl⟩ := List.mem_map.1 visits
  have named := nested.named name through
  have inFiles : Element.namesInFiles loopSources = ["/srv/config/b"] := by
    rw [Element.namesInFiles, loopSources, List.flatMap_singleton]
    dsimp only
    rw [fileEntries_loopText]
    exact Element.fileNames_imports rfl rfl
  have imported : Element.fileNames [.file "/srv/config/b"] = ["/srv/config/b"] :=
    Element.fileNames_files ["/srv/config/b"]
  rw [inFiles, imported] at named
  obtain rfl : name = "/srv/config/b" := by simpa using named
  exact location_loop

/-- A session without modules that reads the shared file. -/
def sharingSession : Session :=
  start sharedSources ⟨.empty, .empty⟩

/-- A session without modules that reads the file that imports itself. -/
def loopSession : Session :=
  start loopSources ⟨.empty, .empty⟩

/-- The shared file is no cycle, although two chains visit it, and neither file leads back to
itself.  The file that imports itself is a cycle, at one location or two, although the entry
file is not being imported; the import that fails leaves the stack as it was. -/
theorem shared_file_compiles_and_loop_is_caught :
    (sharingSession.step (.parseValue sharingDocument)).error = none ∧
      (∀ name, name = "l" ∨ name = "r" →
        Element.Nested sharedSources (documentItems sharingDocument) [name, "b"]) ∧
      (∀ chain, Element.Nested sharedSources (documentItems sharingDocument) chain →
        (chain.map sharedSources.location).Nodup ∧ (chain.map sharedSources.place).Nodup) ∧
      (sharingSession.step (.parseFile "l")).error = none ∧
      (∀ chain, Element.Nested sharedSources (Element.items [("import", .string "b")]) chain →
        ∀ other ∈ chain, sharedSources.place other ≠ sharedSources.place "l") ∧
      (loopSession.step (.parseFile "b")).error =
        some (.invalid (.importCycle [loopLocation, loopLocation])) ∧
      (loopSession.step (.parseValue (.map [("import", .string "b")]))).error =
        some (.invalid (.importCycle [⟨false, ["config", "b"]⟩, loopLocation, loopLocation])) ∧
      (∃ document chain,
        (Step.parseFile "b").document? loopSources = some (.ok document) ∧
        Element.Nested loopSources (documentItems document) chain ∧
        [loopLocation, loopLocation] = chain.map loopSources.location) ∧
      ∃ later, Element.process loopSources 1 [] [.file "/srv/config/b"] ⟨[loopLocation], []⟩ =
        some (.reject (.importCycle [loopLocation, loopLocation]), ⟨[loopLocation], later⟩) := by
  have compiled : (sharingSession.step (.parseValue sharingDocument)).error = none := by
    rw [step_eq_adopt rfl, adopt_error_eq_none_iff]
    exact ⟨_, compile_sharing⟩
  have readsShared : (Step.parseFile "l").document? sharingSession.sources =
      some (.ok (.map [("import", .string "b")])) :=
    congrArg some (readDocument_map_iff.2 (holds_importing (.inl rfl)))
  have compiledFile : (sharingSession.step (.parseFile "l")).error = none := by
    rw [step_eq_adopt readsShared, adopt_error_eq_none_iff]
    exact ⟨_, compile_importing⟩
  have reads : (Step.parseFile "b").document? loopSession.sources = some (.ok (.map loopEntries)) :=
    congrArg some (readDocument_map_iff.2 (holds_loop (.inl rfl) List.not_mem_nil))
  have caught : (loopSession.step (.parseFile "b")).error =
      some (.invalid (.importCycle [loopLocation, loopLocation])) := by
    rw [step_eq_adopt reads, adopt_error_eq_some_iff]
    exact compile_loop
  have caughtByName : (loopSession.step (.parseValue (.map [("import", .string "b")]))).error =
      some (.invalid (.importCycle [⟨false, ["config", "b"]⟩, loopLocation, loopLocation])) := by
    rw [step_eq_adopt rfl, adopt_error_eq_some_iff]
    exact compile_loopByName
  obtain ⟨_, _, distinct, _⟩ :=
    imports_end_and_cycles_are_caught sharingSession (.parseValue sharingDocument)
  obtain ⟨_, _, apart, _⟩ := imports_end_and_cycles_are_caught sharingSession (.parseFile "l")
  obtain ⟨_, restored, _, shown⟩ :=
    imports_end_and_cycles_are_caught loopSession (.parseFile "b")
  obtain ⟨document, chain, known, nested, visits, _⟩ := shown _ caught
  obtain ⟨later, left⟩ := restored "/srv/config/b" 1 ncard_importLocations_loop [] [loopLocation]
    [] (List.nodup_singleton _)
  refine ⟨compiled, fun _ => nested_sharing, fun chain nested => ?_, compiledFile,
    fun chain nested => (apart _ readsShared compiledFile chain nested).2.2 "l" rfl, caught,
    caughtByName, ⟨document, chain, known, nested, visits⟩, later, left.trans ?_⟩
  · obtain ⟨locations, places, _⟩ := distinct _ rfl compiled chain nested
    exact ⟨locations, places⟩
  · rw [show loopSession.sources = loopSources from rfl,
      compileItem_loop (List.mem_singleton_self _)]
    rfl

end RoutePlan.Session
