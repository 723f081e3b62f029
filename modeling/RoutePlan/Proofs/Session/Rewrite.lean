import RoutePlan.Proofs.Session.Compile
import RoutePlan.Proofs.Tree.Rewrite

/-!
# Steps on edited documents

A step that compiles a document may be made on an edited one instead: the edit is in the
value, in the text or in a file of the configuration directory, be it imported or the one
that the step reads.  What is true of the traces of the documents is true of the traces of
the steps.
-/

namespace RoutePlan.Session

open Element (Sources)

/-! ## Traced steps -/

/-- Compile the entries of a document. -/
def trace (sources : Sources) (document : Value) : Traced (List Element) := do
  let entries ← .ofExcept (Document.entries document)
  if entries.isEmpty then .fail (.emptyRoutes "/")
  else Element.traceItems sources [] [] (Element.items entries)

theorem erase_trace (sources : Sources) (document : Value) :
    (trace sources document).erase = compile sources document := by
  rw [trace, compile_eq_compileItems, Traced.erase_bind, Traced.erase_ofExcept]
  congr 1
  funext entries
  split
  · rfl
  · exact Element.erase_traceItems [] [] _

/-- What a step compiles, if it compiles something.  The nodes of a file that it reads stand
in that file, as if it were imported. -/
def Step.trace? (sources : Sources) : Step → Option (Traced (List Element))
  | .parseValue document => some (trace sources document)
  | .parseText text => some (Traced.ofExcept (Document.read text) >>= trace sources)
  | .parseFile name =>
      some ((Traced.ofExcept (readDocument sources name) >>= trace sources).inFile
        (sources.place name))
  | .load => none
  | .changeFiles _ => none

/-- The nodes that a step constructs, in order. -/
def constructions (session : Session) (step : Step) : List Place :=
  match step.trace? session.sources with
  | some traced => traced.log.map Construction.place
  | none => []

variable {sources : Sources}

/-- A step takes over what it compiles. -/
theorem step_eq_adopt_erase {session : Session} {step : Step} {traced : Traced (List Element)}
    (compiles : step.trace? session.sources = some traced) :
    session.step step = session.adopt traced.erase := by
  cases step with
  | parseValue document =>
      cases compiles
      rw [erase_trace]
      rfl
  | parseText text =>
      cases compiles
      simp only [Traced.erase_bind, Traced.erase_ofExcept, erase_trace]
      rfl
  | parseFile name =>
      cases compiles
      simp only [Traced.erase_inFile, Traced.erase_bind, Traced.erase_ofExcept, erase_trace]
      rfl
  | load => cases compiles
  | changeFiles files => cases compiles

/-! ## Sessions with other files -/

/-- The session with other files. -/
def withFiles (session : Session) (files : FileSet) : Session :=
  { session with sources := session.sources.withFiles files }

/-- The steps answer the same error, or none, and leave the same session but for its
files. -/
structure After.Agrees (before after : After) : Prop where
  error : after.error = before.error
  session : after.session = before.session.withFiles after.session.sources.files

theorem After.Agrees.forest {before after : After} (agrees : before.Agrees after) :
    after.session.forest = before.session.forest := by
  rw [agrees.session]
  rfl

/-- Compilations with the same outcome are taken over alike. -/
theorem adopt_agrees {session : Session} {first second : Checked (List Element)}
    (files : FileSet) (same : second.outcome = first.outcome) :
    After.Agrees (session.adopt first) ((session.withFiles files).adopt second) := by
  unfold adopt
  rw [same]
  cases first.outcome <;> exact ⟨rfl, rfl⟩

/-- A load does not read files. -/
theorem load_agrees (session : Session) (files : FileSet) :
    After.Agrees session.load (session.withFiles files).load := by
  obtain ⟨sources, modules, forest, phase, router, resolved⟩ := session
  cases phase <;> exact ⟨rfl, rfl⟩

theorem load_warnings (session : Session) : session.load.warnings = [] := by
  unfold load
  cases session.phase <;> rfl

/-! ## Edited steps -/

/-- A step and one on an edited document, with the files that the latter finds: the document
is a value, a text or in a file. -/
inductive Step.Edits (sources : Sources) (entries others : Entries String Value) :
    Step → FileSet → Step → Option (List String) → Prop where
  | value : Edits sources entries others (.parseValue (.map entries)) sources.files
      (.parseValue (.map others)) none
  | text {text other} (read : Document.read text = .ok (.map entries))
      (otherRead : Document.read other = .ok (.map others)) :
      Edits sources entries others (.parseText text) sources.files (.parseText other) none
  | file {step files place} (rewrites : sources.Rewrites files place entries others) :
      Edits sources entries others step files step (some place)

section Edited

variable {files : FileSet} {place : List String} {entries others : Entries String Value}
  {step other : Step} {file? : Option (List String)} {change : List Warning → List Warning}
  {keys : List String}

/-- A step is on the document that it is on. -/
theorem Step.Edits.refl (edits : Step.Edits sources entries others step files other file?) :
    Step.Edits sources entries entries step sources.files step file? := by
  cases edits with
  | value => exact .value
  | text read otherRead => exact .text read read
  | file rewrites => exact .file rewrites.refl

/-- A document with revised entries. -/
theorem trace_map (revised : Level.elements.Revised sources change keys entries others)
    (filled : others.isEmpty = entries.isEmpty) :
    trace sources (.map others) = (trace sources (.map entries)).revise ⟨none, keys⟩ change := by
  simp only [trace, Document.entries, Traced.ofExcept_ok, pure_bind, filled]
  split
  · rfl
  · exact revised [] []

/-- A document that may import a file with revised entries. -/
theorem trace_of_rewrites (rewrites : sources.Rewrites files place entries others)
    (revised : Level.elements.Revised (sources.withFiles files) change keys entries others)
    (document : Value) :
    trace (sources.withFiles files) document =
      (trace sources document).revise ⟨some place, keys⟩ change := by
  unfold trace
  rw [Traced.revise_bind, Traced.revise_ofExcept]
  congr 1
  funext entries
  split
  · rfl
  · exact rewrites.traceItems_eq revised [] [] _

theorem readDocument_withFiles_of_read_eq {name : String}
    (same : files.read (sources.path name) = sources.files.read (sources.path name)) :
    readDocument (sources.withFiles files) name = readDocument sources name := by
  unfold readDocument FileSet.readText
  unfold Sources.path at same
  simp only [Sources.withFiles, same]

/-- A file that holds another document is read as either document, or not at all. -/
theorem readDocument_of_rewrites {name : String}
    (rewrites : sources.Rewrites files place entries others)
    (same : sources.place name = place) :
    (∃ error, readDocument sources name = .error error ∧
        readDocument (sources.withFiles files) name = .error error) ∨
      (readDocument sources name = .ok (.map entries) ∧
        readDocument (sources.withFiles files) name = .ok (.map others)) := by
  rcases rewrites.there (sources.path name) same with
    ⟨problem, unread, otherUnread⟩ | ⟨held, octets, contents, otherContents, read, reread⟩
  · left
    rw [readDocument_withFiles_of_read_eq (otherUnread.trans unread.symm)]
    cases document : readDocument sources name with
    | error error => exact ⟨error, rfl, rfl⟩
    | ok document =>
        obtain ⟨octets, _, contents, _⟩ := readDocument_eq_ok_iff.1 document
        rw [unread] at contents
        cases contents
  · right
    obtain ⟨text, decoded, parsed⟩ := fileEntries_eq_ok_iff.1 read
    obtain ⟨other, otherDecoded, otherParsed⟩ := fileEntries_eq_ok_iff.1 reread
    exact ⟨readDocument_eq_ok_iff.2 ⟨held, text, contents, decoded, parsed⟩,
      readDocument_eq_ok_iff.2 ⟨octets, other, otherContents, otherDecoded, otherParsed⟩⟩

/-- A step on an edited document has the same trace but for a place in the document. -/
theorem Step.Edits.trace?_eq (edits : Step.Edits sources entries others step files other file?)
    (revised : Level.elements.Revised (sources.withFiles files) change keys entries others)
    (filled : others.isEmpty = entries.isEmpty) :
    other.trace? (sources.withFiles files) =
      (step.trace? sources).map (Traced.revise ⟨file?, keys⟩ change) := by
  cases edits with
  | value => exact congrArg some (trace_map revised filled)
  | text read otherRead =>
      simp only [Step.trace?, read, otherRead, Traced.ofExcept_ok, pure_bind, Option.map_some]
      exact congrArg some (trace_map revised filled)
  | @file _ _ place rewrites =>
      have below := trace_of_rewrites rewrites revised
      cases step with
      | parseValue document => exact congrArg some (below document)
      | parseText text =>
          simp only [Step.trace?, funext below, Option.map_some, Traced.revise_bind,
            Traced.revise_ofExcept]
      | load => rfl
      | changeFiles files => rfl
      | parseFile name =>
          simp only [Step.trace?, Option.map_some, rewrites.place_eq]
          congr 1
          by_cases same : sources.place name = place
          · rcases readDocument_of_rewrites rewrites same with
              ⟨error, unread, otherUnread⟩ | ⟨read, reread⟩
            · rw [unread, otherUnread]
              rfl
            · rw [read, reread, same, Traced.revise_inFile, Traced.ofExcept_ok,
                Traced.ofExcept_ok, pure_bind, pure_bind, trace_map revised filled, below]
          · rw [readDocument_withFiles_of_read_eq (rewrites.elsewhere _ same),
              Traced.revise_inFile_of_ne same, Traced.revise_bind, Traced.revise_ofExcept,
              funext below]

/-- A step on a document that is revised to itself has a trace that is. -/
theorem Step.Edits.revise_eq_self {traced : Traced (List Element)}
    (edits : Step.Edits sources entries others step files other file?)
    (revised : Level.elements.Revised sources change keys entries entries)
    (compiles : step.trace? sources = some traced) :
    traced.revise ⟨file?, keys⟩ change = traced := by
  have unchanged : step.trace? sources =
      (step.trace? sources).map (Traced.revise ⟨file?, keys⟩ change) :=
    edits.refl.trace?_eq revised rfl
  rw [compiles] at unchanged
  exact (Option.some.inj unchanged).symm

/-- An edited step takes over the revised trace. -/
theorem Step.Edits.step_eq {session : Session} {traced : Traced (List Element)}
    (edits : Step.Edits session.sources entries others step files other file?)
    (revised : Level.elements.Revised (session.sources.withFiles files) change keys entries others)
    (filled : others.isEmpty = entries.isEmpty)
    (compiles : step.trace? session.sources = some traced) :
    (session.withFiles files).step other =
      (session.withFiles files).adopt (traced.revise ⟨file?, keys⟩ change).erase := by
  apply step_eq_adopt_erase
  have edited := edits.trace?_eq revised filled
  rw [compiles] at edited
  exact edited

/-- A step that compiles nothing does the same with other files. -/
theorem Step.Edits.step_of_trace?_eq_none {session : Session}
    (edits : Step.Edits session.sources entries others step files other file?)
    (nothing : step.trace? session.sources = none) :
    After.Agrees (session.step step) ((session.withFiles files).step other) ∧
      (session.step step).warnings = [] ∧
      ((session.withFiles files).step other).warnings = [] := by
  cases edits with
  | value => cases nothing
  | text => cases nothing
  | file rewrites =>
      cases step with
      | load => exact ⟨load_agrees session files, load_warnings _, load_warnings _⟩
      | changeFiles files => exact ⟨⟨rfl, rfl⟩, rfl, rfl⟩
      | _ => cases nothing

end Edited

end RoutePlan.Session
