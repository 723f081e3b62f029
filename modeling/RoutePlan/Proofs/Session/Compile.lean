import RoutePlan.Proofs.Session.Run
import RoutePlan.Proofs.Tree.Items

/-!
# What the steps of a session compile

Each step that compiles reads a document, from a value, a text or a file, and takes over
what its entries compile to.
-/

namespace RoutePlan.Session

/-- The document that a step reads, if it is one that compiles. -/
def Step.document? (sources : Element.Sources) : Step → Option (Except PlanError Value)
  | .parseValue document => some (.ok document)
  | .parseText text => some (Document.read text)
  | .parseFile name => some (readDocument sources name)
  | .load => none
  | .changeFiles _ => none

/-- The entries of a document, as items. -/
def documentItems (document : Value) : List Element.Item :=
  Element.items document.entriesOrNone

section Documents

variable {sources : Element.Sources} {document : Value}

theorem entries_eq_ok_iff {entries : Entries String Value} :
    Document.entries document = .ok entries ↔ document = .map entries := by
  unfold Document.entries
  split <;> simp_all

/-- A document compiles as its entries do, of which there is at least one. -/
theorem compile_eq_compileItems (sources : Element.Sources) (document : Value) :
    compile sources document =
      Checked.ofExcept (Document.entries document) >>= fun entries =>
        if entries.isEmpty then .fail (.emptyRoutes "/")
        else Element.compileItems sources [] [] (Element.items entries) := by
  simp only [compile, Element.compileDocument_eq_compileItems]

theorem compileItems_of_compile {forest : List Element}
    (compiled : (compile sources document).outcome = .ok forest) :
    ∃ entries, document = .map entries ∧ entries ≠ [] ∧
      (Element.compileItems sources [] [] (Element.items entries)).outcome = .ok forest := by
  rw [compile_eq_compileItems] at compiled
  obtain ⟨entries, mapping, compiled⟩ := Checked.bind_outcome_eq_ok_iff.1 compiled
  refine ⟨entries, entries_eq_ok_iff.1 mapping, ?_⟩
  split at compiled
  · cases compiled
  · next filled => exact ⟨by simpa using filled, compiled⟩

/-- A mapping that is not empty compiles as its entries do. -/
theorem compile_map {entries : Entries String Value} (filled : entries ≠ []) :
    compile sources (.map entries) =
      Element.compileItems sources [] [] (Element.items entries) := by
  rw [compile_eq_compileItems, Document.entries]
  have nonempty : entries.isEmpty = false := by simpa using filled
  show (Pure.pure entries >>= _ : Checked _) = _
  rw [pure_bind, nonempty]
  rfl

theorem fileEntries_eq_ok_iff {path : String} {octets : List UInt8}
    {entries : Entries String Value} :
    Element.fileEntries path octets = .ok entries ↔
      ∃ text, Text.Utf8.decode? octets = some text ∧ Document.read text = .ok (.map entries) := by
  unfold Element.fileEntries
  cases Text.Utf8.decode? octets with
  | none => simp
  | some text => simp [bind_eq_ok_iff, entries_eq_ok_iff]

/-- The entries of a text, from its tokens and the node that they make up. -/
theorem fileEntries_encode {text : String} {entries : Entries String Value}
    (tokens : List Yaml.Token) (node : Yaml.Node)
    (decoded : Text.Utf8.decode? (Text.Utf8.encode text) = some text)
    (filled : ¬Text.isBlankText text)
    (scanned : Yaml.prepare? text >>= Yaml.tokens? = some tokens)
    (parsed : Yaml.Node.ofTokens? tokens = some node)
    (held : Yaml.valueOfNode? node = some (.map entries)) (path : String) :
    Element.fileEntries path (Text.Utf8.encode text) = .ok entries := by
  have value : Yaml.read? text = some (.map entries) := by
    obtain ⟨chars, prepared, scanned⟩ := Option.bind_eq_some_iff.1 scanned
    simp [Yaml.read?, prepared, scanned, parsed, held]
  refine fileEntries_eq_ok_iff.2 ⟨text, decoded, ?_⟩
  rw [Document.read, if_neg filled, value]

theorem readDocument_eq_ok_iff {name : String} :
    readDocument sources name = .ok document ↔
      ∃ octets text, sources.files.read (sources.path name) = .ok octets ∧
        Text.Utf8.decode? octets = some text ∧ Document.read text = .ok document := by
  unfold readDocument FileSet.readText Element.Sources.path
  dsimp only
  cases contents : sources.files.read (FilePath.join sources.settings.configDir name) with
  | error problem => cases problem <;> simp
  | ok octets => cases decoded : Text.Utf8.decode? octets <;> simp [decoded]

/-- A file with a text is read as the document of the text. -/
theorem readDocument_eq_read {name text : String} {octets : List UInt8}
    (contents : sources.files.read (sources.path name) = .ok octets)
    (decoded : Text.Utf8.decode? octets = some text) :
    readDocument sources name = Document.read text := by
  have held :
      sources.files.readText (FilePath.join sources.settings.configDir name) = .ok text := by
    unfold Element.Sources.path at contents
    simp only [FileSet.readText, contents, decoded]
  simp only [readDocument, held]

/-- A file that holds a document is read as it is for an import. -/
theorem readDocument_map_iff {name : String} {entries : Entries String Value} :
    readDocument sources name = .ok (.map entries) ↔ sources.Holds [] name entries := by
  rw [readDocument_eq_ok_iff]
  constructor
  · rintro ⟨octets, text, contents, decoded, read⟩
    exact ⟨List.not_mem_nil, octets, contents, fileEntries_eq_ok_iff.2 ⟨text, decoded, read⟩⟩
  · rintro ⟨_, octets, contents, held⟩
    obtain ⟨text, decoded, read⟩ := fileEntries_eq_ok_iff.1 held
    exact ⟨octets, text, contents, decoded, read⟩

end Documents

section Steps

variable {session : Session} {step : Step}

/-- A step takes over what its document compiles to. -/
theorem step_eq_adopt {document : Value}
    (reads : step.document? session.sources = some (.ok document)) :
    session.step step = session.adopt (compile session.sources document) := by
  cases step with
  | parseValue value =>
      cases reads
      rfl
  | parseText text =>
      rw [Session.step, parseText, Option.some.inj reads]
      rfl
  | parseFile name =>
      rw [Session.step, parseFile, Option.some.inj reads]
      rfl
  | load => cases reads
  | changeFiles files => cases reads

theorem adopt_error_eq_none_iff {compilation : Checked (List Element)} :
    (session.adopt compilation).error = none ↔
      ∃ forest, compilation.outcome = .ok forest := by
  unfold adopt
  split <;> simp_all

theorem adopt_error_eq_some_iff {compilation : Checked (List Element)} {error : PlanError} :
    (session.adopt compilation).error = some error ↔ compilation.outcome = .error error := by
  unfold adopt
  split <;> simp_all

section Compiled

variable {document : Value} (reads : step.document? session.sources = some (.ok document))
  (compiles : (session.step step).error = none)

include reads compiles

/-- A step that compiles its document holds what the items of the document compile to. -/
theorem compileItems_of_step :
    (Element.compileItems session.sources [] [] (documentItems document)).outcome =
      .ok (session.step step).session.forest := by
  rw [step_eq_adopt reads] at compiles ⊢
  obtain ⟨forest, compiled⟩ := adopt_error_eq_none_iff.1 compiles
  obtain ⟨entries, rfl, _, built⟩ := compileItems_of_compile compiled
  rw [adopt, compiled]
  exact built

/-- What a step compiles is there to be loaded. -/
theorem phase_of_step : (session.step step).session.phase = .compiled := by
  rw [step_eq_adopt reads] at compiles ⊢
  obtain ⟨forest, compiled⟩ := adopt_error_eq_none_iff.1 compiles
  rw [adopt, compiled]

end Compiled

end Steps

end RoutePlan.Session
