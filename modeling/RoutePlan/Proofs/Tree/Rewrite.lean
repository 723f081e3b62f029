import RoutePlan.Proofs.Tree.Hole
import RoutePlan.Proofs.Tree.Inline

/-!
# Files with other documents

When the documents of a file before and after a change have traces that differ in the
warnings at a place at most, so have all configurations that may import the file, at the
place in the file.  This holds of compilations that fail, too: the file is read at the same
moments, and it is being imported or not as before.
-/

namespace RoutePlan

/-! ## Nodes of the document itself -/

section Own

variable {α : Type} {change : List Warning → List Warning} {file : List String}
  {keys : List String}

namespace Traced

@[simp]
theorem revise_construct_file (warnings : List Warning) :
    (construct warnings).revise ⟨some file, keys⟩ change = construct warnings :=
  rfl

@[simp]
theorem revise_under_file (key : String) (traced : Traced α) :
    (traced.under key).revise ⟨some file, keys⟩ change =
      (traced.revise ⟨some file, keys⟩ change).under key := by
  simp only [under, revise, relog_relog]
  refine relog_congr (fun node => ?_) traced
  obtain ⟨⟨file?, present⟩, warnings⟩ := node
  cases file? with
  | none => rfl
  | some other =>
      by_cases same : (⟨some other, present⟩ : Place) = ⟨some file, keys⟩ <;>
        simp [Construction.revise, Place.under, same]

theorem revise_each_file {trace : String → Value → Traced α}
    (own : ∀ key value, (trace key value).revise ⟨some file, keys⟩ change = trace key value)
    (entries : Entries String Value) :
    (each trace entries).revise ⟨some file, keys⟩ change = each trace entries := by
  induction entries with
  | nil => rfl
  | cons entry rest ih =>
      simp only [each_cons, revise_bind, revise_pure, revise_under_file, own, ih]

/-- A file has its own nodes, and those of the files that it imports. -/
theorem revise_inFile (traced : Traced α) :
    (traced.inFile file).revise ⟨some file, keys⟩ change =
      ((traced.revise ⟨some file, keys⟩ change).revise ⟨none, keys⟩ change).inFile
        file := by
  simp only [inFile, revise, relog_relog]
  refine relog_congr (fun node => ?_) traced
  obtain ⟨⟨file?, present⟩, warnings⟩ := node
  cases file? with
  | none => by_cases same : present = keys <;> simp [Construction.revise, Place.inFile, same]
  | some other =>
      by_cases same : other = file ∧ present = keys <;>
        simp [Construction.revise, Place.inFile, same]

theorem revise_inFile_of_ne {other : List String} (apart : other ≠ file) (traced : Traced α) :
    (traced.inFile other).revise ⟨some file, keys⟩ change =
      (traced.revise ⟨some file, keys⟩ change).inFile other := by
  simp only [inFile, revise, relog_relog]
  refine relog_congr (fun node => ?_) traced
  obtain ⟨⟨file?, present⟩, warnings⟩ := node
  cases file? with
  | none => simp [Construction.revise, Place.inFile, apart]
  | some held =>
      by_cases same : held = file ∧ present = keys <;>
        simp [Construction.revise, Place.inFile, same]

end Traced

@[simp]
theorem Parameter.revise_trace_file (name : String) (declaration : Value) :
    (trace name declaration).revise ⟨some file, keys⟩ change = trace name declaration := by
  unfold trace
  split
  · rfl
  · cases declaration <;> simp

@[simp]
theorem Parameter.revise_traceAll_file (node : NodeName) (field : String)
    (config : Option Value) :
    (traceAll node field config).revise ⟨some file, keys⟩ change =
      traceAll node field config := by
  unfold traceAll
  split
  · rfl
  · rfl
  · exact Traced.revise_each_file revise_trace_file _
  · rfl

@[simp]
theorem MountHead.revise_traceFields_file (node : NodeName) (pathField : String)
    (inherited : List Parameter) (config : Entries String Value) :
    (traceFields node pathField inherited config).revise ⟨some file, keys⟩ change =
      traceFields node pathField inherited config := by
  simp [traceFields]

@[simp]
theorem Method.revise_trace_file (settings : RouteSettings) (params : List Parameter)
    (verbName : String) (value : Value) :
    (trace settings params verbName value).revise ⟨some file, keys⟩ change =
      trace settings params verbName value := by
  unfold trace
  cases Verb.parse? verbName with
  | none => rfl
  | some verb => simp [traceFields]

@[simp]
theorem Route.revise_traceMethods_file (settings : RouteSettings) (name : String)
    (params : List Parameter) (field : Option Value) :
    (traceMethods settings name params field).revise ⟨some file, keys⟩ change =
      traceMethods settings name params field := by
  unfold traceMethods
  split
  · rfl
  · rfl
  · rfl
  · exact Traced.revise_each_file (Method.revise_trace_file settings params) _
  · rfl

theorem Element.revise_traceFrame_file {sources : Sources} (inherited : List Parameter)
    (key : String) (value : Value) :
    (traceFrame sources inherited key value).revise ⟨some file, keys⟩ change =
      traceFrame sources inherited key value := by
  unfold traceFrame
  cases classify key value with
  | error error => rfl
  | ok kind =>
      cases kind with
      | imports => simp
      | route => simp [Route.trace, Route.traceFields]
      | root => cases value <;> simp [traceRoot]

end Own

/-! ## Files -/

namespace Element

/-- Other files, of which one holds another document. -/
structure Sources.Rewrites (sources : Sources) (files : FileSet) (file : List String)
    (entries rewritten : Entries String Value) : Prop where
  start : files.workingDirectory = sources.files.workingDirectory
  elsewhere : ∀ path, FilePath.place sources.files.workingDirectory path ≠ file →
    files.read path = sources.files.read path
  there : ∀ path, FilePath.place sources.files.workingDirectory path = file →
    (∃ problem, sources.files.read path = .error problem ∧ files.read path = .error problem) ∨
      ∃ held octets, sources.files.read path = .ok held ∧ files.read path = .ok octets ∧
        fileEntries "" held = .ok entries ∧ fileEntries "" octets = .ok rewritten

variable {sources : Sources} {files : FileSet} {file : List String}
  {entries rewritten : Entries String Value} {change : List Warning → List Warning}
  {keys : List String}

/-- A file with other octets holds another document. -/
theorem Sources.rewrites_replace {place : List String} {held octets : List UInt8}
    (present : sources.files.contents? place = some held)
    (read : fileEntries "" held = .ok entries) (reread : fileEntries "" octets = .ok rewritten) :
    sources.Rewrites (sources.files.replace place octets) place entries rewritten := by
  refine ⟨rfl, fun path apart => FileSet.read_replace_of_ne apart, fun path same => ?_⟩
  cases contents : sources.files.read path with
  | error problem => exact .inl ⟨problem, rfl, FileSet.read_replace_of_error contents⟩
  | ok found =>
      obtain rfl : held = found := (FileSet.eq_of_contents? contents same present).symm
      exact .inr ⟨held, octets, rfl, FileSet.read_replace_of_eq contents same, read, reread⟩

namespace Sources.Rewrites

/-- The files as they are hold the document that the file holds. -/
theorem refl (rewrites : sources.Rewrites files file entries rewritten) :
    sources.Rewrites sources.files file entries entries := by
  refine ⟨rfl, fun _ _ => rfl, fun path same => ?_⟩
  rcases rewrites.there path same with ⟨problem, unread, _⟩ | ⟨held, _, contents, _, read, _⟩
  · exact .inl ⟨problem, unread, unread⟩
  · exact .inr ⟨held, held, contents, contents, read, read⟩

/-- Every file has its place among the other files, too. -/
theorem place_eq (rewrites : sources.Rewrites files file entries rewritten) (name : String) :
    (sources.withFiles files).place name = sources.place name :=
  congrArg (FilePath.place · (sources.path name)) rewrites.start

/-- A configuration that may import the file has the same trace but for the place in the
file. -/
theorem traceItems_eq (rewrites : sources.Rewrites files file entries rewritten)
    (revised : Level.elements.Revised (sources.withFiles files) change keys entries rewritten)
    (visited : List Location) (inherited : List Parameter) (list : List Item) :
    traceItems (sources.withFiles files) visited inherited list =
      (traceItems sources visited inherited list).revise ⟨some file, keys⟩ change := by
  induction visited, list using insideInduction sources generalizing inherited with
  | nil visited => rw [traceItems_nil, traceItems_nil, Traced.revise_pure]
  | entry visited key value rest insideIH restIH =>
      have frame : traceFrame (sources.withFiles files) inherited key value =
          traceFrame sources inherited key value := rfl
      rw [traceItems_entry, traceItems_entry, traceEntry, traceEntry, frame]
      simp only [insideIH, restIH, Traced.revise_bind, Traced.revise_pure,
        Traced.revise_under_file, revise_traceFrame_file]
  | file visited name rest holdsIH restIH =>
      rw [traceItems_file, traceItems_file, Traced.revise_bind]
      simp only [restIH, Traced.revise_bind, Traced.revise_pure]
      congr 1
      unfold traceFile
      rw [Sources.location_withFiles, rewrites.place_eq]
      split
      · rfl
      · next fresh =>
          have below {octets : List UInt8} {document : Entries String Value}
              (contents : sources.files.read (sources.path name) = .ok octets)
              (held : fileEntries (sources.path name) octets = .ok document) :=
            holdsIH document ⟨fresh, octets, contents, held⟩ (items document) inherited
          have reads : (sources.withFiles files).files.read
              ((sources.withFiles files).path name) = files.read (sources.path name) := rfl
          have named : (sources.withFiles files).path name = sources.path name := rfl
          rw [reads, named]
          by_cases same : sources.place name = file
          · rcases rewrites.there (sources.path name) same with
              ⟨problem, unread, otherUnread⟩ | ⟨held, octets, contents, otherContents, read, reread⟩
            · rw [unread, otherUnread]
              rfl
            · rw [contents, otherContents]
              simp only [fileEntries_eq_ok read, fileEntries_eq_ok reread, Traced.ofExcept_ok,
                pure_bind]
              rw [revised, below contents (fileEntries_eq_ok read), same, Traced.revise_inFile]
          · rw [rewrites.elsewhere (sources.path name) same]
            cases contents : sources.files.read (sources.path name) with
            | error problem => rfl
            | ok octets =>
                dsimp only
                cases held : fileEntries (sources.path name) octets with
                | error error => rfl
                | ok document =>
                    simp only [Traced.ofExcept_ok, pure_bind, below contents held,
                      Traced.revise_inFile_of_ne same]

end Sources.Rewrites

end Element

end RoutePlan
