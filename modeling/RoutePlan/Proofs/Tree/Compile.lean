import RoutePlan.Proofs.Checked
import RoutePlan.Tree.Imports

/-!
# Compilation, entry by entry and file by file

A compilation goes through the entries of mappings and, at an import, through the
files that it names.  Here both are items of one list, so that a statement on
compilations has one induction: an entry may hold the entries of a root or name
files, and a file that is not being imported holds entries.  Along the way either
fewer files are left to visit or the values become smaller.

The equations of `compile` and `compileDocument` stand beside it, in a form that
does not show how the recursion ends.
-/

namespace RoutePlan.Element

/-! ## Equations -/

section Equations

variable {settings : RouteSettings} {importer : Importer} {inherited : List Parameter}
  {key : String} {value : Value}

/-- A mapping compiles entry by entry. -/
theorem compileAll_eq_traverse (entries : Entries String Value) :
    compileAll settings importer inherited entries =
      Checked.traverse (fun entry => compile settings importer inherited entry.1 entry.2)
        entries := by
  induction entries with
  | nil => rw [compileAll, Checked.traverse]
  | cons entry rest ih => rw [compileAll, Checked.traverse, ih]

theorem compile_error {error : PlanError} (shape : classify key value = .error error) :
    compile settings importer inherited key value = .fail error := by
  unfold compile
  rw [shape]

theorem compile_imports (shape : classify key value = .ok .imports) :
    compile settings importer inherited key value = importer inherited value := by
  unfold compile
  rw [shape]

theorem compile_route (shape : classify key value = .ok .route) :
    compile settings importer inherited key value =
      route <$> Route.compile settings inherited key value := by
  unfold compile
  rw [shape, ← bind_pure_comp]

theorem compile_root {config rest : Entries String Value} {entry : String × Value}
    (shape : classify key (.map config) = .ok .root)
    (routes : config.lookup "routes" = some (.map (entry :: rest))) :
    compile settings importer inherited key (.map config) = do
      let head ← MountHead.compile ⟨.root, key⟩ "root" Root.recognizedKeys inherited config
      let children ← compileAll settings importer head.params (entry :: rest)
      return .root (Root.ofHead key head) children := by
  unfold compile
  rw [shape]
  dsimp only
  congr 1
  funext head
  split <;> simp_all

/-- A root compiles only if it has a mapping of routes that is not empty. -/
theorem exists_routes_of_compile {element : Element} (shape : classify key value = .ok .root)
    (compiled : (compile settings importer inherited key value).outcome = .ok element) :
    ∃ config entry rest, value = .map config ∧
      config.lookup "routes" = some (.map (entry :: rest)) := by
  unfold compile at compiled
  rw [shape] at compiled
  dsimp only at compiled
  split at compiled
  · next config =>
      obtain ⟨head, _, compiled⟩ := Checked.bind_outcome_eq_ok_iff.1 compiled
      split at compiled
      · cases compiled
      · cases compiled
      · cases compiled
      · next entry rest found => exact ⟨config, entry, rest, rfl, found⟩
      · cases compiled
  · cases compiled

end Equations

/-! ## Imports -/

variable (sources : Sources)

/-- The path of a file that an import names. -/
def Sources.path (name : String) : String :=
  FilePath.join sources.settings.configDir name

/-- The location of a file that an import names. -/
def Sources.location (name : String) : Location :=
  FilePath.normalize (sources.path name)

/-- The place of a file that an import names. -/
def Sources.place (name : String) : List String :=
  FilePath.place sources.files.workingDirectory (sources.path name)

/-- A named file that is not being imported holds a document with the entries. -/
structure Sources.Holds (visited : List Location) (name : String)
    (entries : Entries String Value) : Prop where
  fresh : sources.location name ∉ visited
  readable : ∃ octets, sources.files.read (sources.path name) = .ok octets ∧
    fileEntries (sources.path name) octets = .ok entries

/-- Compile a named file, while the files at some locations are being imported. -/
def importFile (visited : List Location) (inherited : List Parameter) (name : String) :
    Checked (String × List Element) :=
  if sources.location name ∈ visited then
    Checked.reject (.importCycle (visited ++ [sources.location name]))
  else
    match sources.files.read (sources.path name) with
    | .error _ => .fail (.fileNotFound (sources.path name))
    | .ok octets => do
        let entries ← Checked.ofExcept (fileEntries (sources.path name) octets)
        let elements ←
          compileDocument sources (visited ++ [sources.location name]) inherited entries
        return (sources.path name, elements)

/-- What imports compile to, while the files at some locations are being imported. -/
def importer (visited : List Location) : Importer := fun inherited value => do
  let names ← Checked.ofExcept (importNames value)
  let imported ← Checked.traverse (importFile sources visited inherited) names
  return .imports (imported.map Prod.fst) (imported.flatMap Prod.snd)

/-- A document compiles as any mapping does, with the files as its importer. -/
theorem compileDocument_eq (visited : List Location) (inherited : List Parameter)
    (entries : Entries String Value) :
    compileDocument sources visited inherited entries =
      compileAll sources.settings (importer sources visited) inherited entries := by
  rw [compileDocument]
  congr 1
  funext inherited value
  show Checked.ofExcept (importNames value) >>= _ = Checked.ofExcept (importNames value) >>= _
  congr 1
  funext names
  congr 2
  funext name
  unfold importFile Sources.location Sources.path
  dsimp only
  split
  · rfl
  · split
    · next contents => rw [contents]
    · next contents => rw [contents]

variable {sources} {visited : List Location} {inherited : List Parameter} {name : String}

/-- A file that is imported is not being imported already, and holds a document. -/
theorem exists_holds_of_importFile {imported : String × List Element}
    (compiled : (importFile sources visited inherited name).outcome = .ok imported) :
    ∃ entries, sources.Holds visited name entries := by
  unfold importFile at compiled
  split at compiled
  · cases compiled
  · next fresh =>
      split at compiled
      · cases compiled
      · next octets contents =>
          obtain ⟨entries, held, _⟩ := Checked.bind_outcome_eq_ok_iff.1 compiled
          exact ⟨entries, fresh, octets, contents, held⟩

/-- A file that holds a document leaves fewer files to visit. -/
theorem Sources.Holds.unvisited_lt {entries : Entries String Value}
    (holds : sources.Holds visited name entries) :
    unvisited sources.files (visited ++ [sources.location name]) <
      unvisited sources.files visited := by
  obtain ⟨octets, contents, _⟩ := holds.readable
  exact Element.unvisited_lt contents holds.fresh

/-! ## Induction -/

/-- What a compilation goes through: the entries of mappings, and named files. -/
inductive Item where
  | entry (key : String) (value : Value)
  | file (name : String)

/-- The entries of a mapping, as items. -/
def items (entries : Entries String Value) : List Item :=
  entries.map fun entry => .entry entry.1 entry.2

/-- The size of the entries among some items. -/
noncomputable def Item.weight : List Item → Nat
  | [] => 0
  | .entry _ value :: rest => sizeOf value + 1 + weight rest
  | .file _ :: rest => weight rest

theorem Item.weight_items_lt (entries : Entries String Value) :
    weight (items entries) < sizeOf entries := by
  induction entries with
  | nil => decide
  | cons entry rest ih =>
      simp only [items, List.map_cons, weight] at ih ⊢
      obtain ⟨key, value⟩ := entry
      simp
      omega

theorem Item.weight_files (names : List String) : weight (names.map .file) = 0 := by
  induction names with
  | nil => rfl
  | cons name rest ih => exact ih

/-- Induction on what a compilation goes through.  An entry comes with the entries
of the root that it may be and with all files that it may name, a file with anything
that is compiled while it is being imported. -/
theorem itemInduction (sources : Sources) {motive : List Location → List Item → Prop}
    (nil : ∀ visited, motive visited [])
    (entry : ∀ visited key value rest,
      (∀ config entries, value = .map config → config.lookup "routes" = some (.map entries) →
        motive visited (items entries)) →
      (∀ names : List String, motive visited (names.map .file)) → motive visited rest →
        motive visited (.entry key value :: rest))
    (file : ∀ visited name rest,
      (∀ entries, sources.Holds visited name entries → ∀ others,
        motive (visited ++ [sources.location name]) others) →
      motive visited rest → motive visited (.file name :: rest))
    (visited : List Location) (list : List Item) : motive visited list :=
  match list with
  | [] => nil visited
  | .entry key value :: rest =>
      entry visited key value rest
        (fun _ entries _same _found =>
          itemInduction sources nil entry file visited (items entries))
        (fun names => itemInduction sources nil entry file visited (names.map .file))
        (itemInduction sources nil entry file visited rest)
  | .file name :: rest =>
      file visited name rest
        (fun entries _holds others =>
          itemInduction sources nil entry file (visited ++ [sources.location name]) others)
        (itemInduction sources nil entry file visited rest)
termination_by (unvisited sources.files visited, Item.weight list, list.length)
decreasing_by
  · -- the entries of a root are smaller than the root
    have inner := Item.weight_items_lt entries
    have outer := sizeOf_lookup_lt _found
    refine .right _ (.left _ _ ?_)
    subst _same
    simp only [Item.weight, Value.map.sizeOf_spec] at outer ⊢
    omega
  · -- files have no weight
    refine .right _ (.left _ _ ?_)
    rw [Item.weight_files, Item.weight]
    omega
  · refine .right _ (.left _ _ ?_)
    rw [Item.weight]
    omega
  · exact .left _ _ _holds.unvisited_lt
  · refine .right _ (.right _ ?_)
    rw [List.length_cons]
    omega

end RoutePlan.Element
