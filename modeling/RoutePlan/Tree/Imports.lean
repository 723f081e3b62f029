import RoutePlan.Document
import RoutePlan.FileSet
import RoutePlan.Tree.Compile

/-!
# Imports

An import names files of the configuration directory, which are compiled in its
place with the inherited parameters.  The locations of the files being imported
are kept, outermost first; a file that is among them is a cycle.

Every file that is read is one of a finite set and so has finitely many locations,
none of which is kept twice.  So the locations that may still be imported become fewer
with each nested import, and compilation ends on every file set.
-/

namespace RoutePlan

namespace Element

/-- What a compilation depends on besides the document. -/
structure Sources where
  settings : RouteSettings
  files : FileSet

/-- The file names of an import. -/
def importNames : Value → Except PlanError (List String)
  | .null => .error (.nodeMissing ⟨.imports, "import"⟩)
  | .string name => .ok [name]
  | .list [] => .error (.invalid .importsNothing)
  | .list items =>
      match items.mapM readName? with
      | some names => .ok names
      | none => .error (.invalid .importNotNamed)
  | other => .error (.invalid (.importShape other.kindName))

/-- The entries of the document that a file holds. -/
def fileEntries (path : String) (octets : List UInt8) : Except PlanError (Entries String Value) :=
  match Text.Utf8.decode? octets with
  | none => .error (.fileNotText path)
  | some text => do Document.entries (← Document.read text)

/-- How many of the locations at which a file may be read are not being imported. -/
def unvisited (files : FileSet) (visited : List Location) : Nat :=
  (files.locations.filter (· ∉ visited)).length

/-- Visiting a file of the set leaves fewer locations to visit. -/
theorem unvisited_lt {files : FileSet} {path : String} {octets : List UInt8}
    {visited : List Location} (contents : files.read path = .ok octets)
    (fresh : FilePath.normalize path ∉ visited) :
    unvisited files (visited ++ [FilePath.normalize path]) < unvisited files visited := by
  have present := files.normalize_mem_locations contents
  have narrowed (locations : List Location) :
      locations.filter (· ∉ visited ++ [FilePath.normalize path]) =
        (locations.filter (· ∉ visited)).filter (· ≠ FilePath.normalize path) := by
    rw [List.filter_filter]
    apply List.filter_congr
    intro other _
    simp [Bool.and_comm]
  unfold unvisited
  rw [narrowed]
  apply List.length_filter_lt_length_iff_exists.2
  exact ⟨_, List.mem_filter.2 ⟨present, by simpa using fresh⟩, by simp⟩

/-- Compile the entries of a document, with its imports, while the files at some
locations are being imported. -/
def compileDocument (sources : Sources) (visited : List Location)
    (inherited : List Parameter) (entries : Entries String Value) : Checked (List Element) :=
  compileAll sources.settings
    (fun inherited value => do
      let names ← Checked.ofExcept (importNames value)
      let imported ← Checked.traverse
        (fun name =>
          let path := FilePath.join sources.settings.configDir name
          let location := FilePath.normalize path
          if _cycle : location ∈ visited then
            Checked.reject (.importCycle (visited ++ [location]))
          else
            match _contents : sources.files.read path with
            | .error _ => .fail (.fileNotFound path)
            | .ok octets => do
                let entries ← Checked.ofExcept (fileEntries path octets)
                let elements ←
                  compileDocument sources (visited ++ [location]) inherited entries
                return (path, elements))
        names
      return .imports (imported.map Prod.fst) (imported.flatMap Prod.snd))
    inherited entries
termination_by unvisited sources.files visited
decreasing_by exact unvisited_lt _contents _cycle

end Element

end RoutePlan
