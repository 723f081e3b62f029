import RoutePlan.Text.Utf8
import RoutePlan.Trail

/-!
# File sets

A finite set of files and directories, each named by its components from the root,
with a working directory in which relative paths begin.  A path is followed piece by
piece, and every piece but the last must lead to a directory.

Where a path leads, if anywhere, is its place (`resolve_eq_place`).  Its location does
not tell the place: `../../x` has the location of `x`, and `x` may lead where an absolute
path does.  But the location ends with the names that the place ends with.  So the files
that can be read have finitely many locations (`normalize_mem_locations`), and reading a
file adds one of them to the files being imported.
-/

namespace RoutePlan

/-- Files and directories by their components from the root, which is the directory
without components. -/
structure FileSet where
  /-- The directory in which relative paths begin. -/
  workingDirectory : List String
  files : List (List String × List UInt8)
  directories : List (List String)

namespace FileSet

/-- No files at all, with the root as the working directory. -/
def empty : FileSet := ⟨[], [], []⟩

instance : Inhabited FileSet := ⟨empty⟩

/-- The octets of a file. -/
def contents? (fileSet : FileSet) (components : List String) : Option (List UInt8) :=
  fileSet.files.lookup components

/-- Whether a directory, or a directory above a file or directory, has the
components. -/
def isDirectory (fileSet : FileSet) (components : List String) : Bool :=
  (fileSet.workingDirectory :: fileSet.directories).any (components.isPrefixOf ·) ||
    fileSet.files.any fun file => components.isPrefixOf file.1 && components != file.1

/-- Why a path cannot be read. -/
inductive Problem where
  | notFound | notDirectory | isDirectory | notText
deriving DecidableEq

/-- The wording of a problem. -/
def Problem.message : Problem → String
  | notFound => "No such file or directory (os error 2)"
  | notDirectory => "Not a directory (os error 20)"
  | isDirectory => "Is a directory (os error 21)"
  | notText => "stream did not contain valid UTF-8"

/-- Follow the pieces of a path from a place. -/
def follow (fileSet : FileSet) (place : List String) :
    List String → Except Problem (List String)
  | [] => .ok place
  | piece :: rest =>
      if fileSet.isDirectory place then
        if piece = "" then follow fileSet place rest
        else follow fileSet (FilePath.step place piece) rest
      else if (fileSet.contents? place).isSome then .error .notDirectory
      else .error .notFound

/-- The place that a path leads to. -/
def resolve (fileSet : FileSet) (path : String) : Except Problem (List String) :=
  if path = "" ∨ path.toList.contains '\x00' then .error .notFound
  else follow fileSet (FilePath.origin fileSet.workingDirectory path) (Text.pieces '/' path)

/-- The octets of the file that a path leads to. -/
def read (fileSet : FileSet) (path : String) : Except Problem (List UInt8) :=
  match resolve fileSet path with
  | .error problem => .error problem
  | .ok place =>
      match fileSet.contents? place with
      | some octets => .ok octets
      | none => .error (if fileSet.isDirectory place then .isDirectory else .notFound)

/-- The text of the file that a path leads to. -/
def readText (fileSet : FileSet) (path : String) : Except Problem String :=
  match read fileSet path with
  | .error problem => .error problem
  | .ok octets =>
      match Text.Utf8.decode? octets with
      | some text => .ok text
      | none => .error .notText

/-! ## Where paths lead -/

theorem follow_eq_foldl (fileSet : FileSet) {place found : List String} {steps : List String}
    (led : follow fileSet place steps = .ok found) :
    (steps.filter (· ≠ "")).foldl FilePath.step place = found := by
  induction steps generalizing place with
  | nil => simpa [follow] using led
  | cons piece rest ih =>
      unfold follow at led
      split at led
      · split at led
        · next empty => simpa [empty] using ih led
        · next filled => simpa [filled] using ih led
      · split at led <;> cases led

/-- Where a path leads is its place. -/
theorem resolve_eq_place (fileSet : FileSet) {path : String} {place : List String}
    (led : resolve fileSet path = .ok place) :
    FilePath.place fileSet.workingDirectory path = place := by
  unfold resolve at led
  split at led
  · cases led
  · have segmentsEq : Text.segments path = (Text.pieces '/' path).filter (· ≠ "") := by
      simp only [Text.segments, Text.pieces, List.filter_map]
      congr 1
      apply List.filter_congr
      intro piece _
      simp [Function.comp, ← String.toList_inj]
    rw [FilePath.place, segmentsEq, follow_eq_foldl fileSet led]

/-- A file that can be read is the one at the place of its path. -/
theorem contents?_place_of_read (fileSet : FileSet) {path : String} {octets : List UInt8}
    (contents : read fileSet path = .ok octets) :
    fileSet.contents? (FilePath.place fileSet.workingDirectory path) = some octets := by
  unfold read at contents
  split at contents
  · cases contents
  · next place led =>
      rw [resolve_eq_place fileSet led]
      split at contents
      · next found =>
          cases contents
          exact found
      · cases contents

/-- The lists that a place may end with. -/
def endings (place : List String) : List (List String) :=
  (List.range (place.length + 1)).map place.drop

theorem mem_endings {names place : List String} (ends : names <:+ place) :
    names ∈ endings place := by
  refine List.mem_map.2 ⟨place.length - names.length, ?_, (List.suffix_iff_eq_drop.1 ends).symm⟩
  exact List.mem_range.2 (Nat.lt_succ_of_le (Nat.sub_le _ _))

/-- The locations of all paths that may lead to a file: what its place ends with, perhaps
behind one `..`. -/
def locations (fileSet : FileSet) : List Location :=
  fileSet.files.flatMap fun file =>
    (endings file.1).flatMap fun names =>
      [⟨false, names⟩, ⟨false, ".." :: names⟩, ⟨true, names⟩, ⟨true, ".." :: names⟩]

/-- The location of a file that can be read is one of finitely many. -/
theorem normalize_mem_locations (fileSet : FileSet) {path : String} {octets : List UInt8}
    (contents : read fileSet path = .ok octets) :
    FilePath.normalize path ∈ fileSet.locations := by
  obtain ⟨before, after, files, _⟩ :=
    List.lookup_eq_some_iff.1 (contents?_place_of_read fileSet contents)
  rw [FilePath.place_eq] at files
  have ends := (FilePath.trail path).down_suffix_place
    (FilePath.origin fileSet.workingDirectory path)
  refine List.mem_flatMap.2 ⟨_, files ▸ List.mem_append_right _ List.mem_cons_self, ?_⟩
  refine List.mem_flatMap.2 ⟨_, mem_endings ends, ?_⟩
  rw [FilePath.normalize_eq, Trail.kept]
  rcases Nat.mod_two_eq_zero_or_one (FilePath.trail path).up with even | odd
  · cases FilePath.isAbsolute path <;> simp [even]
  · cases FilePath.isAbsolute path <;> simp [odd]

end FileSet

end RoutePlan
