import RoutePlan.FileSet

/-!
# What the files of a set hold

Paths that lead to the same place read the same file, and what a path reads depends
on the file at its place only.
-/

namespace RoutePlan.FileSet

/-- What a path reads is what the file at its place holds. -/
theorem eq_of_contents? {fileSet : FileSet} {path : String} {place : List String}
    {octets held : List UInt8} (contents : fileSet.read path = .ok octets)
    (same : FilePath.place fileSet.workingDirectory path = place)
    (present : fileSet.contents? place = some held) : octets = held := by
  have there := contents?_place_of_read fileSet contents
  rw [same, present] at there
  exact (Option.some.inj there).symm

/-- Files at the same place are the same file. -/
theorem read_eq_of_place_eq {fileSet : FileSet} {path other : String}
    {octets others : List UInt8} (contents : fileSet.read path = .ok octets)
    (otherContents : fileSet.read other = .ok others)
    (same : FilePath.place fileSet.workingDirectory path =
      FilePath.place fileSet.workingDirectory other) : octets = others :=
  eq_of_contents? contents same (contents?_place_of_read fileSet otherContents)

/-! ## A file with other contents -/

/-- The file set in which the file at a place holds other octets. -/
def replace (fileSet : FileSet) (place : List String) (octets : List UInt8) : FileSet :=
  { fileSet with
    files := fileSet.files.map fun file => (file.1, if file.1 = place then octets else file.2) }

section Replace

variable (fileSet : FileSet) (place : List String) (octets : List UInt8)

@[simp]
theorem workingDirectory_replace :
    (fileSet.replace place octets).workingDirectory = fileSet.workingDirectory :=
  rfl

theorem contents?_replace (components : List String) :
    (fileSet.replace place octets).contents? components =
      (fileSet.contents? components).map fun held =>
        if components = place then octets else held := by
  unfold replace contents?
  induction fileSet.files with
  | nil => rfl
  | cons file rest ih =>
      obtain ⟨present, held⟩ := file
      by_cases same : components = present
      · simp [same]
      · have apart : (components == present) = false := by simpa using same
        simp only [List.map_cons, List.lookup_cons, apart]
        exact ih

theorem isDirectory_replace (components : List String) :
    (fileSet.replace place octets).isDirectory components = fileSet.isDirectory components := by
  simp [isDirectory, replace, List.any_map, Function.comp_def]

theorem follow_replace (start steps : List String) :
    (fileSet.replace place octets).follow start steps = fileSet.follow start steps := by
  induction steps generalizing start with
  | nil => rfl
  | cons piece rest ih =>
      simp only [follow, isDirectory_replace, contents?_replace, Option.isSome_map, ih]

/-- A path leads to the same place. -/
theorem resolve_replace (path : String) :
    (fileSet.replace place octets).resolve path = fileSet.resolve path := by
  simp only [resolve, follow_replace, workingDirectory_replace]

/-- What a path reads is replaced when it leads to the place, and stays when it does not. -/
theorem read_replace (path : String) :
    (fileSet.replace place octets).read path =
      (fileSet.read path).map fun held =>
        if FilePath.place fileSet.workingDirectory path = place then octets else held := by
  unfold read
  rw [resolve_replace]
  cases led : fileSet.resolve path with
  | error problem => rfl
  | ok found =>
      rw [resolve_eq_place fileSet led]
      dsimp only
      rw [contents?_replace, isDirectory_replace]
      cases fileSet.contents? found <;> rfl

variable {fileSet place octets} {path : String} {held : List UInt8}

/-- The file that is replaced is read with its new contents. -/
theorem read_replace_of_eq (contents : fileSet.read path = .ok held)
    (same : FilePath.place fileSet.workingDirectory path = place) :
    (fileSet.replace place octets).read path = .ok octets := by
  rw [read_replace, contents, Except.map, if_pos same]

/-- A path that cannot be read cannot be read for the same reason. -/
theorem read_replace_of_error {problem : Problem} (unread : fileSet.read path = .error problem) :
    (fileSet.replace place octets).read path = .error problem := by
  rw [read_replace, unread, Except.map]

/-- Other files are read as before. -/
theorem read_replace_of_ne (apart : FilePath.place fileSet.workingDirectory path ≠ place) :
    (fileSet.replace place octets).read path = fileSet.read path := by
  rw [read_replace]
  cases fileSet.read path with
  | error problem => rfl
  | ok held => rw [Except.map, if_neg apart]

end Replace

end RoutePlan.FileSet
