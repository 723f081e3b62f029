import RoutePlan.FilePath

/-!
# Module names

A module name is `file` or `file:export`, split at its first colon.  An empty
export selects the default export.  Under a base directory it names a unit, the
location of its file.
-/

namespace RoutePlan

/-- A parsed reference to an export of a unit. -/
structure ModuleName where
  file : String
  /-- `none` selects the default export. -/
  selector : Option String
deriving DecidableEq

namespace ModuleName

/-- Parse a name; every text is one. -/
def parse (name : String) : ModuleName :=
  match Text.splitFirst? ':' name with
  | none => ⟨name, none⟩
  | some (file, selector) => ⟨file, if selector = "" then none else some selector⟩

/-- The unit that the name means under a base directory. -/
def unit (name : ModuleName) (base : String) : Location :=
  FilePath.normalize (FilePath.join base name.file)

/-- The place looked up, as errors report it. -/
def display (name : ModuleName) (base : String) : String :=
  match name.selector with
  | none => (name.unit base).display
  | some selector => (name.unit base).display ++ ":" ++ selector

end ModuleName

end RoutePlan
