import RoutePlan.FileSet
import RoutePlan.Settings.Check
import RoutePlan.Settings.Reader
import RoutePlan.Toml.Document

/-!
# Loading settings

Settings are a TOML document.  It is read, then checked; what comes out is valid.
-/

namespace RoutePlan.Settings

/-- Why settings cannot be loaded. -/
inductive Problem where
  | unreadable (problem : FileSet.Problem)
  | malformed
  | invalid (violations : List Violation)

/-- The wording. -/
def Problem.message : Problem → String
  | unreadable problem => "IO error: " ++ problem.message
  | malformed => "Parse error: malformed settings"
  | invalid violations =>
      "Validation failed: " ++ String.intercalate ", " (violations.map Violation.display)

/-- The settings that a text holds. -/
def ofText (text : String) : Except Problem Settings :=
  match (Toml.read? text).bind (Settings.ofValue? true) with
  | none => .error .malformed
  | some settings =>
      if settings.violations = [] then .ok settings else .error (.invalid settings.violations)

/-- The settings that a file holds. -/
def load (files : FileSet) (path : String) : Except Problem Settings :=
  match files.readText path with
  | .error problem => .error (.unreadable problem)
  | .ok text => ofText text

end RoutePlan.Settings
