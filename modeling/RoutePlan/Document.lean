import RoutePlan.PlanError
import RoutePlan.Text.Blank
import RoutePlan.Value
import RoutePlan.Yaml.Document

/-!
# Route documents

A route document is a YAML text that holds a mapping of elements.  A text that is
blank or whose value is null is an empty document.
-/

namespace RoutePlan.Document

/-- Read the value of a document. -/
def read (text : String) : Except PlanError Value :=
  if Text.isBlankText text then .error .emptyDocument
  else
    match Yaml.read? text with
    | none => .error .malformedDocument
    | some .null => .error .emptyDocument
    | some value => .ok value

/-- The entries of a document. -/
def entries : Value → Except PlanError (Entries String Value)
  | .map entries => .ok entries
  | .null => .error .emptyDocument
  | other => .error (.invalid (.documentNotMapping other.kindName))

end RoutePlan.Document
