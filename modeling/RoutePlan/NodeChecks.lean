import RoutePlan.Checked
import RoutePlan.Text.Blank
import RoutePlan.Value.Compact

/-!
# Checks shared by nodes

The fields that several kinds of nodes have, and the warning for the keys that a
node does not use.
-/

namespace RoutePlan

/-- One warning for each key that is not recognized, in order. -/
def unusedKeys (node : NodeName) (recognized : List String) (config : Entries String Value) :
    List Warning :=
  ((Entries.keys config).filter fun key => !recognized.contains key).map fun key => ⟨node, key⟩

/-- The characters of URL paths in a document. -/
def isPathChar (c : Char) : Bool :=
  c.isAlphanum || c == '_' || c == '/' || c == ':' || c == '-'

/-- A path in a document is `/` or three or more path characters. -/
def isPathText (path : String) : Bool :=
  path == "/" || (decide (3 ≤ path.toList.length) && path.toList.all isPathChar)

/-- Read the `root` or `path` of a node. -/
def readPath (node : NodeName) (field : String) : Option Value → Except PlanError String
  | some (.string path) =>
      if isPathText path then .ok path else .error (.invalid (.badPath node field path))
  | some other => .error (.invalid (.pathNotText node field other.kindName))
  | none => .error (.invalid (.pathMissing node field))

/-- A name is a string that is not blank. -/
def readName? : Value → Option String
  | .string name => if Text.isBlankText name then none else some name
  | _ => none

/-- Read a reference to a middleware. -/
def readMiddleware (value : Value) : Except PlanError String :=
  match readName? value with
  | some name => .ok name
  | none => .error (.invalid (.middlewareName value.compact))

/-- Read a list of middleware names; absent and null are the empty list. -/
def readMiddlewares (node : NodeName) (field : String) :
    Option Value → Except PlanError (List String)
  | none => .ok []
  | some .null => .ok []
  | some (.list items) =>
      match items.mapM readName? with
      | some names => .ok names
      | none => .error (.invalid (.middlewareNotNamed node field))
  | some other => .error (.invalid (.middlewaresNotList node field other.kindName))

/-- Require that a node is configured by a mapping. -/
def requireMapping (node : NodeName) : Value → Except PlanError (Entries String Value)
  | .map config => .ok config
  | .null => .error (.nodeMissing node)
  | other => .error (.invalid (.nodeNotMapping node other.kindName))

end RoutePlan
