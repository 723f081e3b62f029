/-!
# YAML tokens

What YAML text consists of.  Block collections have no brackets in the text;
their tokens are found from the indentation.
-/

namespace RoutePlan.Yaml

/-- A token of YAML text. -/
inductive Token where
  /-- `%YAML`, with the version. -/
  | versionDirective (major minor : Nat)
  /-- `%TAG`, with a handle and what it stands for. -/
  | tagDirective (handle base : String)
  | documentStart
  | documentEnd
  | blockListStart
  | blockMapStart
  | blockEnd
  | flowListStart
  | flowListEnd
  | flowMapStart
  | flowMapEnd
  | blockEntry
  | flowEntry
  | key
  | value
  | alias (name : String)
  | anchor (name : String)
  | tag (handle suffix : String)
  /-- A scalar, and whether it was written without quotes or indicators. -/
  | scalar (text : String) (plain : Bool)
deriving DecidableEq

end RoutePlan.Yaml
