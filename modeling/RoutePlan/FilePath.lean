import RoutePlan.Text.Segments

/-!
# File paths

A file path is kept as it was written.  What it leads to is told lexically: a
`Location` is the list of its components without `.`, where each `..` takes back
the component before it, and stands for itself when there is none.

Two paths with the same location are the same path for the registry of modules
and for the check for import cycles.  The files know a path by its place instead,
the names from the root down to what it names: a relative path begins in a
directory, and above the root there is the root.
-/

namespace RoutePlan

/-- A path as its components: whether it begins at the root, and the names. -/
structure Location where
  absolute : Bool
  components : List String
deriving DecidableEq, Inhabited

namespace FilePath

/-- A path beginning with a slash. -/
def isAbsolute (path : String) : Bool :=
  path.toList.head? == some '/'

/-- The path `child` as seen from the directory `base`.  An absolute child stands
alone; one slash stands between the two, none after an empty base. -/
def join (base child : String) : String :=
  if isAbsolute child then child
  else if base = "" ∨ base.toList.getLast? = some '/' then base ++ child
  else base ++ "/" ++ child

/-- Go from some components to one further: `.` stays, `..` takes back the last
component, or is one itself when there is none. -/
def walk (components : List String) (name : String) : List String :=
  if name = "." then components
  else if name = ".." then
    if components = [] then [".."] else components.dropLast
  else components ++ [name]

/-- Where a path leads, lexically. -/
def normalize (path : String) : Location :=
  ⟨isAbsolute path, (Text.segments path).foldl walk []⟩

/-- Where a component leads from a place, given by the names from the root down to it: `..`
goes up one level, and stays put at the root. -/
def step (place : List String) (name : String) : List String :=
  if name = "." then place
  else if name = ".." then place.dropLast
  else place ++ [name]

/-- The directory that a path is followed from. -/
def origin (start : List String) (path : String) : List String :=
  if isAbsolute path then [] else start

/-- The place that a path names, seen from a directory. -/
def place (start : List String) (path : String) : List String :=
  (Text.segments path).foldl step (origin start path)

end FilePath

namespace Location

/-- The location as a path. -/
def display (location : Location) : String :=
  (if location.absolute then "/" else "") ++ String.intercalate "/" location.components

/-- The order of components: the root, `..`, then names by their characters. -/
def componentBefore (left right : String) : Bool :=
  if left = ".." then right != ".."
  else if right = ".." then false
  else decide (left < right)

/-- Lexicographic order of component lists. -/
def componentsBefore : List String → List String → Bool
  | _, [] => false
  | [], _ :: _ => true
  | left :: leftRest, right :: rightRest =>
      if left = right then componentsBefore leftRest rightRest else componentBefore left right

/-- Whether one location sorts strictly before another: component by component,
the root before every other first component. -/
def before (left right : Location) : Bool :=
  match left.absolute, right.absolute with
  | true, false => !right.components.isEmpty
  | false, true => left.components.isEmpty
  | _, _ => componentsBefore left.components right.components

end Location

end RoutePlan
