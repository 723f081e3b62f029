/-!
# Segments

A slashed text as the list of its segments, the runs of characters between the
slashes.  Empty segments do not count, so leading, trailing and doubled slashes
change nothing.
-/

namespace RoutePlan.Text

/-- The pieces of a text between separators, empty ones included. -/
def pieces (separator : Char) (text : String) : List String :=
  (text.toList.splitOn separator).map String.ofList

/-- The segments of a slashed text. -/
def segments (text : String) : List String :=
  ((text.toList.splitOn '/').filter (· ≠ [])).map String.ofList

/-- Split at the first separator; nothing is returned when there is none. -/
def splitFirst? (separator : Char) (text : String) : Option (String × String) :=
  let (before, rest) := text.toList.span (· ≠ separator)
  match rest with
  | [] => none
  | _ :: after => some (String.ofList before, String.ofList after)

/-- Whether two texts are equal when the case of ASCII letters is ignored. -/
def equalIgnoringCase (left right : String) : Bool :=
  left.toList.map Char.toLower == right.toList.map Char.toLower

end RoutePlan.Text
