/-!
# Lines

A text as its lines, and indentation by two spaces.  A line ends with LF or
CR LF; the last line needs no end, and an end at the very end opens no further
line.
-/

namespace RoutePlan.Text

/-- A line without the CR that stands before its LF. -/
def dropReturn (line : List Char) : List Char :=
  if line.getLast? = some '\r' then line.dropLast else line

/-- The lines of a text, given the characters of the current line so far. -/
def linesFrom (current : List Char) : List Char → List (List Char)
  | [] => if current = [] then [] else [current]
  | '\n' :: rest => dropReturn current :: linesFrom [] rest
  | c :: rest => linesFrom (current ++ [c]) rest

/-- The lines of a text. -/
def lines (text : String) : List String :=
  (linesFrom [] text.toList).map String.ofList

/-- Put two spaces in front of every line. -/
def indent (text : String) : String :=
  String.intercalate "\n" ((lines text).map ("  " ++ ·))

end RoutePlan.Text
