import RoutePlan.Text.Blank

/-!
# Mail addresses

A mail address is split at its last `@`.  The right part is two or more labels
between dots, the last of at least two characters.  The left part is one or more
labels, or a quoted text on one line.  A label is not empty, and holds neither
white space nor one of `<>()[].,;:@"`.
-/

namespace RoutePlan.Mail

/-- The characters of labels. -/
def isLabelChar (c : Char) : Bool :=
  !("<>()[].,;:@\"".toList.contains c) && !Text.isBlank c

/-- A label. -/
def isLabel (label : List Char) : Bool :=
  !label.isEmpty && label.all isLabelChar

/-- Split at the last separator, if there is one. -/
def splitLast? (separator : Char) : List Char → Option (List Char × List Char)
  | [] => none
  | c :: rest =>
      match splitLast? separator rest with
      | some (before, after) => some (c :: before, after)
      | none => if c = separator then some ([], rest) else none

/-- One or more labels between dots. -/
def isDotted (text : List Char) : Bool :=
  (text.splitOn '.').all isLabel

/-- Two or more labels between dots, the last of at least two characters. -/
def isDomain (text : List Char) : Bool :=
  let labels := text.splitOn '.'
  labels.all isLabel && decide (2 ≤ labels.length) &&
    decide (2 ≤ (labels.getLast?.getD []).length)

/-- One or more characters on one line between two quotes. -/
def isQuoted (text : List Char) : Bool :=
  text.head? == some '"' && text.getLast? == some '"' && decide (3 ≤ text.length) &&
    !(text.contains '\n')

/-- Whether a text is a mail address. -/
def isAddress (text : List Char) : Bool :=
  match splitLast? '@' text with
  | none => false
  | some (mailbox, domain) => (isDotted mailbox || isQuoted mailbox) && isDomain domain

end RoutePlan.Mail
