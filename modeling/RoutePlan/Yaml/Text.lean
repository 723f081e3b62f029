/-!
# YAML text

The characters that YAML text may hold, its line breaks, and positions in it.
Before anything else is read the text is checked for forbidden characters, and has
CR LF, CR and NEL replaced by LF; line and paragraph separators stay as they are
and break lines too.
-/

namespace RoutePlan.Yaml

/-- The characters that YAML text may hold. -/
def isAllowed (c : Char) : Bool :=
  let code := c.toNat
  code == 0x09 || code == 0x0A || code == 0x0D || (0x20 ≤ code && code ≤ 0x7E) || code == 0x85
    || (0xA0 ≤ code && code ≤ 0xFFFD) || 0x10000 ≤ code

/-- Replace CR LF, CR and NEL by LF. -/
def normalizeBreaks : List Char → List Char
  | '\r' :: '\n' :: rest => '\n' :: normalizeBreaks rest
  | c :: rest => (if c = '\r' ∨ c = '\x85' then '\n' else c) :: normalizeBreaks rest
  | [] => []

/-- The characters of a text to be read, if all are allowed. -/
def prepare? (text : String) : Option (List Char) :=
  let chars := text.toList
  if chars.all isAllowed then some (normalizeBreaks chars) else none

/-- The characters that end a line. -/
def isBreak (c : Char) : Bool :=
  c == '\n' || c == '\u2028' || c == '\u2029'

/-- Space and tab. -/
def isInlineBlank (c : Char) : Bool :=
  c == ' ' || c == '\t'

/-- Whether a line or the text ends here. -/
def atBreak (chars : List Char) : Bool :=
  match chars with
  | [] => true
  | c :: _ => isBreak c

/-- Whether a blank stands here, or a line or the text ends. -/
def atBlank (chars : List Char) : Bool :=
  match chars with
  | [] => true
  | c :: _ => isInlineBlank c || isBreak c

/-- Letters, digits, `_` and `-`. -/
def isWordChar (c : Char) : Bool :=
  c.isAlphanum || c == '_' || c == '-'

/-- Whether `---` or `...` stands here as a word of its own. -/
def atDocumentMark (chars : List Char) : Bool :=
  match chars with
  | a :: b :: c :: rest =>
      ((a == '-' && b == '-' && c == '-') || (a == '.' && b == '.' && c == '.')) && atBlank rest
  | _ => false

/-- A place in the text: how many characters stand before it, its line, and its
column. -/
structure Position where
  index : Nat
  line : Nat
  column : Nat
deriving DecidableEq

namespace Position

/-- The beginning of the text. -/
def start : Position := ⟨0, 0, 0⟩

/-- Behind some characters of the same line. -/
def advance (position : Position) (count : Nat) : Position :=
  { position with index := position.index + count, column := position.column + count }

/-- Behind a line break. -/
def newLine (position : Position) : Position :=
  ⟨position.index + 1, position.line + 1, 0⟩

/-- Behind a character. -/
def after (position : Position) (c : Char) : Position :=
  if isBreak c then position.newLine else position.advance 1

end Position

end RoutePlan.Yaml
