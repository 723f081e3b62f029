import RoutePlan.Numeral

/-!
# Lexemes of TOML text

Blanks, comments, strings and keys.  Every reader answers what it read and the
characters behind it.
-/

namespace RoutePlan.Toml

/-- Something that was read, and the characters behind it. -/
abbrev Read (α : Type) := Option (α × List Char)

/-- Space and tab. -/
def isBlank (c : Char) : Bool :=
  c == ' ' || c == '\t'

/-- The characters that may stand in comments and strings: no controls but the
tab. -/
def isTextChar (c : Char) : Bool :=
  c == '\t' || (decide (0x20 ≤ c.toNat) && c.toNat != 0x7F)

/-- Skip blanks. -/
def skipBlanks (chars : List Char) : List Char :=
  chars.dropWhile isBlank

/-- Read a line break. -/
def lineBreak? : List Char → Option (List Char)
  | '\n' :: rest => some rest
  | '\r' :: '\n' :: rest => some rest
  | _ => none

/-- Skip a comment, if one stands here. -/
def skipComment : List Char → List Char
  | '#' :: rest => rest.dropWhile isTextChar
  | chars => chars

/-- Read to the end of a line on which only blanks and a comment are left. -/
def endLine? (chars : List Char) : Option (List Char) :=
  match skipComment (skipBlanks chars) with
  | [] => some []
  | rest => lineBreak? rest

/-- Skip blanks, comments and line breaks.  Each round takes a line break, so the
number of characters bounds them. -/
def skipLines : Nat → List Char → List Char
  | 0, chars => chars
  | bound + 1, chars =>
      let rest := skipComment (skipBlanks chars)
      match lineBreak? rest with
      | some behind => skipLines bound behind
      | none => rest

/-! ## Strings -/

/-- Where the reader of a string with escapes stands. -/
inductive StringMode where
  | text
  | escape
  /-- Inside an escape by code, with so many digits to come. -/
  | code (owed : Nat) (value : Nat)
  /-- Behind a backslash and blanks, before the line break that it hides. -/
  | hiding
  /-- Behind a hidden line break: white space is skipped. -/
  | hidden
  /-- Behind so many quotes that may be part of the text or of its end. -/
  | quotes (count : Nat)

/-- The character that a one-letter escape stands for. -/
def escapedChar? (c : Char) : Option Char :=
  match c with
  | 'b' => some '\x08'
  | 't' => some '\t'
  | 'n' => some '\n'
  | 'f' => some '\x0c'
  | 'r' => some '\r'
  | '"' => some '"'
  | '\\' => some '\\'
  | _ => none

/-- The character with a code; surrogates have none. -/
def charOfCode? (code : Nat) : Option Char :=
  if code < 0xD800 ∨ (0xDFFF < code ∧ code ≤ 0x10FFFF) then some (Char.ofNat code) else none

/-- Read one more digit of an escape by code. -/
def readCode (reversed : List Char) (owed value : Nat) (c : Char) :
    Option (List Char × StringMode) :=
  if isDigitOf 16 c then
    let value := value * 16 + digitValue c
    if owed = 1 then (charOfCode? value).map fun meant => (meant :: reversed, .text)
    else some (reversed, .code (owed - 1) value)
  else none

/-- Read a string on one line behind its opening quote. -/
def readBasic (reversed : List Char) (mode : StringMode) : List Char → Read String
  | [] => none
  | c :: rest =>
      match mode with
      | .escape =>
          if c = 'u' then readBasic reversed (.code 4 0) rest
          else if c = 'U' then readBasic reversed (.code 8 0) rest
          else
            match escapedChar? c with
            | some meant => readBasic (meant :: reversed) .text rest
            | none => none
      | .code owed value =>
          match readCode reversed owed value c with
          | some (reversed, mode) => readBasic reversed mode rest
          | none => none
      | _ =>
          if c = '"' then some (String.ofList reversed.reverse, rest)
          else if c = '\\' then readBasic reversed .escape rest
          else if isTextChar c then readBasic (c :: reversed) .text rest
          else none

/-- Read a string without escapes behind its opening quote. -/
def readLiteral (chars : List Char) : Read String :=
  let (text, rest) := chars.span fun c => c != '\'' && isTextChar c
  match rest with
  | '\'' :: behind => some (String.ofList text, behind)
  | _ => none

/-- Put so many quotes in front of some characters. -/
def addQuotes (quote : Char) (count : Nat) (reversed : List Char) : List Char :=
  List.replicate count quote ++ reversed

/-- Read a string over lines behind its opening quotes.  Without `escapes` a
backslash is a character like any other.  The string ends with three quotes, in
front of which one or two may belong to the text. -/
def readMultiline (quote : Char) (escapes : Bool) (reversed : List Char) (mode : StringMode) :
    List Char → Read String
  | [] =>
      match mode with
      | .quotes count =>
          if 3 ≤ count then
            some (String.ofList (addQuotes quote (count - 3) reversed).reverse, [])
          else none
      | _ => none
  | c :: rest =>
      match mode with
      | .escape =>
          if c = 'u' then readMultiline quote escapes reversed (.code 4 0) rest
          else if c = 'U' then readMultiline quote escapes reversed (.code 8 0) rest
          else if isBlank c then readMultiline quote escapes reversed .hiding rest
          else if c = '\n' then readMultiline quote escapes reversed .hidden rest
          else if c = '\r' ∧ rest.head? = some '\n' then
            readMultiline quote escapes reversed .hidden rest
          else
            match escapedChar? c with
            | some meant => readMultiline quote escapes (meant :: reversed) .text rest
            | none => none
      | .code owed value =>
          match readCode reversed owed value c with
          | some (reversed, mode) => readMultiline quote escapes reversed mode rest
          | none => none
      | .hiding =>
          if isBlank c then readMultiline quote escapes reversed .hiding rest
          else if c = '\n' then readMultiline quote escapes reversed .hidden rest
          else if c = '\r' ∧ rest.head? = some '\n' then
            readMultiline quote escapes reversed .hidden rest
          else none
      | mode =>
          let count :=
            match mode with
            | .quotes count => count
            | _ => 0
          let skipping :=
            match mode with
            | .hidden => true
            | _ => false
          if skipping && (isBlank c || c == '\n' || (c == '\r' && rest.head? == some '\n')) then
            readMultiline quote escapes reversed .hidden rest
          else if c = quote ∧ count < 5 then
            readMultiline quote escapes reversed (.quotes (count + 1)) rest
          else if 3 ≤ count then
            some (String.ofList (addQuotes quote (count - 3) reversed).reverse, c :: rest)
          else
            let reversed := addQuotes quote count reversed
            if escapes && c == '\\' then readMultiline quote escapes reversed .escape rest
            else if c = '\r' ∧ rest.head? = some '\n' then
              readMultiline quote escapes reversed .text rest
            else if c = '\n' ∨ isTextChar c then
              readMultiline quote escapes (c :: reversed) .text rest
            else none

/-- A line break at the beginning of a string over lines does not count. -/
def dropFirstBreak (chars : List Char) : List Char :=
  (lineBreak? chars).getD chars

/-- Read a string of any form. -/
def readString : List Char → Read String
  | '"' :: '"' :: '"' :: rest => readMultiline '"' true [] .text (dropFirstBreak rest)
  | '"' :: rest => readBasic [] .text rest
  | '\'' :: '\'' :: '\'' :: rest => readMultiline '\'' false [] .text (dropFirstBreak rest)
  | '\'' :: rest => readLiteral rest
  | _ => none

/-! ## Keys -/

/-- The characters of keys without quotes. -/
def isKeyChar (c : Char) : Bool :=
  c.isAlphanum || c == '_' || c == '-'

/-- Read one part of a key. -/
def readKeyPart : List Char → Read String
  | '"' :: rest => readBasic [] .text rest
  | '\'' :: rest => readLiteral rest
  | chars =>
      let (name, rest) := chars.span isKeyChar
      if name = [] then none else some (String.ofList name, rest)

/-- Read the parts of a key between dots; there are at most `bound`. -/
def readKey : Nat → List Char → Read (List String)
  | 0, _ => none
  | bound + 1, chars =>
      match readKeyPart (skipBlanks chars) with
      | none => none
      | some (part, rest) =>
          match skipBlanks rest with
          | '.' :: behind => (readKey bound behind).map fun (parts, rest) => (part :: parts, rest)
          | rest => some ([part], rest)

end RoutePlan.Toml
