import RoutePlan.Json.Number

/-!
# JSON tokens

Tokens are found in one pass over the characters.  Between tokens stand blanks;
a string runs from quote to quote; every other run of word characters is one
token, a literal name or a number.
-/

namespace RoutePlan.Json

/-- A token of JSON text. -/
inductive Token where
  | openList | closeList | openMap | closeMap | comma | colon
  | string (text : String)
  | literal (value : Value)

/-- Where the scan of a string stands.  Hexadecimal escapes carry the digits
read so far; a high surrogate waits for the low one. -/
inductive StringMode where
  | plain
  | escaped
  | hex (read : Nat) (unit : Nat) (high : Option Nat)
  | awaitBackslash (high : Nat)
  | awaitMark (high : Nat)

/-- Where the scan stands.  Characters of an unfinished token are held in
reverse. -/
inductive Mode where
  | between
  | word (reversed : List Char)
  | string (reversed : List Char) (mode : StringMode)

/-- The tokens so far, in reverse, and where the scan stands. -/
structure Scan where
  tokens : List Token
  mode : Mode

/-- Letters, digits and signs: what names and numbers are made of. -/
def isWordChar (c : Char) : Bool :=
  c.isAlphanum || c == '+' || c == '-' || c == '.'

/-- The value that a word says. -/
def wordValue? (word : List Char) : Option Value :=
  if word = "null".toList then some .null
  else if word = "true".toList then some (.bool true)
  else if word = "false".toList then some (.bool false)
  else (readNumber? word).map .number

/-- The character that a one-letter escape stands for. -/
def shortEscape? (c : Char) : Option Char :=
  match c with
  | '"' => some '"'
  | '\\' => some '\\'
  | '/' => some '/'
  | 'b' => some '\x08'
  | 'f' => some '\x0c'
  | 'n' => some '\n'
  | 'r' => some '\r'
  | 't' => some '\t'
  | _ => none

/-- Take in the sixteen bits of a hexadecimal escape. -/
def finishUnit (reversed : List Char) (unit : Nat) : Option Nat → Option Mode
  | none =>
      if 0xDC00 ≤ unit ∧ unit ≤ 0xDFFF then none
      else if 0xD800 ≤ unit ∧ unit ≤ 0xDBFF then some (.string reversed (.awaitBackslash unit))
      else some (.string (Char.ofNat unit :: reversed) .plain)
  | some high =>
      if 0xDC00 ≤ unit ∧ unit ≤ 0xDFFF then
        let code := 0x10000 + (high - 0xD800) * 0x400 + (unit - 0xDC00)
        some (.string (Char.ofNat code :: reversed) .plain)
      else none

/-- One character inside a string; the closing quote is not among them. -/
def stringStep (reversed : List Char) (mode : StringMode) (c : Char) : Option Mode :=
  match mode with
  | .plain =>
      if c = '\\' then some (.string reversed .escaped)
      else if c.toNat < 0x20 then none
      else some (.string (c :: reversed) .plain)
  | .escaped =>
      if c = 'u' then some (.string reversed (.hex 0 0 none))
      else (shortEscape? c).map fun meant => .string (meant :: reversed) .plain
  | .hex read unit high =>
      if isDigitOf 16 c then
        let unit := unit * 16 + digitValue c
        if read = 3 then finishUnit reversed unit high
        else some (.string reversed (.hex (read + 1) unit high))
      else none
  | .awaitBackslash high => if c = '\\' then some (.string reversed (.awaitMark high)) else none
  | .awaitMark high => if c = 'u' then some (.string reversed (.hex 0 0 (some high))) else none

/-- One character where a token may begin. -/
def beginToken (tokens : List Token) (c : Char) : Option Scan :=
  match c with
  | ' ' | '\n' | '\t' | '\r' => some ⟨tokens, .between⟩
  | '[' => some ⟨.openList :: tokens, .between⟩
  | ']' => some ⟨.closeList :: tokens, .between⟩
  | '\x7b' => some ⟨.openMap :: tokens, .between⟩
  | '\x7d' => some ⟨.closeMap :: tokens, .between⟩
  | ',' => some ⟨.comma :: tokens, .between⟩
  | ':' => some ⟨.colon :: tokens, .between⟩
  | '"' => some ⟨tokens, .string [] .plain⟩
  | c => if isWordChar c then some ⟨tokens, .word [c]⟩ else none

/-- Finish the word that a scan may hold. -/
def finishWord (scan : Scan) : Option (List Token) :=
  match scan.mode with
  | .between => some scan.tokens
  | .word reversed =>
      (wordValue? reversed.reverse).map fun value => .literal value :: scan.tokens
  | .string _ _ => none

/-- One character of the text. -/
def scanStep (scan : Scan) (c : Char) : Option Scan :=
  match scan.mode with
  | .between => beginToken scan.tokens c
  | .word reversed =>
      if isWordChar c then some ⟨scan.tokens, .word (c :: reversed)⟩
      else (finishWord scan).bind fun tokens => beginToken tokens c
  | .string reversed .plain =>
      if c = '"' then some ⟨.string (String.ofList reversed.reverse) :: scan.tokens, .between⟩
      else (stringStep reversed .plain c).map fun mode => ⟨scan.tokens, mode⟩
  | .string reversed mode =>
      (stringStep reversed mode c).map fun mode => ⟨scan.tokens, mode⟩

/-- The tokens of a text, in order. -/
def tokens? (text : List Char) : Option (List Token) :=
  ((text.foldlM scanStep ⟨[], .between⟩).bind finishWord).map List.reverse

end RoutePlan.Json
