import RoutePlan.Numeral
import RoutePlan.Text.Utf8
import RoutePlan.Yaml.Text
import RoutePlan.Yaml.Token

/-!
# Names, tags and directives in YAML text

The readers of anchors, aliases, tags and directives.  Each works on the
characters of one line and answers a token, how many characters it took, and what
stands behind it.
-/

namespace RoutePlan.Yaml

/-- A token and the characters behind it. -/
structure ReadToken where
  token : Token
  count : Nat
  rest : List Char

/-! ## Anchors and aliases -/

/-- The characters that may stand behind the name of an anchor. -/
def endsName (chars : List Char) : Bool :=
  atBlank chars ||
    match chars with
    | c :: _ => "?:,]\x7d%@\x60".toList.contains c
    | [] => true

/-- Read the name of an anchor or alias, behind its indicator. -/
def readName (make : String → Token) (chars : List Char) : Option ReadToken :=
  let (name, rest) := chars.span isWordChar
  if name = [] ∨ endsName rest = false then none
  else some ⟨make (String.ofList name), name.length + 1, rest⟩

/-! ## Tags -/

/-- A text that was taken from the line. -/
structure ReadPiece where
  text : List Char
  count : Nat
  rest : List Char

/-- The characters of a tag or of the base of a handle.  Inside `<...>` and in
directives the flow indicators may stand too. -/
def isTagChar (verbatim : Bool) (c : Char) : Bool :=
  isWordChar c || ";/?:@&=+$.!~*'()%".toList.contains c || (verbatim && ",[]".toList.contains c)

/-- The number of octets of a character, by its first one. -/
def octetWidth? (octet : Nat) : Option Nat :=
  if octet < 0x80 then some 1
  else if octet < 0xC0 then none
  else if octet < 0xE0 then some 2
  else if octet < 0xF0 then some 3
  else if octet < 0xF8 then some 4
  else none

/-- One escaped octet. -/
def escapedOctet? : List Char → Option (Nat × List Char)
  | '%' :: high :: low :: rest =>
      if isDigitOf 16 high && isDigitOf 16 low then
        some (digitValue high * 16 + digitValue low, rest)
      else none
  | _ => none

/-- The escaped octets that complete a character, as many as it owes. -/
def escapedTail? (bits : Nat) : Nat → List Char → Option (Nat × List Char)
  | 0, chars => some (bits, chars)
  | owed + 1, chars =>
      match escapedOctet? chars with
      | some (octet, rest) =>
          if 0x80 ≤ octet ∧ octet < 0xC0 then escapedTail? (bits * 64 + (octet - 0x80)) owed rest
          else none
      | none => none

/-- One escaped character. -/
def escapedChar (chars : List Char) : Option (Char × List Char) := do
  let (octet, rest) ← escapedOctet? chars
  let width ← octetWidth? octet
  let bits := if width = 1 then octet else octet % Nat.pow 2 (7 - width)
  let (code, rest) ← escapedTail? bits (width - 1) rest
  return (Char.ofNat code, rest)

/-- The text of tag characters with their escapes replaced. -/
def unescapeTag : Nat → List Char → Option (List Char)
  | _, [] => some []
  | 0, _ => none
  | bound + 1, '%' :: rest => do
      let (c, rest) ← escapedChar ('%' :: rest)
      return c :: (← unescapeTag bound rest)
  | bound + 1, c :: rest => (unescapeTag bound rest).map (c :: ·)

/-- Read the characters of a tag. -/
def readTagText (verbatim : Bool) (chars : List Char) : Option ReadPiece := do
  let (taken, rest) := chars.span (isTagChar verbatim)
  let text ← unescapeTag taken.length taken
  return ⟨text, taken.length, rest⟩

/-- Read the handle of a tag: `!`, word characters, and perhaps a second `!`. -/
def readHandle (chars : List Char) : Option ReadPiece :=
  match chars with
  | '!' :: behind =>
      let (word, rest) := behind.span isWordChar
      match rest with
      | '!' :: rest => some ⟨'!' :: word ++ ['!'], word.length + 2, rest⟩
      | rest => some ⟨'!' :: word, word.length + 1, rest⟩
  | _ => none

/-- Whether a handle ends with a second `!`. -/
def isNamedHandle (handle : List Char) : Bool :=
  decide (2 ≤ handle.length) && handle.getLast? == some '!'

/-- Read a tag without looking at what stands behind it. -/
def readBareTag (chars : List Char) : Option ReadToken :=
  match chars with
  | '!' :: '<' :: behind => do
      let uri ← readTagText true behind
      match uri.rest with
      | '>' :: rest =>
          if uri.text = [] then none
          else some ⟨.tag "" (String.ofList uri.text), uri.count + 3, rest⟩
      | _ => none
  | chars => do
      let handle ← readHandle chars
      let suffix ← readTagText false handle.rest
      if isNamedHandle handle.text then
        if suffix.text = [] then none
        else
          some ⟨.tag (String.ofList handle.text) (String.ofList suffix.text),
            handle.count + suffix.count, suffix.rest⟩
      else
        let whole := handle.text.drop 1 ++ suffix.text
        let token : Token := if whole = [] then .tag "" "!" else .tag "!" (String.ofList whole)
        some ⟨token, handle.count + suffix.count, suffix.rest⟩

/-- Read a tag.  White space follows it, or a comma inside a flow collection. -/
def readTag (flow : Bool) (chars : List Char) : Option ReadToken :=
  (readBareTag chars).filter fun tag =>
    (flow && tag.rest.head? == some ',') || atBlank tag.rest

/-! ## Directives -/

/-- Read a number of a version; it has at most nine digits. -/
def readVersionNumber (chars : List Char) : Option (Nat × List Char) :=
  let (digits, rest) := chars.span Char.isDigit
  if digits = [] ∨ 9 < digits.length then none else some (naturalOf 10 digits, rest)

/-- Read a directive behind its `%`, to the end of its line. -/
def readDirective (chars : List Char) : Option (Token × List Char) := do
  let (name, afterName) := chars.span isWordChar
  if name = [] ∨ atBlank afterName = false then none
  else
    let behind := afterName.dropWhile isInlineBlank
    let (token, rest) ←
      if name = "YAML".toList then do
        let (major, rest) ← readVersionNumber behind
        match rest with
        | '.' :: rest =>
            let (minor, rest) ← readVersionNumber rest
            some (Token.versionDirective major minor, rest)
        | _ => none
      else if name = "TAG".toList then do
        let handle ← readHandle behind
        if handle.text ≠ ['!'] ∧ isNamedHandle handle.text = false then none
        else
          match handle.rest with
          | c :: _ =>
              if isInlineBlank c then
                let base ← readTagText true (handle.rest.dropWhile isInlineBlank)
                if base.text = [] ∨ atBlank base.rest = false then none
                else
                  some (Token.tagDirective (String.ofList handle.text)
                    (String.ofList base.text), base.rest)
              else none
          | [] => none
      else none
    let rest := rest.dropWhile isInlineBlank
    let rest := if rest.head? = some '#' then rest.dropWhile (fun c => !isBreak c) else rest
    if atBreak rest then some (token, rest) else none

end RoutePlan.Yaml
