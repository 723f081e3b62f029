import RoutePlan.Numeral
import RoutePlan.Yaml.Text

/-!
# Scalars in YAML text

How the text of a scalar is read: plain, quoted once or twice, or as a block.
Each reader walks over the characters with its position and answers the text
together with what stands behind it.

A line break inside a plain or quoted scalar is folded: a single one is a space,
and of several the first is dropped.  `Fold` holds the white space that was seen
since the last character, until it is known whether the scalar goes on.
-/

namespace RoutePlan.Yaml

/-- A text that was read, and what stands behind it. -/
structure ReadText where
  text : List Char
  position : Position
  rest : List Char

/-- The white space since the last character of a scalar. -/
structure Fold where
  /-- Blanks before any line break, in reverse. -/
  blanks : List Char
  /-- The first line break, if it is a character of the text. -/
  firstBreak : List Char
  /-- Later line breaks, in reverse. -/
  laterBreaks : List Char
  /-- Whether a line was broken. -/
  broken : Bool

namespace Fold

/-- No white space. -/
def none : Fold := ⟨[], [], [], false⟩

/-- Take in a blank. -/
def blank (fold : Fold) (c : Char) : Fold :=
  if fold.broken then fold else { fold with blanks := c :: fold.blanks }

/-- Take in a line break. -/
def lineBreak (fold : Fold) (c : Char) : Fold :=
  if fold.broken then { fold with laterBreaks := c :: fold.laterBreaks }
  else { fold with blanks := [], firstBreak := [c], broken := true }

/-- What the white space stands for when the scalar goes on, in reverse. -/
def folded (fold : Fold) : List Char :=
  if fold.broken then
    if fold.firstBreak = ['\n'] then
      if fold.laterBreaks = [] then [' '] else fold.laterBreaks
    else fold.laterBreaks ++ fold.firstBreak
  else fold.blanks

end Fold

/-! ## Plain scalars -/

/-- A plain scalar, and whether it was ended after a line break. -/
structure PlainText extends ReadText where
  afterBreak : Bool

/-- Whether a colon stands before a character that a flow collection does not
allow behind it. -/
def colonBeforeFlow (rest : List Char) : Bool :=
  match rest with
  | c :: _ => ",?[]\x7b\x7d".toList.contains c
  | [] => false

/-- Whether a plain scalar ends before a character. -/
def endsPlain (flow : Bool) (c : Char) (rest : List Char) : Bool :=
  (c == ':' && atBlank rest) || (flow && ",[]\x7b\x7d".toList.contains c)

/-- Whether a plain scalar does not go on behind white space. -/
def stopsPlain (flow : Bool) (indent : Nat) (position : Position) (chars : List Char) : Bool :=
  (!flow && decide (position.column < indent)) ||
    (position.column == 0 && atDocumentMark chars) || chars.head? == some '#'

/-- Read a plain scalar.  Outside of flow collections its lines are indented by
at least `indent`. -/
def readPlainFrom (flow : Bool) (indent : Nat) (reversed : List Char) (fold : Option Fold)
    (position : Position) : List Char → Option PlainText
  | [] => some ⟨⟨reversed.reverse, position, []⟩, (fold.map Fold.broken).getD false⟩
  | c :: rest =>
      let space := fold.getD .none
      if isInlineBlank c then
        if space.broken && decide (position.column < indent) && c == '\t' then none
        else readPlainFrom flow indent reversed (some (space.blank c)) (position.advance 1) rest
      else if isBreak c then
        readPlainFrom flow indent reversed (some (space.lineBreak c)) position.newLine rest
      else if fold.isSome && stopsPlain flow indent position (c :: rest) then
        some ⟨⟨reversed.reverse, position, c :: rest⟩, space.broken⟩
      else if flow && c == ':' && colonBeforeFlow rest then none
      else if endsPlain flow c rest then
        some ⟨⟨reversed.reverse, position, c :: rest⟩, space.broken⟩
      else
        readPlainFrom flow indent (c :: (space.folded ++ reversed)) Option.none
          (position.advance 1) rest

/-- Read a plain scalar from its first character. -/
def readPlain (flow : Bool) (indent : Nat) (position : Position) (chars : List Char) :
    Option PlainText :=
  readPlainFrom flow indent [] Option.none position chars

/-! ## Quoted scalars -/

/-- Where the reader of a quoted scalar stands. -/
inductive QuotedMode where
  /-- Behind a character. -/
  | text
  /-- Behind white space. -/
  | space (fold : Fold)
  /-- Behind a backslash. -/
  | escape
  /-- Inside an escape by code, with so many digits to come. -/
  | code (owed : Nat) (value : Nat)
  /-- Behind the first of two single quotes. -/
  | quote

/-- The character that a one-letter escape stands for. -/
def escapedChar? (c : Char) : Option Char :=
  match c with
  | '0' => some '\x00'
  | 'a' => some '\x07'
  | 'b' => some '\x08'
  | 't' => some '\t'
  | '\t' => some '\t'
  | 'n' => some '\n'
  | 'v' => some '\x0b'
  | 'f' => some '\x0c'
  | 'r' => some '\r'
  | 'e' => some '\x1b'
  | ' ' => some ' '
  | '"' => some '"'
  | '/' => some '/'
  | '\\' => some '\\'
  | 'N' => some '\x85'
  | '_' => some '\xa0'
  | 'L' => some '\u2028'
  | 'P' => some '\u2029'
  | _ => none

/-- The number of digits of an escape by code. -/
def codeWidth? (c : Char) : Option Nat :=
  match c with
  | 'x' => some 2
  | 'u' => some 4
  | 'U' => some 8
  | _ => none

/-- The character with a code; surrogates have none. -/
def charOfCode? (code : Nat) : Option Char :=
  if code < 0xD800 ∨ (0xDFFF < code ∧ code ≤ 0x10FFFF) then some (Char.ofNat code) else none

/-- Read a quoted scalar behind its opening quote. -/
def readQuotedFrom (single : Bool) (reversed : List Char) (mode : QuotedMode)
    (position : Position) : List Char → Option ReadText
  | [] =>
      match mode with
      | .quote => some ⟨reversed.reverse, position, []⟩
      | _ => none
  | c :: rest =>
      let next := position.after c
      match mode with
      | .quote =>
          if c = '\'' then readQuotedFrom single ('\'' :: reversed) .text next rest
          else some ⟨reversed.reverse, position, c :: rest⟩
      | .escape =>
          if isBreak c then readQuotedFrom single reversed (.space ⟨[], [], [], true⟩) next rest
          else
            match codeWidth? c with
            | some width => readQuotedFrom single reversed (.code width 0) next rest
            | none =>
                match escapedChar? c with
                | some meant => readQuotedFrom single (meant :: reversed) .text next rest
                | none => none
      | .code owed value =>
          if isDigitOf 16 c then
            let value := value * 16 + digitValue c
            if owed = 1 then
              match charOfCode? value with
              | some meant => readQuotedFrom single (meant :: reversed) .text next rest
              | none => none
            else readQuotedFrom single reversed (.code (owed - 1) value) next rest
          else none
      | mode =>
          let fold :=
            match mode with
            | .space fold => fold
            | _ => Fold.none
          let behindSpace :=
            match mode with
            | .space _ => true
            | _ => false
          if isInlineBlank c then readQuotedFrom single reversed (.space (fold.blank c)) next rest
          else if isBreak c then
            readQuotedFrom single reversed (.space (fold.lineBreak c)) next rest
          else if behindSpace && position.column == 0 && atDocumentMark (c :: rest) then none
          else
            let reversed := fold.folded ++ reversed
            if single then
              if c = '\'' then readQuotedFrom single reversed .quote next rest
              else readQuotedFrom single (c :: reversed) .text next rest
            else if c = '"' then some ⟨reversed.reverse, next, rest⟩
            else if c = '\\' then readQuotedFrom single reversed .escape next rest
            else readQuotedFrom single (c :: reversed) .text next rest

/-! ## Block scalars -/

/-- What happens to the line breaks at the end of a block scalar. -/
inductive Chomping where
  | clip | strip | keep
deriving DecidableEq

/-- The header of a block scalar. -/
structure BlockHeader where
  literal : Bool
  chomping : Chomping
  /-- The declared indentation, relative to the enclosing one. -/
  increment : Option Nat

/-- A chomping indicator. -/
def chompingOf? (c : Char) : Option Chomping :=
  if c = '+' then some .keep else if c = '-' then some .strip else none

/-- The indicators of a block scalar, in either order, and how many there are. -/
def readIndicators? : List Char → Option (Chomping × Option Nat × Nat)
  | [] => some (.clip, none, 0)
  | c :: rest =>
      match chompingOf? c with
      | some chomping =>
          match rest with
          | digit :: _ =>
              if digit = '0' then none
              else if digit.isDigit then some (chomping, some (digitValue digit), 2)
              else some (chomping, none, 1)
          | [] => some (chomping, none, 1)
      | none =>
          if c = '0' then none
          else if c.isDigit then
            match rest.head?.bind chompingOf? with
            | some chomping => some (chomping, some (digitValue c), 2)
            | none => some (.clip, some (digitValue c), 1)
          else some (.clip, none, 0)

/-- The lines of a block scalar so far. -/
structure BlockLines where
  reversed : List Char
  /-- The line break of the last line. -/
  lastBreak : List Char
  /-- The line breaks of the empty lines behind it, in reverse. -/
  emptyBreaks : List Char
  /-- Whether the last line began with a blank. -/
  blankLine : Bool
  /-- The indentation of the lines, once it is known. -/
  indent : Option Nat
  /-- The greatest column of the empty lines at the beginning. -/
  widest : Nat

namespace BlockLines

/-- Begin a line with a character: what the line breaks before it stand for. -/
def beginLine (lines : BlockLines) (literal : Bool) (c : Char) : BlockLines :=
  let blank := isInlineBlank c
  let between :=
    if !literal && lines.lastBreak == ['\n'] && !lines.blankLine && !blank then
      if lines.emptyBreaks = [] then [' '] else lines.emptyBreaks
    else lines.emptyBreaks ++ lines.lastBreak
  { lines with
    reversed := between ++ lines.reversed
    lastBreak := []
    emptyBreaks := []
    blankLine := blank }

/-- The text, with the line breaks at its end as the chomping says. -/
def finish (lines : BlockLines) : Chomping → List Char
  | .strip => lines.reversed.reverse
  | .clip => (lines.lastBreak ++ lines.reversed).reverse
  | .keep => (lines.emptyBreaks ++ (lines.lastBreak ++ lines.reversed)).reverse

end BlockLines

/-- Read the lines of a block scalar.  `inLine` tells whether the reader stands
inside a line or in the white space before one; `least` is the least indentation
that may be found. -/
def readBlockFrom (header : BlockHeader) (least : Nat) (inLine : Bool) (lines : BlockLines)
    (position : Position) : List Char → Option ReadText
  | [] => some ⟨lines.finish header.chomping, position, []⟩
  | c :: rest =>
      if inLine then
        if isBreak c then
          readBlockFrom header least false { lines with lastBreak := [c] } position.newLine rest
        else
          readBlockFrom header least true { lines with reversed := c :: lines.reversed }
            (position.advance 1) rest
      else
        let outside :=
          match lines.indent with
          | none => true
          | some indent => decide (position.column < indent)
        if c == ' ' && outside then
          readBlockFrom header least false lines (position.advance 1) rest
        else if c == '\t' && outside then none
        else if isBreak c then
          readBlockFrom header least false
            { lines with
              emptyBreaks := c :: lines.emptyBreaks
              widest := max lines.widest position.column }
            position.newLine rest
        else
          let indent := lines.indent.getD (max (max lines.widest position.column) least)
          if position.column = indent then
            let begun := { lines with indent := some indent }.beginLine header.literal c
            readBlockFrom header least true { begun with reversed := c :: begun.reversed }
              (position.advance 1) rest
          else some ⟨lines.finish header.chomping, position, c :: rest⟩

/-- Read a block scalar behind its `|` or `>`, inside an indentation. -/
def readBlock (literal : Bool) (indent : Int) (position : Position) (chars : List Char) :
    Option ReadText := do
  let (chomping, increment, count) ← readIndicators? chars
  let behind := chars.drop count
  let (blanks, afterBlanks) := behind.span isInlineBlank
  let (comment, afterComment) :=
    if afterBlanks.head? = some '#' then afterBlanks.span (fun c => !isBreak c)
    else ([], afterBlanks)
  let header : BlockHeader := ⟨literal, chomping, increment⟩
  let outer := indent.toNat
  let lines : BlockLines := ⟨[], [], [], false, increment.map (outer + ·), 0⟩
  let position := position.advance (count + blanks.length + comment.length)
  match afterComment with
  | [] => some ⟨[], position, []⟩
  | c :: rest =>
      if isBreak c then
        readBlockFrom header (max (indent + 1).toNat 1) false lines position.newLine rest
      else none

end RoutePlan.Yaml
