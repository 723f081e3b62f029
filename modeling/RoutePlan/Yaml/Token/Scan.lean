import RoutePlan.Yaml.Scalar
import RoutePlan.Yaml.Token.Tag

/-!
# Finding the tokens of YAML text

Tokens are found from left to right.  Outside of flow collections the column of
a token opens and closes block collections.  Whether a scalar is a key is known
only at the colon behind it: until then its place is remembered, one for each
open flow collection, and the key token is put there when the colon comes.  Such
a simple key ends with its line and after 1024 characters; one at the indentation
of its block mapping has to be completed.
-/

namespace RoutePlan.Yaml

/-- A place where a simple key may have begun. -/
structure SimpleKey where
  /-- Whether the block mapping needs the key. -/
  required : Bool
  /-- How many tokens stand before it. -/
  tokenCount : Nat
  position : Position

/-- How far the text is read. -/
structure Scan where
  position : Position
  rest : List Char
  /-- The tokens so far, in reverse. -/
  tokens : List Token
  /-- How many there are. -/
  tokenCount : Nat
  /-- The column of the innermost block collection, or -1. -/
  indent : Int
  /-- The columns of the block collections around it. -/
  outerIndents : List Int
  /-- Whether a simple key may begin here. -/
  keyAllowed : Bool
  /-- The possible simple key of the innermost flow collection, or of no flow
  collection. -/
  simpleKey : Option SimpleKey
  /-- The possible simple keys around it. -/
  outerKeys : List (Option SimpleKey)

namespace Scan

/-- The beginning of a text. -/
def start (chars : List Char) : Scan :=
  ⟨.start, chars, [], 0, -1, [], true, none, []⟩

/-- Whether a flow collection is open. -/
def inFlow (scan : Scan) : Bool :=
  !scan.outerKeys.isEmpty

/-- Put a token at the end. -/
def push (scan : Scan) (token : Token) : Scan :=
  { scan with tokens := token :: scan.tokens, tokenCount := scan.tokenCount + 1 }

/-- Put a token in front of all but the first `count` tokens. -/
def insertAt (scan : Scan) (count : Nat) (token : Token) : Scan :=
  let later := scan.tokenCount - count
  { scan with
    tokens := scan.tokens.take later ++ token :: scan.tokens.drop later
    tokenCount := scan.tokenCount + 1 }

/-- Go on behind some characters of the line. -/
def skip (scan : Scan) (count : Nat) : Scan :=
  { scan with rest := scan.rest.drop count, position := scan.position.advance count }

/-! ## Simple keys -/

/-- Whether a simple key can no longer be completed. -/
def isStale (scan : Scan) (key : SimpleKey) : Bool :=
  decide (key.position.line < scan.position.line) ||
    decide (key.position.index + 1024 < scan.position.index)

/-- Whether the loss of a possible simple key is an error. -/
def losesRequired (scan : Scan) (key : Option SimpleKey) : Bool :=
  match key with
  | some key => key.required && scan.isStale key
  | none => false

/-- Forget the simple keys that can no longer be completed; none of them may be
required. -/
def dropStaleKeys (scan : Scan) : Option Scan :=
  if (scan.simpleKey :: scan.outerKeys).any scan.losesRequired then none
  else
    let keep (key : Option SimpleKey) := key.filter fun key => !scan.isStale key
    some { scan with simpleKey := keep scan.simpleKey, outerKeys := scan.outerKeys.map keep }

/-- Give up the possible simple key, unless it is required. -/
def removeSimpleKey (scan : Scan) : Option Scan :=
  match scan.simpleKey with
  | some key => if key.required then none else some { scan with simpleKey := none }
  | none => some scan

/-- Remember that a simple key may begin here. -/
def saveSimpleKey (scan : Scan) : Option Scan :=
  if scan.keyAllowed then
    scan.removeSimpleKey.map fun cleared =>
      { cleared with
        simpleKey := some {
          required := !scan.inFlow && scan.indent == scan.position.column
          tokenCount := scan.tokenCount
          position := scan.position } }
  else some scan

/-! ## Indentation -/

/-- Open a block collection at a deeper column, with its token at `place`. -/
def rollIndent (scan : Scan) (column : Nat) (place : Option Nat) (token : Token) : Scan :=
  if scan.inFlow = false ∧ scan.indent < column then
    let deeper :=
      { scan with indent := column, outerIndents := scan.indent :: scan.outerIndents }
    match place with
    | none => deeper.push token
    | some count => deeper.insertAt count token
  else scan

/-- Close the block collections that are deeper than a column, given those that
are open around the innermost. -/
def closeBlocks (scan : Scan) (column : Int) : List Int → Scan
  | [] => { scan with outerIndents := [] }
  | outer :: outermore =>
      if column < scan.indent then
        closeBlocks ({ scan with indent := outer }.push .blockEnd) column outermore
      else { scan with outerIndents := outer :: outermore }

/-- Close the block collections that are deeper than a column. -/
def unrollIndent (scan : Scan) (column : Int) : Scan :=
  if scan.inFlow then scan else scan.closeBlocks column scan.outerIndents

/-! ## Single tokens -/

/-- A directive or a document mark: it closes every block. -/
def endBlocks (scan : Scan) : Option Scan :=
  (scan.unrollIndent (-1)).removeSimpleKey.map fun cleared => { cleared with keyAllowed := false }

/-- Open a flow collection. -/
def openFlow (scan : Scan) (token : Token) : Option Scan :=
  scan.saveSimpleKey.map fun saved =>
    { (saved.skip 1).push token with
      keyAllowed := true
      simpleKey := none
      outerKeys := saved.simpleKey :: saved.outerKeys }

/-- Close a flow collection. -/
def closeFlow (scan : Scan) (token : Token) : Option Scan :=
  scan.removeSimpleKey.map fun cleared =>
    let closed := { (cleared.skip 1).push token with keyAllowed := false }
    match cleared.outerKeys with
    | key :: outer => { closed with simpleKey := key, outerKeys := outer }
    | [] => closed

/-- The comma of a flow collection. -/
def flowEntry (scan : Scan) : Option Scan :=
  scan.removeSimpleKey.map fun cleared =>
    { (cleared.skip 1).push .flowEntry with keyAllowed := true }

/-- The dash of a block list. -/
def blockEntry (scan : Scan) : Option Scan :=
  if scan.inFlow = false ∧ scan.keyAllowed = false then none
  else
    (scan.rollIndent scan.position.column none .blockListStart).removeSimpleKey.map
      fun cleared => { (cleared.skip 1).push .blockEntry with keyAllowed := true }

/-- The question mark of an explicit key. -/
def explicitKey (scan : Scan) : Option Scan :=
  if scan.inFlow = false ∧ scan.keyAllowed = false then none
  else
    (scan.rollIndent scan.position.column none .blockMapStart).removeSimpleKey.map
      fun cleared => { (cleared.skip 1).push .key with keyAllowed := !scan.inFlow }

/-- The colon of a value: it completes the possible simple key, if there is one. -/
def mapValue (scan : Scan) : Option Scan :=
  match scan.simpleKey with
  | some key =>
      let keyed := scan.insertAt key.tokenCount .key
      let rolled := keyed.rollIndent key.position.column (some key.tokenCount) .blockMapStart
      some { (rolled.skip 1).push .value with simpleKey := none, keyAllowed := false }
  | none =>
      if scan.inFlow then some { (scan.skip 1).push .value with keyAllowed := false }
      else if scan.keyAllowed then
        let rolled := scan.rollIndent scan.position.column none .blockMapStart
        some { (rolled.skip 1).push .value with keyAllowed := true }
      else none

/-- An anchor, an alias or a tag: a simple key may begin with it. -/
def property (scan : Scan) (read : List Char → Option ReadToken) (indicator : Nat) :
    Option Scan := do
  let saved ← scan.saveSimpleKey
  let found ← read (saved.rest.drop indicator)
  return { saved.push found.token with
    rest := found.rest
    position := saved.position.advance found.count
    keyAllowed := false }

/-- Go on behind a scalar. -/
def pushScalar (scan : Scan) (found : ReadText) (plain keyAllowed : Bool) : Scan :=
  { scan.push (.scalar (String.ofList found.text) plain) with
    rest := found.rest
    position := found.position
    keyAllowed }

/-- A block scalar. -/
def blockScalar (scan : Scan) (literal : Bool) : Option Scan := do
  let cleared ← scan.removeSimpleKey
  let found ← readBlock literal scan.indent (scan.position.advance 1) (scan.rest.drop 1)
  return cleared.pushScalar found false true

/-- A quoted scalar. -/
def quotedScalar (scan : Scan) (single : Bool) : Option Scan := do
  let saved ← scan.saveSimpleKey
  let found ← readQuotedFrom single [] .text (scan.position.advance 1) (scan.rest.drop 1)
  return saved.pushScalar found false false

/-- A plain scalar. -/
def plainScalar (scan : Scan) : Option Scan := do
  let saved ← scan.saveSimpleKey
  let found ← readPlain scan.inFlow (scan.indent + 1).toNat scan.position scan.rest
  return saved.pushScalar found.toReadText true found.afterBreak

/-- Whether a plain scalar may begin with a character. -/
def beginsPlain (flow : Bool) (c : Char) (rest : List Char) : Bool :=
  if c = '-' then
    match rest with
    | next :: _ => !isInlineBlank next
    | [] => true
  else if c = '?' ∨ c = ':' then !flow && !atBlank rest
  else !("\t,[]\x7b\x7d#&*!|>'\"%@\x60".toList.contains c)

/-- A directive. -/
def directive (scan : Scan) : Option Scan := do
  let cleared ← scan.endBlocks
  let (token, rest) ← readDirective (scan.rest.drop 1)
  return { cleared.push token with rest }

/-- A document mark. -/
def documentMark (scan : Scan) (token : Token) : Option Scan :=
  scan.endBlocks.map fun cleared => (cleared.skip 3).push token

/-! ## The whole text -/

/-- Skip white space, comments and line breaks before a token, and a byte order
mark at the beginning of a line. -/
def skipSpace (flow keyAllowed comment : Bool) (position : Position) :
    List Char → Bool × Position × List Char
  | [] => (keyAllowed, position, [])
  | c :: rest =>
      if isBreak c then skipSpace flow (keyAllowed || !flow) false position.newLine rest
      else if comment then skipSpace flow keyAllowed true (position.advance 1) rest
      else if c == ' ' || (c == '\t' && (flow || !keyAllowed)) then
        skipSpace flow keyAllowed false (position.advance 1) rest
      else if c == '#' then skipSpace flow keyAllowed true (position.advance 1) rest
      else if c == '\ufeff' && position.column == 0 then
        skipSpace flow keyAllowed false (position.advance 1) rest
      else (keyAllowed, position, c :: rest)

/-- The place of the next token. -/
def toToken (scan : Scan) : Scan :=
  let (keyAllowed, position, rest) :=
    skipSpace scan.inFlow scan.keyAllowed false scan.position scan.rest
  { scan with keyAllowed, position, rest }

/-- Read the token that begins with a character. -/
def readToken (scan : Scan) (c : Char) (rest : List Char) : Option Scan :=
  let flow := scan.inFlow
  if scan.position.column = 0 ∧ c = '%' then scan.directive
  else if scan.position.column = 0 ∧ atDocumentMark (c :: rest) then
    scan.documentMark (if c = '-' then .documentStart else .documentEnd)
  else if c = '[' then scan.openFlow .flowListStart
  else if c = '\x7b' then scan.openFlow .flowMapStart
  else if c = ']' then scan.closeFlow .flowListEnd
  else if c = '\x7d' then scan.closeFlow .flowMapEnd
  else if c = ',' then scan.flowEntry
  else if c = '-' ∧ atBlank rest then scan.blockEntry
  else if c = '?' ∧ (flow ∨ atBlank rest) then scan.explicitKey
  else if c = ':' ∧ (flow ∨ atBlank rest) then scan.mapValue
  else if c = '*' then scan.property (readName .alias) 1
  else if c = '&' then scan.property (readName .anchor) 1
  else if c = '!' then scan.property (readTag flow) 0
  else if c = '|' ∧ flow = false then scan.blockScalar true
  else if c = '>' ∧ flow = false then scan.blockScalar false
  else if c = '\'' then scan.quotedScalar true
  else if c = '"' then scan.quotedScalar false
  else if beginsPlain flow c rest then scan.plainScalar
  else none

/-- Read tokens to the end of the text.  Each takes at least one character, so
the count of the characters bounds their number. -/
def readAll : Nat → Scan → Option Scan
  | 0, _ => none
  | bound + 1, scan => do
      let fresh ← scan.toToken.dropStaleKeys
      let level := fresh.unrollIndent fresh.position.column
      match level.rest with
      | [] => (level.unrollIndent (-1)).removeSimpleKey
      | c :: rest => readAll bound (← level.readToken c rest)

end Scan

/-- The tokens of a prepared text, in order. -/
def tokens? (chars : List Char) : Option (List Token) :=
  (Scan.readAll (chars.length + 1) (.start chars)).map fun scan => scan.tokens.reverse

end RoutePlan.Yaml
