import RoutePlan.Yaml.Token

/-!
# YAML nodes

The tree that the tokens of a document describe.  Anchors, aliases and tags are
still names here; what a scalar means is not decided.

Every reader answers what it read together with the tokens behind it, which are
fewer than those it was given.  That is why the readers end.
-/

namespace RoutePlan.Yaml

/-- The anchor and the tag of a node. -/
structure Properties where
  anchor : Option String
  tag : Option String
deriving DecidableEq

/-- A node of a document. -/
inductive Node where
  | scalar (properties : Properties) (text : String) (plain : Bool)
  | alias (name : String)
  | list (properties : Properties) (items : List Node)
  | map (properties : Properties) (entries : List (Node × Node))

namespace Node

/-- The scalar that stands where nothing was written. -/
def nothing : Node :=
  .scalar ⟨none, none⟩ "" true

/-- What tag handles stand for, by handle. -/
abbrev TagBases := List (String × String)

/-- The handles that are always known. -/
def defaultBases : TagBases :=
  [("!", "!"), ("!!", "tag:yaml.org,2002:")]

/-- The tag that a handle and a suffix name.  Without handle the suffix is the
whole tag. -/
def resolveTag (bases : TagBases) (handle suffix : String) : Option String :=
  if handle = "" then some suffix else (bases.lookup handle).map (· ++ suffix)

/-- Something read from tokens, and the tokens behind it. -/
abbrev Read (α : Type) (tokens : List Token) :=
  α × { rest : List Token // rest.length < tokens.length }

/-- Something read from no tokens or from some, and the tokens behind it. -/
abbrev ReadWeak (α : Type) (tokens : List Token) :=
  α × { rest : List Token // rest.length ≤ tokens.length }

/-- Whether a node other than an alias may begin here. -/
def beginsContent (block indentless : Bool) : List Token → Bool
  | .blockEntry :: _ => indentless
  | .scalar .. :: _ => true
  | .flowListStart :: _ => true
  | .flowMapStart :: _ => true
  | .blockListStart :: _ => block
  | .blockMapStart :: _ => block
  | _ => false

/-- Whether nothing stands in front of the next token, one of those that go on
with or end a block collection. -/
def emptyInBlock (listItem : Bool) : List Token → Bool
  | .blockEntry :: _ => listItem
  | .key :: _ => true
  | .value :: _ => true
  | .blockEnd :: _ => true
  | _ => false

/-- Whether nothing stands in front of the next token of a block list. -/
def emptyInList : List Token → Bool
  | .blockEntry :: _ => true
  | .blockEnd :: _ => true
  | _ => false

/-- Whether nothing stands in front of the next token of a flow collection. -/
def emptyInFlow (close : Token) (beforeValue : Bool) : List Token → Bool
  | .value :: _ => beforeValue
  | .flowEntry :: _ => true
  | token :: _ => token == close
  | [] => false

mutual

/-- Read a node.  `block` allows block collections, `indentless` a list at the
indentation of its key. -/
def read (bases : TagBases) (block indentless : Bool) (tokens : List Token) :
    Option (Read Node tokens) :=
  match tokens with
  | .alias name :: rest => some (.alias name, ⟨rest, by simp⟩)
  | .anchor anchor :: .tag handle suffix :: rest => do
      let tag ← resolveTag bases handle suffix
      let (node, ⟨behind, fewer⟩) ←
        readWith bases block indentless ⟨some anchor, some tag⟩ rest
      return (node, ⟨behind, by simp; omega⟩)
  | .anchor anchor :: rest => do
      let (node, ⟨behind, fewer⟩) ← readWith bases block indentless ⟨some anchor, none⟩ rest
      return (node, ⟨behind, by simp; omega⟩)
  | .tag handle suffix :: .anchor anchor :: rest => do
      let tag ← resolveTag bases handle suffix
      let (node, ⟨behind, fewer⟩) ←
        readWith bases block indentless ⟨some anchor, some tag⟩ rest
      return (node, ⟨behind, by simp; omega⟩)
  | .tag handle suffix :: rest => do
      let tag ← resolveTag bases handle suffix
      let (node, ⟨behind, fewer⟩) ← readWith bases block indentless ⟨none, some tag⟩ rest
      return (node, ⟨behind, by simp; omega⟩)
  | tokens => readContent bases block indentless ⟨none, none⟩ tokens
termination_by (tokens.length, 3)

/-- Read a node behind its properties, which may be all of it. -/
def readWith (bases : TagBases) (block indentless : Bool) (properties : Properties)
    (tokens : List Token) : Option (ReadWeak Node tokens) :=
  if beginsContent block indentless tokens then do
    let (node, ⟨behind, fewer⟩) ← readContent bases block indentless properties tokens
    return (node, ⟨behind, by omega⟩)
  else some (.scalar properties "" true, ⟨tokens, by simp⟩)
termination_by (tokens.length, 2)

/-- Read the content of a node. -/
def readContent (bases : TagBases) (block indentless : Bool) (properties : Properties)
    (tokens : List Token) : Option (Read Node tokens) :=
  match tokens with
  | .blockEntry :: rest =>
      if indentless then do
        let (first, ⟨behind, fewer⟩) ← readDashed bases true rest
        let (others, ⟨behind', fewer'⟩) ← readIndentless bases behind
        return (.list properties (first :: others), ⟨behind', by simp; omega⟩)
      else none
  | .scalar text plain :: rest => some (.scalar properties text plain, ⟨rest, by simp⟩)
  | .flowListStart :: rest => do
      let (items, ⟨behind, fewer⟩) ← readFlowItems bases true rest
      return (.list properties items, ⟨behind, by simp; omega⟩)
  | .flowMapStart :: rest => do
      let (entries, ⟨behind, fewer⟩) ← readFlowEntries bases true rest
      return (.map properties entries, ⟨behind, by simp; omega⟩)
  | .blockListStart :: rest =>
      if block then do
        let (items, ⟨behind, fewer⟩) ← readBlockItems bases rest
        return (.list properties items, ⟨behind, by simp; omega⟩)
      else none
  | .blockMapStart :: rest =>
      if block then do
        let (entries, ⟨behind, fewer⟩) ← readBlockEntries bases rest
        return (.map properties entries, ⟨behind, by simp; omega⟩)
      else none
  | _ => none
termination_by (tokens.length, 1)

/-- Read the item behind a dash. -/
def readDashed (bases : TagBases) (indentless : Bool) (tokens : List Token) :
    Option (ReadWeak Node tokens) :=
  if (if indentless then emptyInBlock true tokens else emptyInList tokens) then
    some (nothing, ⟨tokens, by simp⟩)
  else do
    let (node, ⟨behind, fewer⟩) ← read bases true false tokens
    return (node, ⟨behind, by omega⟩)
termination_by (tokens.length, 4)

/-- Read the further items of a list at the indentation of its key. -/
def readIndentless (bases : TagBases) (tokens : List Token) :
    Option (ReadWeak (List Node) tokens) :=
  match tokens with
  | .blockEntry :: rest => do
      let (item, ⟨behind, fewer⟩) ← readDashed bases true rest
      let (others, ⟨behind', fewer'⟩) ← readIndentless bases behind
      return (item :: others, ⟨behind', by simp; omega⟩)
  | tokens => some ([], ⟨tokens, by simp⟩)
termination_by (tokens.length, 1)

/-- Read the items of a block list, to its end. -/
def readBlockItems (bases : TagBases) (tokens : List Token) :
    Option (Read (List Node) tokens) :=
  match tokens with
  | .blockEntry :: rest => do
      let (item, ⟨behind, fewer⟩) ← readDashed bases false rest
      let (others, ⟨behind', fewer'⟩) ← readBlockItems bases behind
      return (item :: others, ⟨behind', by simp; omega⟩)
  | .blockEnd :: rest => some ([], ⟨rest, by simp⟩)
  | _ => none
termination_by (tokens.length, 1)

/-- Read the key or the value behind its indicator in a block mapping. -/
def readBlockPart (bases : TagBases) (tokens : List Token) : Option (ReadWeak Node tokens) :=
  if emptyInBlock false tokens then some (nothing, ⟨tokens, by simp⟩)
  else do
    let (node, ⟨behind, fewer⟩) ← read bases true true tokens
    return (node, ⟨behind, by omega⟩)
termination_by (tokens.length, 4)

/-- Read the value of a block entry; without a colon there is none. -/
def readBlockValue (bases : TagBases) (tokens : List Token) : Option (ReadWeak Node tokens) :=
  match tokens with
  | .value :: rest => do
      let (node, ⟨behind, fewer⟩) ← readBlockPart bases rest
      return (node, ⟨behind, by simp; omega⟩)
  | tokens => some (nothing, ⟨tokens, by simp⟩)
termination_by (tokens.length, 5)

/-- Read the entries of a block mapping, to its end. -/
def readBlockEntries (bases : TagBases) (tokens : List Token) :
    Option (Read (List (Node × Node)) tokens) :=
  match tokens with
  | .key :: rest => do
      let (key, ⟨afterKey, fewer⟩) ← readBlockPart bases rest
      let (value, ⟨afterValue, fewer'⟩) ← readBlockValue bases afterKey
      let (others, ⟨behind, fewer''⟩) ← readBlockEntries bases afterValue
      return ((key, value) :: others, ⟨behind, by simp; omega⟩)
  | .blockEnd :: rest => some ([], ⟨rest, by simp⟩)
  | _ => none
termination_by (tokens.length, 1)

/-- Read a part of a flow collection, unless nothing stands before the next
token. -/
def readFlowPart (bases : TagBases) (close : Token) (beforeValue : Bool)
    (tokens : List Token) : Option (ReadWeak Node tokens) :=
  if emptyInFlow close beforeValue tokens then some (nothing, ⟨tokens, by simp⟩)
  else do
    let (node, ⟨behind, fewer⟩) ← read bases false false tokens
    return (node, ⟨behind, by omega⟩)
termination_by (tokens.length, 4)

/-- Read the value of a flow entry; without a colon there is none. -/
def readFlowValue (bases : TagBases) (close : Token) (tokens : List Token) :
    Option (ReadWeak Node tokens) :=
  match tokens with
  | .value :: rest => do
      let (node, ⟨behind, fewer⟩) ← readFlowPart bases close false rest
      return (node, ⟨behind, by simp; omega⟩)
  | tokens => some (nothing, ⟨tokens, by simp⟩)
termination_by (tokens.length, 5)

/-- Read one item of a flow list.  An entry with a key is a mapping of that entry
alone; where the key is missing, the token in its place is passed over. -/
def readFlowItem (bases : TagBases) (tokens : List Token) : Option (Read Node tokens) :=
  match tokens with
  | .key :: rest =>
      if emptyInFlow .flowListEnd true rest then do
        let (value, ⟨behind, fewer⟩) ← readFlowValue bases .flowListEnd (rest.drop 1)
        return (.map ⟨none, none⟩ [(nothing, value)],
          ⟨behind, by simp at *; omega⟩)
      else do
        let (key, ⟨afterKey, fewer⟩) ← read bases false false rest
        let (value, ⟨behind, fewer'⟩) ← readFlowValue bases .flowListEnd afterKey
        return (.map ⟨none, none⟩ [(key, value)], ⟨behind, by simp; omega⟩)
  | tokens => read bases false false tokens
termination_by (tokens.length, 6)

/-- Read the items of a flow list, to its end. -/
def readFlowItems (bases : TagBases) (first : Bool) (tokens : List Token) :
    Option (Read (List Node) tokens) :=
  match tokens with
  | .flowListEnd :: rest => some ([], ⟨rest, by simp⟩)
  | .flowEntry :: .flowListEnd :: rest =>
      if first then none else some ([], ⟨rest, by simp only [List.length_cons]; omega⟩)
  | .flowEntry :: rest =>
      if first then none
      else do
        let (item, ⟨behind, fewer⟩) ← readFlowItem bases rest
        let (others, ⟨behind', fewer'⟩) ← readFlowItems bases false behind
        return (item :: others, ⟨behind', by simp; omega⟩)
  | tokens =>
      if first then do
        let (item, ⟨behind, fewer⟩) ← readFlowItem bases tokens
        let (others, ⟨behind', fewer'⟩) ← readFlowItems bases false behind
        return (item :: others, ⟨behind', by omega⟩)
      else none
termination_by (tokens.length, 7)

/-- Read one entry of a flow mapping.  Without a key indicator there is no
value. -/
def readFlowEntry (bases : TagBases) (tokens : List Token) :
    Option (Read (Node × Node) tokens) :=
  match tokens with
  | .key :: rest => do
      let (key, ⟨afterKey, fewer⟩) ← readFlowPart bases .flowMapEnd true rest
      let (value, ⟨behind, fewer'⟩) ← readFlowValue bases .flowMapEnd afterKey
      return ((key, value), ⟨behind, by simp; omega⟩)
  | tokens => do
      let (key, ⟨behind, fewer⟩) ← read bases false false tokens
      return ((key, nothing), ⟨behind, fewer⟩)
termination_by (tokens.length, 6)

/-- Read the entries of a flow mapping, to its end. -/
def readFlowEntries (bases : TagBases) (first : Bool) (tokens : List Token) :
    Option (Read (List (Node × Node)) tokens) :=
  match tokens with
  | .flowMapEnd :: rest => some ([], ⟨rest, by simp⟩)
  | .flowEntry :: .flowMapEnd :: rest =>
      if first then none else some ([], ⟨rest, by simp only [List.length_cons]; omega⟩)
  | .flowEntry :: rest =>
      if first then none
      else do
        let (entry, ⟨behind, fewer⟩) ← readFlowEntry bases rest
        let (others, ⟨behind', fewer'⟩) ← readFlowEntries bases false behind
        return (entry :: others, ⟨behind', by simp; omega⟩)
  | tokens =>
      if first then do
        let (entry, ⟨behind, fewer⟩) ← readFlowEntry bases tokens
        let (others, ⟨behind', fewer'⟩) ← readFlowEntries bases false behind
        return (entry :: others, ⟨behind', by omega⟩)
      else none
termination_by (tokens.length, 7)

end

/-! ## Documents -/

/-- The directives in front of a document: whether a version was given, and the
handles. -/
structure Directives where
  versioned : Bool
  bases : TagBases

/-- Read directives.  A version is given once, and is 1.1 or 1.2; a handle is
declared once. -/
def readDirectives (directives : Directives) : List Token → Option (Directives × List Token)
  | .versionDirective major minor :: rest =>
      if directives.versioned = false ∧ major = 1 ∧ (minor = 1 ∨ minor = 2) then
        readDirectives { directives with versioned := true } rest
      else none
  | .tagDirective handle base :: rest =>
      if (directives.bases.lookup handle).isSome then none
      else readDirectives { directives with bases := directives.bases ++ [(handle, base)] } rest
  | tokens => some (directives, tokens)

/-- Whether a document holds nothing before the next token. -/
def emptyDocument : List Token → Bool
  | [] => true
  | .versionDirective .. :: _ => true
  | .tagDirective .. :: _ => true
  | .documentStart :: _ => true
  | .documentEnd :: _ => true
  | _ => false

/-- Whether only ends of documents are left. -/
def endsStream (tokens : List Token) : Bool :=
  tokens.all (· == .documentEnd)

/-- The node of the only document of some tokens; nothing at all is an empty
document. -/
def ofTokens? (tokens : List Token) : Option Node := do
  if tokens = [] then return nothing
  let (directives, rest) ← readDirectives ⟨false, []⟩ tokens
  let bases := directives.bases ++ defaultBases
  match rest with
  | .documentStart :: content =>
      if emptyDocument content then
        if endsStream content then return nothing else none
      else
        let (node, ⟨behind, _⟩) ← read bases true false content
        if endsStream behind then return node else none
  | rest =>
      if rest.length = tokens.length then
        let (node, ⟨behind, _⟩) ← read bases true false rest
        if endsStream behind then return node else none
      else none

end Node

end RoutePlan.Yaml
