import RoutePlan.Yaml.Node
import RoutePlan.Yaml.Plain
import RoutePlan.Yaml.Token.Scan

/-!
# Values of YAML documents

A document's node becomes a value once aliases are followed.  Anchors are
numbered as they come: a new anchor gets the count of the names that are known, so
that a name that is declared again shares its number with the next new one, and
the last node with a number is what the number means.

Collections are read to a depth of 128, also through aliases, and aliases are
followed at most a hundred times for each event of the document; beyond that it
is malformed.  So is a local tag.
-/

namespace RoutePlan.Yaml

/-- A node whose anchors and aliases are numbers. -/
inductive Content where
  | scalar (anchor : Option Nat) (tag : Option String) (text : String) (plain : Bool)
  | alias (number : Nat)
  | list (anchor : Option Nat) (tag : Option String) (items : List Content)
  | map (anchor : Option Nat) (tag : Option String) (entries : List (Content × Content))

/-- The number that each anchor name has at present. -/
abbrev AnchorNames := Entries String Nat

/-- Number an anchor. -/
def declareAnchor (names : AnchorNames) : Option String → Option Nat × AnchorNames
  | none => (none, names)
  | some name => (some names.length, Entries.insert name names.length names)

namespace Content

mutual

/-- Number the anchors and aliases of a node, given the names so far. -/
def ofNode : AnchorNames → Node → Option (Content × AnchorNames)
  | names, .alias name => (names.lookup name).map fun number => (.alias number, names)
  | names, .scalar properties text plain =>
      let (anchor, names) := declareAnchor names properties.anchor
      some (.scalar anchor properties.tag text plain, names)
  | names, .list properties items =>
      let (anchor, names) := declareAnchor names properties.anchor
      (ofItems names items).map fun (items, names) =>
        (.list anchor properties.tag items, names)
  | names, .map properties entries =>
      let (anchor, names) := declareAnchor names properties.anchor
      (ofEntries names entries).map fun (entries, names) =>
        (.map anchor properties.tag entries, names)

/-- Number the items of a list. -/
def ofItems : AnchorNames → List Node → Option (List Content × AnchorNames)
  | names, [] => some ([], names)
  | names, node :: rest => do
      let (item, names) ← ofNode names node
      let (items, names) ← ofItems names rest
      return (item :: items, names)

/-- Number the entries of a mapping, each key before its value. -/
def ofEntries : AnchorNames → List (Node × Node) →
    Option (List (Content × Content) × AnchorNames)
  | names, [] => some ([], names)
  | names, (keyNode, valueNode) :: rest => do
      let (key, names) ← ofNode names keyNode
      let (value, names) ← ofNode names valueNode
      let (entries, names) ← ofEntries names rest
      return ((key, value) :: entries, names)

end

mutual

/-- The numbered nodes, in the order in which they begin. -/
def anchored : Content → List (Nat × Content)
  | .alias _ => []
  | .scalar anchor tag text plain =>
      anchor.toList.map fun number => (number, .scalar anchor tag text plain)
  | .list anchor tag items =>
      (anchor.toList.map fun number => (number, .list anchor tag items)) ++ anchoredItems items
  | .map anchor tag entries =>
      (anchor.toList.map fun number => (number, .map anchor tag entries)) ++
        anchoredEntries entries

/-- The numbered nodes of a list. -/
def anchoredItems : List Content → List (Nat × Content)
  | [] => []
  | item :: rest => anchored item ++ anchoredItems rest

/-- The numbered nodes of a mapping. -/
def anchoredEntries : List (Content × Content) → List (Nat × Content)
  | [] => []
  | (key, value) :: rest => anchored key ++ anchored value ++ anchoredEntries rest

end

mutual

/-- How many events describe a node. -/
def eventCount : Content → Nat
  | .alias _ => 1
  | .scalar .. => 1
  | .list _ _ items => 2 + eventCountItems items
  | .map _ _ entries => 2 + eventCountEntries entries

/-- How many events describe the items of a list. -/
def eventCountItems : List Content → Nat
  | [] => 0
  | item :: rest => eventCount item + eventCountItems rest

/-- How many events describe the entries of a mapping. -/
def eventCountEntries : List (Content × Content) → Nat
  | [] => 0
  | (key, value) :: rest => eventCount key + eventCount value + eventCountEntries rest

end

end Content

/-- A value that may follow some more aliases. -/
abbrev Following := StateT Nat Option

/-- Follow an alias. -/
def followAlias (table : List (Nat × Content)) (number : Nat) : Following Content := do
  match ← get with
  | 0 => failure
  | left + 1 =>
      set left
      match table.lookup number with
      | some target => return target
      | none => failure

/-- Whether a tag is local, that is, begins with an exclamation mark. -/
def isLocalTag (tag : Option String) : Bool :=
  match tag with
  | some tag => tag.toList.head? == some '!'
  | none => false

/-- The value of a scalar. -/
def scalarValue? (tag : Option String) (text : String) (plain : Bool) : Option Value :=
  if isLocalTag tag then none
  else
    match tag with
    | some tag => taggedValue? tag text
    | none => if plain then plainValue? text else some (.string text)

/-- The text of a key; only scalars are keys. -/
def keyText (table : List (Nat × Content)) (key : Content) : Following String := do
  let target ← match key with
    | .alias number => followAlias table number
    | key => pure key
  match target with
  | .scalar _ _ text _ => return text
  | _ => failure

/-- The value of a node, given how the members of collections are read, if they
may still be. -/
def valueWith (table : List (Nat × Content)) (inner : Option (Content → Following Value))
    (content : Content) : Following Value := do
  let target ← match content with
    | .alias number => followAlias table number
    | content => pure content
  match target, inner with
  | .scalar _ tag text plain, _ => StateT.lift (scalarValue? tag text plain)
  | .list _ tag items, some inner =>
      if isLocalTag tag then failure else return .list (← items.mapM inner)
  | .map _ tag entries, some inner =>
      if isLocalTag tag then failure
      else
        let entries ← entries.foldlM (fun known entry => do
          let key ← keyText table entry.1
          let value ← inner entry.2
          return Entries.insert key value known) []
        return .map entries
  | _, _ => failure

/-- The value of a node, with collections to a depth. -/
def valueTo (table : List (Nat × Content)) : Nat → Content → Following Value
  | 0 => valueWith table none
  | depth + 1 => valueWith table (some (valueTo table depth))

/-- The value of a document's node. -/
def valueOfNode? (node : Node) : Option Value := do
  let (content, _) ← Content.ofNode [] node
  let table := content.anchored.reverse
  let (value, _) ← (valueTo table 128 content).run (100 * content.eventCount)
  return value

/-- Read a text that is one YAML document; nothing at all is null. -/
def read? (text : String) : Option Value := do
  valueOfNode? (← Node.ofTokens? (← tokens? (← prepare? text)))

end RoutePlan.Yaml
