import RoutePlan.Toml.Lexeme
import RoutePlan.Toml.Table
import RoutePlan.Toml.Word

/-!
# Reading TOML

A document is a sequence of lines: headers that name the table of what follows,
keys with values, comments and blank lines.  Its value is a mapping.

Lists and inline tables may be nested 79 deep, and a key has at most 79 parts.
-/

namespace RoutePlan.Toml

/-- The depth of lists and inline tables that is still read. -/
def maxDepth : Nat := 79

/-- The number of parts that a key may have. -/
def maxParts : Nat := 79

/-! ## Values -/

/-- Read a list behind its opening bracket.  Each round takes a character, so the
number of characters bounds them. -/
def readItems (readItem : List Char → Read Value) : Nat → List Char → Read (List Value)
  | 0, _ => none
  | bound + 1, chars =>
      match skipLines (bound + 1) chars with
      | ']' :: behind => some ([], behind)
      | chars =>
          match readItem chars with
          | none => none
          | some (value, rest) =>
              match skipLines (bound + 1) rest with
              | ',' :: behind =>
                  (readItems readItem bound behind).map fun (values, rest) =>
                    (value :: values, rest)
              | ']' :: behind => some ([value], behind)
              | _ => none

/-- Read a key, the sign of equality and a value. -/
def readDeclaration (readItem : List Char → Read Value) (chars : List Char) :
    Read (List String × Value) :=
  match readKey maxParts chars with
  | some (path, '=' :: rest) =>
      (readItem (skipBlanks rest)).map fun (value, rest) => ((path, value), rest)
  | _ => none

/-- Add a declaration to the fields of a table. -/
def addDeclaration (path : List String) (value : Value) (fields : Fields) : Option Fields :=
  path.getLast?.bind fun key => declare path.dropLast key value fields

/-- Read an inline table behind its opening brace and the blanks there, on one
line and without a comma at its end. -/
def readInline (readItem : List Char → Read Value) : Nat → Fields → List Char → Read Fields
  | 0, _, _ => none
  | bound + 1, fields, chars =>
      match readDeclaration readItem chars with
      | none => none
      | some ((path, value), rest) =>
          match addDeclaration path value fields with
          | none => none
          | some fields =>
              match skipBlanks rest with
              | ',' :: behind => readInline readItem bound fields behind
              | '\x7d' :: behind => some (fields, behind)
              | _ => none

/-- Read a value; so many lists and inline tables may be nested in each other. -/
def readValue : Nat → List Char → Read Value
  | depth, '[' :: rest =>
      match depth with
      | 0 => none
      | depth + 1 => (readItems (readValue depth) rest.length rest).map fun (values, rest) =>
          (.list values, rest)
  | depth, '\x7b' :: rest =>
      match depth with
      | 0 => none
      | depth + 1 =>
          match skipBlanks rest with
          | '\x7d' :: behind => some (.emptyMap, behind)
          | chars =>
              (readInline (readValue depth) chars.length [] chars).map fun (fields, rest) =>
                (.map (sealFields fields), rest)
  | _, chars =>
      if chars.head? = some '"' ∨ chars.head? = some '\'' then
        (readString chars).map fun (text, rest) => (.string text, rest)
      else
        let (word, rest) := takeWord chars
        (wordValue? word).map fun value => (value, rest)

/-! ## Lines -/

/-- A document under construction: its fields and the path of the table that keys
belong to. -/
structure Draft where
  fields : Fields := []
  current : List String := []

/-- Declare a header: a table at the end of a path, or one more of a list. -/
def Draft.addHeader (draft : Draft) (listed : Bool) (path : List String) : Option Draft :=
  path.getLast?.bind fun key =>
    (alter .above (fun _ => if listed then declareListed key else declareTable key)
      path.dropLast .header draft.fields).map fun fields => ⟨fields, path⟩

/-- Declare a value in the current table. -/
def Draft.addValue (draft : Draft) (path : List String) (value : Value) : Option Draft :=
  (alter .above (fun _ => addDeclaration path value) draft.current .header draft.fields).map
    fun fields => { draft with fields }

/-- Read a line that is not blank, without its end. -/
def readLine (draft : Draft) : List Char → Read Draft
  | '[' :: '[' :: rest =>
      match readKey maxParts rest with
      | some (path, ']' :: ']' :: behind) =>
          (draft.addHeader true path).map fun draft => (draft, behind)
      | _ => none
  | '[' :: rest =>
      match readKey maxParts rest with
      | some (path, ']' :: behind) =>
          (draft.addHeader false path).map fun draft => (draft, behind)
      | _ => none
  | chars =>
      match readDeclaration (readValue maxDepth) chars with
      | some ((path, value), behind) =>
          (draft.addValue path value).map fun draft => (draft, behind)
      | none => none

/-- Read the lines of a document.  Each round takes a character, so the number of
characters bounds them. -/
def readLines : Nat → Draft → List Char → Option Draft
  | 0, draft, chars => if chars = [] then some draft else none
  | bound + 1, draft, chars =>
      match skipLines (bound + 1) chars with
      | [] => some draft
      | chars =>
          match readLine draft chars with
          | none => none
          | some (draft, rest) => (endLine? rest).bind fun rest => readLines bound draft rest

/-- Read a document.  A byte order mark at its beginning does not count. -/
def read? (text : String) : Option Value :=
  let chars := text.toList
  let chars := if chars.head? = some '\ufeff' then chars.drop 1 else chars
  (readLines chars.length ⟨[], []⟩ chars).map fun draft => .map (sealFields draft.fields)

end RoutePlan.Toml
