import RoutePlan.Value

/-!
# Tables under construction

A TOML document declares its tables piece by piece.  What may still be added to a
table depends on how it came about: a table with a header of its own is closed to
dotted keys, a table made by dotted keys is closed to headers, and a table that
is only named above another one may still get its header.
-/

namespace RoutePlan.Toml

/-- How a table came about. -/
inductive Origin where
  /-- By a header of its own, or as the document. -/
  | header
  /-- As a table above one with a header. -/
  | above
  /-- By a dotted key. -/
  | dotted
deriving DecidableEq

/-- What stands under a key. -/
inductive Item where
  | value (content : Value)
  | table (origin : Origin) (fields : List (String × Item))
  /-- A list of tables; only the last one can still change. -/
  | tables (earlier : List Value) (last : List (String × Item))

/-- The fields of a table under construction. -/
abbrev Fields := Entries String Item

/-! ## Finished tables -/

mutual

/-- The value of an item. -/
def Item.seal : Item → Value
  | .value content => content
  | .table _ fields => .map (sealFields fields)
  | .tables earlier last => .list (earlier ++ [.map (sealFields last)])

/-- The values of fields. -/
def sealFields : List (String × Item) → Entries String Value
  | [] => []
  | (key, item) :: rest => (key, item.seal) :: sealFields rest

end

/-! ## Declarations -/

/-- Change the table at the end of a path.  Tables that are missing on the way
are made with the origin `made`; a path of dotted keys does not lead through
tables with headers. -/
def alter (made : Origin) (change : Origin → Fields → Option Fields) :
    List String → Origin → Fields → Option Fields
  | [], own, fields => change own fields
  | key :: rest, _, fields =>
      match fields.lookup key with
      | none => (alter made change rest made []).map fun inner =>
          fields.insert key (.table made inner)
      | some (.value _) => none
      | some (.table own inner) =>
          if made = .dotted ∧ own = .header then none
          else (alter made change rest own inner).map fun inner =>
            fields.insert key (.table own inner)
      | some (.tables earlier last) => (alter made change rest .header last).map fun last =>
          fields.insert key (.tables earlier last)

/-- Declare a value under a dotted key. -/
def declare (path : List String) (key : String) (content : Value) (fields : Fields) :
    Option Fields :=
  alter .dotted (fun own fields =>
    if (own = .dotted ↔ path ≠ []) ∧ !fields.declares key then
      some (fields.insert key (.value content))
    else none) path .header fields

/-- Declare a table by its header. -/
def declareTable (key : String) (fields : Fields) : Option Fields :=
  match fields.lookup key with
  | none => some (fields.insert key (.table .header []))
  | some (.table .above inner) => some (fields.insert key (.table .header inner))
  | some _ => none

/-- Declare one more table of a list by its header. -/
def declareListed (key : String) (fields : Fields) : Option Fields :=
  match fields.lookup key with
  | none => some (fields.insert key (.tables [] []))
  | some (.tables earlier last) =>
      some (fields.insert key (.tables (earlier ++ [.map (sealFields last)]) []))
  | some _ => none

end RoutePlan.Toml
