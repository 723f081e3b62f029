/-!
# Ordered entries

A mapping that remembers the order of its declarations, kept as the list of its
pairs.  `insert` keeps the position of a key that is already present and gives
it the new value, so that a repeated key holds its first position and its last
value.  Look-up is `List.lookup`.

The list itself is not required to be free of repeated keys.  Whatever is built
by `insert` from the empty mapping has distinct keys: `keys_insert` says that a
present key adds none.
-/

namespace RoutePlan

universe u v

/-- A mapping as the list of its pairs, in declaration order. -/
abbrev Entries (κ : Type u) (α : Type v) := List (κ × α)

namespace Entries

variable {κ : Type u} {α : Type v} [BEq κ]

/-- The keys, in declaration order. -/
def keys (entries : Entries κ α) : List κ :=
  entries.map Prod.fst

/-- Give `key` the value `value`, in place when the key is present and at the
end when it is not. -/
def insert (key : κ) (value : α) : Entries κ α → Entries κ α
  | [] => [(key, value)]
  | (present, held) :: rest =>
      if present == key then (present, value) :: rest
      else (present, held) :: insert key value rest

/-- Declare the pairs one after the other. -/
def ofPairs (pairs : List (κ × α)) : Entries κ α :=
  pairs.foldl (fun entries pair => insert pair.1 pair.2 entries) []

/-- Whether the mapping declares `key`. -/
def declares (key : κ) (entries : Entries κ α) : Bool :=
  entries.any fun pair => pair.1 == key

@[simp]
theorem insert_nil (key : κ) (value : α) :
    insert key value ([] : Entries κ α) = [(key, value)] :=
  rfl

@[simp]
theorem lookup_insert_self [LawfulBEq κ] (key : κ) (value : α) (entries : Entries κ α) :
    (insert key value entries).lookup key = some value := by
  induction entries with
  | nil => simp
  | cons pair rest ih =>
      obtain ⟨present, held⟩ := pair
      by_cases same : present = key
      · simp [insert, same]
      · have apart : (key == present) = false := by simpa using fun eq => same eq.symm
        simp [insert, same, List.lookup_cons, apart, ih]

theorem lookup_insert_of_ne [LawfulBEq κ] {key other : κ} (value : α)
    (distinct : other ≠ key) (entries : Entries κ α) :
    (insert key value entries).lookup other = entries.lookup other := by
  induction entries with
  | nil =>
      have apart : (other == key) = false := by simpa using distinct
      simp [List.lookup_cons, apart]
  | cons pair rest ih =>
      obtain ⟨present, held⟩ := pair
      by_cases same : present = key
      · have apart : (other == key) = false := by simpa using distinct
        simp [insert, same, List.lookup_cons, apart]
      · simp [insert, same, List.lookup_cons, ih]

/-- A present key adds no key, an absent one is added at the end. -/
theorem keys_insert [LawfulBEq κ] (key : κ) (value : α) (entries : Entries κ α) :
    keys (insert key value entries) =
      if key ∈ keys entries then keys entries else keys entries ++ [key] := by
  induction entries with
  | nil => simp [keys]
  | cons pair rest ih =>
      obtain ⟨present, held⟩ := pair
      by_cases same : present = key
      · simp [insert, same, keys]
      · have apart : key ≠ present := fun eq => same eq.symm
        have step : keys (insert key value ((present, held) :: rest)) =
            present :: keys (insert key value rest) := by simp [insert, same, keys]
        rw [step, ih]
        by_cases held' : key ∈ keys rest <;> simp_all [keys]

end Entries

end RoutePlan
