import Mathlib.Data.List.Nodup
import RoutePlan.Value

/-!
# Look-ups in mappings

A look-up finds the first entry of its key.  So it depends on the entries of the key only:
not on the value of another key, and in a mapping with distinct keys not on the order of
the entries.
-/

namespace RoutePlan.Entries

section Lookup

variable {α : Type} {config other front back : Entries String α} {field key : String}

theorem lookup_eq_none_iff : config.lookup key = none ↔ key ∉ keys config := by
  simp only [List.lookup_eq_none_iff, keys, List.mem_map, not_exists, not_and]
  exact forall₂_congr fun entry _ => bne_iff_ne.trans ne_comm

/-- The first entry of a key is found. -/
theorem lookup_field (first : field ∉ keys front) (value : α) :
    (front ++ (field, value) :: back).lookup field = some value := by
  rw [← lookup_eq_none_iff] at first
  simp [List.lookup_append, first]

/-- The entry of another key is not found. -/
theorem lookup_of_ne (apart : key ≠ field) (value : α) :
    (front ++ (field, value) :: back).lookup key = (front ++ back).lookup key := by
  have unequal : (key == field) = false := by simpa using apart
  simp [List.lookup_append, List.lookup_cons, unequal]

/-- In a mapping with distinct keys, no entry before another one has its key. -/
theorem not_mem_keys_of_nodup {value : α}
    (distinct : (keys (front ++ (key, value) :: back)).Nodup) : key ∉ keys front := by
  intro earlier
  rw [keys, List.map_append, List.map_cons] at distinct
  exact (List.nodup_append.1 distinct).2.2 key earlier key List.mem_cons_self rfl

/-- In a mapping with distinct keys, every entry is found. -/
theorem lookup_eq_some_iff_mem (distinct : (keys config).Nodup) {value : α} :
    config.lookup key = some value ↔ (key, value) ∈ config := by
  constructor
  · intro found
    obtain ⟨before, after, split, _⟩ := List.lookup_eq_some_iff.1 found
    simp [split]
  · intro member
    obtain ⟨before, after, rfl⟩ := List.append_of_mem member
    exact lookup_field (not_mem_keys_of_nodup distinct) value

theorem lookup_eq_of_perm (distinct : (keys config).Nodup) (perm : config.Perm other)
    (key : String) : other.lookup key = config.lookup key := by
  have otherDistinct : (keys other).Nodup := (perm.map Prod.fst).nodup_iff.1 distinct
  ext value
  rw [lookup_eq_some_iff_mem distinct, lookup_eq_some_iff_mem otherDistinct]
  exact perm.symm.mem_iff

/-- A new key goes to the end. -/
theorem insert_of_not_mem {value : α} (fresh : key ∉ keys config) :
    insert key value config = config ++ [(key, value)] := by
  induction config with
  | nil => rfl
  | cons entry rest ih =>
      obtain ⟨present, held⟩ := entry
      obtain ⟨other, later⟩ := not_or.1 (mt List.mem_cons.2 fresh)
      have apart : (present == key) = false := by simpa using Ne.symm other
      simp [insert, apart, ih later]

/-- The next entry of a mapping with distinct keys goes to the end. -/
theorem insert_of_nodup {value : α} (distinct : (keys (front ++ (key, value) :: back)).Nodup) :
    insert key value front = front ++ [(key, value)] :=
  insert_of_not_mem (not_mem_keys_of_nodup distinct)

end Lookup

/-- The same keys with the same values, but for the value of one key. -/
structure SameExcept (field : String) (config other : Entries String Value) : Prop where
  keys : Entries.keys other = Entries.keys config
  lookup : ∀ key, key ≠ field → other.lookup key = config.lookup key

theorem sameExcept_field (front back : Entries String Value) (field : String)
    (value other : Value) :
    SameExcept field (front ++ (field, value) :: back) (front ++ (field, other) :: back) := by
  constructor
  · simp [Entries.keys]
  · intro key apart
    rw [lookup_of_ne apart, lookup_of_ne apart]

end RoutePlan.Entries
