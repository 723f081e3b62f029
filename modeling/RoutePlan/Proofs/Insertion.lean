import RoutePlan.Proofs.Entries

/-!
# Inserting several entries

Entries that are inserted one after the other keep the mapping in front of them: a key that it
holds stays where it is and takes the last value that is inserted for it, and new keys follow in
the order of their first entries.

Inserting entries that were themselves gathered by insertion is the same as inserting them one
by one, so a mapping may be gathered in parts.
-/

namespace RoutePlan.Entries

variable {α : Type} {added entries : Entries String α} {key other : String}

/-- Insert entries one after the other. -/
def insertAll (added entries : Entries String α) : Entries String α :=
  added.foldl (fun entries entry => insert entry.1 entry.2 entries) entries

@[simp]
theorem insertAll_nil (entries : Entries String α) : insertAll [] entries = entries :=
  rfl

@[simp]
theorem insertAll_cons (key : String) (value : α) (rest entries : Entries String α) :
    insertAll ((key, value) :: rest) entries = insertAll rest (insert key value entries) :=
  rfl

theorem ofPairs_eq_insertAll (pairs : List (String × α)) : ofPairs pairs = insertAll pairs [] :=
  rfl

/-! ## What is found -/

/-- The last value that is inserted for a key is found, and without one what was there before. -/
theorem lookup_insertAll (added entries : Entries String α) (key : String) :
    (insertAll added entries).lookup key = (added.reverse.lookup key).or (entries.lookup key) := by
  induction added generalizing entries with
  | nil => rfl
  | cons entry rest ih =>
      obtain ⟨present, value⟩ := entry
      rw [insertAll_cons, ih, List.reverse_cons, List.lookup_append, Option.or_assoc]
      congr 1
      by_cases same : key = present
      · subst same
        simp
      · have apart : (key == present) = false := by simpa using same
        simp [lookup_insert_of_ne value same, List.lookup_cons, apart]

/-- Keys that are there already stay in front, and the others follow in the order of their first
entries. -/
theorem keys_insertAll (added entries : Entries String α) :
    keys (insertAll added entries) =
      keys entries ++ ((keys added).filter fun key => decide (key ∉ keys entries)).eraseDups := by
  induction added generalizing entries with
  | nil => simp [keys]
  | cons entry rest ih =>
      obtain ⟨key, value⟩ := entry
      have unfolded : keys ((key, value) :: rest) = key :: keys rest := rfl
      rw [insertAll_cons, ih, keys_insert, unfolded]
      split
      · next held => rw [List.filter_cons_of_neg (by simpa using held)]
      · next fresh =>
          rw [List.filter_cons_of_pos (by simpa using fresh), List.eraseDups_cons,
            List.filter_filter, List.append_assoc, List.singleton_append]
          congr 4
          funext other
          by_cases same : other = key <;> simp [same]

/-- Distinct names are kept as they are. -/
theorem eraseDups_of_nodup {names : List String} (distinct : names.Nodup) :
    names.eraseDups = names := by
  induction names with
  | nil => rfl
  | cons name rest ih =>
      obtain ⟨absent, others⟩ := List.nodup_cons.1 distinct
      have apart : rest.filter (fun other => !other == name) = rest := by
        apply List.filter_eq_self.2
        intro other member
        simpa using ne_of_mem_of_not_mem member absent
      rw [List.eraseDups_cons, apart, ih others]

/-- A mapping with distinct keys is inserted behind the keys that are there already, and what it
holds is found first. -/
theorem insertAll_of_nodup (distinct : (keys added).Nodup) (entries : Entries String α) :
    keys (insertAll added entries) =
        keys entries ++ (keys added).filter (fun key => decide (key ∉ keys entries)) ∧
      ∀ key, (insertAll added entries).lookup key = (added.lookup key).or (entries.lookup key) := by
  constructor
  · rw [keys_insertAll, eraseDups_of_nodup (distinct.filter _)]
  · intro key
    rw [lookup_insertAll, lookup_eq_of_perm distinct added.reverse_perm.symm]

theorem nodup_keys_nil : (keys ([] : Entries String α)).Nodup :=
  List.nodup_nil

theorem nodup_keys_insert (distinct : (keys entries).Nodup) (key : String) (value : α) :
    (keys (insert key value entries)).Nodup := by
  rw [keys_insert]
  split
  · exact distinct
  · next fresh => exact List.concat_eq_append ▸ distinct.concat fresh

/-! ## Insertion in parts -/

/-- A key that is there takes a new value before or after another key does. -/
theorem insert_comm (apart : key ≠ other) (held : key ∈ keys entries) (value part : α) :
    insert key value (insert other part entries) =
      insert other part (insert key value entries) := by
  induction entries with
  | nil => cases held
  | cons entry rest ih =>
      obtain ⟨present, old⟩ := entry
      by_cases isKey : present = key
      · subst isKey
        simp [insert, apart]
      · have later : key ∈ keys rest :=
          (List.mem_cons.1 held).resolve_left fun same => isKey same.symm
        by_cases isOther : present = other
        · subst isOther
          simp [insert, isKey]
        · simp [insert, isKey, isOther, ih later]

/-- Of two values for one key the second stays. -/
theorem insert_insert (key : String) (old value : α) (entries : Entries String α) :
    insert key value (insert key old entries) = insert key value entries := by
  induction entries with
  | nil => simp [insert]
  | cons entry rest ih =>
      obtain ⟨present, held⟩ := entry
      by_cases same : present = key
      · simp [insert, same]
      · simp [insert, same, ih]

/-- A key that is there takes a new value before or after entries of other keys are inserted. -/
theorem insert_insertAll (absent : key ∉ keys added) (held : key ∈ keys entries) (value : α) :
    insert key value (insertAll added entries) = insertAll added (insert key value entries) := by
  induction added generalizing entries with
  | nil => rfl
  | cons entry rest ih =>
      obtain ⟨other, part⟩ := entry
      obtain ⟨apart, later⟩ := not_or.1 (mt List.mem_cons.2 absent)
      have kept : key ∈ keys (insert other part entries) := by
        rw [keys_insert]
        split
        · exact held
        · exact List.mem_append_left _ held
      rw [insertAll_cons, insertAll_cons, ih later kept, insert_comm apart held]

/-- An entry may be inserted into a mapping with distinct keys before or after the mapping is
inserted. -/
theorem insertAll_insert (distinct : (keys added).Nodup) (key : String) (value : α)
    (entries : Entries String α) :
    insertAll (insert key value added) entries = insert key value (insertAll added entries) := by
  induction added generalizing entries with
  | nil => rfl
  | cons entry rest ih =>
      obtain ⟨present, old⟩ := entry
      obtain ⟨absent, others⟩ := List.nodup_cons.1 distinct
      by_cases same : present = key
      · subst same
        have held : present ∈ keys (insert present old entries) := by
          rw [← lookup_eq_none_iff.not_left, lookup_insert_self]
          exact Option.some_ne_none old
        rw [insertAll_cons, insert_insertAll absent held, insert_insert]
        simp [insert]
      · have behind : insert key value ((present, old) :: rest) =
            (present, old) :: insert key value rest := by simp [insert, same]
        rw [behind, insertAll_cons, insertAll_cons, ih others]

end RoutePlan.Entries
