import Mathlib.Data.List.Nodup
import RoutePlan.Document

/-!
# Values with distinct keys

A mapping is kept as the list of its pairs, which could hold a key twice.  No
document does: what is read from YAML declares every key of every mapping once,
at any depth, because mappings are built by `Entries.insert`.
-/

namespace RoutePlan

/-- No mapping in the value declares a key twice. -/
inductive Value.HasDistinctKeys : Value → Prop where
  | null : HasDistinctKeys .null
  | bool (flag : Bool) : HasDistinctKeys (.bool flag)
  | number (n : Number) : HasDistinctKeys (.number n)
  | string (text : String) : HasDistinctKeys (.string text)
  | list {items : List Value} (inside : ∀ item ∈ items, HasDistinctKeys item) :
      HasDistinctKeys (.list items)
  | map {entries : Entries String Value} (distinct : (Entries.keys entries).Nodup)
      (inside : ∀ entry ∈ entries, HasDistinctKeys entry.2) : HasDistinctKeys (.map entries)

/-- Entries with distinct keys, whose values have distinct keys. -/
structure Entries.HaveDistinctKeys (entries : Entries String Value) : Prop where
  distinct : (Entries.keys entries).Nodup
  inside : ∀ entry ∈ entries, entry.2.HasDistinctKeys

theorem Value.hasDistinctKeys_map_iff {entries : Entries String Value} :
    (Value.map entries).HasDistinctKeys ↔ Entries.HaveDistinctKeys entries := by
  constructor
  · rintro ⟨⟩
    constructor <;> assumption
  · rintro ⟨distinct, inside⟩
    exact .map distinct inside

namespace Entries

theorem haveDistinctKeys_iff {entries : Entries String Value} :
    HaveDistinctKeys entries ↔
      (keys entries).Nodup ∧ ∀ entry ∈ entries, entry.2.HasDistinctKeys :=
  ⟨fun ⟨distinct, inside⟩ => ⟨distinct, inside⟩, fun ⟨distinct, inside⟩ => ⟨distinct, inside⟩⟩

theorem HaveDistinctKeys.nil : HaveDistinctKeys [] :=
  ⟨List.nodup_nil, fun _ member => nomatch member⟩

/-- A mapping that is looked up has distinct keys again. -/
theorem HaveDistinctKeys.of_lookup {entries inner : Entries String Value} {key : String}
    (distinct : HaveDistinctKeys entries) (found : entries.lookup key = some (.map inner)) :
    HaveDistinctKeys inner := by
  obtain ⟨before, after, split, _⟩ := List.lookup_eq_some_iff.1 found
  have member : (key, Value.map inner) ∈ entries := by simp [split]
  exact Value.hasDistinctKeys_map_iff.1 (distinct.inside _ member)

/-- An entry that is inserted is one of the mapping, or the new one. -/
theorem mem_insert {key : String} {value : Value} {entries : Entries String Value}
    {entry : String × Value} (member : entry ∈ insert key value entries) :
    entry.2 = value ∨ entry ∈ entries := by
  induction entries with
  | nil =>
      rw [insert_nil, List.mem_singleton] at member
      exact .inl (by rw [member])
  | cons head rest ih =>
      obtain ⟨present, held⟩ := head
      rw [insert] at member
      split at member
      · rcases List.mem_cons.1 member with rfl | later
        · exact .inl rfl
        · exact .inr (List.mem_cons_of_mem _ later)
      · rcases List.mem_cons.1 member with rfl | later
        · exact .inr List.mem_cons_self
        · exact (ih later).imp_right (List.mem_cons_of_mem _)

theorem HaveDistinctKeys.insert {key : String} {value : Value} {entries : Entries String Value}
    (distinct : HaveDistinctKeys entries) (held : value.HasDistinctKeys) :
    HaveDistinctKeys (Entries.insert key value entries) := by
  constructor
  · rw [keys_insert]
    split
    · exact distinct.distinct
    · next absent =>
        exact List.nodup_append'.2
          ⟨distinct.distinct, List.nodup_singleton key, by simpa using absent⟩
  · intro entry member
    rcases mem_insert member with new | old
    · rw [new]
      exact held
    · exact distinct.inside entry old

end Entries

/-! ## Scalars -/

namespace Yaml

theorem hasDistinctKeys_of_doubleText? {text : List Char} {value : Value}
    (read : doubleText? text = some value) : value.HasDistinctKeys := by
  simp only [doubleText?] at read
  split at read
  · cases read
  · split at read
    · cases read
      exact .null
    · split at read
      · cases read
        exact .null
      · obtain ⟨x, _, rfl⟩ := Option.map_eq_some_iff.1 read
        exact .number _

theorem hasDistinctKeys_of_plainValue? {text : String} {value : Value}
    (read : plainValue? text = some value) : value.HasDistinctKeys := by
  have double : (if hasLeadingZero text.toList then Value.string text
      else (doubleText? text.toList).getD (.string text)).HasDistinctKeys := by
    split
    · exact .string text
    · cases read : doubleText? text.toList with
      | none => exact .string text
      | some value => exact hasDistinctKeys_of_doubleText? read
  simp only [plainValue?] at read
  split at read
  · cases read
    exact .null
  · split at read
    · cases read
      exact .bool _
    · split at read
      · cases read
        exact .number _
      · cases read
      · cases read
        exact double
      · cases read
        exact double

theorem hasDistinctKeys_of_taggedValue? {tag text : String} {value : Value}
    (read : taggedValue? tag text = some value) : value.HasDistinctKeys := by
  unfold taggedValue? at read
  split at read
  · obtain ⟨flag, _, rfl⟩ := Option.map_eq_some_iff.1 read
    exact .bool flag
  · split at read
    · unfold taggedInteger? at read
      split at read
      · cases read
        exact .number _
      · cases read
    · split at read
      · exact hasDistinctKeys_of_doubleText? read
      · split at read
        · split at read
          · cases read
            exact .null
          · cases read
        · cases read
          exact .string text

theorem hasDistinctKeys_of_scalarValue? {tag : Option String} {text : String} {plain : Bool}
    {value : Value} (read : scalarValue? tag text plain = some value) :
    value.HasDistinctKeys := by
  unfold scalarValue? at read
  split at read
  · cases read
  · split at read
    · exact hasDistinctKeys_of_taggedValue? read
    · split at read
      · exact hasDistinctKeys_of_plainValue? read
      · cases read
        exact .string text

/-! ## Collections -/

/-- Whatever a computation yields, with any number of aliases left, has the
property. -/
def Yields {α : Type} (property : α → Prop) (computation : Following α) : Prop :=
  ∀ left value left', computation.run left = some (value, left') → property value

section Yields

variable {α β : Type} {property : α → Prop}

theorem Yields.pure {value : α} (holds : property value) :
    Yields property (pure value : Following α) := by
  rintro left value left' ⟨⟩
  exact holds

theorem Yields.failure : Yields property (failure : Following α) :=
  fun _ _ _ yielded => nomatch yielded

theorem Yields.bind {condition : β → Prop} {first : Following β} {next : β → Following α}
    (before : Yields condition first)
    (after : ∀ value, condition value → Yields property (next value)) :
    Yields property (first >>= next) := by
  intro left value left' yielded
  rw [StateT.run_bind] at yielded
  obtain ⟨⟨middle, rest⟩, reached, yielded⟩ := Option.bind_eq_some_iff.1 yielded
  exact after middle (before left middle rest reached) rest value left' yielded

theorem Yields.anything (computation : Following α) : Yields (fun _ => True) computation :=
  fun _ _ _ _ => trivial

theorem Yields.mapM {inner : β → Following α} (each : ∀ item, Yields property (inner item))
    (items : List β) :
    Yields (fun values => ∀ value ∈ values, property value) (items.mapM inner) := by
  induction items with
  | nil => exact .pure (fun _ member => nomatch member)
  | cons item rest ih =>
      rw [List.mapM_cons]
      refine .bind (each item) fun value holds => .bind ih fun values hold => .pure ?_
      intro other member
      rcases List.mem_cons.1 member with rfl | later
      · exact holds
      · exact hold other later

theorem Yields.foldlM {step : α → β → Following α}
    (each : ∀ known item, property known → Yields property (step known item))
    (items : List β) {initial : α} (holds : property initial) :
    Yields property (items.foldlM step initial) := by
  induction items generalizing initial with
  | nil => exact .pure holds
  | cons item rest ih =>
      rw [List.foldlM_cons]
      exact .bind (each initial item holds) fun known hold => ih hold

end Yields

theorem yields_valueWith {table : List (Nat × Content)}
    {inner : Option (Content → Following Value)}
    (each : ∀ read ∈ inner, ∀ content, Yields Value.HasDistinctKeys (read content))
    (content : Content) : Yields Value.HasDistinctKeys (valueWith table inner content) := by
  unfold valueWith
  extract_lets valueOf
  -- The same goes on behind an alias and behind any other node.
  have goesOn (target : Content) : Yields Value.HasDistinctKeys (valueOf target) := by
    simp only [valueOf]
    split
    · intro left value left' yielded
      obtain ⟨scalar, read, same⟩ := Option.bind_eq_some_iff.1 yielded
      cases same
      exact hasDistinctKeys_of_scalarValue? read
    · split
      · exact .failure
      · exact .bind (.mapM (each _ rfl) _) fun values hold => .pure (.list hold)
    · split
      · exact .failure
      · have declared (known : Entries String Value) (entry : Content × Content)
            (distinct : Entries.HaveDistinctKeys known) :
            Yields Entries.HaveDistinctKeys (do
              let key ← keyText table entry.1
              let value ← _
              return Entries.insert key value known) :=
          .bind (.anything _) fun key _ =>
            .bind (each _ rfl entry.2) fun value held => .pure (distinct.insert held)
        exact .bind (.foldlM declared _ .nil) fun entries distinct =>
          .pure (Value.hasDistinctKeys_map_iff.2 distinct)
    · exact .failure
  split
  · exact .bind (.anything _) fun target _ => goesOn target
  · exact .bind (.anything _) fun target _ => goesOn target

theorem yields_valueTo (table : List (Nat × Content)) (depth : Nat) (content : Content) :
    Yields Value.HasDistinctKeys (valueTo table depth content) := by
  induction depth generalizing content with
  | zero => exact yields_valueWith (fun read member => absurd member (Option.not_mem_none read)) _
  | succ depth ih =>
      refine yields_valueWith (fun read member => ?_) content
      cases member
      exact ih

/-- The value that a text holds has distinct keys. -/
theorem hasDistinctKeys_of_read? {text : String} {value : Value}
    (read : read? text = some value) : value.HasDistinctKeys := by
  simp only [read?, valueOfNode?, bind, Option.bind_eq_some_iff] at read
  obtain ⟨_, _, _, _, node, _, numbered, _, ⟨found, left⟩, yielded, same⟩ := read
  cases same
  exact yields_valueTo _ _ numbered.1 _ found left yielded

end Yaml

/-- The document that a text holds has distinct keys. -/
theorem Document.hasDistinctKeys_of_read {text : String} {document : Value}
    (read : Document.read text = .ok document) : document.HasDistinctKeys := by
  unfold Document.read at read
  split at read
  · cases read
  · split at read
    · cases read
    · cases read
    · next found => cases read; exact Yaml.hasDistinctKeys_of_read? found

end RoutePlan
