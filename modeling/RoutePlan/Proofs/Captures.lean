import RoutePlan.PathPattern

/-!
# Captured segments

What a pattern binds a parameter to, said on the segments of the pattern and of the
path that it matches: the segment that stands where the pattern has the parameter,
at the last place if it has it more than once.
-/

namespace RoutePlan

/-- A change of all values of a mapping is seen under each key. -/
theorem Entries.lookup_map_snd {α β : Type} (change : α → β) (key : String)
    (entries : Entries String α) :
    (entries.map fun entry => (entry.1, change entry.2)).lookup key =
      (entries.lookup key).map change := by
  induction entries with
  | nil => rfl
  | cons entry rest ih =>
      obtain ⟨present, held⟩ := entry
      rw [List.map_cons, List.lookup_cons, List.lookup_cons, ih]
      cases key == present <;> rfl

namespace PatternSegment

/-- A segment is a parameter when it is written as a colon and the name. -/
theorem ofText_eq_parameter_iff {text name : String} :
    ofText text = .parameter name ↔ name ≠ "" ∧ text = ":" ++ name := by
  constructor
  · intro read
    unfold ofText at read
    split at read
    · next c rest shape =>
        cases read
        constructor
        · simp [← String.toList_inj]
        · apply String.toList_inj.mp
          simp [shape]
    · cases read
  · rintro ⟨filled, rfl⟩
    unfold ofText
    split
    · next c rest shape =>
        have same : name.toList = c :: rest := by simpa using shape
        rw [← same, String.ofList_toList]
    · next other =>
        cases shape : name.toList with
        | nil => exact absurd (String.toList_inj.mp shape) filled
        | cons c rest => exact absurd (by simp [shape]) (other c rest)

end PatternSegment

namespace PathPattern

/-- The segment of a request path where a pattern path has a parameter, at the last
such place. -/
def lastSegment? (name path request : String) : Option String :=
  ((Text.segments path).zip (Text.segments request)).reverse.lookup (":" ++ name)

/-- A parameter is bound to the last segment at one of its places, and keeps what it
was bound to without any. -/
theorem lookup_capture {name : String} (filled : name ≠ "") {texts parts : List String}
    {bound captures : Entries String String} (within : texts.length ≤ parts.length)
    (captured : capture bound (texts.map PatternSegment.ofText) parts = some captures) :
    captures.lookup name =
      ((texts.zip parts).reverse.lookup (":" ++ name)).or (bound.lookup name) := by
  induction texts generalizing parts bound with
  | nil =>
      cases captured
      rfl
  | cons text texts ih =>
      cases parts with
      | nil => cases within
      | cons part parts =>
          have fewer : texts.length ≤ parts.length := Nat.le_of_succ_le_succ within
          rw [List.zip_cons_cons, List.reverse_cons, List.lookup_append, List.lookup_singleton]
          rw [List.map_cons] at captured
          cases segment : PatternSegment.ofText text with
          | literal literal =>
              have other : ":" ++ name ≠ text := by
                intro same
                have read := PatternSegment.ofText_eq_parameter_iff.2 ⟨filled, same.symm⟩
                rw [segment] at read
                cases read
              rw [segment, capture] at captured
              split at captured
              · rw [ih fewer captured, if_neg (by simpa using other), Option.or_none]
              · cases captured
          | parameter declared =>
              obtain ⟨_, written⟩ := PatternSegment.ofText_eq_parameter_iff.1 segment
              rw [segment, capture] at captured
              rw [ih fewer captured]
              by_cases same : name = declared
              · rw [same, Entries.lookup_insert_self, written, if_pos (beq_self_eq_true _)]
                -- the segment at this place is taken only if no later one is
                rw [Option.or_assoc, Option.some_or]
              · rw [Entries.lookup_insert_of_ne part same, if_neg, Option.or_none]
                rw [written, beq_iff_eq]
                exact fun equal => same ((String.append_right_inj ":").1 equal)

/-- An exact match binds a parameter to its last segment. -/
theorem lookup_of_matchExact {name path request : String} {captures : Entries String String}
    (filled : name ≠ "") (matched : (parse path).matchExact request = some captures) :
    captures.lookup name = lastSegment? name path request := by
  simp only [matchExact, parse, List.length_map] at matched
  split at matched
  · next same =>
      rw [lookup_capture filled (Nat.le_of_eq same.symm) matched, lastSegment?]
      simp
  · cases matched

end PathPattern

end RoutePlan
