import Mathlib.Data.String.Basic
import RoutePlan.Proofs.Captures
import RoutePlan.Proofs.Entries
import RoutePlan.Proofs.PathPattern

/-!
# Matching and instantiation

A pattern is instantiated by putting a segment in the place of each parameter.  Matching is
the inverse: when the parameters have distinct names, a path matches with exactly those
captures that the pattern is instantiated with to give the path.  A path is under a pattern
when its leading segments match, as many as the pattern has.

Patterns and paths count by their segments only, and the normal form of a pattern is parsed
to the pattern.
-/

namespace RoutePlan

namespace PatternSegment

/-- The name of a parameter. -/
def name? : PatternSegment → Option String
  | literal _ => none
  | parameter name => some name

/-- The segment with a value in the place of a parameter. -/
def fill (value : String → String) : PatternSegment → String
  | literal text => text
  | parameter name => value name

/-- The names of the parameters among segments, in order of occurrence. -/
def names (segments : List PatternSegment) : List String :=
  segments.filterMap name?

@[simp]
theorem names_nil : names [] = [] :=
  rfl

@[simp]
theorem names_literal_cons (text : String) (segments : List PatternSegment) :
    names (literal text :: segments) = names segments :=
  rfl

@[simp]
theorem names_parameter_cons (name : String) (segments : List PatternSegment) :
    names (parameter name :: segments) = name :: names segments :=
  rfl

theorem mem_names_iff {segments : List PatternSegment} {name : String} :
    name ∈ names segments ↔ parameter name ∈ segments := by
  rw [names, List.mem_filterMap]
  constructor
  · rintro ⟨segment, member, named⟩
    cases segment with
    | literal text => cases named
    | parameter other =>
        cases named
        exact member
  · intro member
    exact ⟨parameter name, member, rfl⟩

/-- Segments are filled with the values of their own parameters only. -/
theorem map_fill_congr {segments : List PatternSegment} {value other : String → String}
    (agree : ∀ name ∈ names segments, value name = other name) :
    segments.map (fill value) = segments.map (fill other) := by
  apply List.map_congr_left
  intro segment member
  cases segment with
  | literal text => rfl
  | parameter name => exact agree name (mem_names_iff.2 member)

end PatternSegment

namespace PathPattern

open PatternSegment

/-- The names of the parameters, in order of occurrence. -/
def names (pattern : PathPattern) : List String :=
  PatternSegment.names pattern.segments

/-- The segment that captures hold for a name. -/
def valueIn (captures : Entries String String) (name : String) : String :=
  (captures.lookup name).getD ""

/-- The pattern in normal form with the captured segment in the place of each parameter. -/
def instantiate (pattern : PathPattern) (captures : Entries String String) : String :=
  UrlPath.ofSegments (pattern.segments.map (fill (valueIn captures)))

theorem valueIn_cons_self (name part : String) (captures : Entries String String) :
    valueIn ((name, part) :: captures) name = part := by
  simp [valueIn]

theorem valueIn_cons_of_ne {name other : String} (apart : other ≠ name) (part : String)
    (captures : Entries String String) :
    valueIn ((name, part) :: captures) other = valueIn captures other := by
  have unequal : (other == name) = false := by simpa using apart
  rw [valueIn, valueIn, List.lookup_cons, unequal]

/-! ## Capturing -/

@[simp]
theorem capture_nil (bound : Entries String String) (parts : List String) :
    capture bound [] parts = some bound := by
  simp [capture]

/-- Segments that are filled by captures with a first one for another name. -/
theorem map_fill_valueIn_cons {segments : List PatternSegment} {name : String}
    (absent : name ∉ PatternSegment.names segments) (part : String)
    (captures : Entries String String) :
    segments.map (fill (valueIn ((name, part) :: captures))) =
      segments.map (fill (valueIn captures)) :=
  map_fill_congr fun _ member =>
    valueIn_cons_of_ne (ne_of_mem_of_not_mem member absent) part captures

/-- As many parts as segments are captured exactly by what fills the segments to give the
parts, behind what was bound before. -/
theorem capture_eq_some_iff {segments : List PatternSegment} {parts : List String}
    {bound result : Entries String String} (sameLength : parts.length = segments.length)
    (distinct : (PatternSegment.names segments).Nodup)
    (fresh : ∀ name ∈ PatternSegment.names segments, name ∉ Entries.keys bound) :
    capture bound segments parts = some result ↔
      ∃ added, result = bound ++ added ∧ Entries.keys added = PatternSegment.names segments ∧
        segments.map (fill (valueIn added)) = parts := by
  induction segments generalizing parts bound with
  | nil =>
      obtain rfl := List.eq_nil_of_length_eq_zero sameLength
      rw [capture_nil, Option.some.injEq]
      constructor
      · rintro rfl
        exact ⟨[], (List.append_nil _).symm, rfl, rfl⟩
      · rintro ⟨added, rfl, keys, _⟩
        rw [List.map_eq_nil_iff.1 keys, List.append_nil]
  | cons segment segments ih =>
      obtain ⟨part, parts, rfl⟩ := List.exists_cons_of_length_eq_add_one sameLength
      have sameRest : parts.length = segments.length := Nat.succ.inj sameLength
      cases segment with
      | literal text =>
          have tail := ih sameRest distinct fresh
          simp only [capture, List.map_cons, fill, List.cons.injEq, names_literal_cons]
          split
          · next same => simp [tail, same]
          · next other => simp [other]
      | parameter name =>
          obtain ⟨absent, distinctRest⟩ := List.nodup_cons.1 distinct
          obtain ⟨new, freshRest⟩ := List.forall_mem_cons.1 fresh
          have freshAfter : ∀ other ∈ PatternSegment.names segments,
              other ∉ Entries.keys (bound ++ [(name, part)]) := by
            intro other member held
            rw [Entries.keys, List.map_append] at held
            rcases List.mem_append.1 held with before | last
            · exact freshRest other member before
            · exact ne_of_mem_of_not_mem member absent (List.mem_singleton.1 last)
          rw [capture, Entries.insert_of_not_mem new, ih sameRest distinctRest freshAfter]
          constructor
          · rintro ⟨added, rfl, keys, filled⟩
            refine ⟨(name, part) :: added, by simp, ?_, ?_⟩
            · rw [names_parameter_cons, ← keys]
              rfl
            · rw [List.map_cons, map_fill_valueIn_cons absent, filled, fill, valueIn_cons_self]
          · rintro ⟨added, rfl, keys, filled⟩
            obtain ⟨⟨key, held⟩, others, rfl⟩ :=
              List.exists_cons_of_ne_nil (l := added) (by rintro rfl; cases keys)
            obtain ⟨rfl, keysRest⟩ := List.cons.inj keys
            obtain ⟨first, filledRest⟩ := List.cons.inj filled
            rw [fill, valueIn_cons_self] at first
            rw [map_fill_valueIn_cons absent] at filledRest
            exact ⟨others, by simp [first], keysRest, filledRest⟩

/-- Parts behind the last segment are not looked at. -/
theorem capture_take (bound : Entries String String) (segments : List PatternSegment)
    (parts : List String) :
    capture bound segments (parts.take segments.length) = capture bound segments parts := by
  induction segments generalizing bound parts with
  | nil => rw [capture_nil, capture_nil]
  | cons segment segments ih =>
      cases parts with
      | nil => rfl
      | cons part parts => cases segment <;> simp [capture, ih]

/-! ## Patterns and paths -/

variable {path request : String} {captures : Entries String String}

theorem length_segments_parse : (parse path).segments.length = (Text.segments path).length :=
  List.length_map _

/-- A literal of a parsed pattern is a segment. -/
theorem isSegment_of_literal_mem {text : String}
    (member : PatternSegment.literal text ∈ (parse path).segments) : Text.IsSegment text := by
  obtain ⟨segment, present, read⟩ := List.mem_map.1 member
  have written : text = segment := by
    rw [← display_ofText segment, read]
    rfl
  exact written ▸ Text.isSegment_of_mem_segments present

/-- A parsed pattern is filled with segments when the values of its parameters are segments. -/
theorem isSegment_of_mem_filled {value : String → String}
    (proper : ∀ name ∈ (parse path).names, Text.IsSegment (value name)) :
    ∀ part ∈ (parse path).segments.map (fill value), Text.IsSegment part := by
  intro part member
  obtain ⟨segment, present, rfl⟩ := List.mem_map.1 member
  cases segment with
  | literal text => exact isSegment_of_literal_mem present
  | parameter name => exact proper name (mem_names_iff.2 present)

/-- Something holds of all captured segments when it does of the one of each name. -/
theorem forall_mem_captures_iff {names : List String} (distinct : names.Nodup)
    (keys : Entries.keys captures = names) {holds : String → Prop} :
    (∀ entry ∈ captures, holds entry.2) ↔ ∀ name ∈ names, holds (valueIn captures name) := by
  subst keys
  have found {name part : String} (member : (name, part) ∈ captures) :
      valueIn captures name = part := by
    rw [valueIn, (Entries.lookup_eq_some_iff_mem distinct).2 member, Option.getD_some]
  constructor
  · intro each name member
    obtain ⟨⟨name, part⟩, present, rfl⟩ := List.mem_map.1 member
    rw [found present]
    exact each _ present
  · rintro each ⟨name, part⟩ present
    rw [← found present]
    exact each name (List.mem_map.2 ⟨_, present, rfl⟩)

/-- A path matches exactly with the captures that instantiate the pattern to it. -/
theorem matchExact_eq_some_iff (distinct : (parse path).names.Nodup) :
    (parse path).matchExact request = some captures ↔
      Entries.keys captures = (parse path).names ∧
        (∀ entry ∈ captures, Text.IsSegment entry.2) ∧
        UrlPath.join "/" request = (parse path).instantiate captures := by
  have captured (sameLength : (Text.segments request).length = (parse path).segments.length) :
      capture [] (parse path).segments (Text.segments request) = some captures ↔
        Entries.keys captures = (parse path).names ∧
          (parse path).segments.map (fill (valueIn captures)) = Text.segments request := by
    rw [capture_eq_some_iff sameLength distinct fun _ _ => List.not_mem_nil]
    simp only [List.nil_append, exists_eq_left', names]
  have requested : ∀ part ∈ Text.segments request, Text.IsSegment part :=
    fun _ => Text.isSegment_of_mem_segments
  rw [UrlPath.join_slash, instantiate, matchExact]
  constructor
  · intro matched
    split at matched
    · next sameLength =>
        obtain ⟨keys, filled⟩ := (captured sameLength).1 matched
        refine ⟨keys, (forall_mem_captures_iff distinct keys).2 fun name member => ?_, ?_⟩
        · apply requested
          rw [← filled]
          exact List.mem_map.2 ⟨.parameter name, mem_names_iff.1 member, rfl⟩
        · rw [filled]
    · cases matched
  · rintro ⟨keys, proper, same⟩
    rw [forall_mem_captures_iff distinct keys] at proper
    have filled := (UrlPath.ofSegments_inj requested (isSegment_of_mem_filled proper)).1 same
    have sameLength := congrArg List.length filled
    rw [List.length_map] at sameLength
    rw [if_pos sameLength, captured sameLength]
    exact ⟨keys, filled.symm⟩

/-- The path of the leading segments of a path, at most so many. -/
def leading (count : Nat) (request : String) : String :=
  UrlPath.ofSegments ((Text.segments request).take count)

@[simp]
theorem segments_leading (count : Nat) (request : String) :
    Text.segments (leading count request) = (Text.segments request).take count :=
  UrlPath.segments_ofSegments fun _ member =>
    Text.isSegment_of_mem_segments (List.mem_of_mem_take member)

/-- A path is under a pattern when its leading segments match, as many as the pattern has. -/
theorem matchLeading_eq_matchExact_leading (pattern : PathPattern) (request : String) :
    pattern.matchLeading request =
      pattern.matchExact (leading pattern.segments.length request) := by
  rw [matchLeading, matchExact, segments_leading, capture_take, List.length_take]
  by_cases short : (Text.segments request).length < pattern.segments.length
  · rw [if_pos short, if_neg (by omega)]
  · rw [if_neg short, if_pos (by omega)]

/-- The normal form of a pattern is parsed to the pattern. -/
theorem parse_display_parse (path : String) : parse (parse path).display = parse path := by
  have segments : Text.segments (UrlPath.ofSegments (Text.segments path)) = Text.segments path :=
    UrlPath.segments_ofSegments fun _ => Text.isSegment_of_mem_segments
  rw [display_parse, parse, segments, parse]

/-- The parameters of a pattern are the segments that are a colon and a name. -/
theorem parameter_mem_parse_iff {name : String} :
    PatternSegment.parameter name ∈ (parse path).segments ↔
      name ≠ "" ∧ ":" ++ name ∈ Text.segments path := by
  rw [parse, List.mem_map]
  constructor
  · rintro ⟨text, member, read⟩
    obtain ⟨filled, rfl⟩ := ofText_eq_parameter_iff.1 read
    exact ⟨filled, member⟩
  · rintro ⟨filled, member⟩
    exact ⟨_, member, ofText_eq_parameter_iff.2 ⟨filled, rfl⟩⟩

/-- A path that matches exactly is under the pattern, with the same captures. -/
theorem matchLeading_of_matchExact (matched : (parse path).matchExact request = some captures) :
    (parse path).matchLeading request = some captures := by
  unfold matchExact at matched
  dsimp only at matched
  split at matched
  · next sameLength =>
      unfold matchLeading
      rw [if_neg (by omega)]
      exact matched
  · cases matched

/-- Paths with the same segments are the same pattern, and are matched alike. -/
theorem matches_congr {other otherRequest : String}
    (samePath : Text.segments path = Text.segments other)
    (same : Text.segments request = Text.segments otherRequest) :
    (parse path).matchExact request = (parse other).matchExact otherRequest ∧
      (parse path).matchLeading request = (parse other).matchLeading otherRequest := by
  have samePattern : parse path = parse other := by rw [parse, samePath, parse]
  rw [samePattern, matchExact, matchExact, matchLeading, matchLeading, same]
  exact ⟨rfl, rfl⟩

/-- Exact matching inverts instantiation when the parameters have distinct names, and a path
is under a pattern as far as its leading segments match exactly.  Both depend on segments only,
which slashes at either end or side by side do not change; an exact match is also one of leading
segments; and what a pattern is shown as is parsed to the pattern. -/
theorem matching_inverts_instantiation :
    (∀ path, (parse path).display = UrlPath.join "/" path ∧
      ∀ name, .parameter name ∈ (parse path).segments ↔
        name ≠ "" ∧ ":" ++ name ∈ Text.segments path) ∧
    (∀ path request captures, (parse path).names.Nodup →
      ((parse path).matchExact request = some captures ↔
        Entries.keys captures = (parse path).names ∧
          (∀ entry ∈ captures, Text.IsSegment entry.2) ∧
          UrlPath.join "/" request = (parse path).instantiate captures)) ∧
    (∀ path request captures,
      (parse path).matchLeading request = some captures ↔
        (parse path).matchExact (leading (Text.segments path).length request) = some captures) ∧
    (∀ path other request otherRequest, Text.segments path = Text.segments other →
      Text.segments request = Text.segments otherRequest →
        (parse path).matchExact request = (parse other).matchExact otherRequest ∧
          (parse path).matchLeading request = (parse other).matchLeading otherRequest) ∧
    (∀ first second, Text.segments ("/" ++ first) = Text.segments first ∧
      Text.segments (first ++ "/") = Text.segments first ∧
      Text.segments (first ++ "//" ++ second) = Text.segments (first ++ "/" ++ second)) ∧
    (∀ path request captures, (parse path).matchExact request = some captures →
      (parse path).matchLeading request = some captures) ∧
    ∀ path, parse (parse path).display = parse path := by
  refine ⟨fun path => ⟨display_parse path, fun name => parameter_mem_parse_iff⟩,
    fun path request captures distinct => matchExact_eq_some_iff distinct,
    fun path request captures => ?_,
    fun path other request otherRequest samePath same => matches_congr samePath same,
    fun first second => ⟨Text.segments_slash_append first, Text.segments_append_slash_end first,
      Text.segments_append_slashes first second⟩,
    fun path request captures => matchLeading_of_matchExact, parse_display_parse⟩
  rw [matchLeading_eq_matchExact_leading, length_segments_parse]

/-- A value may begin with a colon, and a colon alone is a literal; the captures of a path below
are those of its leading segments. -/
theorem colon_literal_and_colon_value :
    (parse "/shop/:/:item").names.Nodup ∧
      (parse "/shop/:/:item").matchExact "shop//:/:7/" = some [("item", ":7")] ∧
      (parse "/shop/:/:item").matchLeading "/shop/:/:7/edit" = some [("item", ":7")] := by
  have distinct : (parse "/shop/:/:item").names.Nodup := by decide
  obtain ⟨_, exact, leading, _⟩ := matching_inverts_instantiation
  refine ⟨distinct, (exact _ _ _ distinct).2 ⟨by decide, by decide, by decide⟩,
    (leading _ _ _).2 ((exact _ _ _ distinct).2 ⟨by decide, by decide, by decide⟩)⟩

end PathPattern

end RoutePlan
