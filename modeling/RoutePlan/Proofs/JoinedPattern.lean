import RoutePlan.Proofs.Insertion
import RoutePlan.Proofs.PathMatching
import RoutePlan.Proofs.Tree.Mounting

/-!
# Joined patterns

A pattern that is joined of two matches in two steps: the first matches the leading segments of
a path, as many as it has, and the second what lies beyond them.  The captures are those of the
first with those of the second inserted, so that a parameter of both keeps its position and
takes the value of the second.

The full path of a route is joined of that of a root around it and the rest.  So a request to
the route is under every root around it.
-/

namespace RoutePlan

namespace PathPattern

variable {request : String} {captures : Entries String String}

/-- The path of what lies beyond so many leading segments of a path. -/
def beyond (count : Nat) (request : String) : String :=
  UrlPath.ofSegments ((Text.segments request).drop count)

@[simp]
theorem segments_beyond (count : Nat) (request : String) :
    Text.segments (beyond count request) = (Text.segments request).drop count :=
  UrlPath.segments_ofSegments fun _ member =>
    Text.isSegment_of_mem_segments (List.mem_of_mem_drop member)

/-- Captures go into a mapping with distinct keys as they are made, or all at once. -/
theorem capture_insertAll {held start : Entries String String}
    (distinct : (Entries.keys start).Nodup) (segments : List PatternSegment)
    (parts : List String) :
    capture (Entries.insertAll start held) segments parts =
      (capture start segments parts).map fun added => Entries.insertAll added held := by
  induction segments generalizing start parts with
  | nil => rw [capture_nil, capture_nil, Option.map_some]
  | cons segment segments ih =>
      cases parts with
      | nil => cases segment <;> rfl
      | cons part parts =>
          cases segment with
          | literal text =>
              rw [capture, capture]
              split
              · exact ih distinct parts
              · rfl
          | parameter name =>
              rw [capture, capture, ← Entries.insertAll_insert distinct]
              exact ih (Entries.nodup_keys_insert distinct name part) parts

/-- What is captured behind earlier captures is inserted into them. -/
theorem capture_eq_map_insertAll (held : Entries String String)
    (segments : List PatternSegment) (parts : List String) :
    capture held segments parts =
      (capture [] segments parts).map fun added => Entries.insertAll added held :=
  capture_insertAll Entries.nodup_keys_nil segments parts

/-- Captures that are made behind distinct ones are distinct. -/
theorem nodup_keys_of_capture {bound : Entries String String} {segments : List PatternSegment}
    {parts : List String} (distinct : (Entries.keys bound).Nodup)
    (captured : capture bound segments parts = some captures) :
    (Entries.keys captures).Nodup := by
  induction segments generalizing bound parts with
  | nil =>
      rw [capture_nil, Option.some.injEq] at captured
      exact captured ▸ distinct
  | cons segment segments ih =>
      cases parts with
      | nil =>
          have same : bound = captures := by cases segment <;> exact Option.some.inj captured
          exact same ▸ distinct
      | cons part parts =>
          cases segment with
          | literal text =>
              rw [capture] at captured
              split at captured
              · exact ih distinct captured
              · cases captured
          | parameter name =>
              rw [capture] at captured
              exact ih (Entries.nodup_keys_insert distinct name part) captured

theorem nodup_keys_of_matchLeading {pattern : PathPattern}
    (matched : pattern.matchLeading request = some captures) :
    (Entries.keys captures).Nodup := by
  unfold matchLeading at matched
  dsimp only at matched
  split at matched
  · cases matched
  · exact nodup_keys_of_capture Entries.nodup_keys_nil matched

/-! ## Matching in two steps -/

theorem segments_parse_join (outer inner : String) :
    (parse (UrlPath.join outer inner)).segments =
      (parse outer).segments ++ (parse inner).segments := by
  rw [parse, UrlPath.segments_join, List.map_append, parse, parse]

/-- Enough parts are captured by two lists of segments in two steps. -/
theorem capture_append_eq_bind {first second : List PatternSegment} {parts : List String}
    (enough : first.length ≤ parts.length) :
    capture [] (first ++ second) parts =
      (capture [] first parts).bind fun held =>
        (capture [] second (parts.drop first.length)).map fun added =>
          Entries.insertAll added held := by
  rw [capture_append _ _ _ _ enough]
  congr 1
  funext held
  exact capture_eq_map_insertAll held second _

/-- A path is under a joined pattern when it is under the first part and the rest of it is under
the second. -/
theorem matchLeading_join (outer inner request : String) :
    (parse (UrlPath.join outer inner)).matchLeading request =
      ((parse outer).matchLeading request).bind fun held =>
        ((parse inner).matchLeading (beyond (parse outer).segments.length request)).map
          fun added => Entries.insertAll added held := by
  simp only [matchLeading, segments_parse_join, segments_beyond, List.length_append,
    List.length_drop]
  by_cases short : (Text.segments request).length < (parse outer).segments.length
  · rw [if_pos short, if_pos (by omega)]
    rfl
  · rw [if_neg short]
    by_cases shortRest : (Text.segments request).length - (parse outer).segments.length <
        (parse inner).segments.length
    · rw [if_pos shortRest, if_pos (by omega)]
      cases capture [] (parse outer).segments (Text.segments request) <;> rfl
    · rw [if_neg shortRest, if_neg (by omega), capture_append_eq_bind (by omega)]

/-- A path matches a joined pattern exactly when it is under the first part and the rest of it
matches the second exactly. -/
theorem matchExact_join (outer inner request : String) :
    (parse (UrlPath.join outer inner)).matchExact request =
      ((parse outer).matchLeading request).bind fun held =>
        ((parse inner).matchExact (beyond (parse outer).segments.length request)).map
          fun added => Entries.insertAll added held := by
  simp only [matchExact, matchLeading, segments_parse_join, segments_beyond, List.length_append,
    List.length_drop]
  by_cases short : (Text.segments request).length < (parse outer).segments.length
  · rw [if_pos short, if_neg (by omega)]
    rfl
  · rw [if_neg short]
    by_cases whole : (Text.segments request).length - (parse outer).segments.length =
        (parse inner).segments.length
    · rw [if_pos whole, if_pos (by omega), capture_append_eq_bind (by omega)]
    · rw [if_neg whole, if_neg (by omega)]
      cases capture [] (parse outer).segments (Text.segments request) <;> rfl

/-- Something is made in two steps exactly of what either step makes. -/
theorem bind_map_insertAll_eq_some_iff {first second : Option (Entries String String)} :
    (first.bind fun held => second.map fun added => Entries.insertAll added held) =
        some captures ↔
      ∃ held added, first = some held ∧ second = some added ∧
        captures = Entries.insertAll added held := by
  simp only [Option.bind_eq_some_iff, Option.map_eq_some_iff]
  constructor
  · rintro ⟨held, first, added, second, rfl⟩
    exact ⟨held, added, first, second, rfl⟩
  · rintro ⟨held, added, first, second, rfl⟩
    exact ⟨held, first, added, second, rfl⟩

end PathPattern

/-! ## Roots around routes -/

/-- Under a mount path, a forest has a root around a route that it lists, the two with these
full paths. -/
inductive Element.RootAround : (mount : String) → List Element → (root route : String) → Prop where
  | listed {mount : String} {head : Root} {children rest : List Element} {entry : ListedRoute} :
      entry ∈ listingAll (UrlPath.join mount head.path) children →
      RootAround mount (.root head children :: rest) (UrlPath.join mount head.path) entry.path
  | nested {mount : String} {head : Root} {children rest : List Element} {root route : String} :
      RootAround (UrlPath.join mount head.path) children root route →
      RootAround mount (.root head children :: rest) root route
  | imported {mount : String} {sources : List String} {children rest : List Element}
      {root route : String} :
      RootAround mount children root route →
      RootAround mount (.imports sources children :: rest) root route
  | later {mount : String} {element : Element} {rest : List Element} {root route : String} :
      RootAround mount rest root route →
      RootAround mount (element :: rest) root route

/-- The full path of a route is joined of that of a root around it and a rest. -/
theorem Element.RootAround.exists_join {mount : String} {forest : List Element}
    {root route : String} (around : RootAround mount forest root route) :
    ∃ inner, route = UrlPath.join root inner := by
  induction around with
  | listed member =>
      rw [listingAll_eq_map_under] at member
      obtain ⟨inside, _, rfl⟩ := List.mem_map.1 member
      exact ⟨inside.path, rfl⟩
  | nested _ ih => exact ih
  | imported _ ih => exact ih
  | later _ ih => exact ih

namespace PathPattern

open Element

/-- A joined pattern matches as its parts do one after the other: the first as a leading run of
the path, the second what lies beyond it, and its captures are those of the first with those of
the second inserted.  Inserted captures leave the names that are there in place, follow them with
their own, and are found first.  So a request to a route is under every root around it, whose
captures it completes. -/
theorem joined_pattern_matches_in_two_steps :
    (∀ outer inner request captures,
      ((parse (UrlPath.join outer inner)).matchLeading request = some captures ↔
        ∃ held added, (parse outer).matchLeading request = some held ∧
          (parse inner).matchLeading (beyond (parse outer).segments.length request) = some added ∧
          captures = Entries.insertAll added held) ∧
      ((parse (UrlPath.join outer inner)).matchExact request = some captures ↔
        ∃ held added, (parse outer).matchLeading request = some held ∧
          (parse inner).matchExact (beyond (parse outer).segments.length request) = some added ∧
          captures = Entries.insertAll added held)) ∧
    (∀ path request added, (parse path).matchLeading request = some added →
      ∀ held : Entries String String,
        Entries.keys (Entries.insertAll added held) = Entries.keys held ++
          (Entries.keys added).filter (fun name => decide (name ∉ Entries.keys held)) ∧
        ∀ name, (Entries.insertAll added held).lookup name =
          (added.lookup name).or (held.lookup name)) ∧
    ∀ mount forest root route, RootAround mount forest root route →
      ∀ request captures, (parse route).matchExact request = some captures →
        ∃ held added, (parse root).matchLeading request = some held ∧
          captures = Entries.insertAll added held := by
  refine ⟨fun outer inner request captures => ⟨?_, ?_⟩, fun path request added matched =>
    Entries.insertAll_of_nodup (nodup_keys_of_matchLeading matched), ?_⟩
  · rw [matchLeading_join, bind_map_insertAll_eq_some_iff]
  · rw [matchExact_join, bind_map_insertAll_eq_some_iff]
  · intro mount forest root route around request captures matched
    obtain ⟨inner, rfl⟩ := around.exists_join
    rw [matchExact_join, bind_map_insertAll_eq_some_iff] at matched
    obtain ⟨held, added, under, _, completed⟩ := matched
    exact ⟨held, added, under, completed⟩

/-- A root around an imported route that has the parameter of the root once more. -/
def shopForest : List Element :=
  [.root ⟨"shop", "/shops/:id/", [], [], []⟩
    [.imports ["items.json"]
      [.route ⟨"item", "items//:id/:part", [],
        [⟨.get, "item", .ok, true, [], [], [], []⟩], [], []⟩]]]

/-- The repeated parameter keeps its first position and takes the later segment. -/
theorem repeated_parameter_in_two_steps :
    RootAround "/" shopForest "/shops/:id" "/shops/:id/items/:id/:part" ∧
      (parse "/shops/:id/").matchLeading "/shops/7/items/8/lid/" = some [("id", "7")] ∧
      (parse "items//:id/:part").matchLeading "/items/8/lid" =
        some [("id", "8"), ("part", "lid")] ∧
      (Entries.insertAll [("id", "8"), ("part", "lid")] [("id", "7")]).lookup "id" = some "8" ∧
      (parse "/shops/:id/items/:id/:part").matchExact "/shops/7/items/8/lid/" =
        some [("id", "8"), ("part", "lid")] ∧
      ∃ held added, (parse "/shops/:id").matchLeading "/shops/7/items/8/lid/" = some held ∧
        [("id", "8"), ("part", "lid")] = Entries.insertAll added held := by
  have around : RootAround "/" shopForest "/shops/:id" "/shops/:id/items/:id/:part" :=
    @RootAround.listed "/" ⟨"shop", "/shops/:id/", [], [], []⟩ _ _
      ⟨.get, "/shops/:id/items/:id/:part", "item"⟩ (by decide)
  have outer : (parse "/shops/:id/").matchLeading "/shops/7/items/8/lid/" = some [("id", "7")] := by
    decide
  have inner : (parse "items//:id/:part").matchLeading "/items/8/lid" =
      some [("id", "8"), ("part", "lid")] := by
    decide
  have rest : (parse "items//:id/:part").matchExact
      (beyond (parse "/shops/:id/").segments.length "/shops/7/items/8/lid/") =
        some [("id", "8"), ("part", "lid")] := by
    decide
  obtain ⟨joined, kept, roots⟩ := joined_pattern_matches_in_two_steps
  have matched := (joined "/shops/:id/" "items//:id/:part" "/shops/7/items/8/lid/" _).2.2
    ⟨_, _, outer, rest, rfl⟩
  exact ⟨around, outer, inner, (kept _ _ _ inner [("id", "7")]).2 "id", matched,
    roots _ _ _ _ around _ _ matched⟩

end PathPattern

end RoutePlan
