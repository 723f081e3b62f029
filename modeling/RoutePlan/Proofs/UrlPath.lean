import RoutePlan.UrlPath

/-!
# Normal forms of URL paths

Reading the segments of a written path gives them back, so a path in normal form
is its segments and joining paths is concatenation of segments.  A written path
starts with a slash, has no empty segment and does not end with a slash, unless
it is the single slash.
-/

namespace RoutePlan

namespace Text

/-- A segment is a text without slashes that is not empty. -/
def IsSegment (text : String) : Prop :=
  text ≠ "" ∧ '/' ∉ text.toList

instance (text : String) : Decidable (IsSegment text) :=
  inferInstanceAs (Decidable (_ ∧ _))

private theorem not_mem_of_mem_splitOn {separator : Char} {text piece : List Char}
    (member : piece ∈ text.splitOn separator) : separator ∉ piece := by
  induction text generalizing piece with
  | nil =>
      rw [List.splitOn_nil, List.mem_singleton] at member
      rw [member]
      exact List.not_mem_nil
  | cons c text ih =>
      rw [List.splitOn_cons_eq_if_modifyHead] at member
      split at member
      · rcases List.mem_cons.mp member with rfl | member
        · exact List.not_mem_nil
        · exact ih member
      · next other =>
          obtain ⟨first, rest, split_eq⟩ :=
            List.exists_cons_of_ne_nil (List.splitOn_ne_nil separator text)
          rw [split_eq, List.modifyHead_cons] at member
          rcases List.mem_cons.mp member with rfl | member
          · have firstApart := ih (split_eq ▸ List.mem_cons_self)
            intro held
            rcases List.mem_cons.mp held with same | held
            · exact other (by simp [same])
            · exact firstApart held
          · exact ih (split_eq ▸ List.mem_cons_of_mem first member)

/-- Whatever is read as a segment is one. -/
theorem isSegment_of_mem_segments {text segment : String} (member : segment ∈ segments text) :
    IsSegment segment := by
  obtain ⟨piece, kept, rfl⟩ := List.mem_map.mp member
  obtain ⟨split, nonempty⟩ := List.mem_filter.mp kept
  constructor
  · intro empty
    have := congrArg String.toList empty
    simp_all
  · simpa using not_mem_of_mem_splitOn split

/-- A slash between two texts separates their segments. -/
theorem segments_append_slash (first second : String) :
    segments (first ++ "/" ++ second) = segments first ++ segments second := by
  have split : (first ++ "/" ++ second).toList.splitOn '/' =
      first.toList.splitOn '/' ++ second.toList.splitOn '/' := by
    rw [String.toList_append, String.toList_append, List.append_assoc]
    exact List.splitOn_append_cons_self _ _
  simp only [segments, split, List.filter_append, List.map_append]

@[simp]
theorem segments_empty : segments "" = [] :=
  rfl

/-- A leading slash changes no segment. -/
theorem segments_slash_append (text : String) : segments ("/" ++ text) = segments text := by
  simpa using segments_append_slash "" text

/-- A trailing slash changes no segment. -/
theorem segments_append_slash_end (text : String) : segments (text ++ "/") = segments text := by
  simpa using segments_append_slash text ""

/-- Two slashes side by side are like one. -/
theorem segments_append_slashes (first second : String) :
    segments (first ++ "//" ++ second) = segments (first ++ "/" ++ second) := by
  have slashes : "//" = "/" ++ "/" := rfl
  rw [slashes, ← String.append_assoc, segments_append_slash, segments_append_slash_end,
    segments_append_slash]

/-- The pieces of a text that is written from segments are the segments. -/
theorem splitOn_intercalate_segments {parts : List String} (proper : ∀ part ∈ parts, IsSegment part)
    (nonempty : parts ≠ []) :
    (String.intercalate "/" parts).toList.splitOn '/' = parts.map String.toList := by
  rw [String.toList_intercalate]
  apply List.splitOn_intercalate
  · intro piece member
    obtain ⟨part, present, rfl⟩ := List.mem_map.mp member
    exact (proper part present).2
  · simpa using nonempty

end Text

namespace UrlPath

open Text

/-- The segments of a written path are those it was written from. -/
theorem segments_ofSegments {parts : List String} (proper : ∀ part ∈ parts, IsSegment part) :
    segments (ofSegments parts) = parts := by
  have first : (ofSegments parts).toList.splitOn '/' =
      [] :: (String.intercalate "/" parts).toList.splitOn '/' := by
    rw [ofSegments, String.toList_append]
    exact List.splitOn_append_cons_self [] _
  rw [segments, first]
  by_cases empty : parts = []
  · subst empty
    rfl
  · rw [splitOn_intercalate_segments proper empty, List.filter_cons_of_neg (by simp),
      List.filter_eq_self.mpr, List.map_map]
    · simp [Function.comp_def]
    · intro piece member
      obtain ⟨part, present, rfl⟩ := List.mem_map.mp member
      simpa using (proper part present).1

/-- A written path is written from one list of segments only. -/
theorem ofSegments_inj {parts others : List String} (proper : ∀ part ∈ parts, IsSegment part)
    (otherProper : ∀ part ∈ others, IsSegment part) :
    ofSegments parts = ofSegments others ↔ parts = others := by
  constructor
  · intro same
    rw [← segments_ofSegments proper, same, segments_ofSegments otherProper]
  · exact congrArg ofSegments

/-- A path at the root is its segments, written. -/
theorem join_slash (path : String) : join "/" path = ofSegments (segments path) :=
  rfl

/-- Joining paths concatenates their segments. -/
@[simp]
theorem segments_join (mount path : String) :
    segments (join mount path) = segments mount ++ segments path := by
  apply segments_ofSegments
  intro part member
  rcases List.mem_append.mp member with member | member
  · exact isSegment_of_mem_segments member
  · exact isSegment_of_mem_segments member

/-- The normal form of a path: a single slash, or a slash before each of the
pieces and none of them empty. -/
def IsNormal (path : String) : Prop :=
  path = "/" ∨ ∃ rest, path = "/" ++ rest ∧ "" ∉ pieces '/' rest

/-- A path that is written from segments is in normal form. -/
theorem isNormal_ofSegments {parts : List String} (proper : ∀ part ∈ parts, IsSegment part) :
    IsNormal (ofSegments parts) := by
  by_cases empty : parts = []
  · subst empty
    exact .inl rfl
  · refine .inr ⟨String.intercalate "/" parts, rfl, ?_⟩
    intro member
    rw [pieces, splitOn_intercalate_segments proper empty, List.map_map] at member
    obtain ⟨part, present, blank⟩ := List.mem_map.mp member
    exact (proper part present).1 (by simpa using blank)

/-- Joined paths are in normal form. -/
theorem isNormal_join (mount path : String) : IsNormal (join mount path) := by
  apply isNormal_ofSegments
  intro part member
  rcases List.mem_append.mp member with member | member
  · exact isSegment_of_mem_segments member
  · exact isSegment_of_mem_segments member

/-- A path in normal form is what is written from its segments. -/
theorem ofSegments_segments {path : String} (normal : IsNormal path) :
    ofSegments (segments path) = path := by
  rcases normal with rfl | ⟨rest, rfl, filled⟩
  · rfl
  · have kept : (rest.toList.splitOn '/').filter (· ≠ []) = rest.toList.splitOn '/' := by
      apply List.filter_eq_self.mpr
      intro piece member
      rw [decide_eq_true_iff]
      rintro rfl
      exact filled (List.mem_map.mpr ⟨[], member, rfl⟩)
    apply String.toList_inj.mp
    rw [segments_slash_append, ofSegments, segments, kept, String.toList_append,
      String.toList_intercalate, String.toList_append, List.map_map]
    congr 1
    simp [Function.comp_def, List.intercalate_splitOn]

/-- The normal forms are the paths that the root leaves as they are. -/
theorem isNormal_iff_join_slash (path : String) : IsNormal path ↔ join "/" path = path := by
  rw [join_slash]
  constructor
  · exact ofSegments_segments
  · intro same
    rw [← same]
    exact isNormal_ofSegments fun _ => isSegment_of_mem_segments

/-- Joined paths depend on the segments of their parts only. -/
theorem join_congr {mount other path otherPath : String}
    (same : segments mount ++ segments path = segments other ++ segments otherPath) :
    join mount path = join other otherPath :=
  congrArg ofSegments same

theorem join_assoc (outer middle inner : String) :
    join (join outer middle) inner = join outer (join middle inner) := by
  apply join_congr
  rw [segments_join, segments_join, List.append_assoc]

end UrlPath

end RoutePlan
