import Mathlib.Data.List.Infix
import RoutePlan.Proofs.UrlPath
import RoutePlan.Registry
import RoutePlan.Trail

/-!
# Where file paths lead

The location of a path keeps the names of its trail, but of the levels up only whether they are
odd or even.  So a location names the place of its path when the path is absolute or goes up at
most one level, and in no other case.

The location of a path, written as a path, has itself as its location, and the location of a
path below a directory depends on the location of the directory only.
-/

namespace RoutePlan

/-- A segment that stands for a file or directory of its own. -/
def IsPlain (name : String) : Prop :=
  Text.IsSegment name ∧ name ≠ "." ∧ name ≠ ".."

/-! ## Trails -/

namespace Trail

variable {trail : Trail} {name : String} {names start : List String}

theorem extend_of_plain (plain : IsPlain name) :
    trail.extend name = ⟨trail.up, trail.down ++ [name]⟩ := by
  rw [extend, if_neg plain.2.1, if_neg plain.2.2]

/-! ### One component -/

/-- A trail goes down by names that stand for themselves. -/
theorem extend_plain (plain : ∀ held ∈ trail.down, IsPlain held) (segment : Text.IsSegment name) :
    ∀ held ∈ (trail.extend name).down, IsPlain held := by
  unfold extend
  split_ifs with here parent bottom
  · exact plain
  · exact List.forall_mem_nil _
  · exact fun held member => plain held (List.mem_of_mem_dropLast member)
  · exact List.forall_mem_append.2
      ⟨plain, List.forall_mem_singleton.2 ⟨segment, here, parent⟩⟩

/-- Only `..` leads further up. -/
theorem up_extend_le (trail : Trail) (name : String) :
    (trail.extend name).up ≤ trail.up + if name = ".." then 1 else 0 := by
  unfold extend
  split_ifs <;> simp

/-! ### All components -/

theorem foldl_extend_plain (plain : ∀ held ∈ trail.down, IsPlain held)
    (segments : ∀ name ∈ names, Text.IsSegment name) :
    ∀ held ∈ (names.foldl extend trail).down, IsPlain held := by
  induction names generalizing trail with
  | nil => exact plain
  | cons name names ih =>
      obtain ⟨first, rest⟩ := List.forall_mem_cons.1 segments
      exact ih (extend_plain plain first) rest

theorem up_foldl_extend_le (trail : Trail) (names : List String) :
    (names.foldl extend trail).up ≤ trail.up + names.count ".." := by
  induction names generalizing trail with
  | nil => exact le_rfl
  | cons name names ih =>
      have first := up_extend_le trail name
      have rest := ih (trail.extend name)
      rw [List.foldl_cons, List.count_cons]
      simp only [beq_iff_eq]
      omega

/-- Names that stand for themselves lead down. -/
theorem foldl_extend_of_plain (plain : ∀ name ∈ names, IsPlain name) :
    names.foldl extend trail = ⟨trail.up, trail.down ++ names⟩ := by
  induction names generalizing trail with
  | nil => rw [List.append_nil, List.foldl_nil]
  | cons name names ih =>
      obtain ⟨first, rest⟩ := List.forall_mem_cons.1 plain
      rw [List.foldl_cons, extend_of_plain first, ih rest, List.append_assoc,
        List.singleton_append]

/-- What is kept of a trail leads the same way down, and up if the trail does so by an odd
number of levels. -/
theorem foldl_extend_kept (plain : ∀ name ∈ trail.down, IsPlain name) :
    trail.kept.foldl extend stay = ⟨trail.up % 2, trail.down⟩ := by
  have front : (List.replicate (trail.up % 2) "..").foldl extend stay = ⟨trail.up % 2, []⟩ := by
    rcases Nat.mod_two_eq_zero_or_one trail.up with even | odd
    · rw [even]
      rfl
    · rw [odd]
      rfl
  rw [kept, List.foldl_append, front, foldl_extend_of_plain plain, List.nil_append]

/-- The same is kept of trails that go down alike and up by numbers of the same parity. -/
theorem kept_eq_kept_iff {other : Trail} (plain : ∀ name ∈ trail.down, IsPlain name)
    (otherPlain : ∀ name ∈ other.down, IsPlain name) :
    trail.kept = other.kept ↔ trail.down = other.down ∧ trail.up % 2 = other.up % 2 := by
  constructor
  · intro same
    have folded := foldl_extend_kept plain
    rw [same, foldl_extend_kept otherPlain] at folded
    injection folded with up down
    exact ⟨down.symm, up.symm⟩
  · rintro ⟨down, up⟩
    rw [kept, kept, down, up]

/-- Among directories that are deep enough, the place of a trail tells how far up it goes. -/
theorem place_eq_place_iff {up other : ℕ} {down : List String} (deep : up ≤ start.length)
    (otherDeep : other ≤ start.length) :
    place ⟨up, down⟩ start = place ⟨other, down⟩ start ↔ up = other := by
  constructor
  · intro same
    have lengths := congrArg List.length same
    simp only [place, List.length_append, List.length_take] at lengths
    omega
  · rintro rfl
    rfl

end Trail

namespace FilePath

variable (path base child : String) (start : List String)

theorem trail_plain : ∀ name ∈ (trail path).down, IsPlain name :=
  Trail.foldl_extend_plain (List.forall_mem_nil _) fun _ => Text.isSegment_of_mem_segments

theorem up_trail_le : (trail path).up ≤ (Text.segments path).count ".." := by
  have bound := Trail.up_foldl_extend_le .stay (Text.segments path)
  rwa [Trail.stay, Nat.zero_add] at bound

/-! ## Locations as paths -/

theorem isSegment_of_mem_kept :
    ∀ name ∈ (trail path).kept, Text.IsSegment name := by
  refine List.forall_mem_append.2 ⟨fun name member => ?_, fun name member => ?_⟩
  · rw [List.eq_of_mem_replicate member]
    decide
  · exact (trail_plain path name member).1

theorem segments_display : Text.segments (normalize path).display = (trail path).kept := by
  have written : Text.segments (String.intercalate "/" (trail path).kept) = (trail path).kept := by
    rw [← Text.segments_slash_append]
    exact UrlPath.segments_ofSegments (isSegment_of_mem_kept path)
  rw [normalize_eq, Location.display]
  cases isAbsolute path with
  | true => rw [if_pos rfl, Text.segments_slash_append, written]
  | false => rw [if_neg Bool.false_ne_true, String.empty_append, written]

theorem isAbsolute_slash_append (text : String) : isAbsolute ("/" ++ text) = true := by
  rw [isAbsolute, String.toList_append]
  rfl

/-- Only an empty text leaves the beginning to what is written behind it. -/
theorem isAbsolute_append {text : String} (filled : text ≠ "") (rest : String) :
    isAbsolute (text ++ rest) = isAbsolute text := by
  have nonempty : text.toList ≠ [] := by simpa using filled
  rw [isAbsolute, String.toList_append, List.head?_append_of_ne_nil _ nonempty, isAbsolute]

/-- Segments with slashes between them do not begin with a slash. -/
theorem isAbsolute_intercalate {names : List String}
    (segments : ∀ name ∈ names, Text.IsSegment name) :
    isAbsolute (String.intercalate "/" names) = false := by
  cases names with
  | nil => rfl
  | cons name names =>
      obtain ⟨filled, apart⟩ := segments name List.mem_cons_self
      have relative : isAbsolute name = false := by
        rw [isAbsolute, beq_eq_false_iff_ne]
        exact fun slash => apart (List.mem_of_mem_head? slash)
      cases names with
      | nil => rwa [String.intercalate_singleton]
      | cons second names =>
          rw [String.intercalate_cons_cons, String.append_assoc, isAbsolute_append filled, relative]

theorem isAbsolute_display : isAbsolute (normalize path).display = isAbsolute path := by
  rw [normalize_eq, Location.display]
  cases isAbsolute path with
  | true => rw [if_pos rfl, isAbsolute_slash_append]
  | false =>
      rw [if_neg Bool.false_ne_true, String.empty_append]
      exact isAbsolute_intercalate (isSegment_of_mem_kept path)

/-- The trail of a location. -/
theorem trail_display :
    trail (normalize path).display = ⟨(trail path).up % 2, (trail path).down⟩ := by
  rw [trail, segments_display, Trail.foldl_extend_kept (trail_plain path)]

/-- Normalization is idempotent. -/
theorem normalize_display : normalize (normalize path).display = normalize path := by
  rw [normalize_eq, isAbsolute_display, trail_display, normalize_eq, Trail.kept, Trail.kept,
    Nat.mod_mod]

/-! ## Places of locations -/

/-- An absolute path leads to the place of its location. -/
theorem place_display_of_isAbsolute (absolute : isAbsolute path = true) :
    place start (normalize path).display = place start path := by
  rw [place_eq, place_eq, trail_display, origin, origin, isAbsolute_display, if_pos absolute]
  -- nothing is above the root, however far up a trail goes
  simp [Trail.place]

/-- A relative path leads to the place of its location when it goes up one level at most. -/
theorem place_display_iff (relative : isAbsolute path = false)
    (deep : (Text.segments path).count ".." ≤ start.length) :
    place start (normalize path).display = place start path ↔ (trail path).up ≤ 1 := by
  have upDeep : (trail path).up ≤ start.length := (up_trail_le path).trans deep
  have restDeep : (trail path).up % 2 ≤ start.length := (Nat.mod_le _ _).trans upDeep
  have fromStart : origin start path = start ∧ origin start (normalize path).display = start := by
    simp [origin, isAbsolute_display, relative]
  rw [place_eq, place_eq, trail_display, fromStart.1, fromStart.2,
    Trail.place_eq_place_iff restDeep upDeep]
  omega

/-- Paths have one location exactly when they begin alike, go down alike and go up by numbers
of levels of the same parity. -/
theorem normalize_eq_normalize_iff (path other : String) :
    normalize path = normalize other ↔
      isAbsolute path = isAbsolute other ∧ (trail path).down = (trail other).down ∧
        (trail path).up % 2 = (trail other).up % 2 := by
  rw [normalize_eq, normalize_eq, Location.mk.injEq,
    Trail.kept_eq_kept_iff (trail_plain path) (trail_plain other)]

/-- A path leads to the place of its trail.  Seen from a directory that is deep enough, its
location leads to the same place when the path is absolute or its trail goes up one level at
most, and to another one when it goes up further: two levels up are taken for none.  So paths
are identified with others that go up by another number of levels of the same parity. -/
theorem location_keeps_place_iff (path other : String) (start : List String)
    (deep : (Text.segments path).count ".." ≤ start.length) :
    place start path = (trail path).place (origin start path) ∧
    (place start (normalize path).display = place start path ↔
      isAbsolute path = true ∨ (trail path).up ≤ 1) ∧
    (normalize path = normalize other ↔
      isAbsolute path = isAbsolute other ∧ (trail path).down = (trail other).down ∧
        (trail path).up % 2 = (trail other).up % 2) := by
  refine ⟨place_eq path start, ?_, normalize_eq_normalize_iff path other⟩
  cases absolute : isAbsolute path with
  | true => exact iff_of_true (place_display_of_isAbsolute path start absolute) (.inl rfl)
  | false =>
      rw [place_display_iff path start absolute deep]
      exact (or_iff_right Bool.false_ne_true).symm

/-- One level up is kept, also behind names that are taken back. -/
theorem one_level_up_is_kept :
    (Text.segments "app/../../shared/.").count ".." ≤ ["srv", "www"].length ∧
      place ["srv", "www"] "app/../../shared/." = ["srv", "shared"] ∧
      place ["srv", "www"] (normalize "app/../../shared/.").display =
        place ["srv", "www"] "app/../../shared/." ∧
      normalize "app/../../shared/." = normalize "../shared" := by
  have deep : (Text.segments "app/../../shared/.").count ".." ≤ ["srv", "www"].length := by decide
  obtain ⟨_, kept, identified⟩ :=
    location_keeps_place_iff "app/../../shared/." "../shared" ["srv", "www"] deep
  exact ⟨deep, by decide, kept.2 (.inr (by decide)), identified.2 (by decide)⟩

/-- Two levels up are lost: the location leads to another place, and what is registered two
levels up is found here. -/
theorem two_levels_up_are_lost :
    (Text.segments "../../x").count ".." ≤ ["srv", "www"].length ∧
      place ["srv", "www"] "../../x" = ["x"] ∧
      place ["srv", "www"] (normalize "../../x").display = ["srv", "www", "x"] ∧
      ((Registry.empty.register "../../x" none "far").register "x" none "near").size = 1 ∧
      ((Registry.empty.register "../../x" none "far").register "x" none "near").lookup?
        "../../x" "" = some "near" := by
  decide

/-! ## Paths below a directory -/

variable {path base child}

/-- A path that ends with a slash is one of the same segments before it. -/
theorem exists_eq_append_slash (slash : base.toList.getLast? = some '/') :
    ∃ front, base = front ++ "/" := by
  obtain ⟨front, split⟩ := List.getLast?_eq_some_iff.1 slash
  refine ⟨String.ofList front, String.toList_inj.1 ?_⟩
  rw [String.toList_append, String.toList_ofList, split]
  rfl

theorem segments_join (relative : isAbsolute child = false) :
    Text.segments (join base child) = Text.segments base ++ Text.segments child := by
  rw [join, if_neg (by simp [relative])]
  split_ifs with closed
  · rcases closed with rfl | slash
    · rw [String.empty_append, Text.segments_empty, List.nil_append]
    · obtain ⟨front, rfl⟩ := exists_eq_append_slash slash
      rw [Text.segments_append_slash, Text.segments_append_slash_end]
  · exact Text.segments_append_slash base child

theorem isAbsolute_join (relative : isAbsolute child = false) :
    isAbsolute (join base child) = isAbsolute base := by
  rw [join, if_neg (by simp [relative])]
  by_cases empty : base = ""
  · rw [if_pos (.inl empty), empty, String.empty_append, relative]
    rfl
  · split_ifs
    · exact isAbsolute_append empty child
    · rw [String.append_assoc, isAbsolute_append empty]

/-- The location of a path below a directory is walked to from that of the directory. -/
theorem normalize_join (relative : isAbsolute child = false) :
    normalize (join base child) =
      ⟨(normalize base).absolute,
        (Text.segments child).foldl walk (normalize base).components⟩ := by
  rw [normalize, isAbsolute_join relative, segments_join relative, List.foldl_append, normalize]

/-- An absolute path leads to the same location from every directory. -/
theorem join_of_isAbsolute (absolute : isAbsolute child = true) : join base child = child :=
  if_pos absolute

/-- Directories at the same location have the same paths below them. -/
theorem normalize_join_congr {other : String} (same : normalize base = normalize other)
    (child : String) : normalize (join base child) = normalize (join other child) := by
  cases absolute : isAbsolute child with
  | true => rw [join_of_isAbsolute absolute, join_of_isAbsolute absolute]
  | false => rw [normalize_join absolute, normalize_join absolute, same]

end FilePath

end RoutePlan
