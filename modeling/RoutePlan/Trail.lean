import RoutePlan.FilePath

/-!
# Trails

A path leads from a directory some levels up and then down by names; that is its trail.  The
place of the path is where its trail leads (`FilePath.place_eq`).  The location of the path
keeps the names, but of the levels up only whether they are odd or even, since a `..` that is
kept is taken back by the next one (`FilePath.normalize_eq`).
-/

namespace RoutePlan

/-- How a path leads from a directory: so many levels up, then down by names. -/
structure Trail where
  up : Nat
  down : List String

namespace Trail

/-- The trail that leads nowhere else. -/
def stay : Trail := ⟨0, []⟩

/-- The trail with one component more. -/
def extend (trail : Trail) (name : String) : Trail :=
  if name = "." then trail
  else if name = ".." then
    if trail.down = [] then ⟨trail.up + 1, []⟩ else ⟨trail.up, trail.down.dropLast⟩
  else ⟨trail.up, trail.down ++ [name]⟩

/-- The place that a trail leads to from a directory. -/
def place (trail : Trail) (start : List String) : List String :=
  start.take (start.length - trail.up) ++ trail.down

/-- The components that normalization keeps of a trail. -/
def kept (trail : Trail) : List String :=
  List.replicate (trail.up % 2) ".." ++ trail.down

/-! ### One component -/

/-- A trail leads where its components do. -/
theorem step_place (trail : Trail) (start : List String) (name : String) :
    FilePath.step (trail.place start) name = (trail.extend name).place start := by
  unfold FilePath.step extend
  by_cases here : name = "."
  · rw [if_pos here, if_pos here]
  by_cases parent : name = ".."
  · rw [if_neg here, if_neg here, if_pos parent, if_pos parent]
    by_cases bottom : trail.down = []
    · simp only [place, bottom, List.append_nil, if_true]
      rw [List.dropLast_eq_take, List.take_take, List.length_take]
      congr 1
      omega
    · rw [if_neg bottom, place, place, List.dropLast_append_of_ne_nil bottom]
  · rw [if_neg here, if_neg here, if_neg parent, if_neg parent, place, place, List.append_assoc]

/-- What normalization keeps of a trail is what it walks to. -/
theorem walk_kept (trail : Trail) (name : String) :
    FilePath.walk trail.kept name = (trail.extend name).kept := by
  obtain ⟨up, down⟩ := trail
  unfold FilePath.walk extend
  by_cases here : name = "."
  · rw [if_pos here, if_pos here]
  by_cases parent : name = ".."
  · rw [if_neg here, if_neg here, if_pos parent, if_pos parent]
    by_cases bottom : down = []
    · -- the `..` that an odd number of levels leaves is itself taken back
      subst bottom
      rcases Nat.mod_two_eq_zero_or_one up with even | odd
      · simp [kept, Nat.add_mod, even]
      · simp [kept, Nat.add_mod, odd]
    · have filled : (Trail.mk up down).kept ≠ [] := by simp [kept, bottom]
      rw [if_neg bottom, if_neg filled, kept, List.dropLast_append_of_ne_nil bottom, kept]
  · rw [if_neg here, if_neg here, if_neg parent, if_neg parent, kept, kept, List.append_assoc]

/-! ### All components -/

theorem foldl_step_place (trail : Trail) (start names : List String) :
    names.foldl FilePath.step (trail.place start) = (names.foldl extend trail).place start := by
  induction names generalizing trail with
  | nil => rfl
  | cons name names ih => rw [List.foldl_cons, step_place, ih, List.foldl_cons]

theorem foldl_walk_kept (trail : Trail) (names : List String) :
    names.foldl FilePath.walk trail.kept = (names.foldl extend trail).kept := by
  induction names generalizing trail with
  | nil => rfl
  | cons name names ih => rw [List.foldl_cons, walk_kept, ih, List.foldl_cons]

/-- A trail ends with the names by which it goes down. -/
theorem down_suffix_place (trail : Trail) (start : List String) :
    trail.down <:+ trail.place start :=
  List.suffix_append _ _

end Trail

namespace FilePath

/-- The trail of a path. -/
def trail (path : String) : Trail :=
  (Text.segments path).foldl Trail.extend .stay

/-- A path names the place that its trail leads to. -/
theorem place_eq (path : String) (start : List String) :
    place start path = (trail path).place (origin start path) := by
  have here : origin start path = Trail.stay.place (origin start path) := by
    simp [Trail.place, Trail.stay]
  rw [place, here, Trail.foldl_step_place, ← here, trail]

/-- The location of a path is what normalization keeps of its trail. -/
theorem normalize_eq (path : String) : normalize path = ⟨isAbsolute path, (trail path).kept⟩ := by
  have kept : (Text.segments path).foldl walk [] = (trail path).kept :=
    Trail.foldl_walk_kept .stay (Text.segments path)
  rw [normalize, kept]

end FilePath

end RoutePlan
