import RoutePlan.PathPattern
import RoutePlan.Proofs.UrlPath

/-!
# Nested path patterns

A pattern is shown as it is written, and a match binds the segments of a pattern
from left to right.  A path that matches a pattern exactly is therefore under
every pattern whose segments the first one begins with, which is how the mounts
of a root cover the routes below it.
-/

namespace RoutePlan

namespace PatternSegment

@[simp]
theorem display_ofText (text : String) : (ofText text).display = text := by
  unfold ofText
  split
  · next c rest shape =>
      apply String.toList_inj.mp
      simp [display, shape]
  · rfl

end PatternSegment

namespace PathPattern

/-- A pattern is shown as the path that it was parsed from, in normal form. -/
theorem display_parse (path : String) :
    (parse path).display = UrlPath.ofSegments (Text.segments path) := by
  simp [display, parse, Function.comp_def]

/-- A joined path is shown as it is. -/
@[simp]
theorem display_parse_join (mount path : String) :
    (parse (UrlPath.join mount path)).display = UrlPath.join mount path := by
  rw [display_parse, UrlPath.segments_join, UrlPath.join]

/-- Binding a pattern in two parts: the second part goes on with what the first
has bound. -/
theorem capture_append (bound : Entries String String) (first second : List PatternSegment)
    (parts : List String) (enough : first.length ≤ parts.length) :
    capture bound (first ++ second) parts =
      (capture bound first parts).bind fun held =>
        capture held second (parts.drop first.length) := by
  induction first generalizing bound parts with
  | nil => simp [capture]
  | cons segment first ih =>
      cases parts with
      | nil => simp at enough
      | cons part parts =>
          have fewer : first.length ≤ parts.length := by simpa using enough
          cases segment with
          | literal text =>
              simp only [List.cons_append, capture, List.length_cons, List.drop_succ_cons]
              split
              · exact ih bound parts fewer
              · rfl
          | parameter name =>
              simp only [List.cons_append, capture, List.length_cons, List.drop_succ_cons]
              exact ih (Entries.insert name part bound) parts fewer

/-- A path that matches a pattern exactly is under every pattern with leading
segments of it. -/
theorem matchLeading_isSome_of_matchExact {outer inner path : String}
    (leading : Text.segments outer <+: Text.segments inner)
    (matched : ((parse inner).matchExact path).isSome) :
    ((parse outer).matchLeading path).isSome := by
  obtain ⟨rest, split_eq⟩ := leading
  have inner_eq : (parse inner).segments =
      (parse outer).segments ++ rest.map PatternSegment.ofText := by
    simp [parse, ← split_eq]
  simp only [matchExact] at matched
  split at matched
  · next same =>
      have enough : (parse outer).segments.length ≤ (Text.segments path).length := by
        rw [same, inner_eq, List.length_append]
        exact Nat.le_add_right _ _
      rw [inner_eq, capture_append _ _ _ _ enough] at matched
      unfold matchLeading
      rw [if_neg (Nat.not_lt.mpr enough)]
      exact Option.isSome_of_isSome_bind matched
  · simp at matched

end PathPattern

end RoutePlan
