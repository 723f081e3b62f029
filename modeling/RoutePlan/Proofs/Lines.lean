import RoutePlan.Text.Blank
import RoutePlan.Text.Lines
import RoutePlan.Text.Segments

/-!
# Lines of texts

The pieces of a text between its line feeds.  Joining texts by line feeds puts their pieces
one after the other, and as long as every piece is a line that shows something, these are
the lines that indentation sees: it puts two spaces before each of them and changes nothing
else.
-/

namespace RoutePlan.Text

/-- A text without line breaks, LF or CR. -/
def IsUnbroken (text : String) : Prop :=
  '\n' ∉ text.toList ∧ '\r' ∉ text.toList

instance (text : String) : Decidable (IsUnbroken text) :=
  inferInstanceAs (Decidable (_ ∧ _))

/-- A text without line breaks that is not blank. -/
structure IsLine (text : String) : Prop where
  unbroken : IsUnbroken text
  shows : isBlankText text = false

/-- Two spaces for each level. -/
def indentation (depth : Nat) : String :=
  String.ofList (List.replicate (2 * depth) ' ')

@[simp]
theorem isUnbroken_append_iff {first second : String} :
    IsUnbroken (first ++ second) ↔ IsUnbroken first ∧ IsUnbroken second := by
  simp only [IsUnbroken, String.toList_append, List.mem_append, not_or]
  exact and_and_and_comm

theorem isUnbroken_intercalate {separator : String} {parts : List String}
    (between : IsUnbroken separator) (each : ∀ part ∈ parts, IsUnbroken part) :
    IsUnbroken (String.intercalate separator parts) := by
  induction parts with
  | nil =>
      rw [String.intercalate_nil]
      decide
  | cons part rest ih =>
      obtain ⟨first, others⟩ := List.forall_mem_cons.1 each
      by_cases last : rest = []
      · rwa [last, String.intercalate_singleton]
      · rw [String.intercalate_cons_of_ne_nil last]
        simp only [isUnbroken_append_iff]
        exact ⟨⟨first, between⟩, ih others⟩

@[simp]
theorem isBlankText_append (first second : String) :
    isBlankText (first ++ second) = (isBlankText first && isBlankText second) := by
  simp [isBlankText]

/-! ## Pieces -/

theorem pieces_of_not_mem {separator : Char} {text : String} (apart : separator ∉ text.toList) :
    pieces separator text = [text] := by
  have whole : ([separator].intercalate [text.toList]).splitOn separator = [text.toList] :=
    List.splitOn_intercalate separator (by simpa using apart) (List.cons_ne_nil _ _)
  rw [List.intercalate_singleton] at whole
  rw [pieces, whole, List.map_singleton, String.ofList_toList]

/-- A line feed between two texts separates their pieces. -/
theorem pieces_append_line (first second : String) :
    pieces '\n' (first ++ "\n" ++ second) = pieces '\n' first ++ pieces '\n' second := by
  have split : (first ++ "\n" ++ second).toList.splitOn '\n' =
      first.toList.splitOn '\n' ++ second.toList.splitOn '\n' := by
    rw [String.toList_append, String.toList_append, List.append_assoc]
    exact List.splitOn_append_cons_self _ _
  rw [pieces, split, List.map_append]
  rfl

/-- Texts that are joined by line feeds keep their pieces. -/
theorem pieces_intercalate {parts : List String} (filled : parts ≠ []) :
    pieces '\n' (String.intercalate "\n" parts) = parts.flatMap (pieces '\n') := by
  induction parts with
  | nil => exact absurd rfl filled
  | cons part rest ih =>
      by_cases last : rest = []
      · rw [last, String.intercalate_singleton, List.flatMap_singleton]
      · rw [String.intercalate_cons_of_ne_nil last, pieces_append_line, ih last,
          List.flatMap_cons]

/-- A text without line breaks is its only piece. -/
theorem flatMap_pieces_of_isUnbroken {parts : List String}
    (unbroken : ∀ part ∈ parts, IsUnbroken part) : parts.flatMap (pieces '\n') = parts := by
  induction parts with
  | nil => rfl
  | cons part rest ih =>
      obtain ⟨first, others⟩ := List.forall_mem_cons.1 unbroken
      rw [List.flatMap_cons, pieces_of_not_mem first.1, ih others, List.singleton_append]

theorem intercalate_pieces (text : String) :
    String.intercalate "\n" (pieces '\n' text) = text := by
  rw [← String.toList_inj, String.toList_intercalate, pieces, List.map_map]
  simp [Function.comp_def, List.intercalate_splitOn]

/-! ## Lines and indentation -/

/-- Characters other than line feeds belong to the current line. -/
theorem linesFrom_append {line : List Char} (whole : '\n' ∉ line) (current rest : List Char) :
    linesFrom current (line ++ rest) = linesFrom (current ++ line) rest := by
  induction line generalizing current with
  | nil => rw [List.nil_append, List.append_nil]
  | cons c line ih =>
      have others : '\n' ∉ line := fun member => whole (List.mem_cons_of_mem c member)
      rw [List.cons_append, linesFrom, ih others, List.append_assoc, List.singleton_append]
      rintro rfl
      exact whole List.mem_cons_self

theorem dropReturn_of_not_mem {line : List Char} (apart : '\r' ∉ line) :
    dropReturn line = line := by
  rw [dropReturn, if_neg]
  exact fun last => apart (List.mem_of_getLast? last)

theorem IsLine.ne_empty {line : String} (proper : IsLine line) : line.toList ≠ [] := by
  intro none
  have shows := proper.shows
  rw [isBlankText, none] at shows
  cases shows

/-- Lines that are joined by line feeds are read back. -/
theorem lines_intercalate {parts : List String} (proper : ∀ part ∈ parts, IsLine part) :
    lines (String.intercalate "\n" parts) = parts := by
  induction parts with
  | nil => rfl
  | cons part rest ih =>
      obtain ⟨first, others⟩ := List.forall_mem_cons.1 proper
      obtain ⟨whole, apart⟩ := first.unbroken
      by_cases last : rest = []
      · have read : linesFrom [] part.toList = [part.toList] := by
          simpa [linesFrom, first.ne_empty] using linesFrom_append whole [] []
        rw [last, String.intercalate_singleton, lines, read, List.map_singleton,
          String.ofList_toList]
      · have feed : (part ++ "\n" ++ String.intercalate "\n" rest).toList =
            part.toList ++ '\n' :: (String.intercalate "\n" rest).toList := by
          simp
        rw [String.intercalate_cons_of_ne_nil last, lines, feed, linesFrom_append whole,
          List.nil_append, linesFrom, dropReturn_of_not_mem apart, List.map_cons,
          String.ofList_toList, ← lines, ih others]

theorem lines_eq_pieces {text : String} (proper : ∀ piece ∈ pieces '\n' text, IsLine piece) :
    lines text = pieces '\n' text := by
  rw [← lines_intercalate proper, intercalate_pieces]

/-- A text whose pieces are lines does not end with a line feed. -/
theorem getLast?_ne_of_pieces {text : String} (proper : ∀ piece ∈ pieces '\n' text, IsLine piece) :
    text.toList.getLast? ≠ some '\n' := by
  intro last
  obtain ⟨front, split⟩ := List.getLast?_eq_some_iff.1 last
  have cut : text = String.ofList front ++ "\n" ++ "" := by
    rw [← String.toList_inj, split]
    simp
  have empty : "" ∈ pieces '\n' text := by
    rw [cut, pieces_append_line]
    exact List.mem_append_right _ List.mem_cons_self
  exact (proper "" empty).ne_empty rfl

/-- Indentation puts two spaces before each piece of a text, if all of them are lines. -/
theorem pieces_indent {text : String} (proper : ∀ piece ∈ pieces '\n' text, IsLine piece) :
    pieces '\n' (indent text) = (pieces '\n' text).map ("  " ++ ·) := by
  have filled : (pieces '\n' text).map ("  " ++ ·) ≠ [] := by
    simp [pieces, List.splitOn_ne_nil]
  rw [indent, lines_eq_pieces proper, pieces_intercalate filled, flatMap_pieces_of_isUnbroken]
  refine List.forall_mem_map.2 fun piece member => ?_
  exact isUnbroken_append_iff.2 ⟨by decide, (proper piece member).unbroken⟩

theorem indentation_succ (depth : Nat) : indentation (depth + 1) = indentation depth ++ "  " := by
  have spaces : "  " = String.ofList (List.replicate 2 ' ') := rfl
  rw [indentation, indentation, spaces, ← String.ofList_append, List.replicate_append_replicate,
    Nat.mul_succ]

/-- Spaces before a text do not decide whether it is a line. -/
theorem isLine_indentation_append_iff {depth : Nat} {text : String} :
    IsLine (indentation depth ++ text) ↔ IsLine text := by
  have unbroken : IsUnbroken (indentation depth) := by
    simp [IsUnbroken, indentation, List.mem_replicate]
  have blank : isBlankText (indentation depth) = true := by
    simp [isBlankText, indentation, isBlank]
  constructor
  · rintro ⟨whole, shows⟩
    exact ⟨(isUnbroken_append_iff.1 whole).2, by simpa [blank] using shows⟩
  · rintro ⟨whole, shows⟩
    exact ⟨isUnbroken_append_iff.2 ⟨unbroken, whole⟩, by simpa [blank] using shows⟩

end RoutePlan.Text
