/-!
# White space

The characters that the Unicode property `White_Space` names, and trimming by
it.  A text is blank when nothing is left of it after trimming.
-/

namespace RoutePlan.Text

/-- The Unicode property `White_Space`. -/
def isBlank (c : Char) : Bool :=
  let code := c.toNat
  (9 ≤ code && code ≤ 13) || code == 0x20 || code == 0x85 || code == 0xA0 || code == 0x1680
    || (0x2000 ≤ code && code ≤ 0x200A) || code == 0x2028 || code == 0x2029 || code == 0x202F
    || code == 0x205F || code == 0x3000

/-- Drop white space at both ends. -/
def trimChars (chars : List Char) : List Char :=
  ((chars.dropWhile isBlank).reverse.dropWhile isBlank).reverse

/-- Drop white space at both ends of a text. -/
def trim (text : String) : String :=
  String.ofList (trimChars text.toList)

/-- Nothing but white space. -/
def isBlankText (text : String) : Bool :=
  text.toList.all isBlank

@[simp]
theorem toList_trim (text : String) : (trim text).toList = trimChars text.toList := by
  simp [trim]

/-- A text is blank exactly when trimming leaves nothing. -/
theorem isBlankText_iff (text : String) : isBlankText text = true ↔ trim text = "" := by
  have dropAll (chars : List Char) : chars.dropWhile isBlank = [] ↔ ∀ c ∈ chars, isBlank c := by
    induction chars with
    | nil => simp
    | cons c rest ih => by_cases blank : isBlank c <;> simp [blank, ih]
  have mid : trim text = "" ↔ trimChars text.toList = [] := by
    rw [← String.toList_inj]; simp
  rw [mid, trimChars, List.reverse_eq_nil_iff, dropAll, isBlankText, List.all_eq_true]
  constructor
  · intro all c member
    exact all c (List.dropWhile_sublist _ |>.subset (List.mem_reverse.1 member))
  · intro all
    have none : text.toList.dropWhile isBlank = [] := by
      cases shape : text.toList.dropWhile isBlank with
      | nil => rfl
      | cons c rest =>
          have head : isBlank c = false := by
            have := List.head?_dropWhile_not isBlank text.toList
            simpa [shape] using this
          have := all c (by simp [shape])
          simp [head] at this
    exact (dropAll _).1 none

end RoutePlan.Text
