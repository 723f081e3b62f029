/-!
# Header fields

Header fields by name, a line for each value.  Names are kept in lower case, so that their
case does not count.  A name may stand on several lines: its values have the order of these
lines, while lines of different names have none among themselves.
-/

namespace RoutePlan

/-- Header fields: lines with a lower-case name and a value. -/
abbrev Headers := List (String × String)

namespace Headers

/-- A name in lower case. -/
def canonical (name : String) : String :=
  String.ofList (name.toList.map Char.toLower)

/-- The values of a field, in order. -/
def values (name : String) (headers : Headers) : List String :=
  (headers.filter fun line => line.1 == canonical name).map Prod.snd

/-- The first value of a field. -/
def value? (name : String) (headers : Headers) : Option String :=
  (headers.values name).head?

/-- The fields other than one. -/
def without (name : String) (headers : Headers) : Headers :=
  headers.filter fun line => line.1 != canonical name

/-- Set a field, replacing all values that it had. -/
def set (name value : String) (headers : Headers) : Headers :=
  headers.without name ++ [(canonical name, value)]

/-- Set a field that has no value. -/
def setIfAbsent (name value : String) (headers : Headers) : Headers :=
  if headers.values name = [] then headers.set name value else headers

/-- Take over the fields of another list.  Each of them replaces all values that it had by
all values that it has there. -/
def extend (headers added : Headers) : Headers :=
  (headers.filter fun line => !added.any fun other => other.1 == line.1) ++ added

/-- The lines sorted by name. -/
def sorted (headers : Headers) : Headers :=
  headers.mergeSort fun left right => decide (left.1 ≤ right.1)

/-- The field that identifies a request. -/
def requestId : String := "x-request-id"

/-- The field with the length of a body. -/
def contentLength : String := "content-length"

/-! ## Values -/

theorem values_append (name : String) (headers others : Headers) :
    (headers ++ others : Headers).values name = headers.values name ++ others.values name := by
  simp [values]

/-- The values that are kept when names are. -/
theorem values_filter (name : String) (keep : String → Bool) (headers : Headers) :
    values name (headers.filter fun line => keep line.1) =
      if keep (canonical name) then headers.values name else [] := by
  unfold values
  rw [List.filter_filter]
  have alike (line : String × String) :
      (line.1 == canonical name && keep line.1) =
        (line.1 == canonical name && keep (canonical name)) := by
    cases same : line.1 == canonical name with
    | false => rfl
    | true => rw [eq_of_beq same]
  simp only [alike]
  cases keep (canonical name) <;> simp

/-- A field that is set has the value alone, and others have theirs. -/
theorem values_set (name other value : String) (headers : Headers) :
    (headers.set name value).values other =
      if canonical other = canonical name then [value] else headers.values other := by
  rw [set, values_append, without, values_filter other (· != canonical name)]
  by_cases same : canonical other = canonical name
  · simp [values, same]
  · simp [values, same, Ne.symm same]

theorem values_setIfAbsent (name other value : String) (headers : Headers) :
    (headers.setIfAbsent name value).values other =
      if canonical other = canonical name ∧ headers.values name = [] then [value]
      else headers.values other := by
  unfold setIfAbsent
  by_cases absent : headers.values name = []
  · simp [absent, values_set]
  · simp [absent]

theorem any_eq_false_iff (name : String) (headers : Headers) :
    (headers.any fun line => line.1 == canonical name) = false ↔ headers.values name = [] := by
  simp [values]

/-- A field of the other list has all its values there, and others have theirs. -/
theorem values_extend (name : String) (headers added : Headers) :
    (headers.extend added).values name =
      if added.values name = [] then headers.values name else added.values name := by
  rw [extend, values_append,
    values_filter name fun name => !added.any fun other => other.1 == name]
  by_cases absent : added.values name = []
  · have missing := (any_eq_false_iff name added).2 absent
    simp [missing, absent]
  · have present := mt (any_eq_false_iff name added).1 absent
    simp [present, absent]

end Headers

end RoutePlan
