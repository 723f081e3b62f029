import RoutePlan.Entries
import RoutePlan.UrlPath

/-!
# Path patterns

A pattern is a list of literal segments and parameters.  It is matched against
the segments of a request path, exactly for a route and as a leading run for a
mount, and binds each parameter to the segment that stands at its place.  A
parameter that occurs twice keeps its first position and its last segment.
-/

namespace RoutePlan

/-- A segment of a pattern. -/
inductive PatternSegment where
  | literal (text : String)
  | parameter (name : String)
deriving DecidableEq

namespace PatternSegment

/-- A segment with a colon before a name is a parameter, any other a literal. -/
def ofText (text : String) : PatternSegment :=
  match text.toList with
  | ':' :: c :: rest => .parameter (String.ofList (c :: rest))
  | _ => .literal text

/-- The segment as it is written. -/
def display : PatternSegment → String
  | literal text => text
  | parameter name => ":" ++ name

end PatternSegment

/-- A path pattern. -/
structure PathPattern where
  segments : List PatternSegment
deriving DecidableEq

namespace PathPattern

/-- Parse a pattern; every text is one. -/
def parse (path : String) : PathPattern :=
  ⟨(Text.segments path).map PatternSegment.ofText⟩

/-- The pattern in normal form. -/
def display (pattern : PathPattern) : String :=
  UrlPath.ofSegments (pattern.segments.map PatternSegment.display)

/-- Bind segments to path segments, one by one. -/
def capture (bound : Entries String String) :
    List PatternSegment → List String → Option (Entries String String)
  | .literal text :: segments, part :: parts =>
      if text = part then capture bound segments parts else none
  | .parameter name :: segments, part :: parts =>
      capture (Entries.insert name part bound) segments parts
  | _, _ => some bound

/-- Match the whole path. -/
def matchExact (pattern : PathPattern) (path : String) : Option (Entries String String) :=
  let parts := Text.segments path
  if parts.length = pattern.segments.length then capture [] pattern.segments parts else none

/-- Match a leading run of segments. -/
def matchLeading (pattern : PathPattern) (path : String) : Option (Entries String String) :=
  let parts := Text.segments path
  if parts.length < pattern.segments.length then none else capture [] pattern.segments parts

end PathPattern

end RoutePlan
