import RoutePlan.Text.Segments

/-!
# URL paths

A URL path is its segments.  `join` puts a path under a mount path and gives the
normal form: a slash before every segment and nowhere else, or a single slash.
-/

namespace RoutePlan.UrlPath

/-- The normal form of a list of segments. -/
def ofSegments (segments : List String) : String :=
  "/" ++ String.intercalate "/" segments

/-- The path under a mount path, in normal form. -/
def join (mount path : String) : String :=
  ofSegments (Text.segments mount ++ Text.segments path)

end RoutePlan.UrlPath
