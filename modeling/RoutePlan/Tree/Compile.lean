import RoutePlan.Tree.Method

/-!
# Elements from their configuration

The entries of a mapping are compiled in order; the first error stops all of it.
What an import stands for is left to a parameter, the importer: this file is the
recursion on the document, and imports add their own.
-/

namespace RoutePlan

/-- What an import entry compiles to, under inherited parameters. -/
abbrev Importer := List Parameter → Value → Checked Element

/-- A value under a key is smaller than its mapping. -/
theorem sizeOf_lookup_lt {key : String} {value : Value} {entries : List (String × Value)}
    (found : entries.lookup key = some value) : sizeOf value < sizeOf entries := by
  induction entries with
  | nil => simp at found
  | cons entry rest ih =>
      obtain ⟨present, held⟩ := entry
      rw [List.lookup_cons] at found
      split at found
      · cases found; simp; omega
      · have := ih found; simp; omega

namespace Root

/-- The keys that roots use. -/
def recognizedKeys : List String :=
  ["root", "params", "routes", "pre_middlewares", "post_middlewares"]

/-- A root with its shared fields. -/
def ofHead (name : String) (head : MountHead) : Root where
  name := name
  path := head.path
  params := head.params
  pre := head.pre
  post := head.post

end Root

namespace Element

mutual

/-- Compile an entry of a mapping of elements. -/
def compile (settings : RouteSettings) (importer : Importer) (inherited : List Parameter)
    (key : String) (value : Value) : Checked Element :=
  match classify key value with
  | .error error => .fail error
  | .ok .imports => importer inherited value
  | .ok .route => do return .route (← Route.compile settings inherited key value)
  | .ok .root =>
      match value with
      | .map config => do
          let head ← MountHead.compile ⟨.root, key⟩ "root" Root.recognizedKeys inherited config
          match _found : config.lookup "routes" with
          | none => .fail (.emptyRoutes key)
          | some .null => .fail (.emptyRoutes key)
          | some (.map []) => .fail (.emptyRoutes key)
          | some (.map (entry :: rest)) =>
              let children ← compileAll settings importer head.params (entry :: rest)
              return .root (Root.ofHead key head) children
          | some other => .reject (.fieldNotMapping ⟨.root, key⟩ "routes" other.kindName)
      | other => .reject (.nodeNotMapping ⟨.root, key⟩ other.kindName)
termination_by sizeOf value
decreasing_by
  have := sizeOf_lookup_lt _found
  simp_wf
  simp at this
  omega

/-- Compile the entries of a mapping, in declaration order. -/
def compileAll (settings : RouteSettings) (importer : Importer) (inherited : List Parameter)
    (entries : List (String × Value)) : Checked (List Element) :=
  match entries with
  | [] => pure []
  | (key, value) :: rest => do
      let element ← compile settings importer inherited key value
      let others ← compileAll settings importer inherited rest
      return element :: others
termination_by sizeOf entries

end

end Element

end RoutePlan
