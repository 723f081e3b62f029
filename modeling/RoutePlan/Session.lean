import RoutePlan.Tree.Imports
import RoutePlan.Tree.Inspect
import RoutePlan.Tree.Load
import RoutePlan.Tree.Render

/-!
# Sessions

A session compiles documents and loads the compiled tree into its router.  A
document that compiles replaces the tree; one that does not leaves the session as
it was.  A compiled tree is loaded once: a load first registers the handler that
gives each request its bag of arguments, then the tree.  A load that fails keeps
what it registered, and may be tried again.
-/

namespace RoutePlan

/-- How far a session is. -/
inductive Phase where
  /-- Nothing is compiled. -/
  | blank
  /-- A tree is compiled and not loaded. -/
  | compiled
  /-- The tree is loaded. -/
  | loaded
deriving DecidableEq

/-- A compiler with its tree and its router. -/
structure Session where
  sources : Element.Sources
  modules : Modules
  forest : List Element
  phase : Phase
  router : Router
  /-- How many references to middlewares of the tree are resolved. -/
  resolved : Nat

namespace Session

/-- A session that has compiled nothing. -/
def start (sources : Element.Sources) (modules : Modules) : Session :=
  ⟨sources, modules, [], .blank, .empty, 0⟩

/-- A session after a step, the warnings of the step, and its error if it
failed. -/
structure After where
  session : Session
  warnings : List Warning
  error : Option PlanError

/-- Compile the entries of a document. -/
def compile (sources : Element.Sources) (document : Value) : Checked (List Element) := do
  let entries ← Checked.ofExcept (Document.entries document)
  if entries.isEmpty then .fail (.emptyRoutes "/")
  else Element.compileDocument sources [] [] entries

/-- Take over the outcome of a compilation. -/
def adopt (session : Session) (compilation : Checked (List Element)) : After :=
  match compilation.outcome with
  | .error error => ⟨session, compilation.warnings, some error⟩
  | .ok forest =>
      ⟨{ session with forest, phase := .compiled, resolved := 0 }, compilation.warnings, none⟩

/-- Compile a document. -/
def parseValue (session : Session) (document : Value) : After :=
  session.adopt (compile session.sources document)

/-- Compile the document that a text holds. -/
def parseText (session : Session) (text : String) : After :=
  session.adopt do compile session.sources (← Checked.ofExcept (Document.read text))

/-- The document that a file of the configuration directory holds. -/
def readDocument (sources : Element.Sources) (name : String) : Except PlanError Value :=
  let path := FilePath.join sources.settings.configDir name
  match sources.files.readText path with
  | .ok text => Document.read text
  | .error .notText => .error (.fileNotText path)
  | .error _ => .error (.fileNotFound path)

/-- Compile a file of the configuration directory. -/
def parseFile (session : Session) (name : String) : After :=
  session.adopt do compile session.sources (← Checked.ofExcept (readDocument session.sources name))

/-- The registrations of the compiled tree. -/
def registrations (session : Session) : List Registration :=
  Element.registrationsAll "/" session.forest

/-- Load the compiled tree. -/
def load (session : Session) : After :=
  match session.phase with
  | .blank => ⟨session, [], some (.invalid .nothingCompiled)⟩
  | .loaded => ⟨session, [], some (.invalid .alreadyLoaded)⟩
  | .compiled =>
      let loaded := RoutePlan.load session.modules session.sources.settings session.registrations
      let layers := session.router.layers ++ .mount "/" .initializer :: loaded.layers
      let phase :=
        match loaded.error with
        | none => Phase.loaded
        | some _ => Phase.compiled
      ⟨{ session with
          router := { session.router with layers }, phase, resolved := loaded.resolved },
        [], loaded.error⟩

/-- The routes of the compiled tree. -/
def routes (session : Session) : List ListedRoute :=
  Element.routes session.forest

/-- The compiled tree as text. -/
def render (session : Session) : String :=
  Element.renderAll session.forest

/-- The name of a phase. -/
def phaseName : Phase → String
  | .blank => "Empty"
  | .compiled => "Constructed"
  | .loaded => "Loaded"

/-- The session as one line that shows every field. -/
def inspect (session : Session) : String :=
  Inspect.record "Parser"
    [("router", Inspect.router session.router.layers.length session.router.bodyLimit),
      ("config", Inspect.settings session.sources.settings),
      ("elements", Inspect.list (Inspect.elements session.resolved 0 session.forest)),
      ("state", phaseName session.phase)] true

end Session

end RoutePlan
