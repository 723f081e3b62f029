import RoutePlan.Proofs.Tree.Hole

/-!
# Mappings that a node reads alike

A node looks up the keys of its kind and nothing else, but for the `root` that tells a root
from a route, and an optional field may be left out or spelled out.  Mappings in which it
finds the same have the same trace but for the warnings about their keys.
-/

namespace RoutePlan

/-- The keys that nodes of a kind use. -/
def NodeKind.recognizedKeys : NodeKind → List String
  | .root => Root.recognizedKeys
  | .route => Route.recognizedKeys
  | .method => Method.recognizedKeys
  | .parameter => Parameter.recognizedKeys
  | .imports => []

/-- The kind of node that a mapping configures. -/
inductive Role.Configures : Role → String → Entries String Value → NodeKind → Prop where
  | root {name config} (shape : Element.classify name (.map config) = .ok .root) :
      Configures .element name config .root
  | route {name config} (shape : Element.classify name (.map config) = .ok .route) :
      Configures .element name config .route
  | method {name config} : Configures .method name config .method
  | parameter {name config} : Configures .parameter name config .parameter

section Keys

variable {node : NodeName} {recognized : List String}

theorem unusedKeys_append (first second : Entries String Value) :
    unusedKeys node recognized (first ++ second) =
      unusedKeys node recognized first ++ unusedKeys node recognized second := by
  simp [unusedKeys, Entries.keys]

theorem unusedKeys_cons_of_not_mem {key : String} (unknown : key ∉ recognized) (value : Value)
    (rest : Entries String Value) :
    unusedKeys node recognized ((key, value) :: rest) =
      ⟨node, key⟩ :: unusedKeys node recognized rest := by
  simp [unusedKeys, Entries.keys, unknown]

theorem unusedKeys_cons_of_mem {key : String} (known : key ∈ recognized) (value : Value)
    (rest : Entries String Value) :
    unusedKeys node recognized ((key, value) :: rest) = unusedKeys node recognized rest := by
  simp [unusedKeys, Entries.keys, known]

end Keys

/-! ## Optional fields -/

/-- The fields that nodes of a kind may leave out. -/
def NodeKind.optionalKeys : NodeKind → List String
  | .root => ["params", "routes", "pre_middlewares", "post_middlewares"]
  | .route => ["params", "methods", "pre_middlewares", "post_middlewares"]
  | .method => ["response_code", "abstract", "body", "pre_middlewares", "post_middlewares"]
  | .parameter => []
  | .imports => []

theorem NodeKind.optionalKeys_subset (kind : NodeKind) :
    kind.optionalKeys ⊆ kind.recognizedKeys := by
  cases kind <;> decide

/-- What may be written for a field that is left out: null, or the default in full. -/
def NodeKind.SpellsOut (settings : RouteSettings) (kind : NodeKind) (field : String)
    (value : Value) : Prop :=
  field ∈ kind.optionalKeys ∧
    (value = .null ∨
      if field ∈ ["pre_middlewares", "post_middlewares"] then value = .list []
      else if field = "response_code" then
        ∃ n, value = .number n ∧ n.toNat?.filter (· < UInt16.size) = some settings.defaultStatus
      else if field = "abstract" then value = .bool true
      else value = .map [])

namespace NodeKind.SpellsOut

variable {settings : RouteSettings} {kind : NodeKind} {field : String} {value : Value}

theorem null_or_list (spelled : kind.SpellsOut settings field value)
    (listed : field ∈ ["pre_middlewares", "post_middlewares"]) :
    value = .null ∨ value = .list [] := by
  have written := spelled.2
  rwa [if_pos listed] at written

theorem null_or_map (spelled : kind.SpellsOut settings field value)
    (mapping : field ∈ ["params", "body", "routes", "methods"]) :
    value = .null ∨ value = .map [] := by
  have written := spelled.2
  simp only [List.mem_cons, List.not_mem_nil, or_false] at mapping
  rcases mapping with rfl | rfl | rfl | rfl <;> simpa using written

end NodeKind.SpellsOut

section Readers

variable {settings : RouteSettings} {kind : NodeKind} {field : String} {value : Value}

theorem readMiddlewares_of_spellsOut (spelled : kind.SpellsOut settings field value)
    (listed : field ∈ ["pre_middlewares", "post_middlewares"]) (node : NodeName)
    (name : String) :
    readMiddlewares node name (some value) = readMiddlewares node name none := by
  rcases spelled.null_or_list listed with rfl | rfl <;> rfl

theorem Parameter.traceAll_of_spellsOut (spelled : kind.SpellsOut settings field value)
    (mapping : field ∈ ["params", "body", "routes", "methods"]) (node : NodeName)
    (name : String) : traceAll node name (some value) = traceAll node name none := by
  rcases spelled.null_or_map mapping with rfl | rfl <;> rfl

/-- The default code as a number is the default. -/
theorem Method.readStatus_of_spellsOut
    (spelled : kind.SpellsOut settings "response_code" value) (verb : String) :
    readStatus settings verb (some value) = readStatus settings verb none := by
  obtain ⟨_, rfl | written⟩ := spelled
  · rfl
  · obtain ⟨n, rfl, code⟩ : ∃ n, value = .number n ∧
        n.toNat?.filter (· < UInt16.size) = some settings.defaultStatus := by
      simpa using written
    have declared : declaredCode settings verb (some (.number n)) =
        declaredCode settings verb none := by
      simp only [declaredCode, code]
    simp only [readStatus, declared]

theorem Method.readValidated_of_spellsOut (spelled : kind.SpellsOut settings "abstract" value) :
    readValidated (some value) = readValidated none := by
  obtain ⟨_, rfl | written⟩ := spelled
  · rfl
  · obtain rfl : value = .bool true := by simpa using written
    rfl

end Readers

/-! ## Mappings that a node reads alike -/

/-- For each key that nodes of the kind use the mappings have the same value, or the second
spells out what the first leaves out.  The second has no `root` that would make a route a
root. -/
structure NodeKind.Alike (settings : RouteSettings) (kind : NodeKind)
    (config other : Entries String Value) : Prop where
  lookup : ∀ key ∈ kind.recognizedKeys, other.lookup key = config.lookup key ∨
    config.lookup key = none ∧
      ∃ value, other.lookup key = some value ∧ kind.SpellsOut settings key value
  root : kind = .route → other.lookup "root" = config.lookup "root" ∨
    other.lookup "root" = some .null

namespace NodeKind.Alike

theorem refl (settings : RouteSettings) (kind : NodeKind) (config : Entries String Value) :
    kind.Alike settings config config :=
  ⟨fun _ _ => .inl rfl, fun _ => .inl rfl⟩

variable {settings : RouteSettings} {kind : NodeKind} {config other : Entries String Value}
  {key : String}

/-- What reads a default that is spelled out like one that is left out reads the mappings
alike. -/
theorem read_eq {α : Type} (alike : kind.Alike settings config other)
    (used : key ∈ kind.recognizedKeys) (read : Option Value → α)
    (default : ∀ value, kind.SpellsOut settings key value → read (some value) = read none) :
    read (other.lookup key) = read (config.lookup key) := by
  rcases alike.lookup key used with same | ⟨absent, value, found, spelled⟩
  · rw [same]
  · rw [absent, found, default value spelled]

/-- A field that may not be left out is the same. -/
theorem lookup_eq (alike : kind.Alike settings config other) (used : key ∈ kind.recognizedKeys)
    (required : key ∉ kind.optionalKeys) : other.lookup key = config.lookup key :=
  alike.read_eq used id fun _ spelled => absurd spelled.1 required

end NodeKind.Alike

/-! ## Nodes that are read alike -/

section Alike

variable {settings : RouteSettings} {config other : Entries String Value}

theorem MountHead.traceFields_of_alike {kind : NodeKind} {node : NodeName} {pathField : String}
    {inherited : List Parameter} (alike : kind.Alike settings config other)
    (used : [pathField, "params", "pre_middlewares", "post_middlewares"] ⊆ kind.recognizedKeys)
    (required : pathField ∉ kind.optionalKeys) :
    traceFields node pathField inherited other = traceFields node pathField inherited config := by
  apply traceFields_congr
  · exact alike.read_eq (used (by simp)) _ fun _ spelled =>
      readMiddlewares_of_spellsOut spelled (by simp) node _
  · exact alike.read_eq (used (by simp)) _ fun _ spelled =>
      readMiddlewares_of_spellsOut spelled (by simp) node _
  · rw [alike.lookup_eq (used (by simp)) required]
  · exact alike.read_eq (used (by simp)) _ fun _ spelled =>
      Parameter.traceAll_of_spellsOut spelled (by simp) node _

/-- A `root` of another mapping that is null or the same makes no root of a route. -/
theorem Element.classify_of_alike_route {key : String}
    (alike : NodeKind.route.Alike settings config other)
    (shape : classify key (.map config) = .ok .route) :
    classify key (.map other) = .ok .route := by
  obtain ⟨entry, root, path⟩ := classify_eq_route_iff.1 shape
  refine classify_eq_route_iff.2 ⟨entry, ?_, ?_⟩
  · rcases alike.root rfl with same | null
    · rw [same]
      exact root
    · rw [null]
      rfl
  · rw [alike.lookup_eq (by decide : "path" ∈ _) (by decide)]
    exact path

theorem Element.classify_of_alike_root {key : String}
    (alike : NodeKind.root.Alike settings config other)
    (shape : classify key (.map config) = .ok .root) : classify key (.map other) = .ok .root := by
  rw [classify_eq_root_iff] at shape ⊢
  rw [alike.lookup_eq (by decide : "root" ∈ _) (by decide)]
  exact shape

/-- No routes are inside a root that leaves them out or has none. -/
theorem Element.inside_of_alike {key : String} (alike : NodeKind.root.Alike settings config other)
    (shape : classify key (.map config) = .ok .root) :
    inside key (.map other) = inside key (.map config) := by
  simp only [inside, shape, classify_of_alike_root alike shape, Value.field?]
  rcases alike.lookup "routes" (by decide) with same | ⟨absent, value, found, spelled⟩
  · rw [same]
  · rw [absent, found]
    rcases spelled.null_or_map (by simp) with rfl | rfl <;> rfl

theorem Element.traceRoot_of_alike {inherited : List Parameter} {key : String}
    (alike : NodeKind.root.Alike settings config other) :
    traceRoot inherited key other = traceRoot inherited key config := by
  have required : requireRoutes key (other.lookup "routes") =
      requireRoutes key (config.lookup "routes") := by
    refine alike.read_eq (by decide) _ fun value spelled => ?_
    rcases spelled.null_or_map (by simp) with rfl | rfl <;> rfl
  unfold traceRoot
  rw [MountHead.traceFields_of_alike alike (by decide) (by decide), required]

theorem Route.traceFields_of_alike {inherited : List Parameter} {key : String}
    (alike : NodeKind.route.Alike settings config other) :
    traceFields settings inherited key other = traceFields settings inherited key config := by
  have methods (params : List Parameter) :
      traceMethods settings key params (other.lookup "methods") =
        traceMethods settings key params (config.lookup "methods") := by
    refine alike.read_eq (by decide) _ fun value spelled => ?_
    rcases spelled.null_or_map (by simp) with rfl | rfl <;> rfl
  unfold traceFields
  rw [MountHead.traceFields_of_alike alike (by decide) (by decide)]
  simp only [methods]

theorem Method.traceFields_of_alike {params : List Parameter} {name : String} {verb : Verb}
    (alike : NodeKind.method.Alike settings config other) :
    traceFields settings params name verb other = traceFields settings params name verb config := by
  apply traceFields_congr
  · rw [alike.lookup_eq (by decide) (by decide)]
  · exact alike.read_eq (by decide) _ fun _ spelled => readStatus_of_spellsOut spelled name
  · exact alike.read_eq (by decide) _ fun _ spelled =>
      Parameter.traceAll_of_spellsOut spelled (by simp) _ _
  · exact alike.read_eq (by decide) _ fun _ spelled =>
      readMiddlewares_of_spellsOut spelled (by simp) _ _
  · exact alike.read_eq (by decide) _ fun _ spelled =>
      readMiddlewares_of_spellsOut spelled (by simp) _ _
  · exact alike.read_eq (by decide) _ fun _ spelled => readValidated_of_spellsOut spelled

theorem Parameter.readFields_of_alike {name : String}
    (alike : NodeKind.parameter.Alike settings config other) :
    readFields name other = readFields name config := by
  unfold readFields
  rw [alike.lookup_eq (by decide : "type" ∈ _) (by decide),
    alike.lookup_eq (by decide : "default_value" ∈ _) (by decide)]

variable {sources : Element.Sources} {role : Role} {name : String} {kind : NodeKind}
  {Rel : ∀ {α : Type}, List String → Traced α → Traced α → Prop}

open Traced (Apart)

/-- Nodes that are read alike have the same trace but for the warnings about their keys. -/
theorem Role.Configures.related (congruent : Traced.Congruent Rel)
    (configures : role.Configures name config kind)
    (alike : kind.Alike sources.settings config other)
    (warned : Rel [] (Traced.construct (unusedKeys ⟨kind, name⟩ kind.recognizedKeys config))
      (Traced.construct (unusedKeys ⟨kind, name⟩ kind.recognizedKeys other))) :
    role.Related sources Rel name (.map config) (.map other) := by
  cases configures with
  | root shape =>
      intro visited inherited
      rw [Element.traceEntry_root shape,
        Element.traceEntry_root (Element.classify_of_alike_root alike shape),
        Element.inside_of_alike alike shape, Element.traceRoot_of_alike alike]
      refine congruent.after warned fun _ => .bind ?_ fun _ => ?_
      · exact (MountHead.traceFields_apart (by simp)).bind fun _ =>
          (Apart.ofExcept _).bind fun _ => .pure _
      · exact (Apart.under (by simp) _).bind fun _ => .pure _
  | route shape =>
      intro visited inherited
      rw [Element.traceEntry_route shape,
        Element.traceEntry_route (Element.classify_of_alike_route alike shape),
        Route.traceFields_of_alike alike]
      refine congruent.after warned fun _ => .bind ?_ fun _ => .pure _
      exact (MountHead.traceFields_apart (by simp)).bind fun _ =>
        (Apart.under (by simp) _).bind fun _ => .pure _
  | method =>
      intro params
      unfold Method.trace
      cases Verb.parse? name with
      | none => exact congruent.fail _ _
      | some verb =>
          simp only [Method.requireConfig, Traced.ofExcept_ok, pure_bind,
            Method.traceFields_of_alike alike]
          refine congruent.after warned fun _ => ?_
          exact (Apart.ofExcept _).bind fun _ => (Apart.ofExcept _).bind fun _ =>
            (Apart.under (by simp) _).bind fun _ => (Apart.ofExcept _).bind fun _ =>
              (Apart.ofExcept _).bind fun _ => .pure _
  | parameter =>
      show Rel [] (Parameter.trace name (.map config)) (Parameter.trace name (.map other))
      unfold Parameter.trace
      split
      · exact congruent.fail _ _
      · simp only [Parameter.readFields_of_alike alike]
        exact congruent.after warned fun _ => .ofExcept _

/-- Nodes that are read alike have revised traces. -/
theorem Role.Configures.revised (configures : role.Configures name config kind)
    (alike : kind.Alike sources.settings config other) :
    role.Revised sources
      (fun _ => unusedKeys ⟨kind, name⟩ kind.recognizedKeys other) name (.map config)
      (.map other) :=
  configures.related (Traced.congruent_revised _) alike rfl

end Alike

end RoutePlan
