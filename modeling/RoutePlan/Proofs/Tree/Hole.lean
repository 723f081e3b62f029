import RoutePlan.Proofs.Tree.Trace

/-!
# Mappings with a hole

A hole in a mapping is the value of one of its elements, methods or parameters, at any
depth.  The keys that lead to the hole are distinct from the keys beside them, so that they
lead to no other node.

What relates the traces of two nodes in the hole relates the traces of the mappings, if the
relation is kept by what is traced before and after (`Hole.related`).  So a mapping has
revised warnings where the node has (`Hole.revised`), and it has its node once.
-/

namespace RoutePlan

/-! ## Revised warnings -/

namespace Place

variable {place : Place} {key : String} {keys : List String}

theorem under_eq_own_iff :
    place.under key = ⟨none, keys⟩ ↔ place.file? = none ∧ keys = key :: place.keys := by
  obtain ⟨file?, present⟩ := place
  cases file? <;> simp [under, eq_comm]

end Place

/-- The node with other warnings, if it stands at the place. -/
def Construction.revise (place : Place) (change : List Warning → List Warning)
    (node : Construction) : Construction :=
  if node.place = place then { node with warnings := change node.warnings } else node

namespace Traced

variable {α β : Type} {change : List Warning → List Warning}

/-- The nodes at a place with other warnings. -/
def revise (place : Place) (change : List Warning → List Warning) (traced : Traced α) :
    Traced α :=
  traced.relog (Construction.revise place change)

@[simp]
theorem revise_pure (place : Place) (value : α) :
    (pure value : Traced α).revise place change = pure value :=
  rfl

@[simp]
theorem revise_ofExcept (place : Place) (outcome : Except PlanError α) :
    (ofExcept outcome).revise place change = ofExcept outcome :=
  rfl

@[simp]
theorem revise_fail (place : Place) (error : PlanError) :
    (fail error : Traced α).revise place change = fail error :=
  rfl

@[simp]
theorem revise_bind (place : Place) (first : Traced α) (next : α → Traced β) :
    (first >>= next).revise place change =
      first.revise place change >>= fun value => (next value).revise place change :=
  relog_bind _ first next

@[simp]
theorem revise_map (place : Place) (result : α → β) (first : Traced α) :
    (result <$> first).revise place change = result <$> first.revise place change :=
  relog_map _ result first

/-- A change of the warnings that changes none. -/
theorem revise_id (place : Place) (traced : Traced α) : traced.revise place id = traced := by
  have same (node : Construction) : node.revise place id = node := by
    unfold Construction.revise
    split <;> rfl
  simp [revise, relog, funext same]

/-- Two ways to change a log that do the same to every node. -/
theorem relog_congr {first second : Construction → Construction}
    (same : ∀ node, first node = second node) (traced : Traced α) :
    traced.relog first = traced.relog second := by
  rw [funext same]

@[simp]
theorem revise_under (key : String) (keys : List String) (traced : Traced α) :
    (traced.under key).revise ⟨none, key :: keys⟩ change =
      (traced.revise ⟨none, keys⟩ change).under key := by
  simp only [under, revise, relog_relog]
  refine relog_congr (fun node => ?_) traced
  obtain ⟨⟨file?, present⟩, warnings⟩ := node
  cases file? <;> by_cases same : present = keys <;>
    simp [Construction.revise, Place.under, same]

/-- Under another key than the first of the keys, no node stands at the place. -/
theorem revise_under_of_ne {other : String} {keys : List String}
    (apart : keys.head? ≠ some other) (traced : Traced α) :
    (traced.under other).revise ⟨none, keys⟩ change = traced.under other := by
  simp only [under, revise, relog_relog]
  refine relog_congr (fun node => ?_) traced
  have elsewhere : node.place.under other ≠ ⟨none, keys⟩ := by
    rw [ne_eq, Place.under_eq_own_iff]
    rintro ⟨_, rfl⟩
    exact apart rfl
  simp [Construction.revise, elsewhere]

/-- In a mapping that does not have the first of the keys, no node stands at the place. -/
theorem revise_each_of_not_mem {key : String} {keys : List String}
    {entries : Entries String Value} (absent : key ∉ Entries.keys entries)
    (trace : String → Value → Traced α) :
    (each trace entries).revise ⟨none, key :: keys⟩ change = each trace entries := by
  induction entries with
  | nil => rfl
  | cons entry rest ih =>
      obtain ⟨apart, absent⟩ := not_or.1 (fun member => absent (List.mem_cons.2 member))
      rw [each_cons, revise_bind, revise_under_of_ne (by simpa using apart)]
      simp only [revise_bind, revise_pure, ih absent]

/-! ## Traces around a place -/

/-- No node stands at the place. -/
def Apart (keys : List String) (traced : Traced α) : Prop :=
  ∀ change, traced.revise ⟨none, keys⟩ change = traced

namespace Apart

variable {key : String} {keys : List String}

theorem pure (value : α) : (Pure.pure value : Traced α).Apart keys :=
  fun _ => rfl

theorem ofExcept (outcome : Except PlanError α) : (Traced.ofExcept outcome).Apart keys :=
  fun _ => rfl

theorem construct (warnings : List Warning) : (Traced.construct warnings).Apart (key :: keys) :=
  fun _ => rfl

theorem bind {first : Traced α} {next : α → Traced β} (head : first.Apart keys)
    (tail : ∀ value, (next value).Apart keys) : (first >>= next).Apart keys := by
  intro change
  simp only [revise_bind, head change, fun value => tail value change]

theorem under (apart : keys.head? ≠ some key) (traced : Traced α) :
    (traced.under key).Apart keys :=
  fun _ => revise_under_of_ne apart traced

theorem each {entries : Entries String Value} (absent : key ∉ Entries.keys entries)
    (trace : String → Value → Traced α) : (Traced.each trace entries).Apart (key :: keys) :=
  fun _ => revise_each_of_not_mem absent trace

end Apart

/-- A relation of traces that depends on what is traced at a place: it is kept by what is
traced before and after, and by a further key. -/
structure Congruent
    (Rel : ∀ {α : Type}, List String → Traced α → Traced α → Prop) : Prop where
  before {α β : Type} {keys : List String} {first : Traced α} {next other : α → Traced β}
    (apart : first.Apart keys) (related : ∀ value, Rel keys (next value) (other value)) :
    Rel keys (first >>= next) (first >>= other)
  after {α β : Type} {keys : List String} {first other : Traced α} {next : α → Traced β}
    (related : Rel keys first other) (apart : ∀ value, (next value).Apart keys) :
    Rel keys (first >>= next) (other >>= next)
  under {α : Type} {key : String} {keys : List String} {traced other : Traced α}
    (related : Rel keys traced other) : Rel (key :: keys) (traced.under key) (other.under key)
  fail {α : Type} (keys : List String) (error : PlanError) :
    Rel keys (Traced.fail error : Traced α) (Traced.fail error)

/-- In mappings with related entries under a key, the others being the same, the entry is
all that matters. -/
theorem Congruent.each {Rel : ∀ {α : Type}, List String → Traced α → Traced α → Prop}
    (congruent : Congruent Rel) {trace : String → Value → Traced α} {key : String}
    {keys : List String} {value other : Value} {before after : Entries String Value}
    (first : key ∉ Entries.keys before) (last : key ∉ Entries.keys after)
    (here : Rel keys (trace key value) (trace key other)) :
    Rel (key :: keys) (each trace (before ++ (key, value) :: after))
      (each trace (before ++ (key, other) :: after)) := by
  simp only [each_append, each_cons]
  refine congruent.before (.each first trace) fun built => ?_
  refine congruent.after ?_ fun _ => .pure _
  refine congruent.after (congruent.under here) fun _ => ?_
  exact (Apart.each last trace).bind fun _ => .pure _

/-- The nodes at the place have other warnings. -/
def Revised (change : List Warning → List Warning) (keys : List String)
    (traced other : Traced α) : Prop :=
  other = traced.revise ⟨none, keys⟩ change

theorem congruent_revised (change : List Warning → List Warning) :
    Congruent (Revised change) where
  before apart related := by
    rw [Revised, revise_bind, apart change]
    exact congrArg _ (funext related)
  after related apart := by
    rw [Revised, revise_bind, ← related]
    exact congrArg _ (funext fun value => (apart value change).symm)
  under related := by
    rw [Revised, revise_under, ← related]
  fail _ _ := rfl

end Traced

/-! ## Mappings with a hole -/

/-- The kinds of mappings in a document. -/
inductive Level where
  | elements | root | route | methods | method | parameters

/-- What stands in a hole. -/
inductive Role where
  | element | method | parameter

/-- The mappings that have such values. -/
def Role.level : Role → Level
  | element => .elements
  | method => .methods
  | parameter => .parameters

/-- The level of a mapping that a mapping of some level has under a key. -/
inductive Level.Leads : Level → String → Entries String Value → Level → Prop where
  | root {key config} (shape : Element.classify key (.map config) = .ok .root) :
      Leads .elements key config .root
  | route {key config} (shape : Element.classify key (.map config) = .ok .route) :
      Leads .elements key config .route
  | method {verb config} : Leads .methods verb config .method
  | rootParams {config} : Leads .root "params" config .parameters
  | routes {config} : Leads .root "routes" config .elements
  | routeParams {config} : Leads .route "params" config .parameters
  | methods {config} : Leads .route "methods" config .methods
  | body {config} : Leads .method "body" config .parameters

/-- A mapping with a hole: filled with a value, it is a mapping of the level with the value
under the last of the keys, which is the name of what stands there. -/
inductive Hole : Level → Role → List String → String → (Value → Entries String Value) → Prop
  | here {level role name before after} (hosts : role.level = level)
      (first : name ∉ Entries.keys before) (last : name ∉ Entries.keys after) :
      Hole level role [name] name (fun value => before ++ (name, value) :: after)
  | within {level inner role keys key name before after fill value}
      (leads : level.Leads key (fill value) inner)
      (first : key ∉ Entries.keys before) (last : key ∉ Entries.keys after)
      (below : Hole inner role keys name fill) :
      Hole level role (key :: keys) name
        (fun value => before ++ (key, .map (fill value)) :: after)

open Entries (SameExcept)

/-! ## What holes do not change -/

/-- What stands in the hole of a root or a route is not what tells their shapes. -/
theorem Hole.classify_eq {level : Level} {role : Role} {keys : List String} {name : String}
    {fill : Value → Entries String Value} (hole : Hole level role keys name fill)
    (node : level = .root ∨ level = .route) (key : String) (value other : Value) :
    Element.classify key (.map (fill other)) = Element.classify key (.map (fill value)) := by
  cases hole with
  | here hosts first last =>
      subst hosts
      cases role <;> simp [Role.level] at node
  | within leads first last below =>
      cases leads with
      | root | route | method | body => simp at node
      | rootParams | routes | routeParams | methods =>
          exact Element.classify_of_sameExcept (Entries.sameExcept_field ..) (by decide)
            (by decide) key

theorem Hole.ne_nil {level : Level} {role : Role} {keys : List String} {name : String}
    {fill : Value → Entries String Value} (hole : Hole level role keys name fill)
    (value : Value) : fill value ≠ [] := by
  cases hole <;> simp

/-- A mapping with something in its hole is not empty, whatever it is. -/
theorem Hole.isEmpty_eq {level : Level} {role : Role} {keys : List String} {name : String}
    {fill : Value → Entries String Value} (hole : Hole level role keys name fill)
    (value other : Value) : (fill other).isEmpty = (fill value).isEmpty := by
  rw [List.isEmpty_eq_false_iff.2 (hole.ne_nil other),
    List.isEmpty_eq_false_iff.2 (hole.ne_nil value)]

/-! ## Fields of nodes -/

section Fields

variable {Rel : ∀ {α : Type}, List String → Traced α → Traced α → Prop}
  (congruent : Traced.Congruent Rel) {keys : List String} {field : String}
  {config other declarations others : Entries String Value} {settings : RouteSettings}
  {inherited : List Parameter} {node : NodeName} {pathField : String}

open Traced (Apart)

namespace MountHead

include congruent in
/-- The shared fields of a node with related parameters. -/
theorem related_params (same : SameExcept "params" config other)
    (path : pathField ≠ "params") (held : config.lookup "params" = some (.map declarations))
    (otherHeld : other.lookup "params" = some (.map others))
    (related : Rel keys (Traced.each Parameter.trace declarations)
      (Traced.each Parameter.trace others)) :
    Rel ("params" :: keys) (traceFields node pathField inherited config)
      (traceFields node pathField inherited other) := by
  unfold traceFields
  rw [held, otherHeld, same.lookup _ (by decide : "pre_middlewares" ≠ "params"),
    same.lookup _ (by decide : "post_middlewares" ≠ "params"), same.lookup _ path]
  refine congruent.before (.ofExcept _) fun pre => congruent.before (.ofExcept _) fun post =>
    congruent.before (.ofExcept _) fun path => ?_
  refine congruent.after (congruent.under related) fun own => ?_
  exact (Apart.ofExcept _).bind fun _ => .pure _

/-- The shared fields of a node with another field. -/
theorem traceFields_of_sameExcept (same : SameExcept field config other)
    (apart : field ∉ ["pre_middlewares", "post_middlewares", pathField, "params"]) :
    traceFields node pathField inherited other = traceFields node pathField inherited config := by
  simp only [List.mem_cons, List.not_mem_nil, or_false, not_or, ← ne_eq] at apart
  obtain ⟨pre, post, path, params⟩ := apart
  apply traceFields_congr
  · rw [same.lookup _ pre.symm]
  · rw [same.lookup _ post.symm]
  · rw [same.lookup _ path.symm]
  · rw [same.lookup _ params.symm]

/-- The nodes among the shared fields are parameters. -/
theorem traceFields_apart (apart : keys.head? ≠ some "params") :
    (traceFields node pathField inherited config).Apart keys :=
  (Apart.ofExcept _).bind fun _ => (Apart.ofExcept _).bind fun _ => (Apart.ofExcept _).bind
    fun _ => (Apart.under apart _).bind fun _ => (Apart.ofExcept _).bind fun _ => .pure _

end MountHead

include congruent in
/-- A method with related parameters in its body. -/
theorem Method.related_body {params : List Parameter} {verbName : String}
    (same : SameExcept "body" config other)
    (held : config.lookup "body" = some (.map declarations))
    (otherHeld : other.lookup "body" = some (.map others))
    (related : Rel keys (Traced.each Parameter.trace declarations)
      (Traced.each Parameter.trace others)) :
    Rel ("body" :: keys) (trace settings params verbName (.map config))
      (trace settings params verbName (.map other)) := by
  unfold trace
  cases Verb.parse? verbName with
  | none => exact congruent.fail _ _
  | some verb =>
      simp only [requireConfig, Traced.ofExcept_ok, pure_bind, unusedKeys_of_sameExcept same,
        traceFields, held, otherHeld, same.lookup _ (by decide : "controller" ≠ "body"),
        same.lookup _ (by decide : "response_code" ≠ "body"),
        same.lookup _ (by decide : "pre_middlewares" ≠ "body"),
        same.lookup _ (by decide : "post_middlewares" ≠ "body"),
        same.lookup _ (by decide : "abstract" ≠ "body")]
      refine congruent.before (.construct _) fun _ => congruent.before (.ofExcept _) fun _ =>
        congruent.before (.ofExcept _) fun _ => ?_
      refine congruent.after (congruent.under related) fun body => ?_
      exact (Apart.ofExcept _).bind fun _ => (Apart.ofExcept _).bind fun _ => .pure _

namespace Element

variable {sources : Sources} {visited : List Location} {key : String}

/-- A root is compiled from its fields, and then what is inside. -/
theorem traceEntry_root (shape : classify key (.map config) = .ok .root) :
    traceEntry sources visited inherited key (.map config) = do
      .construct (unusedKeys ⟨.root, key⟩ Root.recognizedKeys config)
      let mount ← traceRoot inherited key config
      let children ←
        (traceItems sources visited mount.params (inside key (.map config))).under "routes"
      return .root mount children := by
  unfold traceEntry traceFrame
  rw [shape]
  simp only [bind_assoc, pure_bind]
  rfl

/-- Nothing is inside a route. -/
theorem traceEntry_route (shape : classify key (.map config) = .ok .route) :
    traceEntry sources visited inherited key (.map config) = do
      .construct (unusedKeys ⟨.route, key⟩ Route.recognizedKeys config)
      let held ← Route.traceFields sources.settings inherited key config
      return .route held := by
  have nothing : inside key (.map config) = [] := by rw [inside, shape]
  unfold traceEntry traceFrame
  rw [shape, nothing]
  simp only [Route.trace, requireMapping, traceItems_nil, bind_assoc, pure_bind]
  rfl

/-- What is inside a root does not depend on another field. -/
theorem inside_of_sameExcept (same : SameExcept field config other)
    (shape : classify key (.map config) = .ok .root)
    (otherShape : classify key (.map other) = .ok .root) (apart : "routes" ≠ field) :
    inside key (.map other) = inside key (.map config) := by
  simp only [inside, shape, otherShape, Value.field?, same.lookup _ apart]

include congruent in
/-- A root with related parameters. -/
theorem related_rootParams (same : SameExcept "params" config other)
    (shape : classify key (.map config) = .ok .root)
    (held : config.lookup "params" = some (.map declarations))
    (otherHeld : other.lookup "params" = some (.map others))
    (related : Rel keys (Traced.each Parameter.trace declarations)
      (Traced.each Parameter.trace others)) :
    Rel ("params" :: keys) (traceEntry sources visited inherited key (.map config))
      (traceEntry sources visited inherited key (.map other)) := by
  have otherShape : classify key (.map other) = .ok .root := by
    rw [classify_of_sameExcept same (by decide) (by decide), shape]
  have head : Rel ("params" :: keys) (MountHead.traceFields ⟨.root, key⟩ "root" inherited config)
      (MountHead.traceFields ⟨.root, key⟩ "root" inherited other) :=
    MountHead.related_params congruent same (by decide) held otherHeld related
  rw [traceEntry_root shape, traceEntry_root otherShape, unusedKeys_of_sameExcept same,
    inside_of_sameExcept same shape otherShape (by decide)]
  unfold traceRoot
  rw [same.lookup _ (by decide : "routes" ≠ "params")]
  refine congruent.before (.construct _) fun _ => congruent.after ?_ fun mount => ?_
  · exact congruent.after head fun _ => (Apart.ofExcept _).bind fun _ => .pure _
  · exact (Apart.under (by simp) _).bind fun _ => .pure _

include congruent in
/-- A root with related routes. -/
theorem related_routes (same : SameExcept "routes" config other)
    (shape : classify key (.map config) = .ok .root)
    (held : config.lookup "routes" = some (.map declarations))
    (otherHeld : other.lookup "routes" = some (.map others))
    (filled : declarations ≠ []) (otherFilled : others ≠ [])
    (related : ∀ params, Rel keys (traceItems sources visited params (items declarations))
      (traceItems sources visited params (items others))) :
    Rel ("routes" :: keys) (traceEntry sources visited inherited key (.map config))
      (traceEntry sources visited inherited key (.map other)) := by
  have otherShape : classify key (.map other) = .ok .root := by
    rw [classify_of_sameExcept same (by decide) (by decide), shape]
  have required : requireRoutes key (some (.map others)) =
      requireRoutes key (some (.map declarations)) := by
    obtain ⟨entry, rest, rfl⟩ := List.exists_cons_of_ne_nil filled
    obtain ⟨otherEntry, otherRest, rfl⟩ := List.exists_cons_of_ne_nil otherFilled
    rfl
  rw [traceEntry_root shape, traceEntry_root otherShape, unusedKeys_of_sameExcept same,
    inside_root shape held, inside_root otherShape otherHeld]
  unfold traceRoot
  rw [MountHead.traceFields_of_sameExcept same (by decide), held, otherHeld, required]
  refine congruent.before (.construct _) fun _ => congruent.before ?_ fun mount => ?_
  · exact (MountHead.traceFields_apart (by simp)).bind fun _ =>
      (Apart.ofExcept _).bind fun _ => .pure _
  · exact congruent.after (congruent.under (related mount.params)) fun _ => .pure _

include congruent in
/-- A route with related parameters. -/
theorem related_routeParams (same : SameExcept "params" config other)
    (shape : classify key (.map config) = .ok .route)
    (held : config.lookup "params" = some (.map declarations))
    (otherHeld : other.lookup "params" = some (.map others))
    (related : Rel keys (Traced.each Parameter.trace declarations)
      (Traced.each Parameter.trace others)) :
    Rel ("params" :: keys) (traceEntry sources visited inherited key (.map config))
      (traceEntry sources visited inherited key (.map other)) := by
  have otherShape : classify key (.map other) = .ok .route := by
    rw [classify_of_sameExcept same (by decide) (by decide), shape]
  have head : Rel ("params" :: keys) (MountHead.traceFields ⟨.route, key⟩ "path" inherited config)
      (MountHead.traceFields ⟨.route, key⟩ "path" inherited other) :=
    MountHead.related_params congruent same (by decide) held otherHeld related
  rw [traceEntry_route shape, traceEntry_route otherShape, unusedKeys_of_sameExcept same]
  unfold Route.traceFields
  rw [same.lookup _ (by decide : "methods" ≠ "params")]
  refine congruent.before (.construct _) fun _ => congruent.after ?_ fun _ => .pure _
  exact congruent.after head fun _ => (Apart.under (by simp) _).bind fun _ => .pure _

include congruent in
/-- A route with related methods. -/
theorem related_methods (same : SameExcept "methods" config other)
    (shape : classify key (.map config) = .ok .route)
    (held : config.lookup "methods" = some (.map declarations))
    (otherHeld : other.lookup "methods" = some (.map others))
    (filled : declarations ≠ []) (otherFilled : others ≠ [])
    (related : ∀ params, Rel keys (Traced.each (Method.trace sources.settings params) declarations)
      (Traced.each (Method.trace sources.settings params) others)) :
    Rel ("methods" :: keys) (traceEntry sources visited inherited key (.map config))
      (traceEntry sources visited inherited key (.map other)) := by
  have otherShape : classify key (.map other) = .ok .route := by
    rw [classify_of_sameExcept same (by decide) (by decide), shape]
  obtain ⟨entry, rest, rfl⟩ := List.exists_cons_of_ne_nil filled
  obtain ⟨otherEntry, otherRest, rfl⟩ := List.exists_cons_of_ne_nil otherFilled
  rw [traceEntry_route shape, traceEntry_route otherShape, unusedKeys_of_sameExcept same]
  unfold Route.traceFields
  rw [MountHead.traceFields_of_sameExcept same (by decide), held, otherHeld]
  refine congruent.before (.construct _) fun _ => congruent.after ?_ fun _ => .pure _
  refine congruent.before (MountHead.traceFields_apart (by simp)) fun head => ?_
  exact congruent.after (congruent.under (related head.params)) fun _ => .pure _

end Element

end Fields

/-! ## Holes with related values -/

section Related

variable (sources : Element.Sources)
  (Rel : ∀ {α : Type}, List String → Traced α → Traced α → Prop)

/-- Two values that stand in a hole under a name: the traces of the nodes are related. -/
def Role.Related (name : String) (value other : Value) : Role → Prop
  | .element => ∀ visited inherited,
      Rel [] (Element.traceEntry sources visited inherited name value)
        (Element.traceEntry sources visited inherited name other)
  | .method => ∀ params,
      Rel [] (Method.trace sources.settings params name value)
        (Method.trace sources.settings params name other)
  | .parameter => Rel [] (Parameter.trace name value) (Parameter.trace name other)

/-- Two mappings of a level: the traces are related at a place. -/
def Level.Related (keys : List String) (config other : Entries String Value) : Level → Prop
  | .elements => ∀ visited inherited,
      Rel keys (Element.traceItems sources visited inherited (Element.items config))
        (Element.traceItems sources visited inherited (Element.items other))
  | .root => ∀ key visited inherited, Element.classify key (.map config) = .ok .root →
      Rel keys (Element.traceEntry sources visited inherited key (.map config))
        (Element.traceEntry sources visited inherited key (.map other))
  | .route => ∀ key visited inherited, Element.classify key (.map config) = .ok .route →
      Rel keys (Element.traceEntry sources visited inherited key (.map config))
        (Element.traceEntry sources visited inherited key (.map other))
  | .methods => ∀ params,
      Rel keys (Traced.each (Method.trace sources.settings params) config)
        (Traced.each (Method.trace sources.settings params) other)
  | .method => ∀ params verbName,
      Rel keys (Method.trace sources.settings params verbName (.map config))
        (Method.trace sources.settings params verbName (.map other))
  | .parameters =>
      Rel keys (Traced.each Parameter.trace config) (Traced.each Parameter.trace other)

variable {sources} {Rel} {level : Level} {role : Role} {keys : List String} {name : String}
  {fill : Value → Entries String Value} {value replaced : Value}

/-- What relates the values in the hole relates the mappings around it. -/
theorem Hole.related (congruent : Traced.Congruent Rel) (hole : Hole level role keys name fill)
    (related : role.Related sources Rel name value replaced) :
    level.Related sources Rel keys (fill value) (fill replaced) := by
  induction hole with
  | @here level role name before after hosts first last =>
      subst hosts
      cases role with
      | element =>
          intro visited inherited
          rw [Element.traceItems_items, Element.traceItems_items]
          exact congruent.each first last (related visited inherited)
      | method => exact fun params => congruent.each first last (related params)
      | parameter => exact congruent.each first last related
  | @within level inner role keys key name before after fill shown leads first last below ih =>
      have same := Entries.sameExcept_field before after key (.map (fill value))
        (.map (fill replaced))
      have held : (before ++ (key, .map (fill value)) :: after).lookup key =
          some (.map (fill value)) := Entries.lookup_field first _
      have otherHeld : (before ++ (key, .map (fill replaced)) :: after).lookup key =
          some (.map (fill replaced)) := Entries.lookup_field first _
      have filled := below.ne_nil value
      have otherFilled := below.ne_nil replaced
      cases leads with
      | root shape =>
          intro visited inherited
          rw [below.classify_eq (.inl rfl) key value shown] at shape
          rw [Element.traceItems_items, Element.traceItems_items]
          exact congruent.each first last (ih related key visited inherited shape)
      | route shape =>
          intro visited inherited
          rw [below.classify_eq (.inr rfl) key value shown] at shape
          rw [Element.traceItems_items, Element.traceItems_items]
          exact congruent.each first last (ih related key visited inherited shape)
      | method => exact fun params => congruent.each first last (ih related params key)
      | rootParams =>
          exact fun key visited inherited shape =>
            Element.related_rootParams congruent same shape held otherHeld (ih related)
      | routes =>
          exact fun key visited inherited shape =>
            Element.related_routes congruent same shape held otherHeld filled otherFilled
              (ih related visited)
      | routeParams =>
          exact fun key visited inherited shape =>
            Element.related_routeParams congruent same shape held otherHeld (ih related)
      | methods =>
          exact fun key visited inherited shape =>
            Element.related_methods congruent same shape held otherHeld filled otherFilled
              (ih related)
      | body =>
          exact fun params verbName =>
            Method.related_body congruent same held otherHeld (ih related)

end Related

/-! ## Holes with revised nodes -/

section Revised

variable (sources : Element.Sources) (change : List Warning → List Warning)

/-- Two values that stand in a hole under a name: the traces differ in the node's own
warnings at most. -/
def Role.Revised (name : String) (value other : Value) (role : Role) : Prop :=
  role.Related sources (Traced.Revised change) name value other

/-- Two mappings of a level: the traces differ in the warnings at a place at most. -/
def Level.Revised (keys : List String) (config other : Entries String Value) (level : Level) :
    Prop :=
  level.Related sources (Traced.Revised change) keys config other

variable {sources change} {level : Level} {role : Role} {keys : List String} {name : String}
  {fill : Value → Entries String Value} {value replaced : Value}

/-- What is true of the values in the hole is true of the mappings around it. -/
theorem Hole.revised (hole : Hole level role keys name fill)
    (revised : role.Revised sources change name value replaced) :
    level.Revised sources change keys (fill value) (fill replaced) :=
  hole.related (Traced.congruent_revised change) revised

end Revised

end RoutePlan
