import RoutePlan.Proofs.Tree.Declaration
import RoutePlan.Proofs.Tree.ImportChain
import RoutePlan.Proofs.Tree.UnknownKeys

/-!
# Configurations without unknown keys

Where every root, route, method and parameter has only keys that it uses, in the document
and in all documents that are imported, a compilation gives no warnings.
-/

namespace RoutePlan

/-! ## Constructions without warnings -/

/-- No warning is given, whether the construction succeeds or not. -/
def Checked.Silent {α : Type} (built : Checked α) : Prop :=
  built.warnings = []

namespace Checked.Silent

variable {α β : Type}

theorem ofExcept (outcome : Except PlanError α) : (Checked.ofExcept outcome).Silent :=
  rfl

theorem fail (error : PlanError) : (Checked.fail error : Checked α).Silent :=
  rfl

theorem pure (value : α) : (Pure.pure value : Checked α).Silent :=
  rfl

theorem bind {first : Checked α} {next : α → Checked β} (head : first.Silent)
    (tail : ∀ value, first.outcome = .ok value → (next value).Silent) :
    (first >>= next).Silent := by
  obtain ⟨warnings, outcome⟩ := first
  obtain rfl : warnings = [] := head
  show (Checked.andThen _ next).warnings = []
  cases outcome with
  | error error => rfl
  | ok value => exact tail value rfl

theorem traverse {construct : α → Checked β} {items : List α}
    (each : ∀ item ∈ items, (construct item).Silent) :
    (Checked.traverse construct items).Silent := by
  induction items with
  | nil => rfl
  | cons item rest ih =>
      obtain ⟨head, tail⟩ := List.forall_mem_cons.1 each
      exact head.bind fun built _ => (ih tail).bind fun others _ => .pure _

/-- There is nothing to warn about. -/
theorem warn_unusedKeys {node : NodeName} {recognized : List String}
    {config : Entries String Value} (known : ∀ key ∈ Entries.keys config, key ∈ recognized) :
    (Checked.warn (unusedKeys node recognized config)).Silent := by
  simpa [Checked.Silent, Checked.warn, unusedKeys] using known

end Checked.Silent

open Checked (Silent)

/-! ## Mappings without unknown keys -/

/-- Every node in a mapping of some level has only keys that it uses. -/
def Level.OnlyKnown (level : Level) (entries : Entries String Value) : Prop :=
  ∀ role keys name fill config kind, Hole level role keys name fill →
    entries = fill (.map config) → role.Configures name config kind →
      ∀ key ∈ Entries.keys config, key ∈ kind.recognizedKeys

/-- What is to be shown of the nodes of the mapping itself, and of the mappings below. -/
theorem Level.onlyKnown_of_entries {level : Level} {entries : Entries String Value}
    (each : ∀ key config, (key, .map config) ∈ entries →
      (∀ (role : Role) kind, role.level = level → role.Configures key config kind →
        ∀ used ∈ Entries.keys config, used ∈ kind.recognizedKeys) ∧
      ∀ inner, level.Leads key config inner → inner.OnlyKnown config) :
    level.OnlyKnown entries := by
  intro role keys name fill config kind hole same configures
  cases hole with
  | here hosts _ _ =>
      exact (each name config (by simp [same])).1 role kind hosts configures
  | @within _ inner _ _ key _ _ _ fill value leads _ _ below =>
      have led : level.Leads key (fill (.map config)) inner := by
        cases leads with
        | root shape => exact .root ((below.classify_eq (.inl rfl) key value _).trans shape)
        | route shape => exact .route ((below.classify_eq (.inr rfl) key value _).trans shape)
        | method => exact .method
        | rootParams => exact .rootParams
        | routes => exact .routes
        | routeParams => exact .routeParams
        | methods => exact .methods
        | body => exact .body
      exact (each key _ (by simp [same])).2 inner led role _ name fill config kind below rfl
        configures

/-- Keys are distinct, and every node has only keys that it uses. -/
structure Level.Clean (level : Level) (entries : Entries String Value) : Prop where
  distinct : Entries.HaveDistinctKeys entries
  known : level.OnlyKnown entries

namespace Level.Clean

variable {level inner : Level} {entries config : Entries String Value}
  {key name : String} {value : Value} {kind : NodeKind}

/-- An entry stands between entries with other keys. -/
theorem exists_split (clean : level.Clean entries) (member : (key, value) ∈ entries) :
    ∃ before after, entries = before ++ (key, value) :: after ∧
      key ∉ Entries.keys before ∧ key ∉ Entries.keys after := by
  obtain ⟨before, after, rfl⟩ := List.append_of_mem member
  have distinct := clean.distinct.distinct
  rw [Entries.keys, List.map_append, List.map_cons] at distinct
  obtain ⟨_, tail, apart⟩ := List.nodup_append.1 distinct
  exact ⟨before, after, rfl, fun earlier => apart key earlier key List.mem_cons_self rfl,
    (List.nodup_cons.1 tail).1⟩

/-- The mappings below are as the mapping is. -/
theorem within (clean : level.Clean entries) (member : (key, .map config) ∈ entries)
    (leads : level.Leads key config inner) : inner.Clean config := by
  refine ⟨Value.hasDistinctKeys_map_iff.1 (clean.distinct.inside _ member), ?_⟩
  intro role keys name fill inside kind hole same configures
  obtain ⟨before, after, split, first, last⟩ := clean.exists_split member
  subst same
  exact clean.known role _ name _ inside kind (.within leads first last hole) split configures

theorem of_lookup (clean : level.Clean entries)
    (found : entries.lookup key = some (.map config)) (leads : level.Leads key config inner) :
    inner.Clean config :=
  clean.within ((Entries.lookup_eq_some_iff_mem clean.distinct.distinct).1 found) leads

/-- The nodes of the mapping itself have only keys that they use. -/
theorem here (clean : level.Clean entries) (role : Role) (member : (name, .map config) ∈ entries)
    (hosts : role.level = level) (configures : role.Configures name config kind) :
    ∀ key ∈ Entries.keys config, key ∈ kind.recognizedKeys := by
  obtain ⟨before, after, split, first, last⟩ := clean.exists_split member
  exact clean.known role _ name _ config kind (.here hosts first last) split configures

end Level.Clean

/-! ## Nodes without unknown keys -/

section Nodes

variable {settings : RouteSettings} {params inherited : List Parameter}
  {config entries : Entries String Value} {node : NodeName} {field name : String}

theorem Parameter.declareAll_silent (clean : Level.parameters.Clean entries) :
    (declareAll node field (some (.map entries))).Silent := by
  refine .traverse fun declaration member => ?_
  obtain ⟨name, value⟩ := declaration
  unfold declare
  split
  · exact .fail _
  · cases value with
    | map config =>
        have known := clean.here .parameter member rfl .parameter
        exact (Silent.warn_unusedKeys known).bind fun _ _ =>
          (Silent.ofExcept _).bind fun _ _ => (Silent.ofExcept _).bind fun _ _ => .pure _
    | string kindName => exact (Silent.ofExcept _).bind fun _ _ => .pure _
    | _ => exact .fail _

/-- The parameters under a field. -/
theorem Parameter.declareAll_lookup_silent
    (clean : ∀ declarations, config.lookup field = some (.map declarations) →
      Level.parameters.Clean declarations) :
    (declareAll node field (config.lookup field)).Silent := by
  cases found : config.lookup field with
  | none => exact .pure _
  | some value =>
      cases value with
      | map declarations => exact declareAll_silent (clean _ found)
      | null => exact .pure _
      | _ => exact .fail _

theorem MountHead.compile_silent {pathField : String} {recognized : List String}
    (known : ∀ key ∈ Entries.keys config, key ∈ recognized)
    (clean : ∀ declarations, config.lookup "params" = some (.map declarations) →
      Level.parameters.Clean declarations) :
    (compile node pathField recognized inherited config).Silent :=
  (Silent.warn_unusedKeys known).bind fun _ _ => (Silent.ofExcept _).bind fun _ _ =>
    (Silent.ofExcept _).bind fun _ _ => (Silent.ofExcept _).bind fun _ _ =>
      (Parameter.declareAll_lookup_silent clean).bind fun _ _ =>
        (Silent.ofExcept _).bind fun _ _ => .pure _

theorem Method.compile_silent {verbName : String} {value : Value}
    (known : ∀ config, value = .map config →
      (∀ key ∈ Entries.keys config, key ∈ recognizedKeys) ∧ Level.method.Clean config) :
    (compile settings params verbName value).Silent := by
  unfold compile
  cases Verb.parse? verbName with
  | none => exact .fail _
  | some verb =>
      refine (Silent.pure verb).bind fun _ _ => (Silent.ofExcept _).bind fun config read => ?_
      have own : (∀ key ∈ Entries.keys config, key ∈ recognizedKeys) ∧
          ∀ declarations, config.lookup "body" = some (.map declarations) →
            Level.parameters.Clean declarations := by
        cases value with
        | map held =>
            cases read
            obtain ⟨keys, clean⟩ := known _ rfl
            exact ⟨keys, fun _ found => clean.of_lookup found .body⟩
        | string controller =>
            cases read
            constructor
            · simp [Entries.keys, recognizedKeys]
            · intro declarations found
              simp [List.lookup_cons] at found
        | _ => cases read
      exact (Silent.warn_unusedKeys own.1).bind fun _ _ => (Silent.ofExcept _).bind fun _ _ =>
        (Silent.ofExcept _).bind fun _ _ =>
          (Parameter.declareAll_lookup_silent own.2).bind fun _ _ =>
            (Silent.ofExcept _).bind fun _ _ => (Silent.ofExcept _).bind fun _ _ => .pure _

theorem Route.compileMethods_silent
    (clean : ∀ methods, config.lookup "methods" = some (.map methods) →
      Level.methods.Clean methods) :
    (compileMethods settings name params (config.lookup "methods")).Silent := by
  unfold compileMethods
  split
  · exact .fail _
  · exact .fail _
  · exact .fail _
  · next methods filled found =>
      refine .traverse fun entry member => Method.compile_silent fun config same => ?_
      obtain ⟨verb, value⟩ := entry
      subst same
      have each := clean methods found
      exact ⟨each.here .method member rfl .method, each.within member .method⟩
  · exact .fail _

end Nodes

/-! ## Configurations -/

namespace Element

/-- A document and all documents that are imported from it, directly or not. -/
inductive Sources.Reaches (sources : Sources) (top : Entries String Value) :
    Entries String Value → Prop where
  | top : Reaches sources top top
  | imported {entries name others} (earlier : Reaches sources top entries)
      (named : name ∈ fileNames (items entries)) (holds : sources.Holds [] name others) :
      Reaches sources top others

/-- An entry whose nodes have only keys that they use. -/
def Item.Clean : Item → Prop
  | .entry key value => ∀ config, value = .map config →
      (∀ kind, Role.element.Configures key config kind →
        ∀ used ∈ Entries.keys config, used ∈ kind.recognizedKeys) ∧
      ∀ level, Level.elements.Leads key config level → level.Clean config
  | .file _ => True

theorem items_clean {entries : Entries String Value} (clean : Level.elements.Clean entries) :
    ∀ item ∈ items entries, item.Clean := by
  intro item member
  obtain ⟨⟨key, value⟩, held, rfl⟩ := List.mem_map.1 member
  rintro config rfl
  exact ⟨fun kind configures => clean.here .element held rfl configures,
    fun level leads => clean.within held leads⟩

variable {sources : Sources} {visited : List Location} {inherited : List Parameter}
  {key : String} {value : Value}

theorem frame_silent (clean : (Item.entry key value).Clean) :
    (frame sources inherited key value).Silent := by
  unfold frame
  split
  · exact .fail _
  · exact (Silent.ofExcept _).bind fun _ _ => .pure _
  · next shape =>
      refine Silent.bind ?_ fun _ _ => .pure _
      unfold Route.compile
      refine (Silent.ofExcept _).bind fun config read => ?_
      cases value with
      | map held =>
          cases read
          obtain ⟨known, below⟩ := clean _ rfl
          have route := below .route (.route shape)
          exact (MountHead.compile_silent (known .route (.route shape))
            fun _ found => route.of_lookup found .routeParams).bind fun _ _ =>
              (Route.compileMethods_silent fun _ found => route.of_lookup found .methods).bind
                fun _ _ => .pure _
      | _ => cases read
  · next shape =>
      split
      · next config =>
          obtain ⟨known, below⟩ := clean _ rfl
          have root := below .root (.root shape)
          refine (MountHead.compile_silent (known .root (.root shape))
            fun _ found => root.of_lookup found .rootParams).bind fun _ _ => ?_
          split
          · exact .fail _
          · exact .fail _
          · exact .fail _
          · exact .pure _
          · exact .fail _
      · exact .fail _

theorem inside_clean (clean : (Item.entry key value).Clean) :
    ∀ item ∈ inside key value, item.Clean := by
  unfold inside
  split
  · split
    · exact List.forall_mem_map.2 fun _ _ => trivial
    · exact List.forall_mem_nil _
  · next shape =>
      split
      · next entries found =>
          cases value with
          | map config =>
              obtain ⟨_, below⟩ := clean _ rfl
              exact items_clean ((below .root (.root shape)).of_lookup found .routes)
          | _ => cases found
      · exact List.forall_mem_nil _
  · exact List.forall_mem_nil _

/-- A configuration without unknown keys gives no warnings. -/
theorem compileItems_silent {top : Entries String Value} {list : List Item}
    (documents : ∀ entries, sources.Reaches top entries → Level.elements.Clean entries)
    (clean : ∀ item ∈ list, item.Clean)
    (named : ∀ name ∈ fileNames list, ∃ entries, sources.Reaches top entries ∧
      name ∈ fileNames (items entries)) :
    (compileItems sources visited inherited list).Silent := by
  induction visited, list using insideInduction sources generalizing inherited with
  | nil visited => exact .pure _
  | entry visited key value rest insideIH restIH =>
      obtain ⟨entry, others⟩ := List.forall_mem_cons.1 clean
      have within (params : List Parameter) :
          (compileItems sources visited params (inside key value)).Silent :=
        insideIH (inside_clean entry)
          fun name member => named name (fileNames_inside_subset key value rest member)
      have after : (compileItems sources visited inherited rest).Silent :=
        restIH others fun name member => named name (fileNames_rest_subset _ rest member)
      rw [compileItems_cons, compileItem_entry]
      exact Silent.bind ((frame_silent entry).bind fun _ _ => (within _).bind fun _ _ => .pure _)
        fun _ _ => after.bind fun _ _ => .pure _
  | file visited name rest holdsIH restIH =>
      obtain ⟨_, others⟩ := List.forall_mem_cons.1 clean
      have after : (compileItems sources visited inherited rest).Silent :=
        restIH others fun name member => named name (fileNames_rest_subset _ rest member)
      rw [compileItems_cons, compileItem_file]
      refine Silent.bind ?_ fun _ _ => after.bind fun _ _ => .pure _
      split
      · exact .fail _
      · next fresh =>
          split
          · exact .fail _
          · next octets contents =>
              refine (Silent.ofExcept _).bind fun entries held => ?_
              have holds : sources.Holds visited name entries := ⟨fresh, octets, contents, held⟩
              obtain ⟨document, reached, listed⟩ := named name (mem_fileNames_file name rest)
              have imported : sources.Reaches top entries :=
                .imported reached listed (holds.of_fresh List.not_mem_nil)
              exact holdsIH entries holds _ (items_clean (documents entries imported))
                fun other member => ⟨entries, imported, member⟩

end Element

end RoutePlan
