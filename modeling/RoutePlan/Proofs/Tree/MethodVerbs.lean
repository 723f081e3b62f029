import RoutePlan.Proofs.Tree.Method
import RoutePlan.Proofs.Tree.Reach
import RoutePlan.Proofs.Tree.Site

/-!
# The verbs of the methods of a route

A verb is read without regard to case and to white space around it, so distinct keys of a
mapping may spell one verb.  A route has the verbs that the keys of its methods spell, in
the order of the keys: its methods have distinct verbs exactly when no two keys spell the
same one.
-/

namespace RoutePlan

namespace Verb

variable {first second name : String} {verb : Verb}

/-- The same spelling but for case and white space around it. -/
def SameSpelling (first second : String) : Prop :=
  Text.equalIgnoringCase (Text.trim first) (Text.trim second) = true

theorem name_injective_ignoringCase :
    ∀ verb ∈ supported, ∀ other ∈ supported,
      verb.name.toList.map Char.toLower = other.name.toList.map Char.toLower → verb = other := by
  decide

/-- A name is read as the verb that it spells. -/
theorem parse?_eq_some_iff :
    parse? name = some verb ↔ Text.equalIgnoringCase verb.name (Text.trim name) = true := by
  constructor
  · exact List.find?_some
  · intro spells
    obtain ⟨found, read⟩ : ∃ found, parse? name = some found := by
      rw [← Option.isSome_iff_exists, parse?, List.find?_isSome]
      exact ⟨verb, mem_supported verb, spells⟩
    have foundSpells := List.find?_some read
    rw [Text.equalIgnoringCase, beq_iff_eq] at spells foundSpells
    rw [read, name_injective_ignoringCase found (mem_supported found) verb (mem_supported verb)
      (foundSpells.trans spells.symm)]

/-- Two names are read as one verb exactly when they are the same spelling. -/
theorem parse?_eq_parse?_iff (read : parse? first = some verb) :
    parse? first = parse? second ↔ SameSpelling first second := by
  have spells := parse?_eq_some_iff.1 read
  rw [read, eq_comm, parse?_eq_some_iff, SameSpelling]
  simp only [Text.equalIgnoringCase, beq_iff_eq] at spells ⊢
  rw [spells]

end Verb

/-! ## Routes -/

namespace Route

variable {settings : RouteSettings} {params : List Parameter} {route : Route}
  {methods : Entries String Value}

/-- The verbs of a route are those that some keys spell. -/
def SpelledBy (methods : Entries String Value) (route : Route) : Prop :=
  route.methods.map (fun method => some method.verb) = (Entries.keys methods).map Verb.parse?

/-- The keys of a mapping spell distinct verbs. -/
def SpellsApart (methods : Entries String Value) : Prop :=
  (Entries.keys methods).Pairwise fun first second => ¬Verb.SameSpelling first second

theorem spelledBy_of_mapM
    (compiled : methods.mapM (fun entry =>
      (Method.compile settings params entry.1 entry.2).outcome) = .ok route.methods) :
    route.SpelledBy methods := by
  rw [SpelledBy, Entries.keys, List.map_map]
  apply map_eq_of_mapM_eq_ok _ compiled
  intro entry method built
  obtain ⟨_, parsed, _, _⟩ := Method.exists_config_of_compile built
  rw [Function.comp_apply, parsed]

/-- The verbs of a route are distinct exactly when its keys spell distinct ones. -/
theorem SpelledBy.nodup_iff (spelled : route.SpelledBy methods) :
    (route.methods.map Method.verb).Nodup ↔ SpellsApart methods := by
  have verbs : (route.methods.map Method.verb).map some =
      (Entries.keys methods).map Verb.parse? := by
    rw [List.map_map]
    exact spelled
  have read : ∀ key ∈ Entries.keys methods, ∃ verb, Verb.parse? key = some verb := by
    intro key member
    have among := List.mem_map_of_mem (f := Verb.parse?) member
    rw [← verbs] at among
    obtain ⟨verb, _, same⟩ := List.mem_map.1 among
    exact ⟨verb, same.symm⟩
  calc (route.methods.map Method.verb).Nodup
    _ ↔ ((Entries.keys methods).map Verb.parse?).Nodup := by
        rw [← verbs, List.nodup_map_iff fun first second same => Option.some.inj same]
    _ ↔ (Entries.keys methods).Pairwise
          fun first second => Verb.parse? first ≠ Verb.parse? second := List.pairwise_map
    _ ↔ SpellsApart methods := by
        refine List.Pairwise.iff_of_mem fun {first second} member _ => ?_
        obtain ⟨verb, parsed⟩ := read first member
        exact (Verb.parse?_eq_parse?_iff parsed).not

end Route

/-! ## Sites -/

/-- The methods of a route have sites at one path, one behind the other. -/
def Route.PlacedIn (sites : List Site) (route : Route) : Prop :=
  ∃ path first, ∀ place method, route.methods[place]? = some method →
    ∃ site ∈ sites, site.path = path ∧ site.method = method ∧ site.position = first + place

namespace Route.PlacedIn

variable {route : Route} {sites others : List Site}

theorem mono (placed : route.PlacedIn sites) (more : sites ⊆ others) : route.PlacedIn others := by
  obtain ⟨path, first, placed⟩ := placed
  refine ⟨path, first, fun place method declared => ?_⟩
  obtain ⟨site, found, same⟩ := placed place method declared
  exact ⟨site, more found, same⟩

theorem within (placed : route.PlacedIn sites) (before behind : List PlacedMount) :
    route.PlacedIn (sites.map (Site.within before behind)) := by
  obtain ⟨path, first, placed⟩ := placed
  refine ⟨path, first, fun place method declared => ?_⟩
  obtain ⟨site, found, same⟩ := placed place method declared
  exact ⟨site.within before behind, List.mem_map_of_mem found, same⟩

end Route.PlacedIn

theorem Route.placedIn_sites (route : Route) (mount : String) (offset : Nat) :
    route.PlacedIn (route.sites mount offset) := by
  refine ⟨UrlPath.join mount route.path, offset + route.pre.length, ?_⟩
  intro place method declared
  have numbered : (method, offset + route.pre.length + place) ∈
      route.methods.zipIdx (offset + route.pre.length) := by
    rw [List.mk_add_mem_zipIdx_iff_getElem?]
    exact declared
  exact ⟨_, List.mem_map_of_mem numbered, rfl, rfl, rfl⟩

/-! ## Routes of a tree -/

namespace Element

variable {sources : Sources} {visited : List Location} {inherited : List Parameter}
  {list : List Item} {elements : List Element} {methods : Entries String Value}

/-- The compilation of some items comes to a route with a mapping of methods. -/
def ReachesMethods (sources : Sources) (visited : List Location) (list : List Item)
    (methods : Entries String Value) : Prop :=
  ∃ there key config, Reaches sources (.entry key (.map config)) there visited list ∧
    classify key (.map config) = .ok .route ∧ config.lookup "methods" = some (.map methods)

/-- Every route of a compiled forest has the verbs that some keys spell which the
compilation comes to. -/
theorem exists_reachesMethods_of_mem_partsAll
    (compiled : (compileItems sources visited inherited list).outcome = .ok elements)
    {held : Route} (member : .route held ∈ partsAll elements) :
    ∃ methods, ReachesMethods sources visited list methods ∧ held.SpelledBy methods := by
  obtain ⟨there, params, key, value, reaches, found⟩ :=
    exists_reaches_of_mem_partsAll compiled member
  obtain ⟨frame, children, framed, _, same, _⟩ := exists_close_of_compileItem found
  cases frame with
  | root mount => cases same
  | imports paths outer => cases same
  | route built =>
      cases same
      obtain ⟨config, methods, rfl, lookup, _, each⟩ :=
        Route.exists_methods_of_compile (route_of_frame framed)
      exact ⟨methods, ⟨there, key, config, reaches, classify_of_frame framed, lookup⟩,
        Route.spelledBy_of_mapM each⟩

/-- Every mapping of methods that a compilation comes to is that of a route of the forest. -/
theorem ReachesMethods.exists_route (reaches : ReachesMethods sources visited list methods)
    (compiled : (compileItems sources visited inherited list).outcome = .ok elements) :
    ∃ held, .route held ∈ partsAll elements ∧ held.SpelledBy methods := by
  obtain ⟨there, key, config, reached, shape, lookup⟩ := reaches
  obtain ⟨params, built, found, parts⟩ := reached.exists_compiled compiled
  obtain ⟨frame, children, framed, _, rfl, _⟩ := exists_close_of_compileItem found
  have kind := classify_of_frame framed
  rw [shape] at kind
  cases frame with
  | root mount => cases kind
  | imports paths outer => cases kind
  | route held =>
      obtain ⟨_, declared, equal, also, _, each⟩ :=
        Route.exists_methods_of_compile (route_of_frame framed)
      cases equal
      cases Option.some.inj (lookup.symm.trans also)
      exact ⟨held, parts List.mem_cons_self, Route.spelledBy_of_mapM each⟩

/-- The routes of a compiled forest have distinct verbs each, exactly when no two keys of
methods that the compilation comes to spell the same verb. -/
theorem forall_nodup_verbs_iff
    (compiled : (compileItems sources visited inherited list).outcome = .ok elements) :
    (∀ held, .route held ∈ partsAll elements → (held.methods.map Method.verb).Nodup) ↔
      ∀ methods, ReachesMethods sources visited list methods → Route.SpellsApart methods := by
  constructor
  · intro distinct methods reaches
    obtain ⟨held, member, spelled⟩ := reaches.exists_route compiled
    exact spelled.nodup_iff.1 (distinct held member)
  · intro apart held member
    obtain ⟨methods, reaches, spelled⟩ := exists_reachesMethods_of_mem_partsAll compiled member
    exact spelled.nodup_iff.2 (apart methods reaches)

/-- The methods of a route of a forest stand at one path, one behind the other. -/
theorem placedIn_of_mem_partsAll {mount : String} {offset : Nat} {forest : List Element}
    {held : Route} (member : .route held ∈ partsAll forest) :
    held.PlacedIn (sitesAll mount offset forest) := by
  induction forest using forestInduction generalizing mount offset with
  | nil => cases member
  | root head children rest inner others =>
      rcases List.mem_append.mp member with here | later
      · rcases List.mem_cons.mp here with same | below
        · cases same
        · exact ((inner below).within _ _).mono (List.subset_append_left _ _)
      · exact (others later).mono (List.subset_append_right _ _)
  | route node rest others =>
      rcases List.mem_append.mp member with here | later
      · cases List.mem_singleton.mp here
        exact (held.placedIn_sites mount offset).mono (List.subset_append_left _ _)
      · exact (others later).mono (List.subset_append_right _ _)
  | imports sources children rest inner others =>
      rcases List.mem_append.mp member with here | later
      · rcases List.mem_cons.mp here with same | below
        · cases same
        · exact (inner below).mono (List.subset_append_left _ _)
      · exact (others later).mono (List.subset_append_right _ _)

end Element

end RoutePlan
