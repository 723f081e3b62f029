import Mathlib.Tactic.Tauto
import RoutePlan.Proofs.Tree.Declaration

/-!
# Well-formed trees

What holds of every node of a compiled tree, whatever the settings are: paths, names and
statuses have passed their checks, no list that must not be empty is, no parameter is
declared twice, and a default is one that its kind leaves as it is.

Each constructor of nodes has one lemma that says what it establishes.  The tree is then
well formed by induction on what a compilation goes through, so that the nodes of imported
documents need no argument of their own.
-/

namespace RoutePlan

/-- Something is left of a name after trimming. -/
def Named (name : String) : Prop :=
  Text.isBlankText name = false

/-- A letter, a digit or a mark of paths. -/
def IsPathLetter (c : Char) : Prop :=
  ('A' ≤ c ∧ c ≤ 'Z') ∨ ('a' ≤ c ∧ c ≤ 'z') ∨ ('0' ≤ c ∧ c ≤ '9') ∨ c ∈ ['_', '/', ':', '-']

/-- A slash, or three or more letters of paths. -/
def IsPath (path : String) : Prop :=
  path = "/" ∨ (3 ≤ path.toList.length ∧ ∀ c ∈ path.toList, IsPathLetter c)

namespace Parameter

/-- A named parameter with a default, if any, that stays as it is: null, the empty string
or what its kind accepts and does not change. -/
structure WellFormed (parameter : Parameter) : Prop where
  named : Named parameter.name
  default : ∀ value, parameter.default? = some value →
    value = .null ∨ value = .string "" ∨ parameter.kind.cast value = .ok value

/-- Well-formed parameters with distinct names. -/
structure AllWellFormed (params : List Parameter) : Prop where
  each : ∀ parameter ∈ params, parameter.WellFormed
  distinct : DistinctNames params

end Parameter

/-- A named controller with named middlewares, a status that the settings allow, and
well-formed parameters. -/
structure Method.WellFormed (settings : RouteSettings) (method : Method) : Prop where
  controller : Named method.controller
  allowed : method.status.code ∈ settings.allowedStatuses
  bounds : 100 ≤ method.status.code ∧ method.status.code ≤ 999
  params : Parameter.AllWellFormed method.params
  body : Parameter.AllWellFormed method.body
  pre : ∀ name ∈ method.pre, Named name
  post : ∀ name ∈ method.post, Named name

/-- A path, well-formed parameters and named middlewares. -/
structure MountHead.WellFormed (head : MountHead) : Prop where
  path : IsPath head.path
  params : Parameter.AllWellFormed head.params
  pre : ∀ name ∈ head.pre, Named name
  post : ∀ name ∈ head.post, Named name

/-- What a root shares with routes. -/
def Root.head (root : Root) : MountHead :=
  ⟨root.path, root.params, root.pre, root.post⟩

/-- What a route shares with roots. -/
def Route.head (route : Route) : MountHead :=
  ⟨route.path, route.params, route.pre, route.post⟩

/-- A route with at least one method. -/
structure Route.WellFormed (settings : RouteSettings) (route : Route) : Prop where
  head : route.head.WellFormed
  filled : route.methods ≠ []
  methods : ∀ method ∈ route.methods, method.WellFormed settings

/-- A root has a child and an import a source; the nodes at every depth are well formed. -/
inductive Element.WellFormed (settings : RouteSettings) : Element → Prop where
  | root {mount children} (head : mount.head.WellFormed) (filled : children ≠ [])
      (inside : ∀ child ∈ children, WellFormed settings child) :
      WellFormed settings (.root mount children)
  | route {held} (route : held.WellFormed settings) : WellFormed settings (.route held)
  | imports {paths children} (filled : paths ≠ [])
      (inside : ∀ child ∈ children, WellFormed settings child) :
      WellFormed settings (.imports paths children)

/-! ## Names, paths and statuses -/

theorem isPathLetter_of_isPathChar {c : Char} (accepted : isPathChar c = true) :
    IsPathLetter c := by
  have upper : c.isUpper = decide ('A' ≤ c ∧ c ≤ 'Z') := rfl
  have lower : c.isLower = (decide ('a' ≤ c) && decide (c ≤ 'z')) := rfl
  have digit : c.isDigit = (decide ('0' ≤ c) && decide (c ≤ '9')) := rfl
  have alphanumeric : c.isAlphanum = (c.isUpper || c.isLower || c.isDigit) := rfl
  simp only [isPathChar, alphanumeric, upper, lower, digit, Bool.or_eq_true, Bool.and_eq_true,
    decide_eq_true_eq, beq_iff_eq] at accepted
  simp only [IsPathLetter, List.mem_cons, List.not_mem_nil, or_false]
  tauto

theorem isPath_of_readPath {node : NodeName} {field path : String} {value : Option Value}
    (read : readPath node field value = .ok path) : IsPath path := by
  unfold readPath at read
  split at read
  · next text =>
      split at read
      · next accepted =>
          cases read
          simp only [isPathText, Bool.or_eq_true, beq_iff_eq, Bool.and_eq_true,
            decide_eq_true_eq, List.all_eq_true] at accepted
          exact accepted.imp_right fun ⟨long, letters⟩ =>
            ⟨long, fun c member => isPathLetter_of_isPathChar (letters c member)⟩
      · cases read
  · cases read
  · cases read

theorem named_of_readName? {value : Value} {name : String} (read : readName? value = some name) :
    Named name := by
  unfold readName? at read
  split at read
  · split at read
    · cases read
    · next filled =>
        cases read
        exact eq_false_of_ne_true filled
  · cases read

/-- The members of a list of names are names. -/
theorem named_of_mapM_readName? {items : List Value} {names : List String}
    (read : items.mapM readName? = some names) : ∀ name ∈ names, Named name := by
  induction items generalizing names with
  | nil =>
      cases read
      exact List.forall_mem_nil _
  | cons item rest ih =>
      rw [List.mapM_cons] at read
      obtain ⟨first, readFirst, read⟩ := Option.bind_eq_some_iff.1 read
      obtain ⟨others, readOthers, read⟩ := Option.bind_eq_some_iff.1 read
      cases read
      intro name member
      rcases List.mem_cons.1 member with rfl | later
      · exact named_of_readName? readFirst
      · exact ih readOthers name later

theorem named_of_readMiddlewares {node : NodeName} {field : String} {value : Option Value}
    {names : List String} (read : readMiddlewares node field value = .ok names) :
    ∀ name ∈ names, Named name := by
  unfold readMiddlewares at read
  split at read
  · cases read
    exact List.forall_mem_nil _
  · cases read
    exact List.forall_mem_nil _
  · split at read
    · next found =>
        cases read
        exact named_of_mapM_readName? found
    · cases read
  · cases read

theorem named_of_readController {verb name : String} {value : Option Value}
    (read : Method.readController verb value = .ok name) : Named name := by
  unfold Method.readController at read
  split at read
  · next found =>
      cases read
      obtain ⟨value, _, readHere⟩ := Option.bind_eq_some_iff.1 found
      exact named_of_readName? readHere
  · cases read

/-- A status that is read is one that the settings allow. -/
theorem allowed_of_readStatus {settings : RouteSettings} {verb : String} {value : Option Value}
    {status : Status} (read : Method.readStatus settings verb value = .ok status) :
    status.code ∈ settings.allowedStatuses := by
  unfold Method.readStatus at read
  obtain ⟨code, _, read⟩ := bind_eq_ok_iff.1 read
  split at read
  · next allowed =>
      split at read
      · next found =>
          cases read
          unfold Status.ofCode? at found
          split at found
          · cases found
            simpa [RouteSettings.allows] using allowed
          · cases found
      · cases read
  · cases read

/-! ## Parameters -/

namespace ParamKind

/-- What is converted to a number is one. -/
theorem exists_number_of_castNumber {value converted : Value}
    (accepted : castNumber value = .ok converted) : ∃ n, converted = .number n := by
  cases value with
  | string text =>
      unfold castNumber at accepted
      dsimp only at accepted
      split at accepted
      · cases accepted
        exact ⟨_, rfl⟩
      · cases accepted
  | list items => cases accepted
  | map entries => cases accepted
  | _ =>
      cases accepted
      exact ⟨_, rfl⟩

/-- A converted value is converted to itself. -/
theorem cast_cast {kind : ParamKind} {value converted : Value}
    (accepted : kind.cast value = .ok converted) : kind.cast converted = .ok converted := by
  cases kind with
  | number =>
      obtain ⟨n, rfl⟩ := exists_number_of_castNumber accepted
      rfl
  | string =>
      cases accepted
      rfl
  | boolean =>
      cases accepted
      rfl
  | object => rfl
  | mail =>
      unfold cast at accepted ⊢
      dsimp only at accepted ⊢
      split at accepted
      · next address =>
          cases accepted
          rw [if_pos address]
      · cases accepted

end ParamKind

namespace Parameter

variable {node : NodeName} {field name : String} {kind : ParamKind}

theorem castDefault_eq_ok {value converted : Value}
    (read : castDefault name kind value = .ok converted) :
    converted = .null ∨ converted = .string "" ∨ kind.cast converted = .ok converted := by
  unfold castDefault at read
  split at read
  · cases read
    exact .inl rfl
  · cases read
    exact .inr (.inl rfl)
  · split at read
    · next accepted =>
        cases read
        exact .inr (.inr (ParamKind.cast_cast accepted))
    · cases read

/-- A declared parameter is well formed. -/
theorem wellFormed_of_declare {declaration : Value} {parameter : Parameter}
    (declared : (declare name declaration).outcome = .ok parameter) : parameter.WellFormed := by
  obtain ⟨sameName, filled⟩ := declare_name declared
  refine ⟨sameName ▸ filled, ?_⟩
  unfold declare at declared
  rw [if_neg (by simp [filled])] at declared
  split at declared
  · cases declared
  · obtain ⟨kind, _, built⟩ := Checked.bind_outcome_eq_ok_iff.1 declared
    cases built
    exact fun _ none => nomatch none
  · obtain ⟨_, _, unwarned⟩ := Checked.bind_outcome_eq_ok_iff.1 declared
    obtain ⟨kind, _, withDefault⟩ := Checked.bind_outcome_eq_ok_iff.1 unwarned
    obtain ⟨default?, read, built⟩ := Checked.bind_outcome_eq_ok_iff.1 withDefault
    cases built
    rintro value rfl
    unfold defaultField at read
    split at read
    · cases read
    · obtain ⟨converted, kept, same⟩ := map_eq_ok_iff.1 read
      cases same
      exact castDefault_eq_ok kept
  · cases declared

theorem AllWellFormed.nil : AllWellFormed [] :=
  ⟨List.forall_mem_nil _, List.nodup_nil⟩

/-- The parameters of a mapping are well formed when its keys are distinct. -/
theorem allWellFormed_of_declareAll {config : Entries String Value} {own : List Parameter}
    (distinct : Entries.HaveDistinctKeys config)
    (declared : (declareAll node field (config.lookup field)).outcome = .ok own) :
    AllWellFormed own := by
  constructor
  · intro parameter member
    obtain ⟨name, declaration, found⟩ := exists_declare_of_mem_declareAll declared member
    exact wellFormed_of_declare found
  · exact distinctNames_of_declareAll declared fun _ found => (distinct.of_lookup found).distinct

/-- Well-formed parameters that are inherited stay so. -/
theorem AllWellFormed.inherit {inherited own merged : List Parameter}
    (outer : AllWellFormed inherited) (inner : AllWellFormed own)
    (accepted : Parameter.inherit node inherited own = .ok merged) : AllWellFormed merged := by
  obtain ⟨rfl, distinct, apart⟩ := inherit_eq_ok_iff.1 accepted
  constructor
  · exact List.forall_mem_append.2 ⟨outer.each, inner.each⟩
  · exact distinctNames_append_iff.2 ⟨outer.distinct, distinct, apart⟩

end Parameter

/-! ## Methods and routes -/

variable {settings : RouteSettings} {inherited : List Parameter}

theorem MountHead.wellFormed_of_compile {node : NodeName} {pathField : String}
    {recognized : List String} {config : Entries String Value} {head : MountHead}
    (outer : Parameter.AllWellFormed inherited) (distinct : Entries.HaveDistinctKeys config)
    (compiled : (compile node pathField recognized inherited config).outcome = .ok head) :
    head.WellFormed := by
  unfold compile at compiled
  obtain ⟨_, _, compiled⟩ := Checked.bind_outcome_eq_ok_iff.1 compiled
  obtain ⟨pre, preRead, compiled⟩ := Checked.bind_outcome_eq_ok_iff.1 compiled
  obtain ⟨post, postRead, compiled⟩ := Checked.bind_outcome_eq_ok_iff.1 compiled
  obtain ⟨path, pathRead, compiled⟩ := Checked.bind_outcome_eq_ok_iff.1 compiled
  obtain ⟨own, declared, compiled⟩ := Checked.bind_outcome_eq_ok_iff.1 compiled
  obtain ⟨merged, accepted, compiled⟩ := Checked.bind_outcome_eq_ok_iff.1 compiled
  cases compiled
  constructor
  · exact isPath_of_readPath pathRead
  · exact outer.inherit (Parameter.allWellFormed_of_declareAll distinct declared) accepted
  · exact named_of_readMiddlewares preRead
  · exact named_of_readMiddlewares postRead

/-- The mapping of a method has distinct keys, also when only a controller is named. -/
theorem Method.haveDistinctKeys_of_requireConfig {verb : String} {value : Value}
    {config : Entries String Value} (distinct : value.HasDistinctKeys)
    (read : requireConfig verb value = .ok config) : Entries.HaveDistinctKeys config := by
  unfold requireConfig at read
  split at read
  · cases read
  · cases read
    simp [Entries.haveDistinctKeys_iff, Entries.keys, Value.HasDistinctKeys.string]
  · cases read
    exact Value.hasDistinctKeys_map_iff.1 distinct
  · cases read

theorem Method.wellFormed_of_compile {verbName : String} {value : Value} {method : Method}
    (outer : Parameter.AllWellFormed inherited) (distinct : value.HasDistinctKeys)
    (compiled : (compile settings inherited verbName value).outcome = .ok method) :
    method.WellFormed settings := by
  unfold compile at compiled
  cases parsed : Verb.parse? verbName with
  | none =>
      rw [parsed] at compiled
      cases compiled
  | some verb =>
      rw [parsed] at compiled
      obtain ⟨_, _, compiled⟩ := Checked.bind_outcome_eq_ok_iff.1 compiled
      obtain ⟨config, configRead, compiled⟩ := Checked.bind_outcome_eq_ok_iff.1 compiled
      obtain ⟨_, _, compiled⟩ := Checked.bind_outcome_eq_ok_iff.1 compiled
      obtain ⟨controller, controllerRead, compiled⟩ := Checked.bind_outcome_eq_ok_iff.1 compiled
      obtain ⟨status, statusRead, compiled⟩ := Checked.bind_outcome_eq_ok_iff.1 compiled
      obtain ⟨body, declared, compiled⟩ := Checked.bind_outcome_eq_ok_iff.1 compiled
      obtain ⟨pre, preRead, compiled⟩ := Checked.bind_outcome_eq_ok_iff.1 compiled
      obtain ⟨post, postRead, compiled⟩ := Checked.bind_outcome_eq_ok_iff.1 compiled
      cases compiled
      have keys := haveDistinctKeys_of_requireConfig distinct configRead
      constructor
      · exact named_of_readController controllerRead
      · exact allowed_of_readStatus statusRead
      · exact status.valid
      · exact outer
      · exact Parameter.allWellFormed_of_declareAll keys declared
      · exact named_of_readMiddlewares preRead
      · exact named_of_readMiddlewares postRead

namespace Route

theorem methods_of_compileMethods {name : String} {config : Entries String Value}
    {methods : List Method} (outer : Parameter.AllWellFormed inherited)
    (distinct : Entries.HaveDistinctKeys config)
    (compiled : (compileMethods settings name inherited (config.lookup "methods")).outcome =
      .ok methods) :
    methods ≠ [] ∧ ∀ method ∈ methods, method.WellFormed settings := by
  unfold compileMethods at compiled
  split at compiled
  · cases compiled
  · cases compiled
  · cases compiled
  · next entries filled found =>
      rw [Checked.outcome_traverse] at compiled
      have keys := distinct.of_lookup found
      constructor
      · rintro rfl
        cases mapM_eq_ok_iff.1 compiled
        exact filled rfl
      · intro method member
        obtain ⟨entry, declared, built⟩ := exists_item_of_mapM_eq_ok compiled member
        exact Method.wellFormed_of_compile outer (keys.inside entry declared) built
  · cases compiled

theorem wellFormed_of_compile {name : String} {value : Value} {route : Route}
    (outer : Parameter.AllWellFormed inherited) (distinct : value.HasDistinctKeys)
    (compiled : (compile settings inherited name value).outcome = .ok route) :
    route.WellFormed settings := by
  unfold compile at compiled
  obtain ⟨config, configRead, compiled⟩ := Checked.bind_outcome_eq_ok_iff.1 compiled
  obtain ⟨head, headBuilt, compiled⟩ := Checked.bind_outcome_eq_ok_iff.1 compiled
  obtain ⟨methods, methodsBuilt, compiled⟩ := Checked.bind_outcome_eq_ok_iff.1 compiled
  cases compiled
  have keys : Entries.HaveDistinctKeys config := by
    unfold requireMapping at configRead
    split at configRead
    · cases configRead
      exact Value.hasDistinctKeys_map_iff.1 distinct
    · cases configRead
    · cases configRead
  have formed := MountHead.wellFormed_of_compile outer keys headBuilt
  obtain ⟨filled, each⟩ := methods_of_compileMethods formed.params keys methodsBuilt
  exact ⟨formed, filled, each⟩

end Route

/-! ## Elements -/

namespace Element

/-- An import names at least one file. -/
theorem importNames_ne_nil {value : Value} {names : List String}
    (named : importNames value = .ok names) : names ≠ [] := by
  unfold importNames at named
  split at named
  · cases named
  · cases named
    exact List.cons_ne_nil _ _
  · cases named
  · next items filled =>
      split at named
      · next found =>
          cases named
          rintro rfl
          cases items with
          | nil => exact filled rfl
          | cons item rest =>
              rw [List.mapM_cons] at found
              obtain ⟨_, _, found⟩ := Option.bind_eq_some_iff.1 found
              obtain ⟨_, _, found⟩ := Option.bind_eq_some_iff.1 found
              cases found
      · cases named
  · cases named

variable {sources : Sources} {visited : List Location} {key : String} {value : Value}

/-- What is inside an entry has distinct keys. -/
theorem inside_haveDistinctKeys (distinct : value.HasDistinctKeys) :
    ∀ item ∈ inside key value, item.HasDistinctKeys := by
  unfold inside
  split
  · split
    · exact List.forall_mem_map.2 fun _ _ => trivial
    · exact List.forall_mem_nil _
  · split
    · next entries found =>
        cases value with
        | map config =>
            have keys := Value.hasDistinctKeys_map_iff.1 distinct
            exact items_haveDistinctKeys (keys.of_lookup found)
        | _ => cases found
    · exact List.forall_mem_nil _
  · exact List.forall_mem_nil _

/-- The nodes that a frame holds itself. -/
def Frame.WellFormed (settings : RouteSettings) : Frame → Prop
  | .root mount => mount.head.WellFormed
  | .route held => held.WellFormed settings
  | .imports paths inherited => paths ≠ [] ∧ Parameter.AllWellFormed inherited

/-- The parameters that a well-formed frame hands on are well formed. -/
theorem Frame.WellFormed.params {held : Frame} (formed : held.WellFormed settings) :
    Parameter.AllWellFormed held.params := by
  cases held with
  | root mount => exact MountHead.WellFormed.params formed
  | route held => exact (Route.WellFormed.head formed).params
  | imports paths inherited => exact formed.2

/-- What an entry holds apart from what is inside is well formed. -/
theorem frame_wellFormed {held : Frame} (outer : Parameter.AllWellFormed inherited)
    (distinct : value.HasDistinctKeys)
    (framed : (frame sources inherited key value).outcome = .ok held) :
    held.WellFormed sources.settings := by
  cases frameOf_of_frame framed with
  | imports _ named => exact ⟨by simpa using importNames_ne_nil named, outer⟩
  | route _ compiled => exact Route.wellFormed_of_compile outer distinct compiled
  | root _ compiled _ =>
      have keys := Value.hasDistinctKeys_map_iff.1 distinct
      exact MountHead.wellFormed_of_compile outer keys compiled

/-- A frame closed around well-formed elements is well formed. -/
theorem Frame.WellFormed.close {held : Frame} {children : List Element}
    (formed : held.WellFormed settings)
    (filled : ∀ mount, held = .root mount → children ≠ [])
    (inside : ∀ child ∈ children, child.WellFormed settings) :
    (held.close children).WellFormed settings := by
  cases held with
  | root mount => exact .root formed (filled mount rfl) inside
  | route held => exact .route formed
  | imports paths inherited => exact .imports formed.1 inside

/-- What compiles is well formed. -/
theorem wellFormed_of_compileItems {list : List Item} {elements : List Element}
    (outer : Parameter.AllWellFormed inherited)
    (distinct : ∀ item ∈ list, item.HasDistinctKeys)
    (compiled : (compileItems sources visited inherited list).outcome = .ok elements) :
    ∀ element ∈ elements, element.WellFormed sources.settings := by
  induction visited, list using insideInduction sources generalizing inherited elements with
  | nil visited =>
      cases compiled
      exact List.forall_mem_nil _
  | entry visited key value rest insideIH restIH =>
      obtain ⟨own, others⟩ := List.forall_mem_cons.1 distinct
      rw [compileItems_cons, compileItem_entry] at compiled
      obtain ⟨first, built, compiled⟩ := Checked.bind_outcome_eq_ok_iff.1 compiled
      obtain ⟨later, after, compiled⟩ := Checked.bind_outcome_eq_ok_iff.1 compiled
      obtain ⟨held, framed, built⟩ := Checked.bind_outcome_eq_ok_iff.1 built
      obtain ⟨children, below, built⟩ := Checked.bind_outcome_eq_ok_iff.1 built
      cases built
      cases compiled
      have formed := frame_wellFormed outer own framed
      have within := insideIH formed.params (inside_haveDistinctKeys own) below
      refine List.forall_mem_append.2 ⟨List.forall_mem_singleton.2 ?_, restIH outer others after⟩
      exact formed.close (fun mount root => children_ne_nil_of_root (root ▸ framed) below) within
  | file visited name rest holdsIH restIH =>
      obtain ⟨_, others⟩ := List.forall_mem_cons.1 distinct
      rw [compileItems_cons] at compiled
      obtain ⟨first, built, compiled⟩ := Checked.bind_outcome_eq_ok_iff.1 compiled
      obtain ⟨later, after, compiled⟩ := Checked.bind_outcome_eq_ok_iff.1 compiled
      cases compiled
      obtain ⟨entries, holds⟩ := exists_holds_of_compileItem built
      rw [holds.compileItem] at built
      have document := items_haveDistinctKeys holds.haveDistinctKeys
      exact List.forall_mem_append.2
        ⟨holdsIH entries holds _ outer document built, restIH outer others after⟩

end Element

end RoutePlan
