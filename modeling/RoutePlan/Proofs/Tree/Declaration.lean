import RoutePlan.Proofs.DistinctKeys
import RoutePlan.Proofs.Parameter
import RoutePlan.Proofs.Tree.Items

/-!
# Declarations of parameters

`Declares` reads from a configuration which roots and routes it describes, with
the parameters that each declares itself and those that its enclosing roots
declare.  It asks for every check of a compilation but one: whether a node declares
a parameter of an enclosing root again.

So a configuration that compiles describes its nodes (`exists_declares`), and one
that describes nodes compiles to them unless the check fails at one of them
(`nodes_of_declares`).
-/

namespace RoutePlan

/-- A root or a route of a compiled forest.  A root has no methods. -/
structure Node where
  name : NodeName
  params : List Parameter
  methods : List Method

/-- A root or a route of a configuration: the parameters that its enclosing roots
declare, outermost first, its own, and its methods apart from their path
parameters. -/
structure Declaration where
  name : NodeName
  enclosing : List (List Parameter)
  own : List Parameter
  methods : List Method

namespace Declaration

/-- The parameters of the enclosing roots in order, then the own ones. -/
def params (declaration : Declaration) : List Parameter :=
  declaration.enclosing.flatten ++ declaration.own

/-- The node with exactly these parameters, which its methods share. -/
def node (declaration : Declaration) : Node where
  name := declaration.name
  params := declaration.params
  methods := declaration.methods.map ({ · with params := declaration.params })

/-- An own parameter has the name of one that an enclosing root declares. -/
def Redeclares (declaration : Declaration) : Prop :=
  Parameter.Clash declaration.own declaration.enclosing.flatten

/-- The one check that `Declares` does not ask for. -/
def check (declaration : Declaration) : Except PlanError Node :=
  (fun params => ⟨declaration.name, params, declaration.methods.map ({ · with params })⟩) <$>
    Parameter.inherit declaration.name declaration.enclosing.flatten declaration.own

end Declaration

namespace Element

mutual

/-- The roots and routes of an element, each before what it encloses. -/
def nodes : Element → List Node
  | .root mount children => ⟨⟨.root, mount.name⟩, mount.params, []⟩ :: nodesAll children
  | .route held => [⟨⟨.route, held.name⟩, held.params, held.methods⟩]
  | .imports _ children => nodesAll children

/-- The roots and routes of a forest. -/
def nodesAll : List Element → List Node
  | [] => []
  | element :: rest => nodes element ++ nodesAll rest

end

end Element

theorem Element.nodesAll_append (first second : List Element) :
    nodesAll (first ++ second) = nodesAll first ++ nodesAll second := by
  induction first with
  | nil => rfl
  | cons element rest ih => simp only [List.cons_append, nodesAll, ih, List.append_assoc]

/-- The checks of the fields that roots and routes share, with the parameters that
they declare. -/
structure MountHead.Declares (node : NodeName) (pathField : String)
    (config : Entries String Value) (own : List Parameter) : Prop where
  pre : ∃ names,
    readMiddlewares node "pre_middlewares" (config.lookup "pre_middlewares") = .ok names
  post : ∃ names,
    readMiddlewares node "post_middlewares" (config.lookup "post_middlewares") = .ok names
  path : ∃ path, readPath node pathField (config.lookup pathField) = .ok path
  own : (Parameter.declareAll node "params" (config.lookup "params")).outcome = .ok own

namespace Element

/-- The nodes that some entries and files describe, in the order of the
configuration, when they are enclosed by roots with the given parameters and the
files at the visited locations are being imported. -/
inductive Declares (sources : Sources) :
    List Location → List (List Parameter) → List Item → List Declaration → Prop where
  | nil {visited enclosing} : Declares sources visited enclosing [] []
  | root {visited enclosing key config own entry entries rest below beside}
      (shape : classify key (.map config) = .ok .root)
      (head : MountHead.Declares ⟨.root, key⟩ "root" config own)
      (routes : config.lookup "routes" = some (.map (entry :: entries)))
      (inside : Declares sources visited (enclosing ++ [own]) (items (entry :: entries)) below)
      (after : Declares sources visited enclosing rest beside) :
      Declares sources visited enclosing (.entry key (.map config) :: rest)
        (⟨⟨.root, key⟩, enclosing, own, []⟩ :: below ++ beside)
  | route {visited enclosing key config own methods rest beside}
      (shape : classify key (.map config) = .ok .route)
      (head : MountHead.Declares ⟨.route, key⟩ "path" config own)
      (verbs : (Route.compileMethods sources.settings key [] (config.lookup "methods")).outcome =
        .ok methods)
      (after : Declares sources visited enclosing rest beside) :
      Declares sources visited enclosing (.entry key (.map config) :: rest)
        (⟨⟨.route, key⟩, enclosing, own, methods⟩ :: beside)
  | imports {visited enclosing key value names rest below beside}
      (shape : classify key value = .ok .imports)
      (named : importNames value = .ok names)
      (inside : Declares sources visited enclosing (names.map .file) below)
      (after : Declares sources visited enclosing rest beside) :
      Declares sources visited enclosing (.entry key value :: rest) (below ++ beside)
  | file {visited enclosing name entries rest below beside}
      (holds : sources.Holds visited name entries)
      (inside : Declares sources (visited ++ [sources.location name]) enclosing (items entries)
        below)
      (after : Declares sources visited enclosing rest beside) :
      Declares sources visited enclosing (.file name :: rest) (below ++ beside)

/-! ## What the compilation of an item yields -/

/-- The nodes of what an item compiles to. -/
def itemNodes (sources : Sources) (visited : List Location) (inherited : List Parameter) :
    Item → Except PlanError (List Node)
  | .entry key value =>
      nodes <$> (compile sources.settings (importer sources visited) inherited key value).outcome
  | .file name =>
      (nodesAll ·.2) <$> (importFile sources visited inherited name).outcome

/-- The nodes of what some items compile to. -/
def itemsNodes (sources : Sources) (visited : List Location) (inherited : List Parameter)
    (list : List Item) : Except PlanError (List Node) :=
  List.flatten <$> list.mapM (itemNodes sources visited inherited)

theorem itemsNodes_cons (sources : Sources) (visited : List Location) (inherited : List Parameter)
    (item : Item) (rest : List Item) : itemsNodes sources visited inherited (item :: rest) = do
      let first ← itemNodes sources visited inherited item
      let others ← itemsNodes sources visited inherited rest
      return first ++ others := by
  simp [itemsNodes, List.mapM_cons]

/-- The nodes of an item are those of its elements. -/
theorem itemNodes_eq (sources : Sources) (visited : List Location) (inherited : List Parameter)
    (item : Item) : itemNodes sources visited inherited item =
      nodesAll <$> (compileItem sources visited inherited item).outcome := by
  cases item with
  | entry key value =>
      rw [itemNodes, compileItem, Checked.outcome_map, Functor.map_map]
      simp [nodesAll]
  | file name => rw [itemNodes, compileItem, Checked.outcome_map, Functor.map_map]

theorem itemsNodes_eq (sources : Sources) (visited : List Location) (inherited : List Parameter)
    (list : List Item) : itemsNodes sources visited inherited list =
      nodesAll <$> (compileItems sources visited inherited list).outcome := by
  induction list with
  | nil => rfl
  | cons item rest ih =>
      rw [itemsNodes_cons, compileItems_cons, itemNodes_eq, ih]
      simp only [Checked.outcome_bind]
      cases (compileItem sources visited inherited item).outcome with
      | error error => rfl
      | ok first =>
          cases (compileItems sources visited inherited rest).outcome with
          | error error => rfl
          | ok others => exact congrArg Except.ok (nodesAll_append first others).symm

theorem nodesAll_compileDocument (sources : Sources) (visited : List Location)
    (inherited : List Parameter) (entries : Entries String Value) :
    nodesAll <$> (compileDocument sources visited inherited entries).outcome =
      itemsNodes sources visited inherited (items entries) := by
  rw [compileDocument_eq_compileItems, itemsNodes_eq]

end Element

/-! ## Methods and shared fields -/

/-- The path parameters of a method are those that it is given. -/
theorem Method.compile_params (settings : RouteSettings) (params : List Parameter)
    (verbName : String) (value : Value) :
    Method.compile settings params verbName value =
      ({ · with params }) <$> Method.compile settings [] verbName value := by
  unfold Method.compile
  cases Verb.parse? verbName with
  | none => rfl
  | some verb => simp only [map_bind, map_pure]

theorem Route.compileMethods_params (settings : RouteSettings) (name : String)
    (params : List Parameter) (field : Option Value) :
    Route.compileMethods settings name params field =
      List.map ({ · with params }) <$> Route.compileMethods settings name [] field := by
  unfold Route.compileMethods
  split
  · rfl
  · rfl
  · rfl
  · next methods _ =>
      have each : (fun entry : String × Value => Method.compile settings params entry.1 entry.2) =
          fun entry => ({ · with params }) <$> Method.compile settings [] entry.1 entry.2 :=
        funext fun entry => Method.compile_params settings params entry.1 entry.2
      rw [each, Checked.traverse_map]
  · rfl

namespace MountHead

variable {node : NodeName} {pathField : String} {inherited own : List Parameter}
  {config : Entries String Value}

/-- What is left of the shared fields is whether the parameters are inherited. -/
theorem Declares.params_compile (recognized : List String)
    (declares : Declares node pathField config own) :
    MountHead.params <$> (compile node pathField recognized inherited config).outcome =
      Parameter.inherit node inherited own := by
  obtain ⟨⟨pre, preRead⟩, ⟨post, postRead⟩, ⟨path, pathRead⟩, declared⟩ := declares
  simp only [compile, Checked.outcome_bind, Checked.outcome_warn, Checked.outcome_ofExcept,
    preRead, postRead, pathRead, declared, ok_bind]
  cases Parameter.inherit node inherited own <;> rfl

theorem exists_declares_of_compile {recognized : List String} {head : MountHead}
    (compiled : (compile node pathField recognized inherited config).outcome = .ok head) :
    ∃ own, Declares node pathField config own := by
  unfold compile at compiled
  obtain ⟨_, _, compiled⟩ := Checked.bind_outcome_eq_ok_iff.1 compiled
  obtain ⟨pre, preRead, compiled⟩ := Checked.bind_outcome_eq_ok_iff.1 compiled
  obtain ⟨post, postRead, compiled⟩ := Checked.bind_outcome_eq_ok_iff.1 compiled
  obtain ⟨path, pathRead, compiled⟩ := Checked.bind_outcome_eq_ok_iff.1 compiled
  obtain ⟨own, declared, compiled⟩ := Checked.bind_outcome_eq_ok_iff.1 compiled
  exact ⟨own, ⟨pre, preRead⟩, ⟨post, postRead⟩, ⟨path, pathRead⟩, declared⟩

theorem Declares.distinctNames (declares : Declares node pathField config own)
    (distinct : Entries.HaveDistinctKeys config) : Parameter.DistinctNames own :=
  Parameter.distinctNames_of_declareAll declares.own fun _ found =>
    (distinct.of_lookup found).distinct

end MountHead

namespace Element

variable {sources : Sources} {visited : List Location} {inherited own : List Parameter}
  {key name : String}

theorem itemNodes_root {config entries : Entries String Value} {entry : String × Value}
    (shape : classify key (.map config) = .ok .root)
    (head : MountHead.Declares ⟨.root, key⟩ "root" config own)
    (routes : config.lookup "routes" = some (.map (entry :: entries))) :
    itemNodes sources visited inherited (.entry key (.map config)) = do
      let params ← Parameter.inherit ⟨.root, key⟩ inherited own
      let below ← itemsNodes sources visited params (items (entry :: entries))
      return ⟨⟨.root, key⟩, params, []⟩ :: below := by
  rw [itemNodes, compile_root shape routes, ← head.params_compile Root.recognizedKeys]
  simp only [Checked.outcome_bind, ← compileDocument_eq, ← nodesAll_compileDocument, map_bind,
    bind_map_left]
  rfl

theorem itemNodes_route {config : Entries String Value} {methods : List Method}
    (shape : classify key (.map config) = .ok .route)
    (head : MountHead.Declares ⟨.route, key⟩ "path" config own)
    (verbs : (Route.compileMethods sources.settings key [] (config.lookup "methods")).outcome =
      .ok methods) :
    itemNodes sources visited inherited (.entry key (.map config)) =
      (fun params => [⟨⟨.route, key⟩, params, methods.map ({ · with params })⟩]) <$>
        Parameter.inherit ⟨.route, key⟩ inherited own := by
  rw [itemNodes, compile_route shape, Route.compile, ← head.params_compile Route.recognizedKeys]
  simp only [Checked.outcome_map, Checked.outcome_bind, Checked.outcome_ofExcept, requireMapping,
    ok_bind, Route.compileMethods_params _ _ (MountHead.params _), verbs]
  simp only [map_bind, Functor.map_map]
  rw [← bind_pure_comp]
  rfl

theorem itemNodes_imports {value : Value} {names : List String}
    (shape : classify key value = .ok .imports) (named : importNames value = .ok names) :
    itemNodes sources visited inherited (.entry key value) =
      itemsNodes sources visited inherited (names.map .file) := by
  rw [itemNodes_eq, compileItem_imports shape named, Checked.outcome_map, Functor.map_map,
    itemsNodes_eq]
  simp [nodesAll, nodes]

theorem itemNodes_file {entries : Entries String Value}
    (holds : sources.Holds visited name entries) :
    itemNodes sources visited inherited (.file name) =
      itemsNodes sources (visited ++ [sources.location name]) inherited (items entries) := by
  rw [itemNodes_eq, holds.compileItem, itemsNodes_eq]

/-! ## A configuration and its nodes -/

variable {enclosing : List (List Parameter)} {list : List Item} {declarations : List Declaration}

/-- A configuration compiles to the nodes that it describes, up to the first one
that does not pass the check. -/
theorem itemsNodes_of_declares (declares : Declares sources visited enclosing list declarations) :
    itemsNodes sources visited enclosing.flatten list =
      declarations.mapM Declaration.check := by
  induction declares with
  | nil => rfl
  | @root visited enclosing key config own entry entries rest below beside shape head routes inside
      after insideIH afterIH =>
      rw [itemsNodes_cons, itemNodes_root shape head routes, afterIH, List.mapM_append,
        List.mapM_cons, Declaration.check]
      cases accepted : Parameter.inherit ⟨.root, key⟩ enclosing.flatten own with
      | error error => rfl
      | ok params =>
          obtain ⟨rfl, _⟩ := Parameter.inherit_eq_ok_iff.1 accepted
          rw [List.flatten_append, List.flatten_singleton] at insideIH
          simp only [ok_bind, insideIH]
          simp
  | route shape head verbs after afterIH =>
      rw [itemsNodes_cons, itemNodes_route shape head verbs, afterIH, List.mapM_cons,
        Declaration.check]
      simp
  | imports shape named inside after insideIH afterIH =>
      rw [itemsNodes_cons, itemNodes_imports shape named, insideIH, afterIH, List.mapM_append]
  | file holds inside after insideIH afterIH =>
      rw [itemsNodes_cons, itemNodes_file holds, insideIH, afterIH, List.mapM_append]

/-- A route that compiles passes the checks of its fields and of its methods. -/
theorem exists_route_of_itemNodes {value : Value} {nodes : List Node}
    (shape : classify key value = .ok .route)
    (compiled : itemNodes sources visited inherited (.entry key value) = .ok nodes) :
    ∃ config own methods, value = .map config ∧
      MountHead.Declares ⟨.route, key⟩ "path" config own ∧
      (Route.compileMethods sources.settings key [] (config.lookup "methods")).outcome =
        .ok methods := by
  rw [itemNodes, compile_route shape, Checked.outcome_map] at compiled
  obtain ⟨element, compiled, _⟩ := map_eq_ok_iff.1 compiled
  obtain ⟨route, compiled, _⟩ := map_eq_ok_iff.1 compiled
  obtain ⟨config, mapping, compiled⟩ := Checked.bind_outcome_eq_ok_iff.1 compiled
  obtain ⟨head, fields, compiled⟩ := Checked.bind_outcome_eq_ok_iff.1 compiled
  obtain ⟨methods, verbs, _⟩ := Checked.bind_outcome_eq_ok_iff.1 compiled
  obtain ⟨own, declares⟩ := MountHead.exists_declares_of_compile fields
  rw [Route.compileMethods_params, Checked.outcome_map] at verbs
  obtain ⟨bare, verbs, _⟩ := map_eq_ok_iff.1 verbs
  cases value with
  | map entries =>
      cases mapping
      exact ⟨config, own, bare, rfl, declares, verbs⟩
  | _ => cases mapping

/-- A root that compiles passes the checks of its fields and encloses entries. -/
theorem exists_root_of_itemNodes {value : Value} {nodes : List Node}
    (shape : classify key value = .ok .root)
    (compiled : itemNodes sources visited inherited (.entry key value) = .ok nodes) :
    ∃ config own entry entries, value = .map config ∧
      MountHead.Declares ⟨.root, key⟩ "root" config own ∧
      config.lookup "routes" = some (.map (entry :: entries)) := by
  rw [itemNodes] at compiled
  obtain ⟨element, compiled, _⟩ := map_eq_ok_iff.1 compiled
  obtain ⟨config, entry, entries, rfl, routes⟩ := exists_routes_of_compile shape compiled
  rw [compile_root shape routes] at compiled
  obtain ⟨head, fields, _⟩ := Checked.bind_outcome_eq_ok_iff.1 compiled
  obtain ⟨own, declares⟩ := MountHead.exists_declares_of_compile fields
  exact ⟨config, own, entry, entries, rfl, declares, routes⟩

/-- A configuration that compiles describes nodes. -/
theorem exists_declares {nodes : List Node}
    (compiled : itemsNodes sources visited enclosing.flatten list = .ok nodes) :
    ∃ declarations, Declares sources visited enclosing list declarations := by
  induction visited, list using itemInduction sources generalizing enclosing nodes with
  | nil visited => exact ⟨[], .nil⟩
  | entry visited key value rest rootIH filesIH restIH =>
      rw [itemsNodes_cons] at compiled
      obtain ⟨firstNodes, first, compiled⟩ := bind_eq_ok_iff.1 compiled
      obtain ⟨otherNodes, others, _⟩ := bind_eq_ok_iff.1 compiled
      obtain ⟨beside, after⟩ := restIH others
      cases shape : classify key value with
      | error error =>
          rw [itemNodes, compile_error shape] at first
          cases first
      | ok kind =>
        cases kind with
        | imports =>
            have named := first
            rw [itemNodes, compile_imports shape, importer, Checked.outcome_bind] at named
            obtain ⟨_, named, _⟩ := map_eq_ok_iff.1 named
            obtain ⟨names, named, _⟩ := bind_eq_ok_iff.1 named
            rw [itemNodes_imports shape named] at first
            obtain ⟨below, inside⟩ := filesIH names first
            exact ⟨_, .imports shape named inside after⟩
        | route =>
            obtain ⟨config, own, methods, rfl, head, verbs⟩ :=
              exists_route_of_itemNodes shape first
            exact ⟨_, .route shape head verbs after⟩
        | root =>
            obtain ⟨config, own, entry, entries, rfl, head, routes⟩ :=
              exists_root_of_itemNodes shape first
            rw [itemNodes_root shape head routes] at first
            obtain ⟨params, accepted, first⟩ := bind_eq_ok_iff.1 first
            obtain ⟨belowNodes, compiledBelow, _⟩ := bind_eq_ok_iff.1 first
            obtain ⟨rfl, _⟩ := Parameter.inherit_eq_ok_iff.1 accepted
            rw [← List.flatten_concat] at compiledBelow
            obtain ⟨below, inside⟩ := rootIH config _ rfl routes compiledBelow
            exact ⟨_, .root shape head routes inside after⟩
  | file visited name rest insideIH restIH =>
      rw [itemsNodes_cons] at compiled
      obtain ⟨firstNodes, first, compiled⟩ := bind_eq_ok_iff.1 compiled
      obtain ⟨otherNodes, others, _⟩ := bind_eq_ok_iff.1 compiled
      obtain ⟨beside, after⟩ := restIH others
      have imported := first
      rw [itemNodes] at imported
      obtain ⟨_, imported, _⟩ := map_eq_ok_iff.1 imported
      obtain ⟨entries, holds⟩ := exists_holds_of_importFile imported
      rw [itemNodes_file holds] at first
      obtain ⟨below, inside⟩ := insideIH entries holds _ first
      exact ⟨_, .file holds inside after⟩

/-! ## Distinct names -/

/-- The values of entries have distinct keys; files are read, and have them. -/
def Item.HasDistinctKeys : Item → Prop
  | .entry _ value => value.HasDistinctKeys
  | .file _ => True

theorem items_haveDistinctKeys {entries : Entries String Value}
    (distinct : Entries.HaveDistinctKeys entries) :
    ∀ item ∈ items entries, item.HasDistinctKeys := by
  intro item member
  obtain ⟨entry, held, rfl⟩ := List.mem_map.1 member
  exact distinct.inside entry held

/-- The document of a file has distinct keys. -/
theorem Sources.Holds.haveDistinctKeys {entries : Entries String Value}
    (holds : sources.Holds visited name entries) : Entries.HaveDistinctKeys entries := by
  obtain ⟨octets, _, held⟩ := holds.readable
  unfold fileEntries at held
  split at held
  · cases held
  · next text _ =>
      obtain ⟨document, read, held⟩ := bind_eq_ok_iff.1 held
      cases document with
      | map inner =>
          cases held
          exact Value.hasDistinctKeys_map_iff.1 (Document.hasDistinctKeys_of_read read)
      | _ => cases held

/-- No node declares a parameter twice itself. -/
theorem Declares.distinctNames_own
    (declares : Declares sources visited enclosing list declarations)
    (distinct : ∀ item ∈ list, item.HasDistinctKeys) :
    ∀ declaration ∈ declarations, Parameter.DistinctNames declaration.own := by
  induction declares with
  | nil => exact fun _ member => nomatch member
  | root shape head routes inside after insideIH afterIH =>
      obtain ⟨value, others⟩ := List.forall_mem_cons.1 distinct
      have keys := Value.hasDistinctKeys_map_iff.1 value
      have entries := items_haveDistinctKeys (keys.of_lookup routes)
      exact List.forall_mem_append.2
        ⟨List.forall_mem_cons.2 ⟨head.distinctNames keys, insideIH entries⟩, afterIH others⟩
  | route shape head verbs after afterIH =>
      obtain ⟨value, others⟩ := List.forall_mem_cons.1 distinct
      have keys := Value.hasDistinctKeys_map_iff.1 value
      exact List.forall_mem_cons.2 ⟨head.distinctNames keys, afterIH others⟩
  | imports shape named inside after insideIH afterIH =>
      obtain ⟨_, others⟩ := List.forall_mem_cons.1 distinct
      exact List.forall_mem_append.2
        ⟨insideIH (List.forall_mem_map.2 fun _ _ => trivial), afterIH others⟩
  | file holds inside after insideIH afterIH =>
      obtain ⟨_, others⟩ := List.forall_mem_cons.1 distinct
      have entries := items_haveDistinctKeys holds.haveDistinctKeys
      exact List.forall_mem_append.2 ⟨insideIH entries, afterIH others⟩

/-- Where no node declares a name twice or again, all parameters of every node have
distinct names. -/
theorem Declares.distinctNames_params
    (declares : Declares sources visited enclosing list declarations)
    (above : Parameter.DistinctNames enclosing.flatten)
    (passed : ∀ declaration ∈ declarations,
      Parameter.DistinctNames declaration.own ∧ ¬ declaration.Redeclares) :
    ∀ declaration ∈ declarations, Parameter.DistinctNames declaration.params := by
  induction declares with
  | nil => exact fun _ member => nomatch member
  | root shape head routes inside after insideIH afterIH =>
      obtain ⟨here, later⟩ := List.forall_mem_append.1 passed
      obtain ⟨⟨names, fresh⟩, deeper⟩ := List.forall_mem_cons.1 here
      -- the parameters of the root are those above what it encloses
      have params := Parameter.distinctNames_append_iff.2 ⟨above, names, fresh⟩
      have within := insideIH (by rwa [List.flatten_concat]) deeper
      exact List.forall_mem_append.2
        ⟨List.forall_mem_cons.2 ⟨params, within⟩, afterIH above later⟩
  | route shape head verbs after afterIH =>
      obtain ⟨⟨names, fresh⟩, later⟩ := List.forall_mem_cons.1 passed
      exact List.forall_mem_cons.2
        ⟨Parameter.distinctNames_append_iff.2 ⟨above, names, fresh⟩, afterIH above later⟩
  | imports shape named inside after insideIH afterIH =>
      obtain ⟨deeper, later⟩ := List.forall_mem_append.1 passed
      exact List.forall_mem_append.2 ⟨insideIH above deeper, afterIH above later⟩
  | file holds inside after insideIH afterIH =>
      obtain ⟨deeper, later⟩ := List.forall_mem_append.1 passed
      exact List.forall_mem_append.2 ⟨insideIH above deeper, afterIH above later⟩

/-- What holds of every declared parameter holds of all parameters of every node. -/
theorem Declares.forall_mem_params {property : Parameter → Prop}
    (holds : ∀ name declaration parameter,
      (Parameter.declare name declaration).outcome = .ok parameter → property parameter)
    (declares : Declares sources visited enclosing list declarations)
    (above : ∀ parameter ∈ enclosing.flatten, property parameter) :
    ∀ declaration ∈ declarations, ∀ parameter ∈ declaration.params, property parameter := by
  have own {node : NodeName} {pathField : String} {config : Entries String Value}
      {own : List Parameter} (head : MountHead.Declares node pathField config own) :
      ∀ parameter ∈ own, property parameter := by
    intro parameter member
    obtain ⟨name, declaration, found⟩ :=
      Parameter.exists_declare_of_mem_declareAll head.own member
    exact holds name declaration parameter found
  induction declares with
  | nil => exact fun _ member => nomatch member
  | root shape head routes inside after insideIH afterIH =>
      have params := List.forall_mem_append.2 ⟨above, own head⟩
      have within := insideIH (by rwa [List.flatten_concat])
      exact List.forall_mem_append.2
        ⟨List.forall_mem_cons.2 ⟨params, within⟩, afterIH above⟩
  | route shape head verbs after afterIH =>
      exact List.forall_mem_cons.2
        ⟨List.forall_mem_append.2 ⟨above, own head⟩, afterIH above⟩
  | imports shape named inside after insideIH afterIH =>
      exact List.forall_mem_append.2 ⟨insideIH above, afterIH above⟩
  | file holds inside after insideIH afterIH =>
      exact List.forall_mem_append.2 ⟨insideIH above, afterIH above⟩

end Element

/-! ## The check of a declaration -/

namespace Declaration

variable {declaration : Declaration}

/-- A node passes when none of its own parameters is declared again, and gets the
inherited parameters and its own. -/
theorem check_eq_ok_iff {node : Node} :
    declaration.check = .ok node ↔ node = declaration.node ∧
      Parameter.DistinctNames declaration.own ∧ ¬ declaration.Redeclares := by
  rw [check, map_eq_ok_iff]
  constructor
  · rintro ⟨params, accepted, rfl⟩
    obtain ⟨rfl, passed⟩ := Parameter.inherit_eq_ok_iff.1 accepted
    exact ⟨rfl, passed⟩
  · rintro ⟨rfl, passed⟩
    exact ⟨declaration.params, Parameter.inherit_eq_ok_iff.2 ⟨rfl, passed⟩, rfl⟩

theorem check_error {error : PlanError} (failed : declaration.check = .error error) :
    ∃ name, error = .invalid (.parameterRedeclared declaration.name name) := by
  cases accepted : Parameter.inherit declaration.name declaration.enclosing.flatten
      declaration.own with
  | ok params => rw [check, accepted] at failed; cases failed
  | error other =>
      rw [check, accepted] at failed
      cases failed
      exact Parameter.inherit_error accepted

end Declaration

end RoutePlan
