import RoutePlan.Proofs.Tree.Declaration
import RoutePlan.Session

/-!
# Inheritance of parameters

A document that compiles gives every root and route the parameters of its enclosing
roots, outermost first and each in declaration order, then its own, and gives every
method those of its route.  Imports and their files pass the parameters on, and
siblings do not see each other's.  A document that passes every other check fails
to compile, for this reason, exactly when some node declares a parameter of an
enclosing root again.
-/

namespace RoutePlan.Session

/-- The nodes that a document describes, in its order.  It passes every check of a
compilation that is not on inherited parameters. -/
def Describes (sources : Element.Sources) (document : Value) (declarations : List Declaration) :
    Prop :=
  ∃ entry rest, document = .map (entry :: rest) ∧
    Element.Declares sources [] [] (Element.items (entry :: rest)) declarations

variable {sources : Element.Sources} {document : Value} {declarations : List Declaration}

/-- The nodes of a compiled document are those that it describes, each checked. -/
theorem nodes_compile (describes : Describes sources document declarations) :
    Element.nodesAll <$> (compile sources document).outcome =
      declarations.mapM Declaration.check := by
  obtain ⟨entry, rest, rfl, declares⟩ := describes
  rw [← Element.itemsNodes_of_declares declares, List.flatten_nil,
    ← Element.nodesAll_compileDocument]
  rfl

theorem exists_describes {forest : List Element}
    (compiled : (compile sources document).outcome = .ok forest) :
    ∃ declarations, Describes sources document declarations := by
  obtain ⟨entries, mapping, built⟩ := Checked.bind_outcome_eq_ok_iff.1 compiled
  cases document with
  | map held =>
      cases mapping
      cases entries with
      | nil => cases built
      | cons entry rest =>
          have nodes : Element.itemsNodes sources [] ([] : List (List Parameter)).flatten
              (Element.items (entry :: rest)) = .ok (Element.nodesAll forest) := by
            rw [← Element.nodesAll_compileDocument]
            exact map_eq_ok_iff.2 ⟨forest, built, rfl⟩
          obtain ⟨declarations, declares⟩ := Element.exists_declares nodes
          exact ⟨declarations, entry, rest, rfl, declares⟩
  | _ => cases mapping

/-- Every node that is described passes the check when the document compiles, and
the forest consists of these nodes. -/
theorem nodes_of_compile {forest : List Element}
    (describes : Describes sources document declarations)
    (compiled : (compile sources document).outcome = .ok forest) :
    Element.nodesAll forest = declarations.map Declaration.node ∧
      ∀ declaration ∈ declarations,
        Parameter.DistinctNames declaration.own ∧ ¬ declaration.Redeclares := by
  have checked := nodes_compile describes
  rw [compiled] at checked
  have passed (declaration : Declaration) (member : declaration ∈ declarations) :
      Parameter.DistinctNames declaration.own ∧ ¬ declaration.Redeclares := by
    obtain ⟨node, accepted⟩ := exists_ok_of_mapM_eq_ok checked.symm member
    exact (Declaration.check_eq_ok_iff.1 accepted).2
  rw [mapM_eq_ok_map fun declaration member =>
    Declaration.check_eq_ok_iff.2 ⟨rfl, passed declaration member⟩] at checked
  exact ⟨Except.ok.inj checked, passed⟩

/-- The parameters of the nodes of a compiled document have distinct names. -/
theorem distinctNames_of_compile {forest : List Element}
    (describes : Describes sources document declarations)
    (compiled : (compile sources document).outcome = .ok forest) :
    ∀ declaration ∈ declarations, Parameter.DistinctNames declaration.params := by
  obtain ⟨_, passed⟩ := nodes_of_compile describes compiled
  obtain ⟨_, _, _, declares⟩ := describes
  exact declares.distinctNames_params List.nodup_nil passed

/-- No node of a document declares a parameter twice itself. -/
theorem distinctNames_own (distinct : document.HasDistinctKeys)
    (describes : Describes sources document declarations) :
    ∀ declaration ∈ declarations, Parameter.DistinctNames declaration.own := by
  obtain ⟨entry, rest, rfl, declares⟩ := describes
  exact declares.distinctNames_own
    (Element.items_haveDistinctKeys (Value.hasDistinctKeys_map_iff.1 distinct))

/-- Parameters are inherited exactly.  A document that compiles describes its
nodes: every root and route has the parameters of its enclosing roots and then its
own, with distinct names, and every method has those of its route.  A document
that describes nodes fails to compile, because a parameter is already declared,
exactly when one of them declares a parameter of an enclosing root again; else it
compiles.  For the latter its mappings have distinct keys, as those of files do. -/
theorem parameters_inherited_exactly (sources : Element.Sources) (document : Value) :
    (∀ forest, (compile sources document).outcome = .ok forest →
      ∃ declarations, Describes sources document declarations ∧
        Element.nodesAll forest = declarations.map Declaration.node ∧
        ∀ node ∈ Element.nodesAll forest, (node.params.map Parameter.name).Nodup ∧
          ∀ method ∈ node.methods, method.params = node.params) ∧
      (document.HasDistinctKeys → ∀ declarations, Describes sources document declarations →
        ((∃ node name, (compile sources document).outcome =
            .error (.invalid (.parameterRedeclared node name))) ↔
          ∃ declaration ∈ declarations, ∃ parameter ∈ declaration.own,
            ∃ other ∈ declaration.enclosing.flatten, parameter.name = other.name) ∧
        ((∀ declaration ∈ declarations, ¬ declaration.Redeclares) →
          ∃ forest, (compile sources document).outcome = .ok forest)) := by
  constructor
  · intro forest compiled
    obtain ⟨declarations, describes⟩ := exists_describes compiled
    obtain ⟨nodes, _⟩ := nodes_of_compile describes compiled
    refine ⟨declarations, describes, nodes, ?_⟩
    rw [nodes, List.forall_mem_map]
    intro declaration member
    refine ⟨distinctNames_of_compile describes compiled declaration member, ?_⟩
    exact List.forall_mem_map.2 fun method _ => rfl
  · intro distinct declarations describes
    have checked := nodes_compile describes
    have own := distinctNames_own distinct describes
    have fresh (unclashed : ∀ declaration ∈ declarations, ¬ declaration.Redeclares) :
        ∃ forest, (compile sources document).outcome = .ok forest := by
      rw [mapM_eq_ok_map fun declaration member =>
        Declaration.check_eq_ok_iff.2 ⟨rfl, own declaration member, unclashed declaration member⟩]
        at checked
      obtain ⟨forest, compiled, _⟩ := map_eq_ok_iff.1 checked
      exact ⟨forest, compiled⟩
    refine ⟨⟨?_, ?_⟩, fresh⟩
    · rintro ⟨node, name, failed⟩
      -- a document without such a node compiles
      by_contra none
      obtain ⟨forest, compiled⟩ := fresh fun declaration member clash =>
        none ⟨declaration, member, clash⟩
      rw [compiled] at failed
      cases failed
    · rintro ⟨declaration, member, clash⟩
      cases compiled : (compile sources document).outcome with
      | ok forest =>
          obtain ⟨_, passed⟩ := nodes_of_compile describes compiled
          exact absurd clash (passed declaration member).2
      | error error =>
          rw [compiled] at checked
          obtain ⟨first, _, failed⟩ := exists_error_of_mapM_eq_error checked.symm
          obtain ⟨name, rfl⟩ := Declaration.check_error failed
          exact ⟨first.name, name, rfl⟩

/-! ## A parameter that is declared again -/

/-- A route with the parameter `id`. -/
def shadowingRoute : Entries String Value :=
  [("path", .string "/items"), ("params", .map [("id", .string "string")]),
    ("methods", .map [("get", .string "item")])]

/-- The route below a root without parameters. -/
def plainRoot : Entries String Value :=
  [("root", .string "/v1"), ("routes", .map [("item", .map shadowingRoute)])]

/-- Both below a root that declares `id` already. -/
def shadowedRoot : Entries String Value :=
  [("root", .string "/api/:id"), ("params", .map [("id", .string "number")]),
    ("routes", .map [("v1", .map plainRoot)])]

/-- The document of the three. -/
def shadowingDocument : Value :=
  .map [("api", .map shadowedRoot)]

/-- What the outer root declares. -/
def apiDeclaration : Declaration :=
  ⟨⟨.root, "api"⟩, [], [⟨"id", .number, none⟩], []⟩

/-- What the inner root declares. -/
def versionDeclaration : Declaration :=
  ⟨⟨.root, "v1"⟩, [[⟨"id", .number, none⟩]], [], []⟩

/-- What the route declares. -/
def itemDeclaration : Declaration :=
  ⟨⟨.route, "item"⟩, [[⟨"id", .number, none⟩], []], [⟨"id", .string, none⟩],
    [⟨.get, "item", .ok, true, [], [], [], []⟩]⟩

theorem describes_shadowing :
    Describes ⟨{}, .empty⟩ shadowingDocument
      [apiDeclaration, versionDeclaration, itemDeclaration] := by
  have route : Element.Declares ⟨{}, .empty⟩ [] [[⟨"id", .number, none⟩], []]
      (Element.items [("item", .map shadowingRoute)]) [itemDeclaration] :=
    .route rfl ⟨⟨_, rfl⟩, ⟨_, rfl⟩, ⟨_, rfl⟩, rfl⟩ rfl .nil
  have inner : Element.Declares ⟨{}, .empty⟩ [] [[⟨"id", .number, none⟩]]
      (Element.items [("v1", .map plainRoot)]) (versionDeclaration :: [itemDeclaration] ++ []) :=
    .root rfl ⟨⟨_, rfl⟩, ⟨_, rfl⟩, ⟨_, rfl⟩, rfl⟩ rfl route .nil
  have outer : Element.Declares ⟨{}, .empty⟩ [] [] (Element.items [("api", .map shadowedRoot)])
      (apiDeclaration :: [versionDeclaration, itemDeclaration] ++ []) :=
    .root rfl ⟨⟨_, rfl⟩, ⟨_, rfl⟩, ⟨_, rfl⟩, rfl⟩ rfl inner .nil
  exact ⟨_, _, rfl, outer⟩

theorem shadowingDocument_hasDistinctKeys : shadowingDocument.HasDistinctKeys := by
  simp [shadowingDocument, shadowedRoot, plainRoot, shadowingRoute,
    Value.hasDistinctKeys_map_iff, Entries.haveDistinctKeys_iff, Entries.keys,
    Value.HasDistinctKeys.string]

/-- The document does not compile: its route declares a parameter of a root two levels
above it. -/
theorem shadowing_does_not_compile :
    shadowingDocument.HasDistinctKeys ∧
      ∃ node name, (compile ⟨{}, .empty⟩ shadowingDocument).outcome =
        .error (.invalid (.parameterRedeclared node name)) := by
  have distinct := shadowingDocument_hasDistinctKeys
  obtain ⟨_, described⟩ := parameters_inherited_exactly ⟨{}, .empty⟩ shadowingDocument
  refine ⟨distinct, (described distinct _ describes_shadowing).1.2 ⟨itemDeclaration, by simp, ?_⟩⟩
  exact ⟨⟨"id", .string, none⟩, List.mem_singleton_self _,
    ⟨"id", .number, none⟩, List.mem_cons_self, rfl⟩

end RoutePlan.Session
