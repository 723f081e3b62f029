import RoutePlan.Proofs.Tree.Alike

/-!
# Short and full spellings

A method may be written as the name of its controller, a parameter as the name of its kind and
an import as the name of its file, and an optional field may be left out.  A document that is
written in full instead has the same trace.
-/

namespace RoutePlan

/-- Two spellings of what stands in a hole under a name. -/
inductive Role.Spells (settings : RouteSettings) : Role → String → Value → Value → Prop where
  /-- A method that has a controller only. -/
  | controller {verb controller} :
      Spells settings .method verb (.string controller)
        (.map [("controller", .string controller)])
  /-- A parameter that has a kind only. -/
  | kind {name kind} :
      Spells settings .parameter name (.string kind) (.map [("type", .string kind)])
  /-- An import of one file. -/
  | file {name} (named : ¬Text.isBlankText name) :
      Spells settings .element "import" (.string name) (.list [.string name])
  /-- An optional field at any position. -/
  | field {role name kind front back field value}
      (configures : Role.Configures role name (front ++ back) kind)
      (absent : field ∉ Entries.keys (front ++ back))
      (spelled : kind.SpellsOut settings field value) :
      Spells settings role name (.map (front ++ back)) (.map (front ++ (field, value) :: back))

section Fields

variable {settings : RouteSettings} {kind : NodeKind} {field : String} {value : Value}
  {front back : Entries String Value}

/-- A mapping in which a field is spelled out is read alike. -/
theorem NodeKind.SpellsOut.alike (spelled : kind.SpellsOut settings field value)
    (absent : field ∉ Entries.keys (front ++ back)) :
    kind.Alike settings (front ++ back) (front ++ (field, value) :: back) := by
  have elsewhere {key : String} (apart : key ≠ field) :
      (front ++ (field, value) :: back).lookup key = (front ++ back).lookup key :=
    Entries.lookup_of_ne apart value
  constructor
  · intro key _
    by_cases same : key = field
    · subst same
      have before : key ∉ Entries.keys front := by
        intro member
        rw [Entries.keys, List.map_append] at absent
        exact absent (List.mem_append_left _ member)
      exact .inr ⟨Entries.lookup_eq_none_iff.2 absent, value, Entries.lookup_field before _,
        spelled⟩
    · exact .inl (elsewhere same)
  · rintro rfl
    refine .inl (elsewhere ?_)
    rintro rfl
    exact absurd spelled.1 (by decide)

/-- A field that is spelled out is not warned about. -/
theorem NodeKind.SpellsOut.unusedKeys_eq (spelled : kind.SpellsOut settings field value)
    (node : NodeName) :
    unusedKeys node kind.recognizedKeys (front ++ (field, value) :: back) =
      unusedKeys node kind.recognizedKeys (front ++ back) := by
  rw [unusedKeys_append, unusedKeys_append,
    unusedKeys_cons_of_mem (kind.optionalKeys_subset spelled.1)]

end Fields

section Short

theorem Method.trace_controller (settings : RouteSettings) (params : List Parameter)
    (verbName controller : String) :
    trace settings params verbName (.map [("controller", .string controller)]) =
      trace settings params verbName (.string controller) := by
  simp only [trace, requireConfig]

theorem Parameter.trace_kind (name kindName : String) :
    trace name (.map [("type", .string kindName)]) = trace name (.string kindName) := by
  have unused : unusedKeys ⟨.parameter, name⟩ recognizedKeys [("type", .string kindName)] = [] :=
    unusedKeys_cons_of_mem (by decide) _ []
  have read : readFields name [("type", .string kindName)] = do
      let kind ← readKind kindName
      return ⟨name, kind, none⟩ := rfl
  unfold trace
  split
  · rfl
  · simp only [unused, read]
    cases readKind kindName <;> rfl

theorem Element.importNames_singleton {name : String} (named : ¬Text.isBlankText name) :
    importNames (.list [.string name]) = .ok [name] := by
  simp [importNames, readName?, named]

theorem Element.traceEntry_file {sources : Sources} {visited : List Location}
    {inherited : List Parameter} {name : String} (named : ¬Text.isBlankText name) :
    traceEntry sources visited inherited "import" (.list [.string name]) =
      traceEntry sources visited inherited "import" (.string name) := by
  have one : importNames (.string name) = .ok [name] := rfl
  have listed := importNames_singleton named
  have frame : traceFrame sources inherited "import" (.list [.string name]) =
      traceFrame sources inherited "import" (.string name) := by
    unfold traceFrame
    rw [classify, if_pos rfl, classify, if_pos rfl]
    simp only [one, listed]
  rw [traceEntry, traceEntry, frame, inside_imports rfl one, inside_imports rfl listed]

end Short

/-- Both spellings have the same trace. -/
theorem Role.Spells.revised {sources : Element.Sources} {role : Role} {name : String}
    {value other : Value} (spells : role.Spells sources.settings name value other) :
    role.Revised sources id name value other := by
  cases spells with
  | controller =>
      intro params
      exact (Method.trace_controller _ params name _).trans (Traced.revise_id _ _).symm
  | kind => exact (Parameter.trace_kind name _).trans (Traced.revise_id _ _).symm
  | file named =>
      intro visited inherited
      exact (Element.traceEntry_file named).trans (Traced.revise_id _ _).symm
  | @field _ _ kind _ _ _ _ configures absent spelled =>
      refine configures.related (Traced.congruent_revised id) (spelled.alike absent) ?_
      rw [spelled.unusedKeys_eq]
      exact (Traced.revise_id _ _).symm

/-- Two spellings of a document, which differ in one node. -/
inductive Respelled (settings : RouteSettings) :
    Entries String Value → Entries String Value → Prop where
  | node {role keys name fill value other} (hole : Hole .elements role keys name fill)
      (spells : role.Spells settings name value other) :
      Respelled settings (fill value) (fill other)

namespace Respelled

variable {sources : Element.Sources} {entries others : Entries String Value}

theorem isEmpty_eq {settings : RouteSettings} (respelled : Respelled settings entries others) :
    others.isEmpty = entries.isEmpty := by
  obtain ⟨hole, _⟩ := respelled
  exact hole.isEmpty_eq _ _

theorem exists_revised (respelled : Respelled sources.settings entries others) :
    ∃ keys, Level.elements.Revised sources id keys entries others := by
  obtain @⟨_, keys, _, _, _, _, hole, spells⟩ := respelled
  exact ⟨keys, hole.revised spells.revised⟩

end Respelled

end RoutePlan
