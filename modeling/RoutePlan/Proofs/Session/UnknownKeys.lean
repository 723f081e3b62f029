import RoutePlan.Proofs.Session.Rewrite
import RoutePlan.Proofs.Session.WellFormed
import RoutePlan.Proofs.Tree.Constructed
import RoutePlan.Proofs.Tree.KnownKeys

/-!
# Unknown keys are inert

Whatever step is made on whatever files: a key that a node does not use, or another order of
the keys of a node, changes the warnings about the keys of the node and nothing else.  Where
no node has such a key a step gives no warnings.
-/

namespace RoutePlan

/-- A document, and the document in which the keys of a node are changed.  The node stands
under the keys. -/
inductive KeyChange.Rewrites (change : KeyChange) :
    List String → NodeName → Entries String Value → Entries String Value → Prop where
  | node {role keys name fill kind config other} (hole : Hole .elements role keys name fill)
      (configures : role.Configures name config kind)
      (applies : change.Applies kind config other) :
      change.Rewrites keys ⟨kind, name⟩ (fill (.map config)) (fill (.map other))

namespace KeyChange.Rewrites

variable {change : KeyChange} {keys : List String} {node : NodeName}
  {entries others : Entries String Value}

theorem isEmpty_eq (rewrites : change.Rewrites keys node entries others) :
    others.isEmpty = entries.isEmpty := by
  obtain ⟨hole, _, _⟩ := rewrites
  exact hole.isEmpty_eq _ _

/-- The node gives some warnings, and others once its keys are changed. -/
theorem exists_revised (rewrites : change.Rewrites keys node entries others) :
    ∃ own shown, change.Shows node own shown ∧ ∀ sources : Element.Sources,
      Level.elements.Revised sources (fun _ => own) keys entries entries ∧
        Level.elements.Revised sources (fun _ => shown) keys entries others ∧
        Level.elements.Related sources Traced.Once keys entries entries := by
  obtain @⟨_, _, name, _, kind, config, _, hole, configures, applies⟩ := rewrites
  refine ⟨_, _, applies.shows name, fun sources => ⟨?_, ?_, hole.once configures⟩⟩
  · exact hole.revised (configures.revised (.refl _ kind config))
  · exact hole.revised (configures.revised (applies.alike _))

end KeyChange.Rewrites

namespace Session

open Element (Sources)

/-! ## How often a document is compiled -/

/-- How often a step that makes a forest compiles a document: the one that it is given, or
the one in a file, which is imported or is the file that the step reads. -/
def Step.compileCount (sources : Sources) (step : Step) (forest : List Element) :
    Option (List String) → Nat
  | none => 1
  | some file => Element.importCountAll sources.files.workingDirectory file forest +
      match step with
      | .parseFile name => if sources.place name = file then 1 else 0
      | _ => 0

section Count

variable {sources : Sources} {files : FileSet} {file : List String}
  {document : Value} {entries rewritten : Entries String Value} {keys : List String}
  {forest : List Element}

theorem exists_entries_of_trace (compiled : (trace sources document).outcome = .ok forest) :
    ∃ entries, document = .map entries ∧
      trace sources document = Element.traceItems sources [] [] (Element.items entries) := by
  unfold trace at compiled ⊢
  obtain ⟨entries, mapping, same⟩ := Traced.exists_of_ofExcept_bind compiled
  rw [same] at compiled ⊢
  split at compiled
  · cases compiled
  · next filled => exact ⟨entries, entries_eq_ok_iff.1 mapping, if_neg filled⟩

theorem count_trace (once : Level.elements.Related sources Traced.Once keys entries entries)
    (compiled : (trace sources (.map entries)).outcome = .ok forest) :
    (trace sources (.map entries)).count ⟨none, keys⟩ = 1 := by
  obtain ⟨_, same, traced⟩ := exists_entries_of_trace compiled
  cases same
  rw [traced] at compiled ⊢
  exact (once [] []).2 forest compiled

theorem count_trace_file (rewrites : sources.Rewrites files file entries rewritten)
    (once : Level.elements.Related sources Traced.Once keys entries entries)
    (compiled : (trace sources document).outcome = .ok forest) :
    (trace sources document).count ⟨some file, keys⟩ =
      Element.importCountAll sources.files.workingDirectory file forest := by
  obtain ⟨_, rfl, traced⟩ := exists_entries_of_trace compiled
  rw [traced] at compiled ⊢
  rw [Element.count_traceItems rewrites once compiled, Element.Item.fileCount_items]
  rfl

/-- A node is constructed as often as its document is compiled. -/
theorem Step.Edits.count_eq {step other : Step} {file? : Option (List String)}
    (edits : Step.Edits sources entries rewritten step files other file?)
    (once : Level.elements.Related sources Traced.Once keys entries entries)
    {traced : Traced (List Element)} (compiles : step.trace? sources = some traced)
    (compiled : traced.outcome = .ok forest) :
    traced.count ⟨file?, keys⟩ = step.compileCount sources forest file? := by
  cases edits with
  | value =>
      cases compiles
      exact count_trace once compiled
  | text read _ =>
      simp only [Step.trace?, read, Traced.ofExcept_ok, pure_bind, Option.some.injEq] at compiles
      subst compiles
      exact count_trace once compiled
  | @file _ _ file rewrites =>
      cases step with
      | parseValue document =>
          cases compiles
          exact count_trace_file rewrites once compiled
      | parseText text =>
          cases compiles
          obtain ⟨document, _, same⟩ := Traced.exists_of_ofExcept_bind compiled
          rw [same] at compiled ⊢
          exact count_trace_file rewrites once compiled
      | parseFile name =>
          cases compiles
          have built : (Traced.ofExcept (readDocument sources name) >>= trace sources).outcome =
              .ok forest := compiled
          obtain ⟨document, read, same⟩ := Traced.exists_of_ofExcept_bind built
          rw [same] at built ⊢
          have imported := count_trace_file rewrites once built
          by_cases there : sources.place name = file
          · rcases readDocument_of_rewrites rewrites there with ⟨_, unread, _⟩ | ⟨held, _⟩
            · cases read.symm.trans unread
            · obtain rfl := Except.ok.inj (read.symm.trans held)
              rw [there, Traced.count_inFile, imported, count_trace once built,
                Step.compileCount, if_pos there]
          · rw [Traced.count_inFile_of_ne there, imported, Step.compileCount, if_neg there,
              Nat.add_zero]
      | load => cases compiles
      | changeFiles files => cases compiles

end Count

/-! ## Steps on changed keys -/

section Inert

variable {session : Session} {change : KeyChange} {keys : List String} {node : NodeName}
  {step edited : Step} {files : FileSet} {file? : Option (List String)}

/-- A step on a document in which the keys of a node are changed. -/
theorem Step.Edits.inert {entries others : Entries String Value}
    (edits : Step.Edits session.sources entries others step files edited file?)
    (rewrites : change.Rewrites keys node entries others) :
    let before := session.step step
    let after := (session.withFiles files).step edited
    before.Agrees after ∧
      ∃ own shown count, change.Shows node own shown ∧
        Replaced own shown count before.warnings after.warnings ∧
        count = (session.constructions step).count ⟨file?, keys⟩ ∧
        ∀ document, step.document? session.sources = some (.ok document) →
          before.error = none →
            count = step.compileCount session.sources before.session.forest file? := by
  obtain ⟨own, shown, shows, revised⟩ := rewrites.exists_revised
  cases compiles : step.trace? session.sources with
  | none =>
      obtain ⟨agrees, silent, silentAfter⟩ := edits.step_of_trace?_eq_none compiles
      refine ⟨agrees, own, shown, 0, shows, ?_, ?_, ?_⟩
      · rw [silent, silentAfter]
        exact .nowhere []
      · rw [constructions, compiles]
        rfl
      · intro document reads
        cases step with
        | load => cases reads
        | changeFiles files => cases reads
        | _ => cases compiles
  | some traced =>
      obtain ⟨_, shownRevised, _⟩ := revised (session.sources.withFiles files)
      obtain ⟨ownRevised, _, once⟩ := revised session.sources
      have beforeEq := step_eq_adopt_erase compiles
      have afterEq := edits.step_eq shownRevised rewrites.isEmpty_eq compiles
      have same := edits.revise_eq_self ownRevised compiles
      have counted : (session.constructions step).count ⟨file?, keys⟩ =
          traced.count ⟨file?, keys⟩ := by
        rw [constructions, compiles]
        rfl
      intro before after
      simp only [before, after, beforeEq, afterEq]
      refine ⟨adopt_agrees files rfl, own, shown, _, shows, ?_, rfl, ?_⟩
      · rw [adopt_warnings, adopt_warnings, counted]
        exact Traced.replaced_of_revise same
      · intro document reads succeeded
        obtain ⟨forest, compiled⟩ := adopt_error_eq_none_iff.1 succeeded
        rw [counted, edits.count_eq once compiles compiled, adopt, compiled]

end Inert

/-! ## Steps without unknown keys -/

section Silent

variable {session : Session} {step : Step}

/-- A document gives no warnings, if every node has only keys that it uses, in the document
and in all that are imported. -/
theorem compile_silent {sources : Sources} {document : Value}
    (distinct : document.HasDistinctKeys)
    (known : ∀ top, document = .map top → ∀ entries, sources.Reaches top entries →
      Level.elements.OnlyKnown entries) : (compile sources document).Silent := by
  rw [compile_eq_compileItems]
  refine (Checked.Silent.ofExcept _).bind fun top mapping => ?_
  obtain rfl := entries_eq_ok_iff.1 mapping
  split
  · exact .fail _
  · have clean (entries : Entries String Value) (reached : sources.Reaches top entries) :
        Level.elements.Clean entries := by
      refine ⟨?_, known top rfl entries reached⟩
      cases reached with
      | top => exact Value.hasDistinctKeys_map_iff.1 distinct
      | imported _ _ holds => exact holds.haveDistinctKeys
    exact Element.compileItems_silent clean (Element.items_clean (clean top .top))
      fun name named => ⟨top, .top, named⟩

theorem step_warnings_eq_nil
    (distinct : ∀ value, step = .parseValue value → value.HasDistinctKeys)
    (known : ∀ top, step.document? session.sources = some (.ok (.map top)) →
      ∀ entries, session.sources.Reaches top entries → Level.elements.OnlyKnown entries) :
    (session.step step).warnings = [] := by
  have silent (document : Value)
      (reads : step.document? session.sources = some (.ok document)) :
      (session.step step).warnings = [] := by
    rw [step_eq_adopt reads, adopt_warnings]
    refine compile_silent (step.hasDistinctKeys_of_document? distinct reads) ?_
    rintro top rfl
    exact known top reads
  cases step with
  | parseValue document => exact silent document rfl
  | parseText text =>
      cases read : Document.read text with
      | ok document => exact silent document (congrArg some read)
      | error error =>
          rw [Session.step, parseText, read, adopt_warnings]
          rfl
  | parseFile name =>
      cases read : readDocument session.sources name with
      | ok document => exact silent document (congrArg some read)
      | error error =>
          rw [Session.step, parseFile, read, adopt_warnings]
          rfl
  | load => exact load_warnings session
  | changeFiles files => rfl

end Silent

/-- When a key that the node does not use is added to a node anywhere in a document, or the
keys of a node are put in another order, a step on the document answers the same error and
leaves the same session but for the files.  The warnings about the keys of the node are
replaced, as often as the node is constructed: when the step succeeds, once in a document of
its own, and as often as the file is compiled in a file.  If no node in the document or in an
imported one has a key that it does not use, there are no warnings. -/
theorem unknown_keys_are_inert (session : Session) :
    (∀ (change : KeyChange) keys node entries others step files edited file?,
      change.Rewrites keys node entries others →
        Step.Edits session.sources entries others step files edited file? →
        let before := session.step step
        let after := (session.withFiles files).step edited
        before.Agrees after ∧
          ∃ own shown count, change.Shows node own shown ∧
            Replaced own shown count before.warnings after.warnings ∧
            count = (session.constructions step).count ⟨file?, keys⟩ ∧
            ∀ document, step.document? session.sources = some (.ok document) →
              before.error = none →
                count = step.compileCount session.sources before.session.forest file?) ∧
    ∀ step : Step, (∀ value, step = .parseValue value → value.HasDistinctKeys) →
      (∀ top, step.document? session.sources = some (.ok (.map top)) →
        ∀ entries, session.sources.Reaches top entries → Level.elements.OnlyKnown entries) →
      (session.step step).warnings = [] :=
  ⟨fun _ _ _ _ _ _ _ _ _ rewrites edits => edits.inert rewrites,
    fun _ distinct known => step_warnings_eq_nil distinct known⟩

/-- The entry of the route with a null `root`. -/
def rootedEntry : String × Value :=
  ("item", .map [("root", .null), ("path", .string "/item"),
    ("methods", .map [("get", .string "item")])])

theorem rewrites_rootedEntry :
    (KeyChange.add "root").Rewrites ["item"] ⟨.route, "item"⟩ [itemEntry] [rootedEntry] := by
  have hole : Hole .elements .element ["item"] "item" fun value => [] ++ ("item", value) :: [] :=
    .here rfl (by decide) (by decide)
  have applies : (KeyChange.add "root").Applies .route
      [("path", .string "/item"), ("methods", .map [("get", .string "item")])]
      [("root", .null), ("path", .string "/item"), ("methods", .map [("get", .string "item")])] :=
    ⟨by decide, [], .null, _, rfl, rfl, fun _ _ => rfl⟩
  exact .node hole (.route rfl) applies

theorem onlyKnown_itemEntry : Level.elements.OnlyKnown [itemEntry] := by
  have shape : Element.classify "item" (.map [("path", .string "/item"),
      ("methods", .map [("get", .string "item")])]) = .ok .route := rfl
  refine Level.onlyKnown_of_entries fun key config member => ?_
  obtain ⟨rfl, rfl⟩ : key = "item" ∧ config = _ := by simpa [itemEntry] using member
  constructor
  · intro role kind hosts configures
    cases configures with
    | root other => cases shape.symm.trans other
    | route => decide
    | method => cases hosts
    | parameter => cases hosts
  · intro inner leads
    cases leads with
    | root other => cases shape.symm.trans other
    | route =>
        refine Level.onlyKnown_of_entries fun key config member => ?_
        obtain ⟨named, rfl⟩ : key = "methods" ∧ config = _ := by simpa using member
        refine ⟨fun role kind hosts _ => ?_, fun inner leads => ?_⟩
        · cases role <;> cases hosts
        cases leads with
        | routeParams => exact absurd named (by decide)
        | methods =>
            exact Level.onlyKnown_of_entries fun key config member => by simp at member

theorem compile_item :
    (compile sharedSources (.map [itemEntry])).outcome = .ok [.route itemRoute] := by
  rw [compile_map (List.cons_ne_nil _ _), Element.items_cons, Element.compileItems_cons,
    compileItem_item]
  rfl

/-- A null `root` makes no root of the route.  It is warned about once, and without it
there is no warning. -/
theorem null_root_is_warned_once :
    let before := mountedSession.step (.parseValue (.map [itemEntry]))
    let after := mountedSession.step (.parseValue (.map [rootedEntry]))
    before.error = none ∧ before.warnings = [] ∧ after.error = none ∧
      after.session.routes = [⟨.get, "/item", "item"⟩] ∧
      after.warnings = [⟨⟨.route, "item"⟩, "root"⟩] := by
  have succeeds : (mountedSession.step (.parseValue (.map [itemEntry]))).error = none := by
    rw [step_eq_adopt rfl, adopt_error_eq_none_iff]
    exact ⟨_, compile_item⟩
  have distinct : (Value.map [itemEntry]).HasDistinctKeys := by
    simp [itemEntry, Value.hasDistinctKeys_map_iff, Entries.haveDistinctKeys_iff,
      Entries.keys, Value.HasDistinctKeys.string]
  have known (entries : Entries String Value)
      (reached : mountedSession.sources.Reaches [itemEntry] entries) :
      Level.elements.OnlyKnown entries := by
    have top : entries = [itemEntry] := by
      induction reached with
      | top => rfl
      | imported _ named _ ih =>
          subst ih
          have nothing : Element.inside itemEntry.1 itemEntry.2 = [] := rfl
          simp [Element.items, Element.fileNames, nothing] at named
    subst top
    exact onlyKnown_itemEntry
  obtain ⟨inert, silent⟩ := unknown_keys_are_inert mountedSession
  obtain ⟨agrees, own, shown, count, shows, replaced, _, once⟩ :=
    inert (.add "root") ["item"] ⟨.route, "item"⟩ _ _ (.parseValue (.map [itemEntry])) _
      (.parseValue (.map [rootedEntry])) none rewrites_rootedEntry .value
  have quiet := silent (.parseValue (.map [itemEntry]))
    (fun value same => by cases same; exact distinct)
    (fun top reads entries reached => by cases reads; exact known entries reached)
  have one : count = 1 := once _ rfl succeeds
  subst one
  obtain ⟨front, back, list, warnings⟩ := replaced.exists_of_one
  obtain ⟨start, rest, split, rfl⟩ := shows
  rw [quiet] at list
  obtain ⟨rfl, rfl, rfl⟩ : front = [] ∧ own = [] ∧ back = [] := by simpa using list.symm
  obtain ⟨rfl, rfl⟩ : start = [] ∧ rest = [] := by simpa using split.symm
  have forest : (mountedSession.step (.parseValue (.map [itemEntry]))).session.forest =
      [.route itemRoute] := by
    have outcome : (compile mountedSession.sources (.map [itemEntry])).outcome = _ := compile_item
    rw [step_eq_adopt rfl, adopt, outcome]
  have same : (mountedSession.step (.parseValue (.map [rootedEntry]))).session.forest =
      (mountedSession.step (.parseValue (.map [itemEntry]))).session.forest := agrees.forest
  refine ⟨succeeds, quiet, agrees.error.trans succeeds, ?_, warnings⟩
  simp only [routes, same, forest]
  decide +kernel

end Session

end RoutePlan
