import RoutePlan.Proofs.Tree.Alike

/-!
# Keys that a node does not use

With a key that a node does not use, or with its keys in another order, the mapping of the
node is read alike, so only the warnings about its keys change.  In a compilation they are
replaced as often as the node is constructed.
-/

namespace RoutePlan

/-- A change of the keys of a node. -/
inductive KeyChange where
  /-- A key is added. -/
  | add (key : String)
  /-- The keys are put in another order. -/
  | reorder

namespace KeyChange

/-- What the change makes of the mapping of a node: a key that the node does not use is added
at any position, and a route gets no `root` but null; or distinct keys are put in another
order. -/
def Applies (kind : NodeKind) (config other : Entries String Value) : KeyChange → Prop
  | add key => key ∉ kind.recognizedKeys ∧ ∃ before value after,
      config = before ++ after ∧ other = before ++ (key, value) :: after ∧
        (kind = .route → key = "root" → value = .null)
  | reorder => (Entries.keys config).Nodup ∧ config.Perm other

/-- What the change makes of the warnings of the node: there is one more, which names the
node and the key; or they come in another order. -/
def Shows (node : NodeName) (own others : List Warning) : KeyChange → Prop
  | add key => ∃ front back, own = front ++ back ∧ others = front ++ ⟨node, key⟩ :: back
  | reorder => own.Perm others

end KeyChange

section Keys

variable {config other : Entries String Value}

namespace KeyChange

variable {kind : NodeKind} {change : KeyChange}

/-- A changed mapping is read alike. -/
theorem Applies.alike (applies : change.Applies kind config other) (settings : RouteSettings) :
    kind.Alike settings config other := by
  cases change with
  | reorder =>
      obtain ⟨distinct, perm⟩ := applies
      have same := Entries.lookup_eq_of_perm distinct perm
      exact ⟨fun key _ => .inl (same key), fun _ => .inl (same "root")⟩
  | add key =>
      obtain ⟨unknown, before, value, after, rfl, rfl, null⟩ := applies
      have unequal {field : String} (used : field ∈ kind.recognizedKeys) : field ≠ key := by
        rintro rfl
        exact unknown used
      refine ⟨fun field used => .inl (Entries.lookup_of_ne (unequal used) value), ?_⟩
      intro route
      by_cases same : "root" = key
      · subst same
        rw [null route rfl, List.lookup_append, List.lookup_append]
        cases before.lookup "root" with
        | none => simp
        | some held => simp
      · exact .inl (Entries.lookup_of_ne same value)

/-- The warnings of a changed mapping. -/
theorem Applies.shows (applies : change.Applies kind config other) (name : String) :
    change.Shows ⟨kind, name⟩ (unusedKeys ⟨kind, name⟩ kind.recognizedKeys config)
      (unusedKeys ⟨kind, name⟩ kind.recognizedKeys other) := by
  cases change with
  | reorder =>
      obtain ⟨_, perm⟩ := applies
      exact ((perm.map Prod.fst).filter _).map _
  | add key =>
      obtain ⟨unknown, before, value, after, rfl, rfl, _⟩ := applies
      refine ⟨_, _, unusedKeys_append before after, ?_⟩
      rw [unusedKeys_append, unusedKeys_cons_of_not_mem unknown]

end KeyChange

end Keys

/-! ## Warnings of revised traces -/

/-- So many stretches of the first list are replaced by others in the second. -/
inductive Replaced {α : Type} (own others : List α) : Nat → List α → List α → Prop where
  | nowhere (list : List α) : Replaced own others 0 list list
  | further {count before after replaced} (rest : Replaced own others count after replaced) :
      Replaced own others (count + 1) (before ++ own ++ after) (before ++ others ++ replaced)

theorem Replaced.append_left {α : Type} {own others after replaced : List α} {count : Nat}
    (rest : Replaced own others count after replaced) (before : List α) :
    Replaced own others count (before ++ after) (before ++ replaced) := by
  cases rest with
  | nowhere => exact .nowhere _
  | further rest =>
      simp only [← List.append_assoc]
      exact .further rest

/-- One stretch is replaced. -/
theorem Replaced.exists_of_one {α : Type} {own others list replaced : List α}
    (once : Replaced own others 1 list replaced) :
    ∃ before after, list = before ++ own ++ after ∧ replaced = before ++ others ++ after := by
  cases once with
  | @further _ before _ _ rest =>
      cases rest with
      | nowhere => exact ⟨before, _, rfl, rfl⟩

/-- When every node at a place gives the same warnings, and gives others once the trace is
revised, those are replaced as often as the node is constructed. -/
theorem Traced.replaced_of_revise {α : Type} {traced : Traced α} {place : Place}
    {own others : List Warning} (same : traced.revise place (fun _ => own) = traced) :
    Replaced own others ((traced.log.map Construction.place).count place) traced.erase.warnings
      (traced.revise place fun _ => others).erase.warnings := by
  obtain ⟨log, outcome⟩ := traced
  replace same : log.map (Construction.revise place fun _ => own) = log :=
    congrArg Traced.log same
  show Replaced own others _ (log.flatMap Construction.warnings)
    ((log.map (Construction.revise place fun _ => others)).flatMap Construction.warnings)
  induction log with
  | nil => exact .nowhere []
  | cons node rest ih =>
      obtain ⟨head, tail⟩ := List.cons.inj same
      simp only [List.map_cons, List.flatMap_cons, List.count_cons]
      by_cases here : node.place = place
      · have warnings : node.warnings = own := by
          rw [← head, Construction.revise, if_pos here]
        have revised : (node.revise place fun _ => others).warnings = others := by
          rw [Construction.revise, if_pos here]
        rw [warnings, revised, if_pos (by simpa using here)]
        exact @Replaced.further _ _ _ _ [] _ _ (ih tail)
      · rw [Construction.revise, if_neg here, if_neg (by simpa using here)]
        exact (ih tail).append_left _

end RoutePlan
