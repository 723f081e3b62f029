import Mathlib.Data.List.Nodup
import RoutePlan.Parameter
import RoutePlan.Proofs.Checked

/-!
# Lists of parameters

What `Parameter.inherit` accepts: own parameters with distinct names, none of them
the name of an inherited one.  The result is the inherited list with the own one
behind it, and its names are distinct when the inherited ones are.
-/

namespace RoutePlan.Parameter

/-- No name is declared twice. -/
def DistinctNames (params : List Parameter) : Prop :=
  (params.map Parameter.name).Nodup

/-- Some parameter of the first list has the name of one of the second. -/
def Clash (own inherited : List Parameter) : Prop :=
  ∃ parameter ∈ own, ∃ other ∈ inherited, parameter.name = other.name

theorem distinctNames_cons_iff {parameter : Parameter} {rest : List Parameter} :
    DistinctNames (parameter :: rest) ↔
      (∀ other ∈ rest, other.name ≠ parameter.name) ∧ DistinctNames rest := by
  simp [DistinctNames]

theorem distinctNames_append_iff {first second : List Parameter} :
    DistinctNames (first ++ second) ↔
      DistinctNames first ∧ DistinctNames second ∧ ¬ Clash second first := by
  simp only [DistinctNames, List.map_append, List.nodup_append', List.disjoint_left, Clash,
    List.mem_map, not_exists, not_and, forall_exists_index, and_imp, forall_apply_eq_imp_iff₂]
  grind

/-- Own parameters are accepted when their names are new and distinct, and stand
behind the inherited ones. -/
theorem inherit_eq_ok_iff {node : NodeName} {inherited own merged : List Parameter} :
    inherit node inherited own = .ok merged ↔
      merged = inherited ++ own ∧ DistinctNames own ∧ ¬ Clash own inherited := by
  induction own generalizing inherited with
  | nil => simp [inherit, DistinctNames, Clash, eq_comm]
  | cons parameter rest ih =>
      rw [inherit]
      split
      · next declared =>
          simp only [List.any_eq_true, beq_iff_eq] at declared
          obtain ⟨other, member, same⟩ := declared
          have clash : Clash (parameter :: rest) inherited :=
            ⟨parameter, List.mem_cons_self, other, member, same.symm⟩
          simp [clash]
      · next fresh =>
          simp only [List.any_eq_true, beq_iff_eq, not_exists, not_and] at fresh
          have apart : Clash (parameter :: rest) inherited ↔ Clash rest inherited := by
            simp only [Clash, List.mem_cons, exists_eq_or_imp]
            exact or_iff_right fun ⟨other, member, same⟩ => fresh other member same.symm
          have behind : Clash rest (inherited ++ [parameter]) ↔
              Clash rest inherited ∨ ∃ other ∈ rest, other.name = parameter.name := by
            simp only [Clash, List.mem_append, List.mem_singleton, or_and_right, exists_or,
              and_or_left, exists_eq_left]
          rw [ih, apart, behind, distinctNames_cons_iff]
          simp only [List.append_assoc, List.singleton_append, not_or, not_exists, not_and]
          tauto

/-- The one reason for which parameters are not inherited. -/
theorem inherit_error {node : NodeName} {inherited own : List Parameter} {error : PlanError}
    (failed : inherit node inherited own = .error error) :
    ∃ name, error = .invalid (.parameterRedeclared node name) := by
  induction own generalizing inherited with
  | nil => cases failed
  | cons parameter rest ih =>
      rw [inherit] at failed
      split at failed
      · cases failed
        exact ⟨parameter.name, rfl⟩
      · exact ih failed

/-- A declared parameter has the key of its declaration as its name, and the key is not
blank. -/
theorem declare_name {name : String} {declaration : Value} {parameter : Parameter}
    (declared : (declare name declaration).outcome = .ok parameter) :
    parameter.name = name ∧ Text.isBlankText name = false := by
  unfold declare at declared
  split at declared
  · cases declared
  · next filled =>
      refine ⟨?_, Bool.not_eq_true _ ▸ filled⟩
      split at declared
      · cases declared
      · obtain ⟨kind, _, built⟩ := Checked.bind_outcome_eq_ok_iff.1 declared
        cases built
        rfl
      · obtain ⟨_, _, unwarned⟩ := Checked.bind_outcome_eq_ok_iff.1 declared
        obtain ⟨kind, _, withDefault⟩ := Checked.bind_outcome_eq_ok_iff.1 unwarned
        obtain ⟨default?, _, built⟩ := Checked.bind_outcome_eq_ok_iff.1 withDefault
        cases built
        rfl
      · cases declared

/-- Every parameter of a mapping is declared by one of its entries. -/
theorem exists_declare_of_mem_declareAll {node : NodeName} {field : String}
    {config : Option Value} {own : List Parameter}
    (declared : (declareAll node field config).outcome = .ok own) {parameter : Parameter}
    (member : parameter ∈ own) :
    ∃ name declaration, (declare name declaration).outcome = .ok parameter := by
  unfold declareAll at declared
  split at declared
  · cases declared
    cases member
  · cases declared
    cases member
  · rw [Checked.outcome_traverse] at declared
    obtain ⟨entry, _, found⟩ := exists_item_of_mapM_eq_ok declared member
    exact ⟨entry.1, entry.2, found⟩
  · cases declared

/-- The parameters of a mapping with distinct keys have distinct names. -/
theorem distinctNames_of_declareAll {node : NodeName} {field : String} {config : Option Value}
    {own : List Parameter} (declared : (declareAll node field config).outcome = .ok own)
    (distinct : ∀ declarations, config = some (.map declarations) →
      (declarations.map Prod.fst).Nodup) : DistinctNames own := by
  unfold declareAll at declared
  split at declared
  · cases declared
    exact List.nodup_nil
  · cases declared
    exact List.nodup_nil
  · next declarations =>
      rw [Checked.outcome_traverse] at declared
      have names : own.map Parameter.name = declarations.map Prod.fst :=
        map_eq_of_mapM_eq_ok (fun _ _ held => (declare_name held).1) declared
      rw [DistinctNames, names]
      exact distinct declarations rfl
  · cases declared

end RoutePlan.Parameter
