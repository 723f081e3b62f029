import RoutePlan.Proofs.Entries
import RoutePlan.Proofs.Parameter

/-!
# Validation of declared parameters

Validated parameters are exactly the declared ones, in the order of declaration and
each with its own value.  When some parameters are not valid, the failure is that of
the first.
-/

namespace RoutePlan

namespace Parameter

/-- The value is what a source holds for the parameter, validated. -/
def ReadFrom (source : Entries String Value) (parameter : Parameter) (entry : String × Value) :
    Prop :=
  entry.1 = parameter.name ∧ parameter.validate (source.lookup parameter.name) = .ok entry.2

theorem keys_eq_of_forall₂_readFrom {source result : Entries String Value}
    {declared : List Parameter} (read : List.Forall₂ (ReadFrom source) declared result) :
    Entries.keys result = declared.map Parameter.name := by
  induction read with
  | nil => rfl
  | cons first _ ih =>
      rw [List.map_cons, ← ih, ← first.1]
      rfl

/-- Validated parameters are put behind those that were validated before. -/
theorem validateFrom_eq_ok_iff {source validated result : Entries String Value}
    {declared : List Parameter} (distinct : DistinctNames declared)
    (fresh : ∀ parameter ∈ declared, parameter.name ∉ Entries.keys validated) :
    validateFrom source validated declared = .ok result ↔
      ∃ added, result = validated ++ added ∧ List.Forall₂ (ReadFrom source) declared added := by
  induction declared generalizing validated with
  | nil =>
      rw [validateFrom]
      constructor
      · rintro ⟨⟩
        exact ⟨[], (List.append_nil _).symm, .nil⟩
      · rintro ⟨added, rfl, read⟩
        cases read
        rw [List.append_nil]
  | cons parameter rest ih =>
      obtain ⟨apart, distinctRest⟩ := distinctNames_cons_iff.1 distinct
      obtain ⟨new, freshRest⟩ := List.forall_mem_cons.1 fresh
      have freshAfter (value : Value) : ∀ other ∈ rest,
          other.name ∉ Entries.keys (validated ++ [(parameter.name, value)]) := by
        intro other member held
        rw [Entries.keys, List.map_append] at held
        rcases List.mem_append.1 held with before | last
        · exact freshRest other member before
        · exact apart other member (List.mem_singleton.1 last)
      rw [validateFrom, bind_eq_ok_iff]
      constructor
      · rintro ⟨value, valid, others⟩
        rw [Entries.insert_of_not_mem new, ih distinctRest (freshAfter value)] at others
        obtain ⟨added, rfl, read⟩ := others
        refine ⟨(parameter.name, value) :: added, ?_, .cons ⟨rfl, valid⟩ read⟩
        rw [List.append_assoc, List.singleton_append]
      · rintro ⟨added, rfl, read⟩
        cases read with
        | @cons _ entry _ others first read =>
            obtain ⟨key, value⟩ := entry
            obtain ⟨rfl, valid⟩ := first
            refine ⟨value, valid, ?_⟩
            rw [Entries.insert_of_not_mem new, ih distinctRest (freshAfter value)]
            refine ⟨others, ?_, read⟩
            rw [List.append_assoc, List.singleton_append]

/-- Parameters are valid together when each is, and yield their values in order. -/
theorem validateAll_eq_ok_iff {source result : Entries String Value} {declared : List Parameter}
    (distinct : DistinctNames declared) :
    validateAll declared source = .ok result ↔
      List.Forall₂ (ReadFrom source) declared result := by
  rw [validateAll, validateFrom_eq_ok_iff distinct fun _ _ => List.not_mem_nil]
  simp

/-- Validation fails with the failure of the first parameter that is not valid. -/
theorem validateFrom_eq_error_iff {source validated : Entries String Value}
    {declared : List Parameter} {failure : ValidationFailure} :
    validateFrom source validated declared = .error failure ↔
      ∃ before parameter after, declared = before ++ parameter :: after ∧
        (∀ earlier ∈ before, ∃ value,
          earlier.validate (source.lookup earlier.name) = .ok value) ∧
        parameter.validate (source.lookup parameter.name) = .error failure := by
  induction declared generalizing validated with
  | nil => simp [validateFrom]
  | cons head rest ih =>
      rw [validateFrom]
      cases valid : head.validate (source.lookup head.name) with
      | error first =>
          constructor
          · rintro ⟨⟩
            exact ⟨[], head, rest, rfl, List.forall_mem_nil _, valid⟩
          · rintro ⟨before, parameter, after, split, earlier, failed⟩
            cases before with
            | nil =>
                obtain ⟨rfl, rfl⟩ := List.cons.inj split
                rw [valid] at failed
                cases failed
                rfl
            | cons other before =>
                obtain ⟨rfl, _⟩ := List.cons.inj split
                obtain ⟨value, accepted⟩ := earlier head List.mem_cons_self
                rw [valid] at accepted
                cases accepted
      | ok value =>
          rw [ok_bind, ih]
          constructor
          · rintro ⟨before, parameter, after, rfl, earlier, failed⟩
            exact ⟨head :: before, parameter, after, rfl,
              List.forall_mem_cons.2 ⟨⟨value, valid⟩, earlier⟩, failed⟩
          · rintro ⟨before, parameter, after, split, earlier, failed⟩
            cases before with
            | nil =>
                obtain ⟨rfl, rfl⟩ := List.cons.inj split
                rw [valid] at failed
                cases failed
            | cons other before =>
                obtain ⟨rfl, rfl⟩ := List.cons.inj split
                exact ⟨before, parameter, after, rfl,
                  (List.forall_mem_cons.1 earlier).2, failed⟩

theorem validateAll_eq_error_iff {source : Entries String Value} {declared : List Parameter}
    {failure : ValidationFailure} :
    validateAll declared source = .error failure ↔
      ∃ before parameter after, declared = before ++ parameter :: after ∧
        (∀ earlier ∈ before, ∃ value,
          earlier.validate (source.lookup earlier.name) = .ok value) ∧
        parameter.validate (source.lookup parameter.name) = .error failure :=
  validateFrom_eq_error_iff

end Parameter

end RoutePlan
