import RoutePlan.Proofs.Checked
import RoutePlan.Tree.Method

/-!
# Methods and the mappings that they come from

A method that compiles has read its verb from its key and the rest from its mapping, and a
route that compiles has one method for each entry of its methods.
-/

namespace RoutePlan

variable {settings : RouteSettings} {params : List Parameter} {name : String} {value : Value}

/-- A method has the verb that its key spells and the status that its mapping declares. -/
theorem Method.exists_config_of_compile {method : Method}
    (compiled : (compile settings params name value).outcome = .ok method) :
    ∃ config, Verb.parse? name = some method.verb ∧ requireConfig name value = .ok config ∧
      readStatus settings name (config.lookup "response_code") = .ok method.status := by
  unfold compile at compiled
  cases parsed : Verb.parse? name with
  | none =>
      rw [parsed] at compiled
      cases compiled
  | some verb =>
      rw [parsed] at compiled
      dsimp only at compiled
      rw [pure_bind] at compiled
      obtain ⟨config, configRead, compiled⟩ := Checked.bind_outcome_eq_ok_iff.1 compiled
      obtain ⟨_, _, compiled⟩ := Checked.bind_outcome_eq_ok_iff.1 compiled
      obtain ⟨_, _, compiled⟩ := Checked.bind_outcome_eq_ok_iff.1 compiled
      obtain ⟨status, statusRead, compiled⟩ := Checked.bind_outcome_eq_ok_iff.1 compiled
      obtain ⟨_, _, compiled⟩ := Checked.bind_outcome_eq_ok_iff.1 compiled
      obtain ⟨_, _, compiled⟩ := Checked.bind_outcome_eq_ok_iff.1 compiled
      obtain ⟨_, _, compiled⟩ := Checked.bind_outcome_eq_ok_iff.1 compiled
      cases compiled
      exact ⟨config, rfl, configRead, statusRead⟩

namespace Route

/-- A route has the methods of a mapping that is not empty, in the order of its keys. -/
theorem exists_methods_of_compile {route : Route}
    (compiled : (compile settings params name value).outcome = .ok route) :
    ∃ config methods, value = .map config ∧ config.lookup "methods" = some (.map methods) ∧
      methods ≠ [] ∧
      methods.mapM (fun entry =>
        (Method.compile settings route.params entry.1 entry.2).outcome) = .ok route.methods := by
  unfold compile at compiled
  obtain ⟨config, mapping, compiled⟩ := Checked.bind_outcome_eq_ok_iff.1 compiled
  obtain ⟨head, _, compiled⟩ := Checked.bind_outcome_eq_ok_iff.1 compiled
  obtain ⟨built, each, compiled⟩ := Checked.bind_outcome_eq_ok_iff.1 compiled
  cases compiled
  have same : value = .map config := by
    cases value with
    | map entries => cases mapping; rfl
    | _ => cases mapping
  unfold compileMethods at each
  split at each
  · cases each
  · cases each
  · cases each
  · next methods filled found =>
      rw [Checked.outcome_traverse] at each
      exact ⟨config, methods, same, found, filled, each⟩
  · cases each

theorem methods_ne_nil_of_compile {route : Route}
    (compiled : (compile settings params name value).outcome = .ok route) :
    route.methods ≠ [] := by
  obtain ⟨_, methods, _, _, filled, each⟩ := exists_methods_of_compile compiled
  intro none
  rw [none] at each
  cases mapM_eq_ok_iff.1 each
  exact filled rfl

end Route

end RoutePlan
