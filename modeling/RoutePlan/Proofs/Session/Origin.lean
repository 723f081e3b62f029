import RoutePlan.Proofs.Session.Run

/-!
# Where the tree of a session comes from

Every tree of a run was compiled from a document, so what holds of all compiled
forests holds of the tree of every load.
-/

namespace RoutePlan.Session

/-- Unless nothing is compiled, the tree is what some document compiled to. -/
def HasOrigin (session : Session) : Prop :=
  session.phase ≠ .blank →
    ∃ sources document, (compile sources document).outcome = .ok session.forest

theorem start_hasOrigin (sources : Element.Sources) (modules : Modules) :
    (start sources modules).HasOrigin :=
  fun filled => absurd rfl filled

/-- Taking over the compilation of a document that was read, if it was. -/
theorem adopt_hasOrigin {session : Session} (origin : session.HasOrigin)
    (read : Except PlanError Value) :
    (session.adopt do
      compile session.sources (← Checked.ofExcept read)).session.HasOrigin := by
  unfold adopt
  split
  · exact origin
  · next forest compiled =>
      obtain ⟨document, _, compiled⟩ := Checked.bind_outcome_eq_ok_iff.1 compiled
      intro _
      exact ⟨session.sources, document, compiled⟩

theorem step_hasOrigin {session : Session} (origin : session.HasOrigin) (step : Step) :
    (session.step step).session.HasOrigin := by
  cases step with
  | parseValue document => exact adopt_hasOrigin origin (.ok document)
  | parseText text => exact adopt_hasOrigin origin (Document.read text)
  | parseFile name => exact adopt_hasOrigin origin (readDocument session.sources name)
  | changeFiles files => exact origin
  | load =>
      by_cases compiled : session.phase = .compiled
      · intro _
        have filled : session.phase ≠ .blank := by simp [compiled]
        show ∃ sources document,
          (compile sources document).outcome = .ok session.load.session.forest
        rw [load_forest]
        exact origin filled
      · rw [step, load_of_phase_ne compiled]
        exact origin

/-- The tree that a run leaves behind was compiled from a document. -/
theorem run_hasOrigin {start : Session} (origin : start.HasOrigin) (steps : List Step) :
    (start.run steps).HasOrigin := by
  induction steps generalizing start with
  | nil => exact origin
  | cons step rest ih => exact ih (step_hasOrigin origin step)

/-- The tree of every load of a run was compiled from a document. -/
theorem hasOrigin_of_mem_attempts {start attempt : Session} {steps : List Step}
    (origin : start.HasOrigin) (member : attempt ∈ start.attempts steps) : attempt.HasOrigin := by
  induction steps generalizing start with
  | nil => cases member
  | cons step rest ih =>
      have next := step_hasOrigin origin step
      by_cases loads : step = .load ∧ start.phase = .compiled
      · obtain ⟨rfl, compiled⟩ := loads
        rw [attempts_cons_load compiled] at member
        rcases List.mem_cons.mp member with rfl | member
        · exact origin
        · exact ih next member
      · rw [attempts_cons_of_not_load (not_and_or.mp loads)] at member
        exact ih next member

end RoutePlan.Session
