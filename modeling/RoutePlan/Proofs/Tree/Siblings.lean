import RoutePlan.Proofs.Tree.ImportStack
import RoutePlan.Proofs.Tree.Method

/-!
# Siblings

The entries of a mapping do not see each other.  Some entries and then others compile as the
first alone, and if these succeed, as both alone one after the other: the first violation
wins, and nothing behind it is looked at.  This also holds on an import stack, which the
first entries leave as they found it whether they succeed or not.
-/

namespace RoutePlan

namespace Checked

variable {α β : Type}

/-- The whole is the first list and then the second: all of the first alone if it fails, else
its results and warnings followed by those of the second, or by the error of the second. -/
structure InTurn (whole first second : Checked (List α)) : Prop where
  stops : ∀ error, first.outcome = .error error → whole = first
  goesOn : ∀ built, first.outcome = .ok built →
    whole = ⟨first.warnings ++ second.warnings, (built ++ ·) <$> second.outcome⟩

theorem inTurn_of_eq {whole first second : Checked (List α)}
    (same : whole = do
      let built ← first
      let others ← second
      return built ++ others) : whole.InTurn first second := by
  subst same
  obtain ⟨warnings, outcome⟩ := first
  constructor
  · rintro error rfl
    rfl
  · rintro built rfl
    show (⟨warnings ++ (do let others ← second; return built ++ others).warnings,
      (do let others ← second; return built ++ others).outcome⟩ : Checked (List α)) = _
    rw [bind_pure_comp, warnings_map, outcome_map]

theorem traverse_inTurn (construct : α → Checked β) (first second : List α) :
    (traverse construct (first ++ second)).InTurn (traverse construct first)
      (traverse construct second) :=
  inTurn_of_eq (traverse_append construct first second)

end Checked

/-- Compile the entries of a mapping of methods. -/
def Method.compileEach (settings : RouteSettings) (params : List Parameter)
    (methods : Entries String Value) : Checked (List Method) :=
  Checked.traverse (fun entry => compile settings params entry.1 entry.2) methods

theorem Route.compileMethods_eq (settings : RouteSettings) (name : String)
    (params : List Parameter) {methods : Entries String Value} (filled : methods ≠ []) :
    compileMethods settings name params (some (.map methods)) =
      Method.compileEach settings params methods := by
  cases methods with
  | nil => exact absurd rfl filled
  | cons entry rest => rfl

namespace Element

variable (sources : Sources) (stack : List Location) (inherited : List Parameter)

theorem compileDocument_inTurn (first second : Entries String Value) :
    (compileDocument sources stack inherited (first ++ second)).InTurn
      (compileDocument sources stack inherited first)
      (compileDocument sources stack inherited second) := by
  simp only [compileDocument_eq, compileAll_eq_traverse]
  exact Checked.traverse_inTurn _ first second

/-- With fuel for all locations that its imports lead to, a mapping compiles on any import
stack as it does without one, and leaves the stack as it was. -/
theorem process_document {fuel : Nat} {entries : Entries String Value}
    (enough : (importLocations sources (items entries)).ncard ≤ fuel)
    (history : List (List Location)) :
    ∃ seen, process sources fuel inherited (items entries) ⟨stack, history⟩ =
      some (compileDocument sources stack inherited entries, ⟨stack, history ++ seen⟩) := by
  have leaves : Leaves stack _ (process sources fuel inherited (items entries)) _ :=
    process_leaves_stack ((locationsLeft_le sources stack _).trans enough)
  obtain ⟨seen, ended, _⟩ := leaves history
  rw [compileDocument_eq_compileItems]
  exact ⟨seen, ended⟩

/-- Siblings are independent and the first violation wins.  Whatever is inherited, read and
being imported: some entries and then others compile in turn, and so do the methods of a
route and the declarations of parameters.  On the import stack the first entries do the same
whatever follows.  If they fail, that is all, and if they succeed, the others do what they do
alone from the stack as it was found. -/
theorem siblings_compile_in_turn (first second : Entries String Value) :
    (compileDocument sources stack inherited (first ++ second)).InTurn
        (compileDocument sources stack inherited first)
        (compileDocument sources stack inherited second) ∧
      (∀ fuel, (importLocations sources (items (first ++ second))).ncard ≤ fuel →
        ∀ history, ∃ seen,
        process sources fuel inherited (items first) ⟨stack, history⟩ =
          some (compileDocument sources stack inherited first, ⟨stack, history ++ seen⟩) ∧
        (∀ error, (compileDocument sources stack inherited first).outcome = .error error →
          process sources fuel inherited (items (first ++ second)) ⟨stack, history⟩ =
            process sources fuel inherited (items first) ⟨stack, history⟩) ∧
        ∀ built, (compileDocument sources stack inherited first).outcome = .ok built →
          ∃ later,
            process sources fuel inherited (items second) ⟨stack, history ++ seen⟩ =
              some (compileDocument sources stack inherited second,
                ⟨stack, history ++ seen ++ later⟩) ∧
            process sources fuel inherited (items (first ++ second)) ⟨stack, history⟩ =
              some (compileDocument sources stack inherited (first ++ second),
                ⟨stack, history ++ seen ++ later⟩)) ∧
      (∀ name, (first ++ second ≠ [] →
          Route.compileMethods sources.settings name inherited (some (.map (first ++ second))) =
            Method.compileEach sources.settings inherited (first ++ second)) ∧
        (Method.compileEach sources.settings inherited (first ++ second)).InTurn
          (Method.compileEach sources.settings inherited first)
          (Method.compileEach sources.settings inherited second)) ∧
      ∀ node field,
        (Parameter.declareAll node field (some (.map (first ++ second)))).InTurn
          (Parameter.declareAll node field (some (.map first)))
          (Parameter.declareAll node field (some (.map second))) := by
  have inTurn := compileDocument_inTurn sources stack inherited first second
  refine ⟨inTurn, fun fuel enough history => ?_,
    fun name => ⟨Route.compileMethods_eq _ name _, Checked.traverse_inTurn _ first second⟩,
    fun node field => Checked.traverse_inTurn _ first second⟩
  have fewer {entries : Entries String Value}
      (more : fileNames (items entries) ⊆ fileNames (items (first ++ second))) :
      (importLocations sources (items entries)).ncard ≤ fuel :=
    (Set.ncard_le_ncard (importLocations_mono more) (importLocations_finite _ _)).trans enough
  rw [items_append, fileNames_append] at fewer
  obtain ⟨seen, ended⟩ :=
    process_document sources stack inherited (fewer (List.subset_append_left _ _)) history
  refine ⟨seen, ended, fun error failed => ?_, fun built succeeded => ?_⟩
  · rw [items_append, process_append, ended, Process.bind_apply_of_error ended failed, ← failed]
  · obtain ⟨later, after⟩ := process_document sources stack inherited
      (fewer (List.subset_append_right _ _)) (history ++ seen)
    refine ⟨later, after, ?_⟩
    rw [items_append, process_append, Process.bind_apply_of_ok ended succeeded,
      Process.bind_pure_apply after, inTurn.goesOn built succeeded, Option.map_some,
      Checked.warnings_map, Checked.outcome_map]

end Element

end RoutePlan
