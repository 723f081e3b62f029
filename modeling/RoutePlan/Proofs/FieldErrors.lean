import RoutePlan.Proofs.Parameter
import RoutePlan.Tree.Method

/-!
# Errors on fields

The readers of the fields of a node tell what is wrong with these fields.  None of them
answers an error on the status of a method, on an import or on a document, and neither does
what is put together from them.
-/

namespace RoutePlan

/-- Every error that the outcome can be is one of those allowed. -/
def Answers {α : Type} (allowed : PlanError → Prop) (outcome : Except PlanError α) : Prop :=
  ∀ error, outcome = .error error → allowed error

namespace Answers

variable {α β : Type} {allowed : PlanError → Prop}

theorem ok (value : α) : Answers allowed (.ok value : Except PlanError α) := by
  intro error failed
  cases failed

theorem error {error : PlanError} (isAllowed : allowed error) :
    Answers allowed (.error error : Except PlanError α) := by
  rintro _ ⟨⟩
  exact isAllowed

theorem map {first : Except PlanError α} (answers : Answers allowed first) (change : α → β) :
    Answers allowed (first.map change) := by
  cases first with
  | ok value => exact .ok (change value)
  | error error => exact .error (answers error rfl)

theorem bind {first : Except PlanError α} {next : α → Except PlanError β}
    (answers : Answers allowed first) (nextAnswers : ∀ value, Answers allowed (next value)) :
    Answers allowed (first >>= next) := by
  intro error failed
  rcases bind_eq_error_iff.1 failed with here | ⟨value, _, later⟩
  · exact answers error here
  · exact nextAnswers value error later

theorem traverse {construct : α → Checked β}
    (answers : ∀ item, Answers allowed (construct item).outcome) (list : List α) :
    Answers allowed (Checked.traverse construct list).outcome := by
  intro error failed
  rw [Checked.outcome_traverse] at failed
  obtain ⟨item, _, found⟩ := exists_error_of_mapM_eq_error failed
  exact answers item error found

end Answers

/-- The violation is on a field of a root, a route, a method or a parameter, but not on the
status of a method. -/
def Violation.isOnField : Violation → Bool
  | statusNotNumber .. | statusNotAllowed .. | statusNotValid .. => false
  | importShape _ | importsNothing | importNotNamed | importCycle _ => false
  | documentNotMapping _ | middlewareName _ | nothingCompiled | alreadyLoaded => false
  | _ => true

/-- The error is on a field, or a node is missing. -/
def PlanError.OnField : PlanError → Prop
  | nodeMissing _ => True
  | invalid violation => violation.isOnField = true
  | _ => False

open PlanError (OnField)

theorem readPath_onField (node : NodeName) (field : String) (value : Option Value) :
    Answers OnField (readPath node field value) := by
  unfold readPath
  split
  · split
    · exact .ok _
    · exact .error rfl
  · exact .error rfl
  · exact .error rfl

theorem readMiddlewares_onField (node : NodeName) (field : String) (value : Option Value) :
    Answers OnField (readMiddlewares node field value) := by
  unfold readMiddlewares
  split
  · exact .ok _
  · exact .ok _
  · split
    · exact .ok _
    · exact .error rfl
  · exact .error rfl

theorem requireMapping_onField (node : NodeName) (value : Value) :
    Answers OnField (requireMapping node value) := by
  unfold requireMapping
  split
  · exact .ok _
  · exact .error trivial
  · exact .error rfl

namespace Parameter

theorem readKind_onField (kindName : String) : Answers OnField (readKind kindName) := by
  unfold readKind
  split
  · exact .ok _
  · exact .error rfl

theorem kindField_onField (name : String) (value : Option Value) :
    Answers OnField (kindField name value) := by
  unfold kindField
  split
  · exact readKind_onField _
  · exact .error rfl
  · exact .error rfl

theorem castDefault_onField (name : String) (kind : ParamKind) (value : Value) :
    Answers OnField (castDefault name kind value) := by
  unfold castDefault
  split
  · exact .ok _
  · exact .ok _
  · split
    · exact .ok _
    · exact .error rfl

theorem defaultField_onField (name : String) (kind : ParamKind) (value : Option Value) :
    Answers OnField (defaultField name kind value) := by
  cases value with
  | none => exact .ok none
  | some value => exact (castDefault_onField name kind value).map some

theorem declare_onField (name : String) (declaration : Value) :
    Answers OnField (declare name declaration).outcome := by
  unfold declare
  split
  · exact .error rfl
  · split
    · exact .error trivial
    · simp only [Checked.outcome_bind, Checked.outcome_ofExcept]
      exact (readKind_onField _).bind fun _ => .ok _
    · simp only [Checked.outcome_bind, Checked.outcome_ofExcept, Checked.outcome_warn]
      exact (Answers.ok ()).bind fun _ => (kindField_onField _ _).bind fun _ =>
        (defaultField_onField _ _ _).bind fun _ => .ok _
    · exact .error rfl

theorem declareAll_onField (node : NodeName) (field : String) (value : Option Value) :
    Answers OnField (declareAll node field value).outcome := by
  unfold declareAll
  split
  · exact .ok []
  · exact .ok []
  · exact .traverse (fun _ => declare_onField _ _) _
  · exact .error rfl

theorem inherit_onField (node : NodeName) (inherited own : List Parameter) :
    Answers OnField (inherit node inherited own) := by
  intro error failed
  obtain ⟨name, rfl⟩ := inherit_error failed
  exact rfl

end Parameter

theorem MountHead.compile_onField (node : NodeName) (pathField : String)
    (recognized : List String) (inherited : List Parameter) (config : Entries String Value) :
    Answers OnField (compile node pathField recognized inherited config).outcome := by
  unfold compile
  simp only [Checked.outcome_bind, Checked.outcome_ofExcept, Checked.outcome_warn]
  exact (Answers.ok ()).bind fun _ => (readMiddlewares_onField _ _ _).bind fun _ =>
    (readMiddlewares_onField _ _ _).bind fun _ => (readPath_onField _ _ _).bind fun _ =>
      (Parameter.declareAll_onField _ _ _).bind fun _ =>
        (Parameter.inherit_onField _ _ _).bind fun _ => .ok _

namespace Method

theorem requireConfig_onField (verb : String) (value : Value) :
    Answers OnField (requireConfig verb value) := by
  unfold requireConfig
  split
  · exact .error trivial
  · exact .ok _
  · exact .ok _
  · exact .error rfl

theorem readController_onField (verb : String) (field : Option Value) :
    Answers OnField (readController verb field) := by
  unfold readController
  split
  · exact .ok _
  · exact .error rfl

end Method

end RoutePlan
