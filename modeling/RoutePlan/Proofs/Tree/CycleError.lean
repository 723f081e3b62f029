import RoutePlan.Proofs.FieldErrors
import RoutePlan.Proofs.Tree.Items

/-!
# Which error is a cycle

Only the check that is made before a file is imported answers that an import is a
cycle.  No other check of a compilation does.
-/

namespace RoutePlan

/-- The outcome is not that an import is a cycle. -/
def AnswersNoCycle {α : Type} (outcome : Except PlanError α) : Prop :=
  ∀ chain, outcome ≠ .error (.invalid (.importCycle chain))

theorem answersNoCycle_iff {α : Type} {outcome : Except PlanError α} :
    AnswersNoCycle outcome ↔
      Answers (fun error => ∀ chain, error ≠ .invalid (.importCycle chain)) outcome := by
  constructor
  · rintro answers _ failed chain rfl
    exact answers chain failed
  · intro answers chain failed
    exact answers _ failed chain rfl

/-- No error on a field is a cycle. -/
theorem Answers.noCycle {α : Type} {outcome : Except PlanError α}
    (answers : Answers PlanError.OnField outcome) : AnswersNoCycle outcome := by
  intro chain failed
  exact absurd (answers _ failed) Bool.false_ne_true

namespace AnswersNoCycle

variable {α β : Type}

theorem ok (value : α) : AnswersNoCycle (.ok value : Except PlanError α) :=
  answersNoCycle_iff.2 (.ok value)

theorem bind {first : Except PlanError α} {next : α → Except PlanError β}
    (answers : AnswersNoCycle first) (nextAnswers : ∀ value, AnswersNoCycle (next value)) :
    AnswersNoCycle (first >>= next) :=
  answersNoCycle_iff.2 <|
    (answersNoCycle_iff.1 answers).bind fun value => answersNoCycle_iff.1 (nextAnswers value)

theorem traverse {construct : α → Checked β}
    (answers : ∀ item, AnswersNoCycle (construct item).outcome) (list : List α) :
    AnswersNoCycle (Checked.traverse construct list).outcome :=
  answersNoCycle_iff.2 <| .traverse (fun item => answersNoCycle_iff.1 (answers item)) list

end AnswersNoCycle

/-! ## Nodes -/

namespace Method

theorem readStatus_answersNoCycle (settings : RouteSettings) (verb : String)
    (field : Option Value) : AnswersNoCycle (readStatus settings verb field) := by
  have code : AnswersNoCycle (declaredCode settings verb field) := by
    intro chain failed
    unfold declaredCode at failed
    grind
  refine code.bind fun code => ?_
  intro chain failed
  split at failed
  · split at failed <;> cases failed
  · cases failed

theorem compile_answersNoCycle (settings : RouteSettings) (params : List Parameter)
    (verbName : String) (value : Value) :
    AnswersNoCycle (compile settings params verbName value).outcome := by
  unfold compile
  cases Verb.parse? verbName with
  | none =>
      intro chain failed
      cases failed
  | some verb =>
      simp only [pure_bind, Checked.outcome_bind, Checked.outcome_ofExcept,
        Checked.outcome_warn]
      exact (requireConfig_onField _ _).noCycle.bind fun _ => (AnswersNoCycle.ok ()).bind fun _ =>
        (readController_onField _ _).noCycle.bind fun _ =>
          (readStatus_answersNoCycle _ _ _).bind fun _ =>
            (Parameter.declareAll_onField _ _ _).noCycle.bind fun _ =>
              (readMiddlewares_onField _ _ _).noCycle.bind fun _ =>
                (readMiddlewares_onField _ _ _).noCycle.bind fun _ => .ok _

end Method

namespace Route

theorem compileMethods_answersNoCycle (settings : RouteSettings) (name : String)
    (params : List Parameter) (field : Option Value) :
    AnswersNoCycle (compileMethods settings name params field).outcome := by
  unfold compileMethods
  split
  · intro chain failed
    cases failed
  · intro chain failed
    cases failed
  · intro chain failed
    cases failed
  · exact .traverse (fun _ => Method.compile_answersNoCycle _ _ _ _) _
  · intro chain failed
    cases failed

theorem compile_answersNoCycle (settings : RouteSettings) (inherited : List Parameter)
    (name : String) (value : Value) :
    AnswersNoCycle (compile settings inherited name value).outcome := by
  unfold compile
  simp only [Checked.outcome_bind, Checked.outcome_ofExcept]
  exact (requireMapping_onField _ _).noCycle.bind fun _ =>
    (MountHead.compile_onField _ _ _ _ _).noCycle.bind fun _ =>
      (compileMethods_answersNoCycle _ _ _ _).bind fun _ => .ok _

end Route

namespace Document

theorem read_answersNoCycle (text : String) : AnswersNoCycle (read text) := by
  intro chain failed
  unfold read at failed
  grind

theorem entries_answersNoCycle (document : Value) : AnswersNoCycle (entries document) := by
  intro chain failed
  unfold entries at failed
  grind

end Document

namespace Element

/-! ## Entries and files -/

theorem classify_answersNoCycle (key : String) (value : Value) :
    AnswersNoCycle (classify key value) := by
  intro chain failed
  unfold classify at failed
  grind

theorem importNames_answersNoCycle (value : Value) : AnswersNoCycle (importNames value) := by
  intro chain failed
  unfold importNames at failed
  grind

theorem frame_answersNoCycle (sources : Sources) (inherited : List Parameter) (key : String)
    (value : Value) : AnswersNoCycle (frame sources inherited key value).outcome := by
  unfold frame
  split
  · next error shape =>
      intro chain failed
      cases failed
      exact classify_answersNoCycle key value chain shape
  · simp only [Checked.outcome_bind, Checked.outcome_ofExcept]
    exact (importNames_answersNoCycle _).bind fun _ => .ok _
  · simp only [Checked.outcome_bind]
    exact (Route.compile_answersNoCycle _ _ _ _).bind fun _ => .ok _
  · split
    · rw [Checked.outcome_bind]
      refine (MountHead.compile_onField _ _ _ _ _).noCycle.bind fun head => ?_
      intro chain failed
      split at failed <;> cases failed
    · intro chain failed
      cases failed

theorem fileEntries_answersNoCycle (path : String) (octets : List UInt8) :
    AnswersNoCycle (fileEntries path octets) := by
  unfold fileEntries
  split
  · intro chain failed
    cases failed
  · exact (Document.read_answersNoCycle _).bind fun _ => Document.entries_answersNoCycle _

end Element

end RoutePlan
