import RoutePlan.PlanError

/-!
# Checked constructions

A construction either succeeds or stops at its first error; either way it has
given warnings, in order.  Warnings given before an error are kept.
-/

namespace RoutePlan

/-- A key that the node does not use. -/
structure Warning where
  node : NodeName
  key : String
deriving DecidableEq

namespace Warning

/-- The wording. -/
def message (warning : Warning) : String :=
  s!"{warning.node.display}: unused key \"{warning.key}\""

end Warning

/-- The outcome of a construction, and the warnings it gave. -/
structure Checked (α : Type) where
  warnings : List Warning
  outcome : Except PlanError α

namespace Checked

variable {α β : Type}

/-- Stop with an error. -/
def fail (error : PlanError) : Checked α :=
  ⟨[], .error error⟩

/-- Stop with a malformed argument. -/
def reject (violation : Violation) : Checked α :=
  fail (.invalid violation)

/-- Give warnings and go on. -/
def warn (warnings : List Warning) : Checked Unit :=
  ⟨warnings, .ok ()⟩

/-- Go on with the result of a construction; warnings are kept in order. -/
def andThen (first : Checked α) (next : α → Checked β) : Checked β :=
  match first.outcome with
  | .error error => ⟨first.warnings, .error error⟩
  | .ok value => ⟨first.warnings ++ (next value).warnings, (next value).outcome⟩

instance : Monad Checked where
  pure value := ⟨[], .ok value⟩
  bind := andThen

/-- A result without warnings. -/
def ofExcept (outcome : Except PlanError α) : Checked α :=
  ⟨[], outcome⟩

/-- Construct from every member of a list, in order. -/
def traverse (construct : α → Checked β) : List α → Checked (List β)
  | [] => pure []
  | item :: rest => do
      let built ← construct item
      let others ← traverse construct rest
      return built :: others

@[simp]
theorem pure_warnings (value : α) : (pure value : Checked α).warnings = [] :=
  rfl

@[simp]
theorem pure_outcome (value : α) : (pure value : Checked α).outcome = .ok value :=
  rfl

@[simp]
theorem fail_bind (error : PlanError) (next : α → Checked β) :
    (fail error >>= next) = fail error :=
  rfl

theorem bind_outcome_eq_ok_iff {first : Checked α} {next : α → Checked β} {result : β} :
    (first >>= next).outcome = .ok result ↔
      ∃ value, first.outcome = .ok value ∧ (next value).outcome = .ok result := by
  show (first.andThen next).outcome = .ok result ↔ _
  unfold andThen
  cases first.outcome <;> simp

theorem bind_pure_eq (first : Checked α) : (first >>= pure) = first := by
  obtain ⟨warnings, outcome⟩ := first
  show andThen _ _ = _
  cases outcome <;> simp [andThen]

theorem pure_bind_eq (value : α) (next : α → Checked β) : (pure value >>= next) = next value := by
  show andThen _ _ = _
  simp [andThen]

theorem bind_assoc_eq {γ : Type} (first : Checked α) (next : α → Checked β)
    (last : β → Checked γ) :
    (first >>= next >>= last) = first >>= fun value => next value >>= last := by
  show andThen (andThen _ _) _ = andThen _ fun value => andThen _ _
  unfold andThen
  cases first.outcome with
  | error => rfl
  | ok value => cases outcome : (next value).outcome <;> simp [outcome]

instance : LawfulMonad Checked :=
  LawfulMonad.mk' Checked bind_pure_eq pure_bind_eq bind_assoc_eq

end Checked

end RoutePlan
