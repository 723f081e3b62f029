import Mathlib.Data.List.Forall2
import RoutePlan.Checked

/-!
# Outcomes of checked constructions

Whether a construction succeeds, and with what, does not depend on the warnings
that are given on the way: `outcome` takes sequences of constructions to sequences
of plain results, and a traversal to the traversal of the outcomes.  A traversal
fails with the first error among its members, and succeeds exactly when every
member does.
-/

namespace RoutePlan

namespace Checked

variable {α β : Type}

@[simp]
theorem outcome_bind (first : Checked α) (next : α → Checked β) :
    (first >>= next).outcome = first.outcome >>= fun value => (next value).outcome := by
  show (first.andThen next).outcome = _
  unfold andThen
  cases first.outcome <;> rfl

@[simp]
theorem outcome_map (change : α → β) (built : Checked α) :
    (change <$> built).outcome = change <$> built.outcome := by
  rw [← bind_pure_comp, outcome_bind, ← bind_pure_comp]
  rfl

@[simp]
theorem warnings_map (change : α → β) (built : Checked α) :
    (change <$> built).warnings = built.warnings := by
  rw [← bind_pure_comp]
  show (built.andThen _).warnings = _
  unfold andThen
  cases built.outcome <;> simp

@[simp]
theorem outcome_fail (error : PlanError) : (fail error : Checked α).outcome = .error error :=
  rfl

@[simp]
theorem outcome_ofExcept (outcome : Except PlanError α) : (ofExcept outcome).outcome = outcome :=
  rfl

@[simp]
theorem warn_nil : warn [] = pure () :=
  rfl

@[simp]
theorem outcome_warn (warnings : List Warning) : (warn warnings).outcome = .ok () :=
  rfl

/-- Only what follows a success matters. -/
theorem bind_congr_of_ok {first : Checked α} {next others : α → Checked β}
    (same : ∀ value, first.outcome = .ok value → next value = others value) :
    first >>= next = first >>= others := by
  obtain ⟨warnings, outcome⟩ := first
  show andThen _ next = andThen _ others
  cases outcome with
  | error error => rfl
  | ok value => simp only [andThen, same value rfl]

/-- A sequence of plain results is a sequence of constructions. -/
theorem ofExcept_bind (first : Except PlanError α) (next : α → Except PlanError β) :
    ofExcept (first >>= next) = ofExcept first >>= fun value => ofExcept (next value) := by
  cases first <;> rfl

theorem ofExcept_map (result : α → β) (first : Except PlanError α) :
    ofExcept (result <$> first) = result <$> ofExcept first := by
  cases first <;> rfl

theorem outcome_traverse (construct : α → Checked β) (items : List α) :
    (traverse construct items).outcome = items.mapM fun item => (construct item).outcome := by
  induction items with
  | nil => rfl
  | cons item rest ih =>
      rw [traverse, outcome_bind, List.mapM_cons]
      congr 1
      funext built
      rw [outcome_bind, ih]
      rfl

/-- A change of every member is a change of the list. -/
theorem traverse_map {γ : Type} (change : β → γ) (construct : α → Checked β) (items : List α) :
    traverse (fun item => change <$> construct item) items =
      List.map change <$> traverse construct items := by
  induction items with
  | nil => rfl
  | cons item rest ih =>
      rw [traverse, traverse, ih]
      simp only [map_bind, bind_map_left, map_pure, List.map_cons]

end Checked

/-! ## Related lists -/

/-- Related lists are related at each place. -/
theorem rel_of_getElem? {α β : Type} {R : α → β → Prop} {left : List α} {right : List β}
    (related : List.Forall₂ R left right) {place : Nat} {first : α} {second : β}
    (leftAt : left[place]? = some first) (rightAt : right[place]? = some second) :
    R first second := by
  obtain ⟨leftBound, rfl⟩ := List.getElem?_eq_some_iff.mp leftAt
  obtain ⟨rightBound, rfl⟩ := List.getElem?_eq_some_iff.mp rightAt
  exact (List.forall₂_iff_get.mp related).2 place leftBound rightBound

/-- Each item on the right is related to one on the left. -/
theorem exists_rel_of_mem {α β : Type} {R : α → β → Prop} {left : List α} {right : List β}
    (related : List.Forall₂ R left right) {second : β} (member : second ∈ right) :
    ∃ first ∈ left, R first second := by
  obtain ⟨place, rightAt⟩ := List.mem_iff_getElem?.mp member
  have within : place < left.length := by
    rw [related.length_eq]
    exact (List.getElem?_eq_some_iff.mp rightAt).1
  have leftAt := List.getElem?_eq_getElem within
  exact ⟨_, List.mem_of_getElem? leftAt, rel_of_getElem? related leftAt rightAt⟩

/-! ## Traversals of plain results -/

section Traversal

variable {α β ε : Type} {attempt : α → Except ε β}

@[simp]
theorem ok_bind (value : α) (next : α → Except ε β) : (Except.ok value >>= next) = next value :=
  rfl

@[simp]
theorem error_bind (error : ε) (next : α → Except ε β) :
    (Except.error error >>= next) = .error error :=
  rfl

theorem bind_eq_ok_iff {first : Except ε α} {next : α → Except ε β} {result : β} :
    (first >>= next) = .ok result ↔ ∃ value, first = .ok value ∧ next value = .ok result := by
  cases first <;> simp

theorem map_eq_ok_iff {change : α → β} {first : Except ε α} {result : β} :
    change <$> first = .ok result ↔ ∃ value, first = .ok value ∧ change value = result := by
  cases first <;> simp [Functor.map, Except.map]

theorem bind_eq_error_iff {first : Except ε α} {next : α → Except ε β} {error : ε} :
    (first >>= next) = .error error ↔
      first = .error error ∨ ∃ value, first = .ok value ∧ next value = .error error := by
  cases first <;> simp

/-- A traversal whose members succeed with what a function says. -/
theorem mapM_eq_ok_map {result : α → β} {items : List α}
    (succeeds : ∀ item ∈ items, attempt item = .ok (result item)) :
    items.mapM attempt = .ok (items.map result) := by
  induction items with
  | nil => rfl
  | cons item rest ih =>
      rw [List.mapM_cons, succeeds item List.mem_cons_self,
        ih fun other member => succeeds other (List.mem_cons_of_mem item member)]
      rfl

/-- A traversal succeeds with the results of its members. -/
theorem mapM_eq_ok_iff {items : List α} {results : List β} :
    items.mapM attempt = .ok results ↔
      List.Forall₂ (fun item result => attempt item = .ok result) items results := by
  induction items generalizing results with
  | nil => cases results <;> simp [pure, Except.pure]
  | cons item rest ih =>
      rw [List.mapM_cons, bind_eq_ok_iff, List.forall₂_cons_left_iff]
      constructor
      · rintro ⟨built, first, succeeds⟩
        obtain ⟨later, others, same⟩ := bind_eq_ok_iff.1 succeeds
        cases same
        exact ⟨built, later, first, ih.1 others, rfl⟩
      · rintro ⟨built, later, first, others, rfl⟩
        exact ⟨built, first, bind_eq_ok_iff.2 ⟨later, ih.2 others, rfl⟩⟩

/-- Every member of a traversal that succeeds does. -/
theorem exists_ok_of_mapM_eq_ok {items : List α} {results : List β}
    (succeeds : items.mapM attempt = .ok results) {item : α} (member : item ∈ items) :
    ∃ result, attempt item = .ok result := by
  obtain ⟨result, _, found⟩ := exists_rel_of_mem (mapM_eq_ok_iff.1 succeeds).flip member
  exact ⟨result, found⟩

/-- What every member keeps, a traversal keeps as a list. -/
theorem map_eq_of_mapM_eq_ok {γ : Type} {before : α → γ} {after : β → γ}
    (keeps : ∀ item result, attempt item = .ok result → after result = before item)
    {items : List α} {results : List β} (succeeds : items.mapM attempt = .ok results) :
    results.map after = items.map before := by
  rw [← List.forall₂_eq_eq_eq, List.forall₂_map_left_iff, List.forall₂_map_right_iff]
  exact (mapM_eq_ok_iff.1 succeeds).flip.imp fun result item => keeps item result

/-- Every result of a traversal is that of a member. -/
theorem exists_item_of_mapM_eq_ok {items : List α} {results : List β}
    (succeeds : items.mapM attempt = .ok results) {result : β} (member : result ∈ results) :
    ∃ item ∈ items, attempt item = .ok result :=
  exists_rel_of_mem (mapM_eq_ok_iff.1 succeeds) member

/-- The error of a traversal is that of a member. -/
theorem exists_error_of_mapM_eq_error {items : List α} {error : ε}
    (failed : items.mapM attempt = .error error) : ∃ item ∈ items, attempt item = .error error := by
  induction items with
  | nil => cases failed
  | cons head rest ih =>
      rw [List.mapM_cons] at failed
      cases first : attempt head with
      | error other =>
          rw [first] at failed
          cases failed
          exact ⟨head, List.mem_cons_self, first⟩
      | ok built =>
          cases others : rest.mapM attempt with
          | error other =>
              rw [first, others] at failed
              cases failed
              obtain ⟨item, member, found⟩ := ih others
              exact ⟨item, List.mem_cons_of_mem head member, found⟩
          | ok results =>
              rw [first, others] at failed
              cases failed

end Traversal

/-! ## Failures -/

/-- The error of an outcome, if it has failed. -/
def failure? {ε α : Type} : Except ε α → Option ε
  | .ok _ => none
  | .error error => some error

section Failures

variable {ε α β : Type}

theorem failure?_eq_none_iff {outcome : Except ε α} :
    failure? outcome = none ↔ ∃ value, outcome = .ok value := by
  cases outcome <;> simp [failure?]

/-- When what follows fails alike for all results, an outcome fails with its own error
or with that of what follows. -/
theorem failure?_bind {first : Except ε α} {next : α → Except ε β} {last : Option ε}
    (alike : ∀ value, failure? (next value) = last) :
    failure? (first >>= next) = (failure? first).or last := by
  cases first with
  | error error => rfl
  | ok value => exact alike value

end Failures

end RoutePlan
