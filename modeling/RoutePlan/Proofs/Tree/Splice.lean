import RoutePlan.Proofs.Tree.Listing

/-!
# Forests without imports

A forest in which every import is replaced by the elements that it holds.  It lists the
same routes and makes the same registrations.
-/

namespace RoutePlan.Element

mutual

/-- An element with the elements of its imports in their place. -/
def splice : Element → List Element
  | .root mount children => [.root mount (spliceAll children)]
  | .route held => [.route held]
  | .imports _ children => spliceAll children

/-- A forest with the elements of its imports in their place. -/
def spliceAll : List Element → List Element
  | [] => []
  | element :: rest => splice element ++ spliceAll rest

end

theorem spliceAll_append (first second : List Element) :
    spliceAll (first ++ second) = spliceAll first ++ spliceAll second := by
  induction first with
  | nil => rfl
  | cons element rest ih => simp only [List.cons_append, spliceAll, ih, List.append_assoc]

theorem registrationsAll_append (mount : String) (first second : List Element) :
    registrationsAll mount (first ++ second) =
      registrationsAll mount first ++ registrationsAll mount second := by
  induction first with
  | nil => rfl
  | cons element rest ih => simp only [List.cons_append, registrationsAll, ih, List.append_assoc]

/-- A forest without imports is left alone. -/
@[simp]
theorem spliceAll_spliceAll (forest : List Element) :
    spliceAll (spliceAll forest) = spliceAll forest := by
  induction forest using forestInduction with
  | nil => rfl
  | root head children rest inner others =>
      simp [spliceAll, splice, inner, others]
  | route node rest others => simp [spliceAll, splice, others]
  | imports sources children rest inner others =>
      simp [spliceAll, splice, spliceAll_append, inner, others]

theorem registrationsAll_spliceAll (mount : String) (forest : List Element) :
    registrationsAll mount (spliceAll forest) = registrationsAll mount forest := by
  induction forest using forestInduction generalizing mount with
  | nil => rfl
  | root head children rest inner others =>
      simp [spliceAll, splice, registrationsAll, registrations, inner, others]
  | route node rest others =>
      simp [spliceAll, splice, registrationsAll, registrations, others]
  | imports sources children rest inner others =>
      simp [spliceAll, splice, registrationsAll, registrations, registrationsAll_append, inner,
        others]

theorem listingAll_spliceAll (mount : String) (forest : List Element) :
    listingAll mount (spliceAll forest) = listingAll mount forest := by
  rw [← filterMap_listed?_registrationsAll, registrationsAll_spliceAll,
    filterMap_listed?_registrationsAll]

end RoutePlan.Element
