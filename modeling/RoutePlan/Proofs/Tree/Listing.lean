import RoutePlan.Tree.Listing
import RoutePlan.Proofs.PathPattern

/-!
# Listing and registration agree

The routes that a forest lists are the routes among its registrations, in order.
Every path under which something is registered is a joined path, so it is in
normal form and its pattern is shown as it is.
-/

namespace RoutePlan

namespace Element

/-- Induction on forests: what holds of no element, and of an element before a
forest when it holds of the elements inside and of the forest, holds of every
forest. -/
@[elab_as_elim]
theorem forestInduction {motive : List Element → Prop} (nil : motive [])
    (root : ∀ head children rest, motive children → motive rest →
      motive (.root head children :: rest))
    (route : ∀ node rest, motive rest → motive (.route node :: rest))
    (imports : ∀ sources children rest, motive children → motive rest →
      motive (.imports sources children :: rest))
    (forest : List Element) : motive forest :=
  match forest with
  | [] => nil
  | .root head children :: rest =>
      root head children rest (forestInduction nil root route imports children)
        (forestInduction nil root route imports rest)
  | .route node :: rest => route node rest (forestInduction nil root route imports rest)
  | .imports sources children :: rest =>
      imports sources children rest (forestInduction nil root route imports children)
        (forestInduction nil root route imports rest)

end Element

namespace Registration

/-- The path under which something is registered. -/
def path : Registration → String
  | mount path _ => path
  | route path _ => path

end Registration

@[simp]
theorem filterMap_listed?_mounts (path : String) (middlewares : List String) :
    (mounts path middlewares).filterMap Registration.listed? = [] := by
  simp [mounts, List.filterMap_eq_nil_iff, Registration.listed?]

theorem path_of_mem_mounts {path : String} {middlewares : List String}
    {registration : Registration} (member : registration ∈ mounts path middlewares) :
    registration.path = path := by
  obtain ⟨name, _, rfl⟩ := List.mem_map.mp member
  rfl

namespace Route

theorem path_of_mem_registrations {mount : String} {route : Route} {registration : Registration}
    (member : registration ∈ route.registrations mount) :
    registration.path = UrlPath.join mount route.path := by
  rcases List.mem_append.mp member with member | member
  · rcases List.mem_append.mp member with member | member
    · exact path_of_mem_mounts member
    · obtain ⟨method, _, rfl⟩ := List.mem_map.mp member
      rfl
  · exact path_of_mem_mounts member

theorem filterMap_listed?_registrations (mount : String) (route : Route) :
    (route.registrations mount).filterMap Registration.listed? = route.listing mount := by
  simp [registrations, listing, List.filterMap_append, Registration.listed?, Function.comp_def]

end Route

namespace Element

/-- A forest lists the routes among its registrations. -/
theorem filterMap_listed?_registrationsAll (mount : String) (forest : List Element) :
    (registrationsAll mount forest).filterMap Registration.listed? = listingAll mount forest := by
  induction forest using forestInduction generalizing mount with
  | nil => rfl
  | root head children rest inner others =>
      simp [registrationsAll, registrations, listingAll, listing, inner, others]
  | route node rest others =>
      simp [registrationsAll, registrations, listingAll, listing, others,
        Route.filterMap_listed?_registrations]
  | imports sources children rest inner others =>
      simp [registrationsAll, registrations, listingAll, listing, inner, others]

/-- Everything is registered under a joined path. -/
theorem exists_join_of_mem_registrationsAll {mount : String} {forest : List Element}
    {registration : Registration} (member : registration ∈ registrationsAll mount forest) :
    ∃ base path, registration.path = UrlPath.join base path := by
  induction forest using forestInduction generalizing mount with
  | nil => simp [registrationsAll] at member
  | root head children rest inner others =>
      rcases List.mem_append.mp member with member | member
      · rw [registrations] at member
        rcases List.mem_append.mp member with member | member
        · rcases List.mem_append.mp member with member | member
          · exact ⟨mount, head.path, path_of_mem_mounts member⟩
          · exact inner member
        · exact ⟨mount, head.path, path_of_mem_mounts member⟩
      · exact others member
  | route node rest others =>
      rcases List.mem_append.mp member with member | member
      · exact ⟨mount, node.path, Route.path_of_mem_registrations member⟩
      · exact others member
  | imports sources children rest inner others =>
      rcases List.mem_append.mp member with member | member
      · exact inner member
      · exact others member

/-- A registered path is shown by its pattern as it is. -/
theorem display_parse_of_mem_registrationsAll {mount : String} {forest : List Element}
    {registration : Registration} (member : registration ∈ registrationsAll mount forest) :
    (PathPattern.parse registration.path).display = registration.path := by
  obtain ⟨base, path, joined⟩ := exists_join_of_mem_registrationsAll member
  rw [joined, PathPattern.display_parse_join]

/-- Every listed path is in normal form. -/
theorem isNormal_of_mem_listingAll {mount : String} {forest : List Element} {entry : ListedRoute}
    (member : entry ∈ listingAll mount forest) : UrlPath.IsNormal entry.path := by
  rw [← filterMap_listed?_registrationsAll] at member
  obtain ⟨registration, declared, listed⟩ := List.mem_filterMap.mp member
  obtain ⟨base, path, joined⟩ := exists_join_of_mem_registrationsAll declared
  cases registration with
  | mount _ _ => simp [Registration.listed?] at listed
  | route own method =>
      cases Option.some.inj listed
      show UrlPath.IsNormal (Registration.route own method).path
      rw [joined]
      exact UrlPath.isNormal_join base path

end Element

end RoutePlan
