import RoutePlan.Proofs.Tree.Listing
import RoutePlan.Proofs.Tree.Load

/-!
# Mounting

What stands under a mount path is what stands at the root, with the mount path put before
every path.  This holds of the routes that a tree lists, of the registrations that it makes,
and of the calls on the router that a load makes for them; how far the load gets and why it
ends does not depend on the mount path.

It rests on the laws of joined paths: joining is associative, the root path is neutral on both
sides, and joining with it gives the normal form.
-/

namespace RoutePlan

/-! ## Listings and registrations -/

namespace ListedRoute

/-- The route under a mount path. -/
def under (mount : String) (route : ListedRoute) : ListedRoute :=
  { route with path := UrlPath.join mount route.path }

end ListedRoute

namespace Registration

/-- The registration under a mount path. -/
def under (outer : String) : Registration → Registration
  | mount path middleware => mount (UrlPath.join outer path) middleware
  | route path method => route (UrlPath.join outer path) method

theorem path_under (outer : String) (registration : Registration) :
    (registration.under outer).path = UrlPath.join outer registration.path := by
  cases registration <;> rfl

end Registration

theorem map_under_mounts (outer path : String) (middlewares : List String) :
    (mounts path middlewares).map (Registration.under outer) =
      mounts (UrlPath.join outer path) middlewares := by
  rw [mounts, List.map_map]
  rfl

section Splits

variable {whole mount base : String}

/-- A path under a mount path that is reached in two steps. -/
theorem UrlPath.join_of_segments
    (split : Text.segments whole = Text.segments mount ++ Text.segments base) (path : String) :
    join whole path = join mount (join base path) := by
  apply join_congr
  rw [segments_join, split, List.append_assoc]

theorem Route.listing_of_segments
    (split : Text.segments whole = Text.segments mount ++ Text.segments base) (route : Route) :
    route.listing whole = (route.listing base).map (ListedRoute.under mount) := by
  rw [listing, listing, List.map_map, UrlPath.join_of_segments split]
  rfl

theorem Route.registrations_of_segments
    (split : Text.segments whole = Text.segments mount ++ Text.segments base) (route : Route) :
    route.registrations whole = (route.registrations base).map (Registration.under mount) := by
  simp only [registrations, List.map_append, map_under_mounts, List.map_map,
    UrlPath.join_of_segments split]
  rfl

namespace Element

/-- A forest lists its routes as under a part of its mount path, moved under the rest of it. -/
theorem listingAll_of_segments {forest : List Element}
    (split : Text.segments whole = Text.segments mount ++ Text.segments base) :
    listingAll whole forest = (listingAll base forest).map (ListedRoute.under mount) := by
  induction forest using forestInduction generalizing whole base with
  | nil => rfl
  | root head children rest inner others =>
      have deeper : Text.segments (UrlPath.join whole head.path) =
          Text.segments mount ++ Text.segments (UrlPath.join base head.path) := by
        rw [UrlPath.join_of_segments split, UrlPath.segments_join]
      simp only [listingAll, listing, List.map_append, inner deeper, others split]
  | route node rest others =>
      simp only [listingAll, listing, List.map_append, others split,
        Route.listing_of_segments split]
  | imports sources children rest inner others =>
      simp only [listingAll, listing, List.map_append, inner split, others split]

/-- A forest makes its registrations as under a part of its mount path, moved under the rest
of it. -/
theorem registrationsAll_of_segments {forest : List Element}
    (split : Text.segments whole = Text.segments mount ++ Text.segments base) :
    registrationsAll whole forest =
      (registrationsAll base forest).map (Registration.under mount) := by
  induction forest using forestInduction generalizing whole base with
  | nil => rfl
  | root head children rest inner others =>
      have deeper : Text.segments (UrlPath.join whole head.path) =
          Text.segments mount ++ Text.segments (UrlPath.join base head.path) := by
        rw [UrlPath.join_of_segments split, UrlPath.segments_join]
      rw [registrationsAll, registrations, inner deeper, others split,
        UrlPath.join_of_segments split, registrationsAll, registrations]
      simp only [List.map_append, map_under_mounts]
  | route node rest others =>
      simp only [registrationsAll, registrations, List.map_append, others split,
        Route.registrations_of_segments split]
  | imports sources children rest inner others =>
      simp only [registrationsAll, registrations, List.map_append, inner split, others split]

/-- A forest under a mount path lists what it lists at the root, moved. -/
theorem listingAll_eq_map_under (mount : String) (forest : List Element) :
    listingAll mount forest = (listingAll "/" forest).map (ListedRoute.under mount) :=
  listingAll_of_segments (List.append_nil _).symm

/-- A forest under a mount path registers what it registers at the root, moved. -/
theorem registrationsAll_eq_map_under (mount : String) (forest : List Element) :
    registrationsAll mount forest =
      (registrationsAll "/" forest).map (Registration.under mount) :=
  registrationsAll_of_segments (List.append_nil _).symm

theorem listing_eq_map_under (mount : String) (element : Element) :
    element.listing mount = (element.listing "/").map (ListedRoute.under mount) := by
  simpa [listingAll] using listingAll_eq_map_under mount [element]

theorem registrations_eq_map_under (mount : String) (element : Element) :
    element.registrations mount = (element.registrations "/").map (Registration.under mount) := by
  simpa [registrationsAll] using registrationsAll_eq_map_under mount [element]

end Element

end Splits

/-! ## Calls on the router -/

/-- A call on the router: what is registered, the path as it is handed over, and the handlers. -/
structure RouterCall where
  kind : LayerKind
  path : String
  handlers : List Handler

namespace RouterCall

/-- The layer that the router makes of the call. -/
def layer (call : RouterCall) : Layer :=
  ⟨call.kind, .parse call.path, call.handlers⟩

/-- The call under a mount path. -/
def under (mount : String) (call : RouterCall) : RouterCall :=
  { call with path := UrlPath.join mount call.path }

end RouterCall

section Loads

variable (modules : Modules) (settings : RouteSettings)

/-- The calls on the router that a load makes, up to the first registration that lacks a
module. -/
def routerCalls : List Registration → List RouterCall
  | [] => []
  | registration :: rest =>
      match modules.layer settings registration with
      | .error _ => []
      | .ok layer => ⟨layer.kind, registration.path, layer.handlers⟩ :: routerCalls rest

variable {modules settings} in
/-- The layer of a registration has its path. -/
theorem Modules.pattern_of_layer_eq_ok {registration : Registration} {layer : Layer}
    (made : modules.layer settings registration = .ok layer) :
    layer.pattern = .parse registration.path := by
  cases registration with
  | mount path name =>
      obtain ⟨_, _, rfl⟩ := Modules.layer_mount_eq_ok_iff.mp made
      rfl
  | route path method =>
      obtain ⟨_, _, _, _, _, _, rfl⟩ := Modules.layer_route_eq_ok_iff.mp made
      rfl

/-- The layers of a load are those of its calls. -/
theorem load_layers_eq_map_routerCalls (registrations : List Registration) :
    (load modules settings registrations).layers =
      (routerCalls modules settings registrations).map RouterCall.layer := by
  induction registrations with
  | nil => rfl
  | cons registration rest ih =>
      rw [RoutePlan.load, routerCalls]
      cases made : modules.layer settings registration with
      | error error => rfl
      | ok layer =>
          rw [List.map_cons, RouterCall.layer, ← Modules.pattern_of_layer_eq_ok made, ← ih]

/-- The mount path changes the pattern of a layer, and nothing else of it. -/
theorem Modules.layer_under (mount : String) (registration : Registration) :
    modules.layer settings (registration.under mount) =
      (modules.layer settings registration).map fun layer =>
        { layer with pattern := .parse (UrlPath.join mount registration.path) } := by
  cases registration with
  | mount path name =>
      rw [Registration.under, Modules.layer, Modules.layer]
      cases modules.middleware settings name <;> rfl
  | route path method =>
      rw [Registration.under, Modules.layer, Modules.layer]
      cases modules.methodHandler settings method with
      | error error => rfl
      | ok handler =>
          cases modules.middlewares settings method.pre with
          | error error => rfl
          | ok pre => cases modules.middlewares settings method.post <;> rfl

theorem Modules.resolvedCount_under (mount : String) (registration : Registration) :
    modules.resolvedCount settings (registration.under mount) =
      modules.resolvedCount settings registration := by
  cases registration <;> rfl

/-- A load under a mount path makes the calls of the load at the root, moved. -/
theorem routerCalls_map_under (mount : String) (registrations : List Registration) :
    routerCalls modules settings (registrations.map (Registration.under mount)) =
      (routerCalls modules settings registrations).map (RouterCall.under mount) := by
  induction registrations with
  | nil => rfl
  | cons registration rest ih =>
      rw [List.map_cons, routerCalls, routerCalls, Modules.layer_under]
      cases modules.layer settings registration with
      | error error => rfl
      | ok layer =>
          simp only [Except.map, List.map_cons, ih, Registration.path_under]
          rfl

/-- A load under a mount path ends for the same reason and resolves as many references. -/
theorem load_map_under (mount : String) (registrations : List Registration) :
    (load modules settings (registrations.map (Registration.under mount))).error =
        (load modules settings registrations).error ∧
      (load modules settings (registrations.map (Registration.under mount))).resolved =
        (load modules settings registrations).resolved := by
  induction registrations with
  | nil => exact ⟨rfl, rfl⟩
  | cons registration rest ih =>
      rw [List.map_cons, RoutePlan.load, RoutePlan.load, Modules.layer_under,
        Modules.resolvedCount_under]
      cases modules.layer settings registration with
      | error error => exact ⟨rfl, rfl⟩
      | ok layer => exact ⟨ih.1, congrArg (modules.resolvedCount settings registration + ·) ih.2⟩

end Loads

/-! ## Mounting an element -/

/-- Joining paths is associative, gives normal forms, and leaves exactly these as they are at
the root.  So an element under a mount path lists its routes as it does at the root, with the
mount path put before every path; and a load of it makes the same calls on the router, in the
same order, with the mount path put before their paths, and ends for the same reason. -/
theorem Element.mounting_is_compositional :
    (∀ outer middle inner, UrlPath.join (UrlPath.join outer middle) inner =
      UrlPath.join outer (UrlPath.join middle inner)) ∧
    (∀ path, UrlPath.IsNormal (UrlPath.join "/" path) ∧
      (UrlPath.IsNormal path ↔ UrlPath.join "/" path = path) ∧
      UrlPath.join path "/" = UrlPath.join "/" path) ∧
    ∀ (element : Element) (mount : String),
      element.listing mount = (element.listing "/").map (ListedRoute.under mount) ∧
      ∀ modules settings,
        (load modules settings (element.registrations mount)).layers =
          (routerCalls modules settings (element.registrations mount)).map RouterCall.layer ∧
        routerCalls modules settings (element.registrations mount) =
          (routerCalls modules settings (element.registrations "/")).map (RouterCall.under mount) ∧
        (load modules settings (element.registrations mount)).error =
          (load modules settings (element.registrations "/")).error := by
  refine ⟨UrlPath.join_assoc, fun path => ⟨UrlPath.isNormal_join "/" path,
    UrlPath.isNormal_iff_join_slash path, ?_⟩, fun element mount =>
    ⟨element.listing_eq_map_under mount, fun modules settings =>
      ⟨load_layers_eq_map_routerCalls modules settings _, ?_, ?_⟩⟩⟩
  · exact UrlPath.join_congr (List.append_nil _)
  · rw [element.registrations_eq_map_under mount, routerCalls_map_under]
  · rw [element.registrations_eq_map_under mount, (load_map_under modules settings mount _).1]

end RoutePlan
