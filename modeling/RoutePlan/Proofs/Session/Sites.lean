import RoutePlan.Proofs.Dispatch.Station
import RoutePlan.Proofs.Session.Run

/-!
# Sites of a run

The sites of a compiled tree, and the layers that they have in the router of a run
once a load has registered them.  Every layer of a route is that of a site.
-/

namespace RoutePlan.Session

/-- The sites of the methods of the compiled tree. -/
def sites (session : Session) : List Site :=
  Element.sitesAll "/" 0 session.forest

/-- The load of the session registers the method of a site. -/
def Registers (session : Session) (site : Site) : Prop :=
  site.position < session.loaded.layers.length

section Sites

variable {session : Session} {site : Site} (declared : site ∈ session.sites)

include declared

theorem inOrder_of_mem_sites : site.InOrder :=
  Site.inOrder_of_sublist (Element.sublist_of_mem_sitesAll declared)

theorem registrations_of_mem_sites {registration : Registration} {position : Nat}
    (held : (registration, position) ∈ site.registrations) :
    session.registrations[position]? = some registration :=
  List.mk_mem_zipIdx_iff_getElem?.mp
    ((Element.sublist_of_mem_sitesAll declared).subset held)

theorem registrations_position :
    session.registrations[site.position]? = some (.route site.path site.method) := by
  apply registrations_of_mem_sites declared
  exact List.mem_append_right _ List.mem_cons_self

theorem registrations_mount {mount : PlacedMount} (around : mount ∈ site.before ++ site.behind) :
    session.registrations[mount.position]? = some (.mount mount.path mount.middleware) := by
  apply registrations_of_mem_sites declared
  rcases List.mem_append.mp around with before | behind
  · exact List.mem_append_left _ (List.mem_map_of_mem before)
  · exact List.mem_append_right _ (List.mem_cons_of_mem _ (List.mem_map_of_mem behind))

end Sites

/-- Every method that is registered has a site. -/
theorem exists_site_of_route {session : Session} {path : String} {method : Method} {position : Nat}
    (declared : session.registrations[position]? = some (.route path method)) :
    ∃ site ∈ session.sites, site.method = method ∧ site.position = position := by
  obtain ⟨site, member, _, sameMethod, samePosition⟩ :=
    Element.exists_site_of_mem_registrationsAll (List.mk_mem_zipIdx_iff_getElem?.mpr declared)
  exact ⟨site, member, sameMethod, samePosition⟩

/-! ## The layers of a site -/

section Layers

variable {start attempt : Session} {steps : List Step} {site : Site}
  (member : attempt ∈ start.attempts steps) (declared : site ∈ attempt.sites)

include member declared

theorem layer_of_registers (registered : attempt.Registers site) :
    ∃ handler pre post,
      start.modules.methodHandler start.sources.settings site.method = .ok handler ∧
      start.modules.middlewares start.sources.settings site.method.pre = .ok pre ∧
      start.modules.middlewares start.sources.settings site.method.post = .ok post ∧
      (start.run steps).router.layers[attempt.firstLayer + site.position]? =
        some (.route site.method.verb site.path (pre ++ handler :: post)) := by
  obtain ⟨layer, present, made⟩ :=
    layer_of_registered member (registrations_position declared) registered
  obtain ⟨handler, pre, post, found, preFound, postFound, rfl⟩ :=
    Modules.layer_route_eq_ok_iff.mp made
  exact ⟨handler, pre, post, found, preFound, postFound, present⟩

theorem layer_of_mount {mount : PlacedMount} (around : mount ∈ site.before ++ site.behind)
    (registered : mount.position < attempt.loaded.layers.length) :
    ∃ handler,
      start.modules.middleware start.sources.settings mount.middleware = .ok handler ∧
      (start.run steps).router.layers[attempt.firstLayer + mount.position]? =
        some (.mount mount.path handler) := by
  obtain ⟨layer, present, made⟩ :=
    layer_of_registered member (registrations_mount declared around) registered
  obtain ⟨handler, found, rfl⟩ := Modules.layer_mount_eq_ok_iff.mp made
  exact ⟨handler, found, present⟩

end Layers

/-- Every layer of a route is that of a method that a load has registered. -/
theorem exists_site_of_layer {sources : Element.Sources} {modules : Modules} {steps : List Step}
    {position : Nat} {layer : Layer} {verb : Verb}
    (present : ((start sources modules).run steps).router.layers[position]? = some layer)
    (kind : layer.kind = .route verb) :
    ∃ attempt ∈ (start sources modules).attempts steps, ∃ site ∈ attempt.sites,
      attempt.Registers site ∧ position = attempt.firstLayer + site.position := by
  rcases origin_of_layer present with
    rfl | ⟨attempt, member, place, registration, declared, registered, rfl, made⟩
  · cases kind
  · cases registration with
    | mount path name =>
        obtain ⟨handler, _, rfl⟩ := Modules.layer_mount_eq_ok_iff.mp made
        cases kind
    | route path method =>
        obtain ⟨site, siteDeclared, _, rfl⟩ := exists_site_of_route declared
        exact ⟨attempt, member, site, siteDeclared, registered, rfl⟩

end RoutePlan.Session
