import RoutePlan.Proofs.Tree.Listing

/-!
# Methods and the middlewares around them

The site of a method is its place among the registrations of a forest, with the
middlewares that are mounted around it: before it those of the roots that enclose
it, outermost first, and of its route; behind it those of the route and of the
roots, innermost first.  Every registered method has a site, its middlewares stand
around it in this order, and their paths lead to its path.
-/

namespace RoutePlan

/-- A middleware that is mounted at a position among the registrations. -/
structure PlacedMount where
  path : String
  middleware : String
  position : Nat

namespace PlacedMount

/-- The registration of the middleware with its position. -/
def registration (mount : PlacedMount) : Registration × Nat :=
  (.mount mount.path mount.middleware, mount.position)

end PlacedMount

/-- The middlewares that are mounted at a path, from a position on. -/
def placedMounts (path : String) (offset : Nat) (middlewares : List String) : List PlacedMount :=
  (middlewares.zipIdx offset).map fun placed => ⟨path, placed.1, placed.2⟩

@[simp]
theorem map_registration_placedMounts (path : String) (offset : Nat) (middlewares : List String) :
    (placedMounts path offset middlewares).map PlacedMount.registration =
      (mounts path middlewares).zipIdx offset := by
  rw [placedMounts, mounts, List.zipIdx_map, List.map_map]
  rfl

theorem path_of_mem_placedMounts {path : String} {offset : Nat} {middlewares : List String}
    {mount : PlacedMount} (member : mount ∈ placedMounts path offset middlewares) :
    mount.path = path := by
  obtain ⟨placed, _, rfl⟩ := List.mem_map.mp member
  rfl

/-- A registered method and the middlewares that are mounted around it. -/
structure Site where
  path : String
  method : Method
  position : Nat
  before : List PlacedMount
  behind : List PlacedMount

namespace Site

/-- The site within further middlewares. -/
def within (before behind : List PlacedMount) (site : Site) : Site :=
  { site with
    before := before ++ site.before
    behind := site.behind ++ behind }

/-- The registrations of the middlewares and the method, in order. -/
def registrations (site : Site) : List (Registration × Nat) :=
  site.before.map PlacedMount.registration ++
    (.route site.path site.method, site.position) :: site.behind.map PlacedMount.registration

theorem registrations_within (before behind : List PlacedMount) (site : Site) :
    (site.within before behind).registrations =
      before.map PlacedMount.registration ++ site.registrations ++
        behind.map PlacedMount.registration := by
  simp [registrations, within]

end Site

namespace Route

/-- The sites of the methods of a route. -/
def sites (mount : String) (offset : Nat) (route : Route) : List Site :=
  let path := UrlPath.join mount route.path
  let first := offset + route.pre.length
  (route.methods.zipIdx first).map fun placed =>
    { path
      method := placed.1
      position := placed.2
      before := placedMounts path offset route.pre
      behind := placedMounts path (first + route.methods.length) route.post }

end Route

namespace Element

mutual

/-- The sites of the methods of an element, whose registrations start at a
position. -/
def sites (mount : String) (offset : Nat) : Element → List Site
  | .root head children =>
      let path := UrlPath.join mount head.path
      let first := offset + head.pre.length
      let last := first + (registrationsAll path children).length
      (sitesAll path first children).map <|
        Site.within (placedMounts path offset head.pre) (placedMounts path last head.post)
  | .route node => node.sites mount offset
  | .imports _ children => sitesAll mount offset children

/-- The sites of the methods of a forest, whose registrations start at a
position. -/
def sitesAll (mount : String) (offset : Nat) : List Element → List Site
  | [] => []
  | element :: rest =>
      sites mount offset element ++
        sitesAll mount (offset + (registrations mount element).length) rest

end

end Element

/-! ## Sites among the registrations -/

theorem Route.sublist_of_mem_sites {mount : String} {offset : Nat} {route : Route} {site : Site}
    (member : site ∈ route.sites mount offset) :
    site.registrations.Sublist ((route.registrations mount).zipIdx offset) := by
  obtain ⟨placed, declared, rfl⟩ := List.mem_map.mp member
  have own : [(Registration.route (UrlPath.join mount route.path) placed.1, placed.2)].Sublist
      ((route.methods.map (.route (UrlPath.join mount route.path))).zipIdx
        (offset + route.pre.length)) := by
    rw [List.singleton_sublist, List.zipIdx_map]
    exact List.mem_map.mpr ⟨placed, declared, rfl⟩
  rw [Route.registrations, List.zipIdx_append, List.zipIdx_append, List.append_assoc]
  simp only [Site.registrations, map_registration_placedMounts, List.length_append,
    List.length_map, mounts, ← Nat.add_assoc]
  exact (List.Sublist.refl _).append (own.append (.refl _))

/-- No mount is the registration of a method. -/
private theorem not_mem_zipIdx_mounts {mount path : String} {names : List String}
    {method : Method} {offset position : Nat} :
    (.route path method, position) ∉ (mounts mount names).zipIdx offset := by
  intro declared
  rw [mounts, List.zipIdx_map] at declared
  obtain ⟨placed, _, same⟩ := List.mem_map.mp declared
  cases same

theorem Route.exists_site_of_mem_registrations {mount : String} {offset : Nat} {route : Route}
    {path : String} {method : Method} {position : Nat}
    (declared : (.route path method, position) ∈ (route.registrations mount).zipIdx offset) :
    ∃ site ∈ route.sites mount offset,
      site.path = path ∧ site.method = method ∧ site.position = position := by
  rw [Route.registrations, List.zipIdx_append, List.zipIdx_append] at declared
  rcases List.mem_append.mp declared with declared | declared
  · rcases List.mem_append.mp declared with declared | declared
    · exact absurd declared not_mem_zipIdx_mounts
    · rw [List.zipIdx_map] at declared
      obtain ⟨placed, present, same⟩ := List.mem_map.mp declared
      cases same
      refine ⟨_, List.mem_map_of_mem (a := placed) ?_, rfl, rfl, rfl⟩
      simpa [mounts] using present
  · exact absurd declared not_mem_zipIdx_mounts

namespace Element

/-- The registrations of a site are among those of the forest, in the same order. -/
theorem sublist_of_mem_sitesAll {mount : String} {offset : Nat} {forest : List Element}
    {site : Site} (member : site ∈ sitesAll mount offset forest) :
    site.registrations.Sublist ((registrationsAll mount forest).zipIdx offset) := by
  induction forest using forestInduction generalizing mount offset site with
  | nil => simp [sitesAll] at member
  | root head children rest inner others =>
      rw [registrationsAll, List.zipIdx_append]
      rcases List.mem_append.mp member with member | member
      · obtain ⟨nested, declared, rfl⟩ := List.mem_map.mp member
        apply List.Sublist.trans _ (List.sublist_append_left _ _)
        rw [registrations, List.zipIdx_append, List.zipIdx_append, Site.registrations_within]
        simp only [map_registration_placedMounts, List.length_append, mounts, List.length_map,
          ← Nat.add_assoc]
        exact ((List.Sublist.refl _).append (inner declared)).append (.refl _)
      · exact (others member).trans (List.sublist_append_right _ _)
  | route node rest others =>
      rw [registrationsAll, List.zipIdx_append]
      rcases List.mem_append.mp member with member | member
      · exact (Route.sublist_of_mem_sites member).trans (List.sublist_append_left _ _)
      · exact (others member).trans (List.sublist_append_right _ _)
  | imports sources children rest inner others =>
      rw [registrationsAll, List.zipIdx_append]
      rcases List.mem_append.mp member with member | member
      · exact (inner member).trans (List.sublist_append_left _ _)
      · exact (others member).trans (List.sublist_append_right _ _)

/-- Every registered method has a site. -/
theorem exists_site_of_mem_registrationsAll {mount : String} {offset : Nat}
    {forest : List Element} {path : String} {method : Method} {position : Nat}
    (declared : (.route path method, position) ∈ (registrationsAll mount forest).zipIdx offset) :
    ∃ site ∈ sitesAll mount offset forest,
      site.path = path ∧ site.method = method ∧ site.position = position := by
  induction forest using forestInduction generalizing mount offset with
  | nil => simp [registrationsAll] at declared
  | root head children rest inner others =>
      rw [registrationsAll, List.zipIdx_append] at declared
      rcases List.mem_append.mp declared with declared | declared
      · rw [registrations, List.zipIdx_append, List.zipIdx_append] at declared
        rcases List.mem_append.mp declared with declared | declared
        · rcases List.mem_append.mp declared with declared | declared
          · exact absurd declared not_mem_zipIdx_mounts
          · rw [mounts, List.length_map] at declared
            obtain ⟨nested, member, same⟩ := inner declared
            exact ⟨nested.within _ _, List.mem_append_left _ (List.mem_map_of_mem member), same⟩
        · exact absurd declared not_mem_zipIdx_mounts
      · obtain ⟨site, member, same⟩ := others declared
        exact ⟨site, List.mem_append_right _ member, same⟩
  | route node rest others =>
      rw [registrationsAll, List.zipIdx_append] at declared
      rcases List.mem_append.mp declared with declared | declared
      · obtain ⟨site, member, same⟩ := Route.exists_site_of_mem_registrations declared
        exact ⟨site, List.mem_append_left _ member, same⟩
      · obtain ⟨site, member, same⟩ := others declared
        exact ⟨site, List.mem_append_right _ member, same⟩
  | imports sources children rest inner others =>
      rw [registrationsAll, List.zipIdx_append] at declared
      rcases List.mem_append.mp declared with declared | declared
      · obtain ⟨site, member, same⟩ := inner declared
        exact ⟨site, List.mem_append_left _ member, same⟩
      · obtain ⟨site, member, same⟩ := others declared
        exact ⟨site, List.mem_append_right _ member, same⟩

/-- The path of a site is under the path that the forest is mounted at. -/
theorem segments_isPrefix_of_mem_sitesAll {mount : String} {offset : Nat} {forest : List Element}
    {site : Site} (member : site ∈ sitesAll mount offset forest) :
    Text.segments mount <+: Text.segments site.path := by
  induction forest using forestInduction generalizing mount offset site with
  | nil => simp [sitesAll] at member
  | root head children rest inner others =>
      rcases List.mem_append.mp member with member | member
      · obtain ⟨nested, declared, rfl⟩ := List.mem_map.mp member
        have under := inner declared
        rw [UrlPath.segments_join] at under
        exact (List.prefix_append _ _).trans under
      · exact others member
  | route node rest others =>
      rcases List.mem_append.mp member with member | member
      · obtain ⟨placed, _, rfl⟩ := List.mem_map.mp member
        rw [UrlPath.segments_join]
        exact List.prefix_append _ _
      · exact others member
  | imports sources children rest inner others =>
      rcases List.mem_append.mp member with member | member
      · exact inner member
      · exact others member

/-- The middlewares around a method are mounted at paths that lead to its path. -/
theorem leads_of_mem_sitesAll {mount : String} {offset : Nat} {forest : List Element}
    {site : Site} (member : site ∈ sitesAll mount offset forest) :
    ∀ placed ∈ site.before ++ site.behind,
      Text.segments placed.path <+: Text.segments site.path := by
  induction forest using forestInduction generalizing mount offset site with
  | nil => simp [sitesAll] at member
  | root head children rest inner others =>
      rcases List.mem_append.mp member with member | member
      · obtain ⟨nested, declared, rfl⟩ := List.mem_map.mp member
        have under := segments_isPrefix_of_mem_sitesAll declared
        have nestedLeads := List.forall_mem_append.mp (inner declared)
        have headLeads : ∀ offset names,
            ∀ placed ∈ placedMounts (UrlPath.join mount head.path) offset names,
              Text.segments placed.path <+: Text.segments nested.path := by
          intro offset names placed present
          rw [path_of_mem_placedMounts present]
          exact under
        simp only [Site.within, List.forall_mem_append]
        exact ⟨⟨headLeads _ _, nestedLeads.1⟩, nestedLeads.2, headLeads _ _⟩
      · exact others member
  | route node rest others =>
      rcases List.mem_append.mp member with member | member
      · obtain ⟨declared, _, rfl⟩ := List.mem_map.mp member
        intro placed present
        have same : placed.path = UrlPath.join mount node.path := by
          rcases List.mem_append.mp present with present | present
          · exact path_of_mem_placedMounts present
          · exact path_of_mem_placedMounts present
        exact same ▸ List.prefix_rfl
      · exact others member
  | imports sources children rest inner others =>
      rcases List.mem_append.mp member with member | member
      · exact inner member
      · exact others member

end Element

end RoutePlan
