import RoutePlan.Proofs.Dispatch.RouterLog
import RoutePlan.Proofs.Tree.Load
import RoutePlan.Proofs.Tree.Site

/-!
# Stations of middlewares

A loaded method has its middlewares around it in the stack: those of the enclosing
roots and of the route in layers of their own, those of the method in its own
layer.  Their stations are in the order of the stack, so runs that serve them in a
log are in the order of the log.
-/

namespace RoutePlan

/-- A spot of the stack at which a middleware stands. -/
structure Station extends Spot where
  middleware : String

namespace Station

/-- A run at the station: of its middleware, and one that went on. -/
structure ServedBy (modules : Modules) (settings : RouteSettings) (station : Station)
    (run : HandlerRun) : Prop where
  spot : run.toSpot = station.toSpot
  handler : modules.middleware settings station.middleware = .ok run.handler
  wentOn : run.WentOn

variable {modules : Modules} {settings : RouteSettings}

theorem map_toSpot_of_forall₂ {stations : List Station} {runs : List HandlerRun}
    (served : List.Forall₂ (ServedBy modules settings) stations runs) :
    runs.map HandlerRun.toSpot = stations.map toSpot := by
  induction served with
  | nil => rfl
  | cons first _ ih => rw [List.map_cons, List.map_cons, first.spot, ih]

/-- Stations in the order of the stack that are all served in a log are served by a
part of the log in its order. -/
theorem exists_sublist_of_forall_served {stations : List Station} {log : List HandlerRun}
    (ordered : (stations.map toSpot).Pairwise Spot.Precedes)
    (logOrdered : log.Pairwise HandlerRun.Precedes)
    (served : ∀ station ∈ stations, ∃ run ∈ log, station.ServedBy modules settings run) :
    ∃ runs, runs.Sublist log ∧ List.Forall₂ (ServedBy modules settings) stations runs := by
  have chosen : ∃ runs, runs ⊆ log ∧ List.Forall₂ (ServedBy modules settings) stations runs := by
    clear ordered
    induction stations with
    | nil => exact ⟨[], List.nil_subset _, .nil⟩
    | cons station rest ih =>
        obtain ⟨first, others⟩ := List.forall_mem_cons.mp served
        obtain ⟨run, member, runServes⟩ := first
        obtain ⟨runs, contained, runsServe⟩ := ih others
        exact ⟨run :: runs, List.cons_subset.mpr ⟨member, contained⟩, .cons runServes runsServe⟩
  obtain ⟨runs, contained, runsServe⟩ := chosen
  refine ⟨runs, HandlerRun.sublist_of_pairwise_precedes ?_ logOrdered contained, runsServe⟩
  rw [← map_toSpot_of_forall₂ runsServe, List.pairwise_map] at ordered
  exact ordered

end Station

namespace PlacedMount

/-- Where the middleware stands when the first registration becomes the layer at a
position. -/
def station (base : Nat) (mount : PlacedMount) : Station :=
  ⟨⟨base + mount.position, 0⟩, mount.middleware⟩

end PlacedMount

namespace Site

/-- Where the handler of the method stands. -/
def spot (base : Nat) (site : Site) : Spot :=
  ⟨base + site.position, site.method.pre.length⟩

/-- The stations of middlewares of the method itself, from a place on. -/
def ownStations (base : Nat) (site : Site) (place : Nat) (middlewares : List String) :
    List Station :=
  (middlewares.zipIdx place).map fun placed => ⟨⟨base + site.position, placed.2⟩, placed.1⟩

/-- The stations before the handler: of the enclosing roots, outermost first, of the
route, and of the method. -/
def guards (base : Nat) (site : Site) : List Station :=
  site.before.map (PlacedMount.station base) ++ site.ownStations base 0 site.method.pre

/-- The stations behind the handler: of the method, of the route, and of the
enclosing roots, innermost first. -/
def followers (base : Nat) (site : Site) : List Station :=
  site.ownStations base (site.method.pre.length + 1) site.method.post ++
    site.behind.map (PlacedMount.station base)

theorem pairwise_ownStations (base : Nat) (site : Site) (place : Nat) (middlewares : List String) :
    ((site.ownStations base place middlewares).map Station.toSpot).Pairwise Spot.Precedes := by
  have places := pairwise_snd_zipIdx middlewares place
  rw [ownStations, List.map_map]
  rw [List.pairwise_map] at places ⊢
  exact places.imp fun before => .inr ⟨rfl, before⟩

theorem place_of_mem_ownStations {base : Nat} {site : Site} {place : Nat}
    {middlewares : List String} {station : Station}
    (member : station ∈ site.ownStations base place middlewares) :
    station.layer = base + site.position ∧ place ≤ station.place ∧
      station.place < place + middlewares.length := by
  obtain ⟨placed, declared, rfl⟩ := List.mem_map.mp member
  have within : placed.2 ∈ (middlewares.zipIdx place).map Prod.snd := List.mem_map_of_mem declared
  rw [List.zipIdx_map_snd, List.mem_range'_1] at within
  exact ⟨rfl, within⟩

theorem pairwise_stations (base : Nat) {mounts : List PlacedMount}
    (ordered : (mounts.map PlacedMount.position).Pairwise (· < ·)) :
    ((mounts.map (PlacedMount.station base)).map Station.toSpot).Pairwise Spot.Precedes := by
  rw [List.map_map, List.pairwise_map]
  exact (List.pairwise_map.mp ordered).imp fun before => .inl (Nat.add_lt_add_left before base)

/-- A station of the method itself has the handler of its name. -/
theorem handler_of_mem_ownStations {modules : Modules} {settings : RouteSettings} {base : Nat}
    {site : Site} {place : Nat} {middlewares : List String} {handlers : List Handler}
    {station : Station} (found : modules.middlewares settings middlewares = .ok handlers)
    (member : station ∈ site.ownStations base place middlewares) :
    ∃ index handler, station.toSpot = ⟨base + site.position, place + index⟩ ∧
      handlers[index]? = some handler ∧
      modules.middleware settings station.middleware = .ok handler := by
  obtain ⟨⟨name, index⟩, declared, rfl⟩ := List.mem_map.mp member
  obtain ⟨beyond, named⟩ := List.mk_mem_zipIdx_iff_le_and_getElem?_sub.mp declared
  obtain ⟨within, _⟩ := List.getElem?_eq_some_iff.mp named
  rw [← Modules.length_eq_of_middlewares found] at within
  have held := List.getElem?_eq_getElem within
  refine ⟨index - place, handlers[index - place], ?_, held,
    Modules.middleware_of_getElem? found named held⟩
  rw [Nat.add_sub_cancel' beyond]

theorem layer_of_mem_stations {base : Nat} {mounts : List PlacedMount} {station : Station}
    (member : station ∈ mounts.map (PlacedMount.station base)) :
    ∃ mount ∈ mounts, station.layer = base + mount.position := by
  obtain ⟨mount, present, rfl⟩ := List.mem_map.mp member
  exact ⟨mount, present, rfl⟩

/-- The positions of a site increase. -/
structure InOrder (site : Site) : Prop where
  before : (site.before.map PlacedMount.position).Pairwise (· < ·)
  lt : ∀ mount ∈ site.before, mount.position < site.position
  gt : ∀ mount ∈ site.behind, site.position < mount.position
  behind : (site.behind.map PlacedMount.position).Pairwise (· < ·)

theorem inOrder_of_sublist {offset : Nat} {whole : List Registration} {site : Site}
    (placed : site.registrations.Sublist (whole.zipIdx offset)) : site.InOrder := by
  have increasing := (pairwise_snd_zipIdx whole offset).sublist (placed.map Prod.snd)
  rw [registrations, List.map_append, List.map_cons, List.map_map, List.map_map] at increasing
  obtain ⟨beforeOrdered, fromSite, across⟩ := List.pairwise_append.mp increasing
  obtain ⟨siteFirst, behindOrdered⟩ := List.pairwise_cons.mp fromSite
  refine ⟨beforeOrdered, ?_, ?_, behindOrdered⟩
  · intro mount member
    exact across _ (List.mem_map_of_mem member) _ List.mem_cons_self
  · intro mount member
    exact siteFirst _ (List.mem_map_of_mem member)

namespace InOrder

variable {site : Site} (inOrder : site.InOrder)

include inOrder

theorem guards_precede {base : Nat} {station : Station} (member : station ∈ site.guards base) :
    station.toSpot.Precedes (site.spot base) := by
  rcases List.mem_append.mp member with member | member
  · obtain ⟨mount, present, same⟩ := layer_of_mem_stations member
    apply Or.inl
    rw [same]
    exact Nat.add_lt_add_left (inOrder.lt mount present) base
  · obtain ⟨same, _, within⟩ := place_of_mem_ownStations member
    rw [Nat.zero_add] at within
    exact .inr ⟨same, within⟩

theorem precedes_followers {base : Nat} {station : Station}
    (member : station ∈ site.followers base) : (site.spot base).Precedes station.toSpot := by
  rcases List.mem_append.mp member with member | member
  · obtain ⟨same, beyond, _⟩ := place_of_mem_ownStations member
    exact .inr ⟨same.symm, beyond⟩
  · obtain ⟨mount, present, same⟩ := layer_of_mem_stations member
    apply Or.inl
    rw [same]
    exact Nat.add_lt_add_left (inOrder.gt mount present) base

theorem pairwise_guards (base : Nat) :
    ((site.guards base).map Station.toSpot).Pairwise Spot.Precedes := by
  rw [guards, List.map_append]
  apply List.pairwise_append.mpr
  refine ⟨pairwise_stations base inOrder.before,
    pairwise_ownStations base site 0 site.method.pre, ?_⟩
  intro outer outerMem inner innerMem
  obtain ⟨station, present, rfl⟩ := List.mem_map.mp outerMem
  obtain ⟨own, ownPresent, rfl⟩ := List.mem_map.mp innerMem
  obtain ⟨mount, declared, same⟩ := layer_of_mem_stations present
  obtain ⟨ownLayer, _, _⟩ := place_of_mem_ownStations ownPresent
  apply Or.inl
  rw [same, ownLayer]
  exact Nat.add_lt_add_left (inOrder.lt mount declared) base

theorem pairwise_followers (base : Nat) :
    ((site.followers base).map Station.toSpot).Pairwise Spot.Precedes := by
  rw [followers, List.map_append]
  apply List.pairwise_append.mpr
  refine ⟨pairwise_ownStations base site _ site.method.post,
    pairwise_stations base inOrder.behind, ?_⟩
  intro inner innerMem outer outerMem
  obtain ⟨station, present, rfl⟩ := List.mem_map.mp outerMem
  obtain ⟨own, ownPresent, rfl⟩ := List.mem_map.mp innerMem
  obtain ⟨mount, declared, same⟩ := layer_of_mem_stations present
  obtain ⟨ownLayer, _, _⟩ := place_of_mem_ownStations ownPresent
  apply Or.inl
  rw [same, ownLayer]
  exact Nat.add_lt_add_left (inOrder.gt mount declared) base

end InOrder

end Site

end RoutePlan
