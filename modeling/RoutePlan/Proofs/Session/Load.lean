import RoutePlan.Proofs.Session.Run
import RoutePlan.Proofs.Tree.Reference
import RoutePlan.Script
import Mathlib.Data.List.TakeDrop

/-!
# What a load registers and how it fails

A load of a compiled tree registers the initializer and then the longest run of leading
registrations whose references all stand for something.  It succeeds when this run is
all of them.  Otherwise it fails for the first dangling reference of the first
registration that it leaves out, and leaves the session such that trying it again does
the same.
-/

namespace RoutePlan.Session

/-- The longest run of leading registrations whose references all stand for something. -/
def resolving (session : Session) : List Registration :=
  session.registrations.takeWhile
    (Registration.resolves session.modules session.sources.settings)

theorem load_registrations (session : Session) :
    session.load.session.registrations = session.registrations := by
  rw [registrations, load_forest, registrations]

theorem load_loaded (session : Session) : session.load.session.loaded = session.loaded := by
  rw [loaded, load_modules, load_sources, load_registrations, loaded]

section Compiled

variable {session : Session} (compiled : session.phase = .compiled)

include compiled

theorem load_phase_of_compiled :
    session.load.session.phase = if session.loaded.error = none then .loaded else .compiled := by
  unfold load loaded
  rw [compiled]
  dsimp only
  cases (RoutePlan.load session.modules session.sources.settings session.registrations).error <;>
    rfl

theorem load_resolved_of_compiled :
    session.load.session.resolved = session.loaded.resolved := by
  unfold load
  rw [compiled]
  rfl

end Compiled

/-- A load makes all registrations exactly when it reports no error. -/
theorem loaded_error_eq_none_iff (session : Session) :
    session.loaded.error = none ↔ session.resolving = session.registrations := by
  rw [loaded, load_error_eq_none_iff, resolving, ← take_load_layers, List.take_eq_self_iff]
  exact ⟨fun all => all.ge, fun all => Nat.le_antisymm (load_layers_length_le _ _ _) all⟩

/-- A load of a compiled tree registers the initializer and then exactly the longest run
of leading registrations all of whose references stand for something.  It succeeds, and
the session is loaded, if and only if these are all registrations.  Otherwise it fails
for the first dangling reference of the first registration that is left out, and tells
where it was looked up.  Then the session is still compiled, and loading it again
registers the same once more and fails with the same error.  The references to middlewares
that are resolved are those before the first dangling reference. -/
theorem load_registers_longest_prefix (session : Session) (compiled : session.phase = .compiled) :
    ∃ layers,
      session.load.session.router.layers =
        session.router.layers ++ .mount "/" .initializer :: layers ∧
      List.Forall₂
        (fun registration layer =>
          session.modules.layer session.sources.settings registration = .ok layer)
        session.resolving layers ∧
      (session.load.error = none ↔ session.resolving = session.registrations) ∧
      (session.load.session.phase = .loaded ↔ session.resolving = session.registrations) ∧
      (∀ registration rest,
        session.registrations = session.resolving ++ registration :: rest →
        (∃ reference,
          session.modules.firstMissing session.sources.settings registration.references =
            some reference ∧
          session.load.error = some (reference.missing session.sources.settings)) ∧
        session.load.session.phase = .compiled ∧
        session.load.session.load.error = session.load.error ∧
        session.load.session.load.session.router.layers =
          session.load.session.router.layers ++ .mount "/" .initializer :: layers) ∧
      session.load.session.resolved =
        ((session.registrations.flatMap Registration.references).takeWhile
          (Reference.resolves session.modules session.sources.settings)).countP
            Reference.isMiddleware := by
  refine ⟨session.loaded.layers, load_layers_of_compiled compiled, ?_, ?_, ?_, ?_, ?_⟩
  · rw [resolving, ← take_load_layers]
    exact load_layers _ _ _
  · rw [load_error_of_compiled compiled, loaded_error_eq_none_iff]
  · rw [load_phase_of_compiled compiled, ← loaded_error_eq_none_iff]
    split <;> simp_all
  · intro registration rest split
    obtain ⟨reference, first, failed⟩ :=
      load_error_of_left_out session.modules session.sources.settings split
    have error : session.loaded.error = some (reference.missing session.sources.settings) := failed
    have again : session.load.session.phase = .compiled := by
      rw [load_phase_of_compiled compiled, error]
      rfl
    refine ⟨⟨reference, first, ?_⟩, again, ?_, ?_⟩
    · rw [load_error_of_compiled compiled, error]
    · rw [load_error_of_compiled again, load_loaded, load_error_of_compiled compiled]
    · rw [load_layers_of_compiled again, load_loaded]
  · rw [load_resolved_of_compiled compiled]
    exact load_resolved _ _ _

/-! ## A load that stops between two middlewares -/

/-- A document with two routes; the second one has a middleware that is registered and
one that is not. -/
def danglingDocument : Value :=
  .map [
    ("first", .map [
      ("path", .string "/first"),
      ("methods", .map [("get", .string "item")])]),
    ("second", .map [
      ("path", .string "/second"),
      ("methods", .map [("get", .map [
        ("controller", .string "item"),
        ("pre_middlewares", .list [.string "auth", .string "./gone"])])])])]

/-- The controller of both routes and one of the middlewares. -/
def danglingModules : Modules where
  controllers := Registry.empty.register "controller/item" none (Script.controller [])
  handlers := Registry.empty.register "middleware/auth" none (Script.handler [.next])

/-- The session that has compiled the document. -/
def danglingSession : Session :=
  (start ⟨{}, .empty⟩ danglingModules).run [.parseValue danglingDocument]

/-- The load keeps the first route, and its error tells the middleware that is not
registered and where it was looked up. -/
theorem load_stops_at_dangling_middleware :
    danglingSession.phase = .compiled ∧
      danglingSession.load.error = some (.middlewareNotFound "./gone" "middleware/gone") ∧
      ∃ layer, danglingSession.load.session.router.layers = [.mount "/" .initializer, layer] := by
  have facts : danglingSession.phase = .compiled ∧ danglingSession.resolving.length = 1 ∧
      danglingSession.router.layers.length = 0 ∧
      ∃ second ∈ danglingSession.registrations[1]?,
        danglingSession.modules.firstMissing danglingSession.sources.settings second.references =
          some (.middleware "./gone") ∧
        (Reference.middleware "./gone").missing danglingSession.sources.settings =
          .middlewareNotFound "./gone" "middleware/gone" := by
    decide +kernel
  obtain ⟨compiled, one, fresh, second, declared, first, missing⟩ := facts
  obtain ⟨layers, added, made, _, _, fails, _⟩ :=
    load_registers_longest_prefix danglingSession compiled
  have split : danglingSession.registrations =
      danglingSession.resolving ++ second :: danglingSession.registrations.drop 2 := by
    have kept : danglingSession.resolving = danglingSession.registrations.take 1 := by
      rw [← one]
      exact List.prefix_iff_eq_take.mp (List.takeWhile_prefix _)
    obtain ⟨within, held⟩ := List.getElem?_eq_some_iff.mp declared
    rw [kept, ← held, ← List.drop_eq_getElem_cons within, List.take_append_drop]
  obtain ⟨⟨reference, found, failed⟩, _⟩ := fails second _ split
  cases Option.some.inj (found.symm.trans first)
  refine ⟨compiled, failed.trans (congrArg some missing), ?_⟩
  obtain ⟨layer, rfl⟩ := List.length_eq_one_iff.mp (made.length_eq.symm.trans one)
  refine ⟨layer, ?_⟩
  rw [added, List.length_eq_zero_iff.mp fresh]
  rfl

end RoutePlan.Session
