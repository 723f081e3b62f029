import RoutePlan.Proofs.Tree.Load
import Mathlib.Data.List.TakeWhile

/-!
# References to registered code

A registration refers to registered code by name: a mount to its middleware, a route to
its controller and then to the middlewares before and behind it.  A load looks the
references up in this order and ends at the first that stands for nothing.  So it makes
the longest run of leading registrations all of whose references stand for something,
and its error is that of the first reference that does not.
-/

namespace RoutePlan

/-- A reference to registered code. -/
inductive Reference where
  /-- The controller of a validated method. -/
  | controller (name : String)
  /-- The handler of a method that is not validated. -/
  | handler (name : String)
  | middleware (name : String)
deriving DecidableEq

namespace Reference

/-- Whether the reference stands for registered code. -/
def resolves (modules : Modules) (settings : RouteSettings) : Reference → Bool
  | controller name => (modules.controllers.lookup? name settings.controllerDir).isSome
  | handler name => (modules.handlers.lookup? name settings.controllerDir).isSome
  | middleware name => (modules.handlers.lookup? name settings.middlewareDir).isSome

/-- The error of a load that finds nothing for the reference: it tells the name and the
place that was looked up. -/
def missing (settings : RouteSettings) : Reference → PlanError
  | controller name =>
      .controllerNotFound name ((ModuleName.parse name).display settings.controllerDir)
  | handler name =>
      .controllerNotFound name ((ModuleName.parse name).display settings.controllerDir)
  | middleware name =>
      .middlewareNotFound name ((ModuleName.parse name).display settings.middlewareDir)

/-- Whether the reference is to a middleware. -/
def isMiddleware : Reference → Bool
  | middleware _ => true
  | _ => false

end Reference

/-- The reference of a method to its controller. -/
def Method.reference (method : Method) : Reference :=
  if method.validated then .controller method.controller else .handler method.controller

namespace Registration

/-- The references of a registration, in the order of their look-up. -/
def references : Registration → List Reference
  | mount _ middleware => [.middleware middleware]
  | route _ method => method.reference :: (method.pre ++ method.post).map .middleware

/-- Whether all references of a registration stand for something. -/
def resolves (modules : Modules) (settings : RouteSettings) (registration : Registration) : Bool :=
  registration.references.all (Reference.resolves modules settings)

end Registration

namespace Modules

variable (modules : Modules) (settings : RouteSettings)

/-- The first of some references that stands for nothing. -/
def firstMissing (references : List Reference) : Option Reference :=
  references.find? fun reference => !reference.resolves modules settings

theorem firstMissing_eq_none_iff {references : List Reference} :
    modules.firstMissing settings references = none ↔
      references.all (Reference.resolves modules settings) = true := by
  simp [firstMissing, List.find?_eq_none, List.all_eq_true]

theorem firstMissing_append (first second : List Reference) :
    modules.firstMissing settings (first ++ second) =
      (modules.firstMissing settings first).or (modules.firstMissing settings second) :=
  List.find?_append

/-- The error of a load that looks some references up one after the other. -/
def missing? (references : List Reference) : Option PlanError :=
  (modules.firstMissing settings references).map (Reference.missing settings)

theorem missing?_append (first second : List Reference) :
    modules.missing? settings (first ++ second) =
      (modules.missing? settings first).or (modules.missing? settings second) := by
  rw [missing?, firstMissing_append, missing?, missing?]
  cases modules.firstMissing settings first <;> rfl

theorem missing?_cons (reference : Reference) (rest : List Reference) :
    modules.missing? settings (reference :: rest) =
      (modules.missing? settings [reference]).or (modules.missing? settings rest) :=
  modules.missing?_append settings [reference] rest

theorem failure?_middleware (name : String) :
    failure? (modules.middleware settings name) =
      modules.missing? settings [.middleware name] := by
  unfold middleware missing? firstMissing
  cases found : modules.handlers.lookup? name settings.middlewareDir <;>
    simp [failure?, Reference.resolves, Reference.missing, found]

theorem failure?_middlewares (names : List String) :
    failure? (modules.middlewares settings names) =
      modules.missing? settings (names.map .middleware) := by
  induction names with
  | nil => rfl
  | cons name rest ih =>
      rw [List.map_cons, missing?_cons, middlewares, ← failure?_middleware, ← ih]
      apply failure?_bind
      intro handler
      cases modules.middlewares settings rest <;> rfl

theorem failure?_methodHandler (method : Method) :
    failure? (modules.methodHandler settings method) =
      modules.missing? settings [method.reference] := by
  unfold methodHandler missing? firstMissing Method.reference
  cases method.validated with
  | true =>
      cases found : modules.controllers.lookup? method.controller settings.controllerDir <;>
        simp [failure?, Reference.resolves, Reference.missing, found]
  | false =>
      cases found : modules.handlers.lookup? method.controller settings.controllerDir <;>
        simp [failure?, Reference.resolves, Reference.missing, found]

/-- A registration that cannot be made fails for the first of its references that stands
for nothing. -/
theorem failure?_layer (registration : Registration) :
    failure? (modules.layer settings registration) =
      modules.missing? settings registration.references := by
  cases registration with
  | mount path name =>
      rw [layer, Registration.references, ← failure?_middleware]
      cases modules.middleware settings name <;> rfl
  | route path method =>
      rw [layer, Registration.references, missing?_cons, List.map_append, missing?_append,
        ← failure?_methodHandler, ← failure?_middlewares, ← failure?_middlewares]
      apply failure?_bind
      intro handler
      apply failure?_bind
      intro pre
      cases modules.middlewares settings method.post <;> rfl

theorem resolves_iff_layer_eq_ok {registration : Registration} :
    registration.resolves modules settings = true ↔
      ∃ layer, modules.layer settings registration = .ok layer := by
  rw [← failure?_eq_none_iff, failure?_layer, missing?, Option.map_eq_none_iff,
    firstMissing_eq_none_iff, Registration.resolves]

theorem countP_takeWhile_middlewares (names : List String) :
    ((names.map Reference.middleware).takeWhile (Reference.resolves modules settings)).countP
        Reference.isMiddleware =
      (names.takeWhile fun name =>
        (modules.handlers.lookup? name settings.middlewareDir).isSome).length := by
  rw [List.takeWhile_map, List.countP_map]
  exact List.countP_eq_length.mpr fun _ _ => rfl

/-- The references to middlewares that a registration resolves are those before the
first of its references that stands for nothing. -/
theorem resolvedCount_eq (registration : Registration) :
    modules.resolvedCount settings registration =
      (registration.references.takeWhile (Reference.resolves modules settings)).countP
        Reference.isMiddleware := by
  cases registration with
  | mount path name => exact (modules.countP_takeWhile_middlewares settings [name]).symm
  | route path method =>
      have found := modules.failure?_methodHandler settings method
      have apart : method.reference.isMiddleware = false := by
        unfold Method.reference
        split <;> rfl
      rw [missing?, firstMissing, List.find?_singleton] at found
      rw [resolvedCount, Registration.references, Registration.middlewares]
      cases handler : modules.methodHandler settings method with
      | error error =>
          have dangling : method.reference.resolves modules settings = false := by
            by_contra resolves
            rw [Bool.not_eq_false] at resolves
            simp [handler, failure?, resolves] at found
          rw [List.takeWhile_cons_of_neg (by simp [dangling])]
          rfl
      | ok value =>
          have resolves : method.reference.resolves modules settings = true := by
            by_contra dangling
            simp [handler, failure?, dangling] at found
          rw [List.takeWhile_cons_of_pos resolves, List.countP_cons_of_neg (by simp [apart]),
            countP_takeWhile_middlewares]

end Modules

/-! ## Loads -/

section Loads

variable (modules : Modules) (settings : RouteSettings)

/-- A load makes the longest run of leading registrations whose references all stand for
something. -/
theorem take_load_layers (registrations : List Registration) :
    registrations.take (load modules settings registrations).layers.length =
      registrations.takeWhile (Registration.resolves modules settings) := by
  induction registrations with
  | nil => rfl
  | cons registration rest ih =>
      rw [RoutePlan.load]
      cases made : modules.layer settings registration with
      | error error =>
          have dangling : ¬registration.resolves modules settings = true := by
            rw [Modules.resolves_iff_layer_eq_ok, made]
            simp
          rw [List.takeWhile_cons_of_neg dangling]
          rfl
      | ok layer =>
          have resolves : registration.resolves modules settings = true :=
            (Modules.resolves_iff_layer_eq_ok modules settings).mpr ⟨layer, made⟩
          rw [List.takeWhile_cons_of_pos resolves, ← ih]
          rfl

/-- A load fails for the first reference that stands for nothing. -/
theorem load_error (registrations : List Registration) :
    (load modules settings registrations).error =
      modules.missing? settings (registrations.flatMap Registration.references) := by
  induction registrations with
  | nil => rfl
  | cons registration rest ih =>
      rw [List.flatMap_cons, Modules.missing?_append, ← Modules.failure?_layer, ← ih,
        RoutePlan.load]
      cases modules.layer settings registration <;> rfl

/-- The error of a load is that of the first registration that it leaves out. -/
theorem load_error_of_left_out {registrations rest : List Registration}
    {registration : Registration}
    (split : registrations =
      registrations.takeWhile (Registration.resolves modules settings) ++ registration :: rest) :
    ∃ reference, modules.firstMissing settings registration.references = some reference ∧
      (load modules settings registrations).error = some (reference.missing settings) := by
  have left_out : registrations.dropWhile (Registration.resolves modules settings) =
      registration :: rest := by
    apply List.append_cancel_left
    rw [List.takeWhile_append_dropWhile]
    exact split
  have dangling := List.head?_dropWhile_not (Registration.resolves modules settings) registrations
  rw [left_out] at dangling
  have kept : modules.missing? settings
      ((registrations.takeWhile (Registration.resolves modules settings)).flatMap
        Registration.references) = none := by
    rw [Modules.missing?, Option.map_eq_none_iff, Modules.firstMissing_eq_none_iff,
      List.all_flatMap]
    exact List.all_takeWhile
  cases first : modules.firstMissing settings registration.references with
  | none =>
      have resolves := (modules.firstMissing_eq_none_iff settings).mp first
      exact absurd (dangling.symm.trans resolves) Bool.false_ne_true
  | some reference =>
      refine ⟨reference, rfl, ?_⟩
      rw [load_error, split, List.flatMap_append, Modules.missing?_append, kept,
        Option.none_or, List.flatMap_cons, Modules.missing?_append, Modules.missing?, first]
      rfl

/-- A load resolves the references to middlewares before the first reference that stands
for nothing. -/
theorem load_resolved (registrations : List Registration) :
    (load modules settings registrations).resolved =
      ((registrations.flatMap Registration.references).takeWhile
        (Reference.resolves modules settings)).countP Reference.isMiddleware := by
  induction registrations with
  | nil => rfl
  | cons registration rest ih =>
      rw [List.flatMap_cons, RoutePlan.load, Modules.resolvedCount_eq]
      cases made : modules.layer settings registration with
      | error error =>
          have dangling : ¬registration.resolves modules settings = true := by
            rw [Modules.resolves_iff_layer_eq_ok, made]
            simp
          rw [List.takeWhile_append, if_neg]
          intro whole
          have same := (List.takeWhile_prefix _).eq_of_length whole
          exact dangling (List.all_eq_true.mpr (List.takeWhile_eq_self_iff.mp same))
      | ok layer =>
          have resolves : registration.resolves modules settings = true :=
            (Modules.resolves_iff_layer_eq_ok modules settings).mpr ⟨layer, made⟩
          have all := List.all_eq_true.mp resolves
          rw [List.takeWhile_append_of_pos all, List.countP_append, ← ih,
            List.takeWhile_eq_self_iff.mpr all]

end Loads

end RoutePlan
