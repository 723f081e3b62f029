import RoutePlan.Entries
import RoutePlan.ModuleName
import RoutePlan.PlanError

/-!
# The module registry

Units are registered by path; each holds an optional default export and named
exports.  Paths are compared by location, and a later registration of the same
export replaces the earlier one.
-/

namespace RoutePlan

universe u

/-- One registered unit. -/
structure ModuleUnit (α : Type u) where
  default? : Option α
  exports : Entries String α

/-- Units by location, in the order of their first registration. -/
structure Registry (α : Type u) where
  units : Entries Location (ModuleUnit α)

namespace ModuleUnit

variable {α : Type u}

/-- A unit without exports. -/
def empty : ModuleUnit α := ⟨none, []⟩

/-- Set the export that a selector names. -/
def set (unit : ModuleUnit α) (selector : Option String) (item : α) : ModuleUnit α :=
  match selector with
  | none => { unit with default? := some item }
  | some name => { unit with exports := Entries.insert name item unit.exports }

/-- The export that a selector names. -/
def get? (unit : ModuleUnit α) : Option String → Option α
  | none => unit.default?
  | some name => unit.exports.lookup name

@[simp]
theorem get?_empty (selector : Option String) : (empty : ModuleUnit α).get? selector = none := by
  cases selector <;> rfl

@[simp]
theorem get?_set_self (unit : ModuleUnit α) (selector : Option String) (item : α) :
    (unit.set selector item).get? selector = some item := by
  cases selector <;> simp [set, get?]

theorem get?_set_of_ne (unit : ModuleUnit α) {selector other : Option String} (item : α)
    (distinct : other ≠ selector) : (unit.set selector item).get? other = unit.get? other := by
  cases selector <;> cases other <;> simp_all [set, get?, Entries.lookup_insert_of_ne]

end ModuleUnit

namespace Registry

variable {α : Type u}

/-- A registry without units. -/
def empty : Registry α := ⟨[]⟩

instance : Inhabited (Registry α) := ⟨empty⟩

/-- The unit at a location; one that was never registered has no exports. -/
def unitAt (registry : Registry α) (location : Location) : ModuleUnit α :=
  (registry.units.lookup location).getD .empty

/-- Register an export of the unit at `path`, the default one without selector. -/
def register (registry : Registry α) (path : String) (selector : Option String) (item : α) :
    Registry α :=
  let location := FilePath.normalize path
  ⟨Entries.insert location ((registry.unitAt location).set selector item) registry.units⟩

/-- How many units are registered. -/
def size (registry : Registry α) : Nat :=
  registry.units.length

/-- What a name means under a base directory. -/
def lookup? (registry : Registry α) (name base : String) : Option α :=
  let parsed := ModuleName.parse name
  (registry.unitAt (parsed.unit base)).get? parsed.selector

/-- What a name means under a base directory; a name that means nothing is an
error. -/
def resolve (registry : Registry α) (name base : String) : Except PlanError α :=
  match registry.lookup? name base with
  | some item => .ok item
  | none => .error (.moduleNotFound ((ModuleName.parse name).display base))

/-- The registered locations, sorted component by component. -/
def locations (registry : Registry α) : List Location :=
  (Entries.keys registry.units).mergeSort fun left right => !right.before left

/-- A registration changes the unit at its location and no other. -/
theorem unitAt_register (registry : Registry α) (path : String) (selector : Option String)
    (item : α) (location : Location) :
    (registry.register path selector item).unitAt location =
      if location = FilePath.normalize path then
        (registry.unitAt location).set selector item
      else registry.unitAt location := by
  by_cases same : location = FilePath.normalize path
  · subst same; simp [register, unitAt]
  · simp [register, unitAt, same, Entries.lookup_insert_of_ne _ same]

@[simp]
theorem lookup?_empty (name base : String) : (empty : Registry α).lookup? name base = none := by
  simp [lookup?, unitAt, empty]

/-- After a registration a name means the registered item, or what it meant before. -/
theorem lookup?_register_cases {registry : Registry α} {path : String} {selector : Option String}
    {item found : α} {name base : String}
    (means : (registry.register path selector item).lookup? name base = some found) :
    found = item ∨ registry.lookup? name base = some found := by
  simp only [lookup?, unitAt_register] at *
  split at means
  · by_cases same : (ModuleName.parse name).selector = selector
    · rw [same, ModuleUnit.get?_set_self] at means
      exact .inl (Option.some.inj means).symm
    · rw [ModuleUnit.get?_set_of_ne _ _ same] at means
      exact .inr means
  · exact .inr means

end Registry

end RoutePlan
