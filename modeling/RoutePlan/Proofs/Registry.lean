import Mathlib.Data.Finset.Card
import Mathlib.Data.List.Induction
import Mathlib.Data.List.TakeWhile
import RoutePlan.Proofs.FilePath

/-!
# Registrations in sequence

After any sequence of registrations an export holds the item that was last registered for it,
where paths count by their location.  A module name means the export that it is written with,
below a directory that counts by its location too; there are as many units as locations were
registered.
-/

namespace RoutePlan

universe u

/-! ## Module names -/

namespace Text

variable {separator : Char} {before after text : String}

theorem splitFirst?_of_not_mem (absent : separator ∉ text.toList) :
    splitFirst? separator text = none := by
  have kept : ∀ c ∈ text.toList, decide (c ≠ separator) = true := fun c member =>
    decide_eq_true (ne_of_mem_of_not_mem member absent)
  rw [splitFirst?, List.span_eq_takeWhile_dropWhile, List.dropWhile_eq_nil_iff.2 kept]

theorem splitFirst?_append (absent : separator ∉ before.toList) :
    splitFirst? separator (before ++ String.singleton separator ++ after) =
      some (before, after) := by
  have kept : ∀ c ∈ before.toList, decide (c ≠ separator) = true := fun c member =>
    decide_eq_true (ne_of_mem_of_not_mem member absent)
  simp only [splitFirst?, List.span_eq_takeWhile_dropWhile, String.toList_append,
    String.toList_singleton, List.append_assoc, List.singleton_append]
  rw [List.takeWhile_append_of_pos kept, List.dropWhile_append_of_pos kept,
    List.takeWhile_cons_of_neg (by simp), List.dropWhile_cons_of_neg (by simp), List.append_nil]
  simp only [String.ofList_toList]

end Text

namespace ModuleName

/-- How names are written: the file alone or with a colon for the default export, or the file,
a colon and another export.  The colon is the first one of the name. -/
inductive WrittenAs : ModuleName → String → Prop
  | file {file : String} (plain : ':' ∉ file.toList) : WrittenAs ⟨file, none⟩ file
  | colon {file : String} (plain : ':' ∉ file.toList) : WrittenAs ⟨file, none⟩ (file ++ ":")
  | selector {file selector : String} (plain : ':' ∉ file.toList) (filled : selector ≠ "") :
      WrittenAs ⟨file, some selector⟩ (file ++ ":" ++ selector)

variable {parsed : ModuleName} {name : String}

/-- What is written as a name is what the name is parsed to. -/
theorem WrittenAs.parse_eq (written : parsed.WrittenAs name) : parse name = parsed := by
  cases written with
  | file plain => rw [parse, Text.splitFirst?_of_not_mem plain]
  | @colon file plain =>
      have split : Text.splitFirst? ':' (file ++ ":" ++ "") = some (file, "") :=
        Text.splitFirst?_append plain
      rw [String.append_empty] at split
      rw [parse, split]
      rfl
  | @selector file selector plain filled =>
      have split : Text.splitFirst? ':' (file ++ ":" ++ selector) = some (file, selector) :=
        Text.splitFirst?_append plain
      rw [parse, split]
      simp [filled]

/-- Every text is a name. -/
theorem exists_writtenAs (name : String) : ∃ parsed : ModuleName, parsed.WrittenAs name := by
  by_cases plain : ':' ∈ name.toList
  · obtain ⟨front, back, split, first⟩ := List.eq_append_cons_of_mem plain
    have written : name = String.ofList front ++ ":" ++ String.ofList back := by
      apply String.toList_inj.1
      simp [split]
    have before : ':' ∉ (String.ofList front).toList := by simpa using first
    rw [written]
    by_cases filled : String.ofList back = ""
    · rw [filled, String.append_empty]
      exact ⟨_, .colon before⟩
    · exact ⟨_, .selector before filled⟩
  · exact ⟨_, .file plain⟩

end ModuleName

/-! ## Sequences of registrations -/

namespace Registry

variable {α : Type u}

/-- A registration of an item, as the default export without a selector. -/
structure Call (α : Type u) where
  path : String
  selector : Option String
  item : α

namespace Call

/-- The unit that a registration is for. -/
def location (call : Call α) : Location :=
  FilePath.normalize call.path

/-- Whether a registration is for an export of a unit. -/
def fills (location : Location) (selector : Option String) (call : Call α) : Bool :=
  call.location = location ∧ call.selector = selector

/-- The same registration with another spelling of its path. -/
def Respells (call other : Call α) : Prop :=
  call.location = other.location ∧ call.selector = other.selector ∧ call.item = other.item

end Call

/-- Register one after the other. -/
def performAll (registry : Registry α) (calls : List (Call α)) : Registry α :=
  calls.foldl (fun registry call => registry.register call.path call.selector call.item) registry

theorem performAll_concat (registry : Registry α) (calls : List (Call α)) (call : Call α) :
    registry.performAll (calls ++ [call]) =
      (registry.performAll calls).register call.path call.selector call.item := by
  rw [performAll, List.foldl_append]
  rfl

/-- A registration changes the export that it fills and no other. -/
theorem get?_register (registry : Registry α) (call : Call α) (location : Location)
    (selector : Option String) :
    ((registry.register call.path call.selector call.item).unitAt location).get? selector =
      if call.fills location selector then some call.item
      else (registry.unitAt location).get? selector := by
  rw [unitAt_register]
  by_cases here : location = FilePath.normalize call.path
  · rw [if_pos here]
    by_cases same : selector = call.selector
    · subst same
      rw [ModuleUnit.get?_set_self, if_pos (by simp [Call.fills, Call.location, here])]
    · rw [ModuleUnit.get?_set_of_ne _ _ same, if_neg (by simp [Call.fills, Ne.symm same])]
  · rw [if_neg here, if_neg (by simp [Call.fills, Call.location, Ne.symm here])]

/-- An export holds the item of the last registration that fills it. -/
theorem get?_performAll (calls : List (Call α)) (location : Location)
    (selector : Option String) :
    (((empty : Registry α).performAll calls).unitAt location).get? selector =
      (calls.reverse.find? (Call.fills location selector)).map Call.item := by
  induction calls using List.reverseRecOn with
  | nil => exact ModuleUnit.get?_empty selector
  | append_singleton calls call ih =>
      rw [performAll_concat, get?_register, ih, List.reverse_append, List.reverse_singleton,
        List.singleton_append, List.find?_cons]
      cases call.fills location selector <;> rfl

/-- A registration adds the unit that it is for, if there is none yet. -/
theorem keys_register (registry : Registry α) (call : Call α) :
    Entries.keys (registry.register call.path call.selector call.item).units =
      if call.location ∈ Entries.keys registry.units then Entries.keys registry.units
      else Entries.keys registry.units ++ [call.location] :=
  Entries.keys_insert _ _ _

/-- The locations of the units are those that were registered, each once. -/
theorem keys_performAll (calls : List (Call α)) :
    (Entries.keys ((empty : Registry α).performAll calls).units).Nodup ∧
      (Entries.keys ((empty : Registry α).performAll calls).units).toFinset =
        (calls.map Call.location).toFinset := by
  induction calls using List.reverseRecOn with
  | nil => exact ⟨List.nodup_nil, rfl⟩
  | append_singleton calls call ih =>
      obtain ⟨distinct, same⟩ := ih
      rw [performAll_concat, keys_register, List.map_append, List.toFinset_append, ← same,
        List.map_singleton]
      split_ifs with known
      · refine ⟨distinct, (Finset.union_eq_left.2 ?_).symm⟩
        simpa using known
      · rw [← List.concat_eq_append]
        exact ⟨distinct.concat known, by rw [List.concat_eq_append, List.toFinset_append]⟩

theorem size_performAll (calls : List (Call α)) :
    ((empty : Registry α).performAll calls).size = (calls.map Call.location).toFinset.card := by
  obtain ⟨distinct, same⟩ := keys_performAll calls
  rw [← same, List.toFinset_card_of_nodup distinct, Entries.keys, List.length_map, size]

/-- Registrations count by the locations of their paths. -/
theorem performAll_eq_of_respells (registry : Registry α) {calls others : List (Call α)}
    (respells : List.Forall₂ Call.Respells calls others) :
    registry.performAll calls = registry.performAll others := by
  induction respells generalizing registry with
  | nil => rfl
  | @cons call other calls others first _ ih =>
      obtain ⟨location, selector, item⟩ := first
      have step : registry.register call.path call.selector call.item =
          registry.register other.path other.selector other.item := by
        rw [register, register, selector, item]
        exact congrArg (fun location => Registry.mk (Entries.insert location
          ((registry.unitAt location).set other.selector other.item) registry.units)) location
      rw [performAll, List.foldl_cons, step]
      exact ih _

/-- A name means the item of the last registration for its export. -/
theorem resolve_performAll (calls : List (Call α)) {name : String} {parsed : ModuleName}
    (written : parsed.WrittenAs name) (base : String) :
    (empty.performAll calls).resolve name base =
      match calls.reverse.find? (Call.fills (parsed.unit base) parsed.selector) with
      | some call => .ok call.item
      | none => .error (.moduleNotFound (parsed.display base)) := by
  rw [resolve, lookup?, written.parse_eq]
  simp only [get?_performAll]
  cases calls.reverse.find? (Call.fills (parsed.unit base) parsed.selector) <;> rfl

/-- A name means the same below directories at one location. -/
theorem resolve_congr (registry : Registry α) {base other : String}
    (same : FilePath.normalize base = FilePath.normalize other) (name : String) :
    registry.resolve name base = registry.resolve name other := by
  have unit (parsed : ModuleName) : parsed.unit base = parsed.unit other :=
    FilePath.normalize_join_congr same parsed.file
  have display (parsed : ModuleName) : parsed.display base = parsed.display other := by
    rw [ModuleName.display, ModuleName.display, unit]
  rw [resolve, lookup?, unit, display, resolve, lookup?]

/-- After any registrations, a name means the item that was last registered for the export it is
written with, and one for which nothing was registered is an error that shows the place looked
up; there are as many units as locations that were registered.  A location is that of itself as
a path, also where it is a base directory, so that other spellings of the paths and of the base
directory change nothing. -/
theorem last_registration_wins (calls : List (Call α)) :
    (∀ name, ∃ parsed : ModuleName, parsed.WrittenAs name) ∧
    (∀ (name : String) (parsed : ModuleName), parsed.WrittenAs name → ∀ base,
      (empty.performAll calls).resolve name base =
        match calls.reverse.find?
          (Call.fills (FilePath.normalize (FilePath.join base parsed.file)) parsed.selector) with
        | some call => .ok call.item
        | none => .error (.moduleNotFound (parsed.display base))) ∧
    ((empty : Registry α).performAll calls).size = (calls.map Call.location).toFinset.card ∧
    (∀ path, FilePath.normalize (FilePath.normalize path).display = FilePath.normalize path) ∧
    (∀ base file, FilePath.normalize (FilePath.join base file) =
      FilePath.normalize (FilePath.join (FilePath.normalize base).display file)) ∧
    ∀ others, List.Forall₂ Call.Respells calls others → ∀ name base other,
      FilePath.normalize base = FilePath.normalize other →
        (empty.performAll calls).resolve name base =
          (empty.performAll others).resolve name other := by
  refine ⟨ModuleName.exists_writtenAs, fun name parsed written base => ?_, size_performAll calls,
    FilePath.normalize_display, fun base file => ?_, fun others respells name base other same => ?_⟩
  · exact resolve_performAll calls written base
  · exact FilePath.normalize_join_congr (FilePath.normalize_display base).symm file
  · rw [performAll_eq_of_respells empty respells, resolve_congr _ same]

/-- Registrations of one unit in several spellings, the default export twice. -/
def spelledCalls : List (Call String) :=
  [⟨"shop/../controller/item", none, "old"⟩, ⟨"controller/item", some "get", "get"⟩,
    ⟨"./controller//item", none, "new"⟩]

/-- The later default export is found, the other export is still there, and a third one is not
found; the same holds for one spelling of all paths. -/
theorem later_default_wins :
    (empty.performAll spelledCalls).resolve "item:" "controller" = .ok "new" ∧
      (empty.performAll spelledCalls).resolve "item:get" "./controller" = .ok "get" ∧
      (empty.performAll spelledCalls).resolve "item:put" "controller" =
        .error (.moduleNotFound "controller/item:put") ∧
      (empty.performAll spelledCalls).size = 1 ∧
      (empty.performAll (spelledCalls.map fun call => { call with path := "controller/item" })
        ).resolve "item" "x/../controller" = .ok "new" := by
  obtain ⟨_, wins, size, _, _, respelled⟩ := last_registration_wins spelledCalls
  have default : (⟨"item", none⟩ : ModuleName).WrittenAs "item:" := .colon (by decide)
  have get : (⟨"item", some "get"⟩ : ModuleName).WrittenAs "item:get" :=
    .selector (by decide) (by decide)
  have put : (⟨"item", some "put"⟩ : ModuleName).WrittenAs "item:put" :=
    .selector (by decide) (by decide)
  have plain : (⟨"item", none⟩ : ModuleName).WrittenAs "item" := .file (by decide)
  refine ⟨?_, ?_, ?_, ?_, ?_⟩
  · rw [wins _ _ default]
    rfl
  · rw [wins _ _ get]
    rfl
  · rw [wins _ _ put]
    rfl
  · rw [size]
    decide
  · have spellings : List.Forall₂ Call.Respells spelledCalls
        (spelledCalls.map fun call => { call with path := "controller/item" }) :=
      .cons ⟨by decide, rfl, rfl⟩ (.cons ⟨by decide, rfl, rfl⟩ (.cons ⟨by decide, rfl, rfl⟩ .nil))
    rw [← respelled _ spellings _ "controller" _ (by decide), wins _ _ plain]
    rfl

end Registry

end RoutePlan
