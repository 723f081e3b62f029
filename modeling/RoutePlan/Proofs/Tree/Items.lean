import RoutePlan.Proofs.Entries
import RoutePlan.Proofs.Tree.Compile

/-!
# Forests from items

What some items compile to, entries and files alike, as one list of elements: an entry
yields one element, and a file those of its document.  With the equations below a
statement on the compilation of items is proved by `itemInduction`, one case for each
shape of an entry and one for files.
-/

namespace RoutePlan

namespace Checked

variable {α β : Type}

theorem traverse_append (construct : α → Checked β) (first second : List α) :
    traverse construct (first ++ second) = do
      let built ← traverse construct first
      let others ← traverse construct second
      return built ++ others := by
  induction first with
  | nil => simp [traverse]
  | cons item rest ih => simp [traverse, ih]

end Checked

/-- A value of another key does not matter. -/
theorem unusedKeys_of_sameExcept {config other : Entries String Value} {field : String}
    (same : Entries.SameExcept field config other) (node : NodeName) (recognized : List String) :
    unusedKeys node recognized other = unusedKeys node recognized config := by
  rw [unusedKeys, same.keys, unusedKeys]

namespace Element

/-- What an item compiles to: an entry to its element, a file to those of its document. -/
def compileItem (sources : Sources) (visited : List Location) (inherited : List Parameter) :
    Item → Checked (List Element)
  | .entry key value =>
      ([·]) <$> compile sources.settings (importer sources visited) inherited key value
  | .file name => Prod.snd <$> importFile sources visited inherited name

/-- What some items compile to, one after the other. -/
def compileItems (sources : Sources) (visited : List Location) (inherited : List Parameter)
    (list : List Item) : Checked (List Element) :=
  List.flatten <$> Checked.traverse (compileItem sources visited inherited) list

theorem items_append (first second : Entries String Value) :
    items (first ++ second) = items first ++ items second :=
  List.map_append

theorem items_cons (entry : String × Value) (rest : Entries String Value) :
    items (entry :: rest) = .entry entry.1 entry.2 :: items rest :=
  rfl

section Equations

variable (sources : Sources) (visited : List Location) (inherited : List Parameter)

theorem compileItems_nil : compileItems sources visited inherited [] = pure [] :=
  rfl

theorem compileItems_cons (item : Item) (rest : List Item) :
    compileItems sources visited inherited (item :: rest) = do
      let first ← compileItem sources visited inherited item
      let others ← compileItems sources visited inherited rest
      return first ++ others := by
  simp [compileItems, Checked.traverse]

theorem compileItems_singleton (item : Item) :
    compileItems sources visited inherited [item] = compileItem sources visited inherited item := by
  simp [compileItems_cons, compileItems_nil]

theorem compileItems_append (first second : List Item) :
    compileItems sources visited inherited (first ++ second) = do
      let elements ← compileItems sources visited inherited first
      let others ← compileItems sources visited inherited second
      return elements ++ others := by
  simp [compileItems, Checked.traverse_append]

/-- Items compile one after the other only if both parts do. -/
theorem exists_of_compileItems_append {sources : Sources} {visited : List Location}
    {inherited : List Parameter} {first second : List Item} {elements : List Element}
    (compiled : (compileItems sources visited inherited (first ++ second)).outcome =
      .ok elements) :
    (∃ built, (compileItems sources visited inherited first).outcome = .ok built) ∧
      ∃ others, (compileItems sources visited inherited second).outcome = .ok others := by
  rw [compileItems_append] at compiled
  obtain ⟨built, before, compiled⟩ := Checked.bind_outcome_eq_ok_iff.1 compiled
  obtain ⟨others, after, _⟩ := Checked.bind_outcome_eq_ok_iff.1 compiled
  exact ⟨⟨built, before⟩, others, after⟩

/-- Some items compile only if the first does and the others do. -/
theorem exists_of_compileItems_cons {sources : Sources} {visited : List Location}
    {inherited : List Parameter} {item : Item} {rest : List Item} {elements : List Element}
    (compiled : (compileItems sources visited inherited (item :: rest)).outcome =
      .ok elements) :
    (∃ first, (compileItem sources visited inherited item).outcome = .ok first) ∧
      ∃ others, (compileItems sources visited inherited rest).outcome = .ok others := by
  rw [compileItems_cons] at compiled
  obtain ⟨first, built, compiled⟩ := Checked.bind_outcome_eq_ok_iff.1 compiled
  obtain ⟨others, after, _⟩ := Checked.bind_outcome_eq_ok_iff.1 compiled
  exact ⟨⟨first, built⟩, others, after⟩

/-- A document compiles as its entries do. -/
theorem compileDocument_eq_compileItems (entries : Entries String Value) :
    compileDocument sources visited inherited entries =
      compileItems sources visited inherited (items entries) := by
  rw [compileDocument_eq, compileAll_eq_traverse]
  induction entries with
  | nil => rfl
  | cons entry rest ih =>
      rw [items, List.map_cons, compileItems_cons, ← items, ← ih, Checked.traverse, compileItem]
      simp

/-- The path of a file that is imported is the one that was named. -/
theorem importFile_eq_compileItem (name : String) :
    importFile sources visited inherited name =
      Prod.mk (sources.path name) <$> compileItem sources visited inherited (.file name) := by
  rw [compileItem]
  unfold importFile
  split
  · rfl
  · split
    · rfl
    · simp

/-- An import holds what its files compile to. -/
theorem importer_eq (value : Value) :
    importer sources visited inherited value = do
      let names ← Checked.ofExcept (importNames value)
      let children ← compileItems sources visited inherited (names.map .file)
      return .imports (names.map sources.path) children := by
  have together (names : List String) :
      (fun imported => (imported.map Prod.fst, imported.flatMap Prod.snd)) <$>
          Checked.traverse (importFile sources visited inherited) names =
        Prod.mk (names.map sources.path) <$>
          compileItems sources visited inherited (names.map .file) := by
    induction names with
    | nil => rfl
    | cons name rest ih =>
        simp only [Checked.traverse, importFile_eq_compileItem, List.map_cons, compileItems_cons]
        simp only [map_bind, bind_map_left, map_pure, List.map_cons, List.flatMap_cons]
        congr 1
        funext first
        have both := congrArg
          (Functor.map fun built => (sources.path name :: built.1, first ++ built.2)) ih
        simpa only [Functor.map_map, bind_pure_comp, map_pure] using both
  unfold importer
  congr 1
  funext names
  have both := congrArg (Functor.map fun built => Element.imports built.1 built.2) (together names)
  simpa only [Functor.map_map, bind_pure_comp] using both

end Equations

/-! ## Entries -/

/-- A mapping is classified by its `root` and its `path`, of which null counts as absent. -/
theorem classify_map (key : String) (config : Entries String Value) :
    classify key (.map config) =
      if key = "import" then .ok .imports
      else if (config.lookup "root").any (!·.isNull) then .ok .root
      else if (config.lookup "path").any (!·.isNull) then .ok .route
      else .error (.unrecognizedElement key) := by
  have named (field : String) : ∃ held, config.lookup field = held := ⟨_, rfl⟩
  obtain ⟨root, rootHeld⟩ := named "root"
  obtain ⟨path, pathHeld⟩ := named "path"
  unfold classify
  simp only [Value.field?, rootHeld, pathHeld]
  cases root <;> cases path <;> rfl

theorem classify_eq_root_iff {key : String} {config : Entries String Value} :
    classify key (.map config) = .ok .root ↔
      key ≠ "import" ∧ (config.lookup "root").any (!·.isNull) = true := by
  rw [classify_map]
  grind

theorem classify_eq_route_iff {key : String} {config : Entries String Value} :
    classify key (.map config) = .ok .route ↔
      key ≠ "import" ∧ (config.lookup "root").any (!·.isNull) = false ∧
        (config.lookup "path").any (!·.isNull) = true := by
  rw [classify_map]
  grind

/-- A value of another key does not matter. -/
theorem classify_of_sameExcept {config other : Entries String Value} {field : String}
    (same : Entries.SameExcept field config other) (root : "root" ≠ field)
    (path : "path" ≠ field) (key : String) :
    classify key (.map other) = classify key (.map config) := by
  rw [classify_map, classify_map, same.lookup _ root, same.lookup _ path]

/-- What is inside an entry: the files of an import, the entries of a root. -/
def inside (key : String) (value : Value) : List Item :=
  match classify key value with
  | .ok .imports =>
      match importNames value with
      | .ok names => names.map .file
      | .error _ => []
  | .ok .root =>
      match value.field? "routes" with
      | some (.map entries) => items entries
      | _ => []
  | _ => []

section Inside

variable {key : String} {value : Value}

theorem inside_imports {names : List String} (shape : classify key value = .ok .imports)
    (named : importNames value = .ok names) : inside key value = names.map .file := by
  rw [inside, shape]
  dsimp only
  rw [named]

theorem inside_root {config entries : Entries String Value}
    (shape : classify key (.map config) = .ok .root)
    (routes : config.lookup "routes" = some (.map entries)) :
    inside key (.map config) = items entries := by
  rw [inside, shape]
  dsimp only [Value.field?]
  rw [routes]

/-- What is inside an entry is smaller than the entry. -/
theorem weight_inside_le (key : String) (value : Value) :
    Item.weight (inside key value) ≤ sizeOf value := by
  unfold inside
  split
  · split
    · rw [Item.weight_files]
      exact Nat.zero_le _
    · exact Nat.zero_le _
  · split
    · next entries found =>
        cases value with
        | map config =>
            have inner := Item.weight_items_lt entries
            have outer := sizeOf_lookup_lt found
            simp only [Value.map.sizeOf_spec] at outer ⊢
            omega
        | _ => cases found
    · exact Nat.zero_le _
  · exact Nat.zero_le _

end Inside

/-- An entry apart from what is inside. -/
inductive Frame where
  | root (mount : Root)
  | route (route : Route)
  | imports (paths : List String) (inherited : List Parameter)

namespace Frame

/-- The parameters that are handed on to what is inside. -/
def params : Frame → List Parameter
  | root mount => mount.params
  | route held => held.params
  | imports _ inherited => inherited

/-- The element around what is inside. -/
def close : Frame → List Element → Element
  | root mount, children => .root mount children
  | route held, _ => .route held
  | imports paths _, children => .imports paths children

end Frame

/-- Compile an entry apart from what is inside. -/
def frame (sources : Sources) (inherited : List Parameter) (key : String) (value : Value) :
    Checked Frame :=
  match classify key value with
  | .error error => .fail error
  | .ok .imports => do
      let names ← Checked.ofExcept (importNames value)
      return .imports (names.map sources.path) inherited
  | .ok .route => do
      let built ← Route.compile sources.settings inherited key value
      return .route built
  | .ok .root =>
      match value with
      | .map config => do
          let head ← MountHead.compile ⟨.root, key⟩ "root" Root.recognizedKeys inherited config
          match config.lookup "routes" with
          | none => .fail (.emptyRoutes key)
          | some .null => .fail (.emptyRoutes key)
          | some (.map []) => .fail (.emptyRoutes key)
          | some (.map _) => return .root (Root.ofHead key head)
          | some other => .reject (.fieldNotMapping ⟨.root, key⟩ "routes" other.kindName)
      | other => .reject (.nodeNotMapping ⟨.root, key⟩ other.kindName)

variable {sources : Sources} {visited : List Location} {inherited : List Parameter}

/-- The frame of an entry by its shape, with all that was read for it. -/
inductive FrameOf (sources : Sources) (inherited : List Parameter) (key : String) :
    Value → Frame → Prop where
  | imports {value : Value} {names : List String} (shape : classify key value = .ok .imports)
      (named : importNames value = .ok names) :
      FrameOf sources inherited key value (.imports (names.map sources.path) inherited)
  | route {value : Value} {held : Route} (shape : classify key value = .ok .route)
      (compiled : (Route.compile sources.settings inherited key value).outcome = .ok held) :
      FrameOf sources inherited key value (.route held)
  | root {config rest : Entries String Value} {head : MountHead} {entry : String × Value}
      (shape : classify key (.map config) = .ok .root)
      (compiled : (MountHead.compile ⟨.root, key⟩ "root" Root.recognizedKeys inherited
        config).outcome = .ok head)
      (routes : config.lookup "routes" = some (.map (entry :: rest))) :
      FrameOf sources inherited key (.map config) (.root (Root.ofHead key head))

/-- An entry with a frame has passed the checks of its shape. -/
theorem frameOf_of_frame {key : String} {value : Value} {held : Frame}
    (framed : (frame sources inherited key value).outcome = .ok held) :
    FrameOf sources inherited key value held := by
  unfold frame at framed
  split at framed
  · cases framed
  · next shape =>
      obtain ⟨names, named, built⟩ := Checked.bind_outcome_eq_ok_iff.1 framed
      cases built
      exact .imports shape named
  · next shape =>
      obtain ⟨route, compiled, built⟩ := Checked.bind_outcome_eq_ok_iff.1 framed
      cases built
      exact .route shape compiled
  · next shape =>
      split at framed
      · next config =>
          obtain ⟨head, compiled, framed⟩ := Checked.bind_outcome_eq_ok_iff.1 framed
          split at framed
          · cases framed
          · cases framed
          · cases framed
          · next entries filled routes =>
              cases framed
              obtain ⟨entry, rest, rfl⟩ := List.exists_cons_of_ne_nil filled
              exact .root shape compiled routes
          · cases framed
      · cases framed

/-- An entry compiles as its frame does, and then what is inside. -/
theorem compileItem_entry (key : String) (value : Value) :
    compileItem sources visited inherited (.entry key value) = do
      let frame ← frame sources inherited key value
      let children ← compileItems sources visited frame.params (inside key value)
      return [frame.close children] := by
  rw [compileItem]
  unfold frame
  cases shape : classify key value with
  | error error => rw [compile_error shape]; rfl
  | ok kind =>
      cases kind with
      | imports =>
          rw [compile_imports shape, importer_eq]
          cases named : importNames value with
          | error error => rfl
          | ok names =>
              rw [inside_imports shape named]
              have known : Checked.ofExcept (.ok names) = pure names := rfl
              simp only [known, pure_bind, map_bind, map_pure, Frame.params, Frame.close]
      | route =>
          have nothing : inside key value = [] := by rw [inside, shape]
          rw [compile_route shape, nothing]
          simp [compileItems_nil, Frame.close]
      | root =>
          unfold compile
          rw [shape]
          dsimp only
          cases value with
          | map config =>
              simp only [map_bind, bind_assoc]
              congr 1
              funext head
              split
              · next routes => rw [routes]; rfl
              · next routes => rw [routes]; rfl
              · next routes => rw [routes]; rfl
              · next entry rest routes =>
                  rw [routes, ← compileDocument_eq, compileDocument_eq_compileItems,
                    inside_root shape routes]
                  simp [Frame.params, Frame.close, Root.ofHead]
              · next other null empty filled routes =>
                  rw [routes]
                  cases other with
                  | null => exact absurd rfl null
                  | map entries =>
                      cases entries with
                      | nil => exact absurd rfl empty
                      | cons entry rest => exact absurd rfl (filled entry rest)
                  | _ => rfl
          | _ => rfl

/-- An entry compiles only if its frame does, and then what is inside. -/
theorem exists_frame_of_compileItem {key : String} {value : Value} {elements : List Element}
    (compiled : (compileItem sources visited inherited (.entry key value)).outcome =
      .ok elements) :
    ∃ held, (frame sources inherited key value).outcome = .ok held ∧
      ∃ below, (compileItems sources visited held.params (inside key value)).outcome =
        .ok below := by
  rw [compileItem_entry] at compiled
  obtain ⟨held, framed, compiled⟩ := Checked.bind_outcome_eq_ok_iff.1 compiled
  obtain ⟨below, within, _⟩ := Checked.bind_outcome_eq_ok_iff.1 compiled
  exact ⟨held, framed, below, within⟩

/-- An entry that compiles yields an element. -/
theorem ne_nil_of_compileItems {entry : String × Value} {rest : Entries String Value}
    {elements : List Element}
    (compiled : (compileItems sources visited inherited (items (entry :: rest))).outcome =
      .ok elements) : elements ≠ [] := by
  rw [items_cons, compileItems_cons, compileItem_entry] at compiled
  obtain ⟨first, built, compiled⟩ := Checked.bind_outcome_eq_ok_iff.1 compiled
  obtain ⟨others, _, compiled⟩ := Checked.bind_outcome_eq_ok_iff.1 compiled
  obtain ⟨held, _, built⟩ := Checked.bind_outcome_eq_ok_iff.1 built
  obtain ⟨children, _, built⟩ := Checked.bind_outcome_eq_ok_iff.1 built
  cases built
  cases compiled
  simp

/-- A root that compiles encloses an element. -/
theorem children_ne_nil_of_root {key : String} {value : Value} {mount : Root}
    {params : List Parameter} {children : List Element}
    (framed : (frame sources inherited key value).outcome = .ok (.root mount))
    (below : (compileItems sources visited params (inside key value)).outcome = .ok children) :
    children ≠ [] := by
  cases frameOf_of_frame framed with
  | root shape _ routes =>
      rw [inside_root shape routes] at below
      exact ne_nil_of_compileItems below

/-- An import compiles as its files do. -/
theorem compileItem_imports {key : String} {value : Value} {names : List String}
    (shape : classify key value = .ok .imports) (named : importNames value = .ok names) :
    compileItem sources visited inherited (.entry key value) =
      (fun children => [.imports (names.map sources.path) children]) <$>
        compileItems sources visited inherited (names.map .file) := by
  have framed : frame sources inherited key value =
      pure (.imports (names.map sources.path) inherited) := by
    unfold frame
    rw [shape]
    dsimp only
    rw [named]
    rfl
  rw [compileItem_entry, framed, pure_bind, inside_imports shape named, ← bind_pure_comp]
  rfl

/-- An import of one file compiles as the file does. -/
theorem compileItem_import (name : String) :
    compileItem sources visited inherited (.entry "import" (.string name)) =
      (fun elements => [.imports [sources.path name] elements]) <$>
        compileItem sources visited inherited (.file name) := by
  have named : importNames (.string name) = .ok [name] := rfl
  rw [compileItem_imports rfl named, List.map_singleton, List.map_singleton,
    compileItems_singleton]

theorem compileItems_import (name : String) :
    compileItems sources visited inherited (items [("import", .string name)]) =
      (fun elements => [.imports [sources.path name] elements]) <$>
        compileItem sources visited inherited (.file name) := by
  rw [items, List.map_singleton, compileItems_singleton, compileItem_import]

/-! ## Files -/

section Files

variable {name : String}

/-- A file compiles as the entries of its document do, while it is being imported. -/
theorem compileItem_file (name : String) :
    compileItem sources visited inherited (.file name) =
      if sources.location name ∈ visited then
        .reject (.importCycle (visited ++ [sources.location name]))
      else
        match sources.files.read (sources.path name) with
        | .error _ => .fail (.fileNotFound (sources.path name))
        | .ok octets =>
            Checked.ofExcept (fileEntries (sources.path name) octets) >>= fun entries =>
              compileItems sources (visited ++ [sources.location name]) inherited
                (items entries) := by
  rw [compileItem]
  unfold importFile
  split
  · rfl
  · cases sources.files.read (sources.path name) with
    | error problem => rfl
    | ok octets => simp [compileDocument_eq_compileItems]

theorem Sources.Holds.compileItem {entries : Entries String Value}
    (holds : sources.Holds visited name entries) :
    compileItem sources visited inherited (.file name) =
      compileItems sources (visited ++ [sources.location name]) inherited (items entries) := by
  obtain ⟨octets, contents, held⟩ := holds.readable
  rw [compileItem_file, if_neg holds.fresh, contents]
  dsimp only
  rw [held]
  exact Checked.pure_bind_eq entries _

/-- A file that compiles holds a document and is not being imported. -/
theorem exists_holds_of_compileItem {elements : List Element}
    (compiled : (compileItem sources visited inherited (.file name)).outcome = .ok elements) :
    ∃ entries, sources.Holds visited name entries := by
  rw [compileItem, Checked.outcome_map] at compiled
  obtain ⟨imported, built, _⟩ := map_eq_ok_iff.1 compiled
  exact exists_holds_of_importFile built

end Files

/-! ## Induction -/

/-- Induction on what a compilation goes through, with what is inside an entry. -/
theorem insideInduction (sources : Sources) {motive : List Location → List Item → Prop}
    (nil : ∀ visited, motive visited [])
    (entry : ∀ visited key value rest, motive visited (inside key value) →
      motive visited rest → motive visited (.entry key value :: rest))
    (file : ∀ visited name rest,
      (∀ entries, sources.Holds visited name entries → ∀ others,
        motive (visited ++ [sources.location name]) others) →
      motive visited rest → motive visited (.file name :: rest))
    (visited : List Location) (list : List Item) : motive visited list := by
  refine itemInduction sources nil (fun visited key value rest rootIH filesIH => ?_) file
    visited list
  apply entry
  unfold inside
  split
  · split
    · exact filesIH _
    · exact nil visited
  · split
    · next entries found =>
        cases value with
        | map config => exact rootIH config entries rfl found
        | _ => cases found
    · exact nil visited
  · exact nil visited

end Element

end RoutePlan
