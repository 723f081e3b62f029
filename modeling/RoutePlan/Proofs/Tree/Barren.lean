import RoutePlan.Proofs.Tree.ImportChain
import RoutePlan.Proofs.Tree.Listing
import RoutePlan.Proofs.Tree.Method
import RoutePlan.Proofs.Tree.Reach
import RoutePlan.Proofs.Tree.WellFormed

/-!
# Emptiness

Two kinds of emptiness meet in a compilation.  An item is vacant when it lacks what it must
hold, and then it does not compile.  An item is barren when all that is inside comes to no
route, though nothing on the way is vacant; this takes a file that holds the empty mapping.
-/

namespace RoutePlan

namespace Element

variable {sources : Sources} {visited there : List Location} {inherited : List Parameter}
  {list : List Item} {elements : List Element} {key : String} {value : Value}

/-! ## Vacant items -/

/-- Nothing is declared: the key is absent, null or an empty mapping. -/
def Undeclared (field : Option Value) : Prop :=
  field = none ∨ field = some .null ∨ field = some (.map [])

/-- The text of an empty document: it is blank, or its value is null. -/
def IsEmptyText (text : String) : Prop :=
  Text.isBlankText text = true ∨ Yaml.read? text = some .null

/-- A root without routes, a route without methods, an import without files or a file with
an empty text, with the error that says so. -/
inductive Vacant (sources : Sources) (visited : List Location) : Item → PlanError → Prop where
  | root {key : String} {config : Entries String Value}
      (shape : classify key (.map config) = .ok .root)
      (routes : Undeclared (config.lookup "routes")) :
      Vacant sources visited (.entry key (.map config)) (.emptyRoutes key)
  | route {key : String} {config : Entries String Value}
      (shape : classify key (.map config) = .ok .route)
      (methods : Undeclared (config.lookup "methods")) :
      Vacant sources visited (.entry key (.map config)) (.emptyMethods key)
  | imports {key : String} (shape : classify key (.list []) = .ok .imports) :
      Vacant sources visited (.entry key (.list [])) (.invalid .importsNothing)
  | file {name : String} {octets : List UInt8} {text : String}
      (fresh : sources.location name ∉ visited)
      (contents : sources.files.read (sources.path name) = .ok octets)
      (decoded : Text.Utf8.decode? octets = some text) (empty : IsEmptyText text) :
      Vacant sources visited (.file name) .emptyDocument

/-- The checks of the fields that roots and routes share, which come before those of what
they hold. -/
def checkMount (inherited : List Parameter) : Item → Except PlanError Unit
  | .entry key (.map config) =>
      (fun _ => ()) <$>
        match classify key (.map config) with
        | .ok .root =>
            (MountHead.compile ⟨.root, key⟩ "root" Root.recognizedKeys inherited config).outcome
        | _ =>
            (MountHead.compile ⟨.route, key⟩ "path" Route.recognizedKeys inherited config).outcome
  | _ => .ok ()

theorem read_eq_emptyDocument_iff {text : String} :
    Document.read text = .error .emptyDocument ↔ IsEmptyText text := by
  unfold Document.read IsEmptyText
  split
  · next blank => simp [blank]
  · next filled =>
      split
      · next unread => simp [filled, unread]
      · next null => simp [null]
      · next held other read => simpa [filled, read] using other

/-- A root without routes fails once its other fields are checked. -/
theorem frame_outcome_of_undeclared {config : Entries String Value}
    (shape : classify key (.map config) = .ok .root)
    (routes : Undeclared (config.lookup "routes")) :
    (frame sources inherited key (.map config)).outcome =
      checkMount inherited (.entry key (.map config)) >>= fun _ => .error (.emptyRoutes key) := by
  rw [checkMount, shape, frame, shape]
  dsimp only
  rw [Checked.outcome_bind, bind_map_left]
  congr 1
  funext head
  rcases routes with absent | null | empty
  · rw [absent]; rfl
  · rw [null]; rfl
  · rw [empty]; rfl

theorem compileMethods_outcome_of_undeclared {field : Option Value} (methods : Undeclared field)
    (settings : RouteSettings) (name : String) (params : List Parameter) :
    (Route.compileMethods settings name params field).outcome = .error (.emptyMethods name) := by
  rcases methods with absent | null | empty
  · rw [absent]; rfl
  · rw [null]; rfl
  · rw [empty]; rfl

/-- A route without methods fails once its other fields are checked. -/
theorem compile_outcome_of_undeclared {config : Entries String Value}
    (shape : classify key (.map config) = .ok .route)
    (methods : Undeclared (config.lookup "methods")) (settings : RouteSettings) :
    (Route.compile settings inherited key (.map config)).outcome =
      checkMount inherited (.entry key (.map config)) >>= fun _ => .error (.emptyMethods key) := by
  rw [checkMount, shape]
  dsimp only
  rw [Route.compile, requireMapping, Checked.outcome_bind, Checked.outcome_ofExcept, ok_bind,
    Checked.outcome_bind, bind_map_left]
  congr 1
  funext head
  rw [Checked.outcome_bind, compileMethods_outcome_of_undeclared methods]
  rfl

/-- A vacant item fails as soon as the checks before have passed. -/
theorem Vacant.compileItem_eq {item : Item} {error : PlanError}
    (vacant : Vacant sources visited item error) (inherited : List Parameter) :
    (compileItem sources visited inherited item).outcome =
      checkMount inherited item >>= fun _ => .error error := by
  cases vacant with
  | @root key config shape routes =>
      rw [compileItem_entry, Checked.outcome_bind, frame_outcome_of_undeclared shape routes,
        bind_assoc]
      rfl
  | @route key config shape methods =>
      rw [compileItem, compile_route shape, Checked.outcome_map, Checked.outcome_map,
        compile_outcome_of_undeclared shape methods, map_bind, map_bind]
      rfl
  | imports shape =>
      rw [compileItem, compile_imports shape]
      rfl
  | @file name octets text fresh contents decoded empty =>
      rw [compileItem_file, if_neg fresh, contents]
      dsimp only
      rw [fileEntries, decoded]
      dsimp only
      rw [read_eq_emptyDocument_iff.2 empty]
      rfl

/-- A vacant item that a compilation comes to does not let it succeed. -/
theorem Reaches.outcome_ne_ok {item : Item} (reaches : Reaches sources item there visited list)
    {error : PlanError} (vacant : Vacant sources there item error) :
    (compileItems sources visited inherited list).outcome ≠ .ok elements := by
  intro compiled
  obtain ⟨params, built, found, _⟩ := reaches.exists_compiled compiled
  rw [vacant.compileItem_eq, bind_eq_ok_iff] at found
  obtain ⟨_, _, failed⟩ := found
  cases failed

/-! ## Barren items -/

/-- Nothing but roots, imports and files is inside, at any depth. -/
inductive Barren (sources : Sources) : List Location → Item → Prop where
  | entry {visited : List Location} {key : String} {value : Value}
      (shape : classify key value ≠ .ok .route)
      (below : ∀ item ∈ inside key value, Barren sources visited item) :
      Barren sources visited (.entry key value)
  | file {visited : List Location} {name : String} {entries : Entries String Value}
      (holds : sources.Holds visited name entries)
      (below : ∀ item ∈ items entries, Barren sources (visited ++ [sources.location name]) item) :
      Barren sources visited (.file name)

theorem barren_entry_iff :
    Barren sources visited (.entry key value) ↔
      classify key value ≠ .ok .route ∧
        ∀ item ∈ inside key value, Barren sources visited item := by
  constructor
  · rintro (⟨shape, below⟩ | _)
    exact ⟨shape, below⟩
  · rintro ⟨shape, below⟩
    exact .entry shape below

theorem Sources.Holds.barren_iff {name : String} {entries : Entries String Value}
    (holds : sources.Holds visited name entries) :
    Barren sources visited (.file name) ↔
      ∀ item ∈ items entries, Barren sources (visited ++ [sources.location name]) item := by
  constructor
  · rintro (_ | ⟨also, below⟩)
    rwa [holds.entries_eq also rfl]
  · exact .file holds

theorem listingAll_append (mount : String) (first second : List Element) :
    listingAll mount (first ++ second) = listingAll mount first ++ listingAll mount second := by
  induction first with
  | nil => rfl
  | cons element rest ih => rw [List.cons_append, listingAll, listingAll, ih, List.append_assoc]

theorem listingAll_singleton (mount : String) (element : Element) :
    listingAll mount [element] = listing mount element := by
  rw [listingAll, listingAll, List.append_nil]

/-- A compiled forest lists no route exactly when the items that it comes from are barren. -/
theorem listingAll_eq_nil_iff
    (compiled : (compileItems sources visited inherited list).outcome = .ok elements)
    (mount : String) :
    listingAll mount elements = [] ↔ ∀ item ∈ list, Barren sources visited item := by
  induction visited, list using insideInduction sources
    generalizing inherited elements mount with
  | nil visited =>
      cases compiled
      simp [listingAll]
  | entry visited key value rest insideIH restIH =>
      rw [compileItems_cons] at compiled
      obtain ⟨first, built, compiled⟩ := Checked.bind_outcome_eq_ok_iff.1 compiled
      obtain ⟨others, after, compiled⟩ := Checked.bind_outcome_eq_ok_iff.1 compiled
      cases compiled
      obtain ⟨frame, children, framed, below, rfl, _⟩ := exists_close_of_compileItem built
      have shape := classify_of_frame framed
      have here : listing mount (frame.close children) = [] ↔
          Barren sources visited (.entry key value) := by
        rw [barren_entry_iff, shape]
        cases frame with
        | root head => simpa [Frame.close, listing, Frame.shape] using insideIH below _
        | imports paths outer => simpa [Frame.close, listing, Frame.shape] using insideIH below _
        | route held =>
            have filled := Route.methods_ne_nil_of_compile (route_of_frame framed)
            simpa [Frame.close, listing, Frame.shape, Route.listing] using filled
      rw [listingAll_append, listingAll_singleton, List.append_eq_nil_iff, here,
        restIH after mount, List.forall_mem_cons]
  | file visited name rest holdsIH restIH =>
      rw [compileItems_cons] at compiled
      obtain ⟨first, built, compiled⟩ := Checked.bind_outcome_eq_ok_iff.1 compiled
      obtain ⟨others, after, compiled⟩ := Checked.bind_outcome_eq_ok_iff.1 compiled
      cases compiled
      obtain ⟨entries, holds⟩ := exists_holds_of_compileItem built
      rw [holds.compileItem] at built
      rw [listingAll_append, List.append_eq_nil_iff, holdsIH entries holds _ built mount,
        ← holds.barren_iff, restIH after mount, List.forall_mem_cons]

/-- An element of a compiled forest lists no route exactly when the entry that it comes from
is barren. -/
theorem exists_listing_eq_nil_iff
    (compiled : (compileItems sources visited inherited list).outcome = .ok elements)
    {element : Element} (member : element ∈ partsAll elements) :
    ∃ there params key value, Reaches sources (.entry key value) there visited list ∧
      (compileItem sources there params (.entry key value)).outcome = .ok [element] ∧
      ∀ mount, listing mount element = [] ↔ Barren sources there (.entry key value) := by
  obtain ⟨there, params, key, value, reaches, found⟩ :=
    exists_reaches_of_mem_partsAll compiled member
  refine ⟨there, params, key, value, reaches, found, fun mount => ?_⟩
  rw [← compileItems_singleton] at found
  rw [← listingAll_singleton, listingAll_eq_nil_iff found mount, List.forall_mem_singleton]

/-- What is inside a root or an import that compiles is not empty. -/
theorem inside_ne_nil {held : Frame}
    (framed : (frame sources inherited key value).outcome = .ok held)
    (group : held.shape ≠ .route) : inside key value ≠ [] := by
  cases frameOf_of_frame framed with
  | imports shape named =>
      rw [inside_imports shape named]
      simpa using importNames_ne_nil named
  | route shape _ => exact absurd rfl group
  | root shape _ routes =>
      rw [inside_root shape routes]
      exact List.cons_ne_nil _ _

/-- Behind a barren item that compiles stands a file that holds the empty mapping. -/
theorem Barren.exists_holds_nil {item : Item} (barren : Barren sources visited item)
    (compiled : (compileItem sources visited inherited item).outcome = .ok elements) :
    ∃ there name, Reaches sources (.file name) there visited [item] ∧
      sources.Holds there name [] := by
  induction barren generalizing inherited elements with
  | @entry visited key value shape below ih =>
      obtain ⟨frame, children, framed, within, _, _⟩ := exists_close_of_compileItem compiled
      have group : frame.shape ≠ .route := by
        rintro route
        rw [classify_of_frame framed, route] at shape
        exact shape rfl
      obtain ⟨item, member⟩ := List.exists_mem_of_ne_nil _ (inside_ne_nil framed group)
      obtain ⟨built, found, _⟩ := exists_of_mem_compileItems within member
      obtain ⟨there, name, reaches, holds⟩ := ih item member found
      exact ⟨there, name, .inside List.mem_cons_self (reaches.of_mem member), holds⟩
  | @file visited name entries holds below ih =>
      cases entries with
      | nil => exact ⟨visited, name, .here List.mem_cons_self, holds⟩
      | cons entry rest =>
          rw [holds.compileItem] at compiled
          obtain ⟨built, found, _⟩ := exists_of_mem_compileItems compiled List.mem_cons_self
          obtain ⟨there, deeper, reaches, empty⟩ := ih _ List.mem_cons_self found
          exact ⟨there, deeper, .file List.mem_cons_self holds
            (reaches.of_mem List.mem_cons_self), empty⟩

end Element

end RoutePlan
