import Mathlib.Data.Set.Card
import RoutePlan.Proofs.FileSet
import RoutePlan.Proofs.Tree.CycleError

/-!
# Chains of nested imports

A chain leads from some items to a file that they name, from its document to a file
that the document names, and so on.  A compilation succeeds only if no chain visits a
location twice, and answers that an import is a cycle only if some chain does.
-/

namespace RoutePlan

namespace Element

/-- The files that some items name, those below roots included. -/
def fileNames : List Item → List String
  | [] => []
  | .file name :: rest => name :: fileNames rest
  | .entry key value :: rest => fileNames (inside key value) ++ fileNames rest
termination_by list => (Item.weight list, list.length)
decreasing_by
  · refine .right _ ?_
    simp
  · refine .left _ _ ?_
    have := weight_inside_le key value
    simp only [Item.weight]
    omega
  · refine .left _ _ ?_
    simp only [Item.weight]
    omega

theorem fileNames_inside_subset (key : String) (value : Value) (rest : List Item) :
    fileNames (inside key value) ⊆ fileNames (.entry key value :: rest) := by
  rw [fileNames]
  exact List.subset_append_left _ _

theorem fileNames_rest_subset (item : Item) (rest : List Item) :
    fileNames rest ⊆ fileNames (item :: rest) := by
  cases item with
  | entry key value =>
      rw [fileNames]
      exact List.subset_append_right _ _
  | file name =>
      rw [fileNames]
      exact List.subset_cons_self _ _

theorem fileNames_append (first second : List Item) :
    fileNames (first ++ second) = fileNames first ++ fileNames second := by
  induction first with
  | nil => rw [List.nil_append, fileNames, List.nil_append]
  | cons item rest ih => cases item <;> simp [fileNames, ih]

theorem fileNames_files (names : List String) : fileNames (names.map .file) = names := by
  induction names with
  | nil => rw [List.map_nil, fileNames]
  | cons name rest ih => rw [List.map_cons, fileNames, ih]

theorem fileNames_imports {key : String} {value : Value} {names : List String}
    (shape : classify key value = .ok .imports) (named : importNames value = .ok names) :
    fileNames [.entry key value] = names := by
  rw [fileNames, inside_imports shape named, fileNames_files, fileNames, List.append_nil]

theorem mem_fileNames_file (name : String) (rest : List Item) :
    name ∈ fileNames (.file name :: rest) := by
  rw [fileNames]
  exact List.mem_cons_self

/-- A chain of nested imports below some items: the names of a file that they name, of a
file that its document names, and so on. -/
inductive Nested (sources : Sources) : List Item → List String → Prop where
  | here {list name} (named : name ∈ fileNames list) : Nested sources list [name]
  | within {list name entries chain} (named : name ∈ fileNames list)
      (holds : sources.Holds [] name entries) (below : Nested sources (items entries) chain) :
      Nested sources list (name :: chain)

variable {sources : Sources} {visited : List Location} {inherited : List Parameter}
  {list : List Item} {chain : List String}

theorem Nested.mono (nested : Nested sources list chain) {others : List Item}
    (more : fileNames list ⊆ fileNames others) : Nested sources others chain := by
  cases nested with
  | here named => exact .here (more named)
  | within named holds below => exact .within (more named) holds below

/-! ## Documents of files -/

/-- The entries of a document do not depend on the path that it is read at. -/
theorem fileEntries_eq_ok {path other : String} {octets : List UInt8}
    {entries : Entries String Value} (held : fileEntries path octets = .ok entries) :
    fileEntries other octets = .ok entries := by
  unfold fileEntries at held ⊢
  split at held
  · cases held
  · exact held

namespace Sources.Holds

variable {name other : String} {entries others : Entries String Value}
  {otherVisited : List Location}

theorem of_fresh (holds : sources.Holds visited name entries)
    (fresh : sources.location name ∉ otherVisited) : sources.Holds otherVisited name entries :=
  ⟨fresh, holds.readable⟩

/-- Files at the same place hold the same document. -/
theorem entries_eq (holds : sources.Holds visited name entries)
    (otherHolds : sources.Holds otherVisited other others)
    (same : sources.place name = sources.place other) : entries = others := by
  obtain ⟨octets, contents, held⟩ := holds.readable
  obtain ⟨otherOctets, otherContents, otherHeld⟩ := otherHolds.readable
  have := FileSet.read_eq_of_place_eq contents otherContents same
  subst this
  rw [fileEntries_eq_ok held] at otherHeld
  exact Except.ok.inj otherHeld

end Sources.Holds

/-! ## Chains of a configuration that compiles -/

/-- A file that is named in a configuration that compiles is not being imported, and its
document compiles while it is. -/
theorem exists_document_of_compileItems {elements : List Element} {name : String}
    (compiled : (compileItems sources visited inherited list).outcome = .ok elements)
    (named : name ∈ fileNames list) :
    ∃ entries params below, sources.Holds visited name entries ∧
      (compileItems sources (visited ++ [sources.location name]) params
        (items entries)).outcome = .ok below := by
  induction list using fileNames.induct generalizing inherited elements with
  | case1 => simp [fileNames] at named
  | case2 file rest ih =>
      obtain ⟨⟨first, built⟩, others, after⟩ := exists_of_compileItems_cons compiled
      rw [fileNames, List.mem_cons] at named
      rcases named with rfl | later
      · obtain ⟨entries, holds⟩ := exists_holds_of_compileItem built
        rw [holds.compileItem] at built
        exact ⟨entries, inherited, first, holds, built⟩
      · exact ih after later
  | case3 key value rest insideIH restIH =>
      obtain ⟨⟨first, built⟩, others, after⟩ := exists_of_compileItems_cons compiled
      rw [fileNames, List.mem_append] at named
      rcases named with within | later
      · obtain ⟨held, _, below, compiledInside⟩ := exists_frame_of_compileItem built
        exact insideIH compiledInside within
      · exact restIH after later

/-- In a configuration that compiles, what a named file holds compiles while the file is
being imported. -/
theorem Sources.Holds.exists_compiled {elements : List Element} {name : String}
    {entries : Entries String Value} (holds : sources.Holds [] name entries)
    (named : name ∈ fileNames list)
    (compiled : (compileItems sources visited inherited list).outcome = .ok elements) :
    sources.location name ∉ visited ∧ ∃ params below,
      (compileItems sources (visited ++ [sources.location name]) params
        (items entries)).outcome = .ok below := by
  obtain ⟨others, params, below, otherHolds, compiledBelow⟩ :=
    exists_document_of_compileItems compiled named
  obtain rfl := holds.entries_eq otherHolds rfl
  exact ⟨otherHolds.fresh, params, below, compiledBelow⟩

/-- Distinct locations stay so when another one is being imported. -/
theorem nodup_visiting {location : Location} (distinct : visited.Nodup)
    (fresh : location ∉ visited) : (visited ++ [location]).Nodup :=
  List.concat_eq_append ▸ distinct.concat fresh

/-- No chain of a configuration that compiles visits a location twice, or one that is
being imported. -/
theorem Nested.nodup_of_compileItems {elements : List Element}
    (nested : Nested sources list chain) (distinct : visited.Nodup)
    (compiled : (compileItems sources visited inherited list).outcome = .ok elements) :
    (visited ++ chain.map sources.location).Nodup := by
  induction nested generalizing visited inherited elements with
  | here named =>
      obtain ⟨entries, _, _, holds, _⟩ := exists_document_of_compileItems compiled named
      exact nodup_visiting distinct holds.fresh
  | within named holds below ih =>
      obtain ⟨fresh, _, _, compiledBelow⟩ := holds.exists_compiled named compiled
      simpa using ih (nodup_visiting distinct fresh) compiledBelow

/-- In a configuration that compiles, a chain through a file goes on with every chain of
its document. -/
theorem Nested.exists_through {elements : List Element} {name other : String}
    {entries : Entries String Value} {further : List String}
    (nested : Nested sources list chain)
    (compiled : (compileItems sources visited inherited list).outcome = .ok elements)
    (holds : sources.Holds [] name entries) (through : other ∈ chain)
    (same : sources.place other = sources.place name)
    (onward : Nested sources (items entries) further) :
    ∃ before, Nested sources list (before ++ other :: further) := by
  induction nested generalizing visited inherited elements with
  | here named =>
      obtain rfl := List.mem_singleton.1 through
      obtain ⟨others, _, _, otherHolds, _⟩ := exists_document_of_compileItems compiled named
      obtain rfl := otherHolds.entries_eq holds same
      exact ⟨[], .within named (otherHolds.of_fresh List.not_mem_nil) onward⟩
  | @within list first firstEntries chain named firstHolds below ih =>
      obtain ⟨_, _, _, compiledBelow⟩ := firstHolds.exists_compiled named compiled
      rcases List.mem_cons.1 through with rfl | deeper
      · obtain rfl := firstHolds.entries_eq holds same
        exact ⟨[], .within named firstHolds onward⟩
      · obtain ⟨before, nested⟩ := ih compiledBelow deeper
        exact ⟨first :: before, .within named firstHolds nested⟩

/-- No chain below the document of a file leads back to the file if the document
compiles, although the file itself may not be being imported. -/
theorem Nested.place_ne_of_compileItems {elements : List Element} {name other : String}
    {entries : Entries String Value} (nested : Nested sources (items entries) chain)
    (compiled : (compileItems sources visited inherited (items entries)).outcome = .ok elements)
    (distinct : visited.Nodup) (holds : sources.Holds [] name entries) (through : other ∈ chain) :
    sources.place other ≠ sources.place name := by
  intro same
  -- such a chain could be gone through once more
  obtain ⟨before, again⟩ := nested.exists_through compiled holds through same nested
  have apart := again.nodup_of_compileItems distinct compiled
  rw [List.map_append, List.map_cons] at apart
  have later := (List.nodup_append.1 (List.nodup_append.1 apart).2.1).2.1
  exact (List.nodup_cons.1 later).1 (List.mem_map_of_mem through)

/-- No chain of a configuration that compiles visits a file twice. -/
theorem Nested.places_nodup_of_compileItems {elements : List Element}
    (nested : Nested sources list chain) (distinct : visited.Nodup)
    (compiled : (compileItems sources visited inherited list).outcome = .ok elements) :
    (chain.map sources.place).Nodup := by
  induction nested generalizing visited inherited elements with
  | here named => exact List.nodup_singleton _
  | within named holds below ih =>
      obtain ⟨fresh, _, _, compiledBelow⟩ := holds.exists_compiled named compiled
      have longer := nodup_visiting distinct fresh
      refine List.nodup_cons.2 ⟨fun repeated => ?_, ih longer compiledBelow⟩
      obtain ⟨other, through, same⟩ := List.mem_map.1 repeated
      exact below.place_ne_of_compileItems compiledBelow longer holds through same

/-! ## Finitely many locations -/

/-- The locations that the chains below some items visit. -/
def importLocations (sources : Sources) (list : List Item) : Set Location :=
  {location | ∃ chain, Nested sources list chain ∧ location ∈ chain.map sources.location}

/-- The files that the documents of the file set name. -/
def namesInFiles (sources : Sources) : List String :=
  sources.files.files.flatMap fun file =>
    match fileEntries "" file.2 with
    | .ok entries => fileNames (items entries)
    | .error _ => []

theorem mem_namesInFiles {name other : String} {entries : Entries String Value}
    (holds : sources.Holds visited name entries) (named : other ∈ fileNames (items entries)) :
    other ∈ namesInFiles sources := by
  obtain ⟨octets, contents, held⟩ := holds.readable
  obtain ⟨before, after, files, _⟩ :=
    List.lookup_eq_some_iff.1 (FileSet.contents?_place_of_read _ contents)
  refine List.mem_flatMap.2 ⟨(sources.place name, octets), ?_, ?_⟩
  · rw [files]
    exact List.mem_append_right _ List.mem_cons_self
  · rw [fileEntries_eq_ok held]
    exact named

theorem Nested.named (nested : Nested sources list chain) :
    ∀ name ∈ chain, name ∈ fileNames list ++ namesInFiles sources := by
  induction nested with
  | here named => exact List.forall_mem_singleton.2 (List.mem_append_left _ named)
  | within named holds below ih =>
      refine List.forall_mem_cons.2 ⟨List.mem_append_left _ named, fun name member => ?_⟩
      rcases List.mem_append.1 (ih name member) with inner | inFiles
      · exact List.mem_append_right _ (mem_namesInFiles holds inner)
      · exact List.mem_append_right _ inFiles

/-- Whatever the files import, their chains visit finitely many locations. -/
theorem importLocations_finite (sources : Sources) (list : List Item) :
    (importLocations sources list).Finite := by
  refine Set.Finite.subset
    (List.finite_toSet ((fileNames list ++ namesInFiles sources).map sources.location)) ?_
  rintro location ⟨chain, nested, member⟩
  obtain ⟨name, through, rfl⟩ := List.mem_map.1 member
  exact List.mem_map_of_mem (nested.named name through)

theorem importLocations_mono {others : List Item} (more : fileNames list ⊆ fileNames others) :
    importLocations sources list ⊆ importLocations sources others := by
  rintro location ⟨chain, nested, member⟩
  exact ⟨chain, nested.mono more, member⟩

/-- A list of distinct locations that the chains visit is no longer than their number. -/
theorem length_le_ncard_importLocations {locations : List Location} (distinct : locations.Nodup)
    (visits : ∀ location ∈ locations, location ∈ importLocations sources list) :
    locations.length ≤ (importLocations sources list).ncard := by
  rw [← List.toFinset_card_of_nodup distinct, ← Set.ncard_coe_finset]
  refine Set.ncard_le_ncard ?_ (importLocations_finite sources list)
  intro location member
  exact visits location (List.mem_toFinset.1 member)

/-- How many of these locations are not being imported. -/
noncomputable def locationsLeft (sources : Sources) (visited : List Location)
    (list : List Item) : Nat :=
  (importLocations sources list \ {location | location ∈ visited}).ncard

theorem locationsLeft_le (sources : Sources) (visited : List Location) (list : List Item) :
    locationsLeft sources visited list ≤ (importLocations sources list).ncard :=
  Set.ncard_le_ncard Set.sdiff_subset (importLocations_finite sources list)

theorem locationsLeft_mono {others : List Item} (more : fileNames list ⊆ fileNames others) :
    locationsLeft sources visited list ≤ locationsLeft sources visited others :=
  Set.ncard_le_ncard (Set.sdiff_subset_sdiff_left (importLocations_mono more))
    (importLocations_finite sources others).sdiff

/-- Fewer locations are left below the document of a file while it is being imported. -/
theorem locationsLeft_lt {name : String} {entries : Entries String Value}
    (named : name ∈ fileNames list) (holds : sources.Holds visited name entries) :
    locationsLeft sources (visited ++ [sources.location name]) (items entries) <
      locationsLeft sources visited list := by
  refine Set.ncard_lt_ncard ⟨?_, fun all => ?_⟩ (importLocations_finite sources list).sdiff
  · rintro location ⟨⟨chain, nested, member⟩, unvisited⟩
    have within := Nested.within named (holds.of_fresh List.not_mem_nil) nested
    exact ⟨⟨_, within, List.mem_cons_of_mem _ member⟩,
      fun earlier => unvisited (List.mem_append_left _ earlier)⟩
  · have here : sources.location name ∈ importLocations sources list :=
      ⟨_, .here named, List.mem_singleton_self _⟩
    exact (all ⟨here, holds.fresh⟩).2 (List.mem_append_right _ (List.mem_singleton_self _))

/-! ## Chains of a configuration with a cycle -/

variable {cycle : List Location}

/-- An entry has a cycle only if what is inside does. -/
theorem exists_inside_of_cycle {key : String} {value : Value}
    (failed : (compileItem sources visited inherited (.entry key value)).outcome =
      .error (.invalid (.importCycle cycle))) :
    ∃ params, (compileItems sources visited params (inside key value)).outcome =
      .error (.invalid (.importCycle cycle)) := by
  rw [compileItem_entry, Checked.outcome_bind, bind_eq_error_iff] at failed
  rcases failed with unframed | ⟨frame, _, failed⟩
  · exact absurd unframed (frame_answersNoCycle sources inherited key value cycle)
  · rw [Checked.outcome_bind, bind_eq_error_iff] at failed
    rcases failed with below | ⟨children, _, failed⟩
    · exact ⟨frame.params, below⟩
    · cases failed

/-- A file has a cycle if it is being imported, or if it holds a document that has one. -/
theorem compileItem_file_cycle {name : String}
    (failed : (compileItem sources visited inherited (.file name)).outcome =
      .error (.invalid (.importCycle cycle))) :
    (sources.location name ∈ visited ∧ cycle = visited ++ [sources.location name]) ∨
      ∃ entries, sources.Holds visited name entries ∧
        (compileItems sources (visited ++ [sources.location name]) inherited
          (items entries)).outcome = .error (.invalid (.importCycle cycle)) := by
  rw [compileItem_file] at failed
  split at failed
  · next present =>
      cases failed
      exact .inl ⟨present, rfl⟩
  · next fresh =>
      split at failed
      · cases failed
      · next octets contents =>
          rw [Checked.outcome_bind, bind_eq_error_iff] at failed
          rcases failed with unread | ⟨entries, held, below⟩
          · exact absurd unread (fileEntries_answersNoCycle _ _ cycle)
          · exact .inr ⟨entries, ⟨fresh, octets, contents, held⟩, below⟩

/-- The error that an import is a cycle shows a chain that comes back to its last location. -/
theorem nested_of_cycle (list : List Item)
    (failed : (compileItems sources visited inherited list).outcome =
      .error (.invalid (.importCycle cycle))) :
    ∃ below, Nested sources list below ∧ cycle = visited ++ below.map sources.location ∧
      ¬ cycle.Nodup := by
  induction visited, list using insideInduction sources generalizing inherited with
  | nil visited => cases failed
  | entry visited key value rest insideIH restIH =>
      rw [compileItems_cons, Checked.outcome_bind, bind_eq_error_iff] at failed
      rcases failed with within | ⟨first, _, failed⟩
      · obtain ⟨params, within⟩ := exists_inside_of_cycle within
        obtain ⟨below, nested, shown⟩ := insideIH within
        exact ⟨below, nested.mono (fileNames_inside_subset key value rest), shown⟩
      · rw [Checked.outcome_bind, bind_eq_error_iff] at failed
        rcases failed with after | ⟨others, _, failed⟩
        · obtain ⟨below, nested, shown⟩ := restIH after
          exact ⟨below, nested.mono (fileNames_rest_subset _ rest), shown⟩
        · cases failed
  | file visited name rest holdsIH restIH =>
      rw [compileItems_cons, Checked.outcome_bind, bind_eq_error_iff] at failed
      rcases failed with within | ⟨first, _, failed⟩
      · have named := mem_fileNames_file name rest
        rcases compileItem_file_cycle within with ⟨present, rfl⟩ | ⟨entries, holds, below⟩
        · refine ⟨_, .here named, rfl, fun distinct => ?_⟩
          exact (List.nodup_append.1 distinct).2.2 _ present _ (List.mem_singleton_self _) rfl
        · obtain ⟨below, nested, rfl, repeated⟩ := holdsIH entries holds _ below
          refine ⟨_, .within named (holds.of_fresh List.not_mem_nil) nested, ?_, repeated⟩
          rw [List.append_assoc, List.singleton_append, List.map_cons]
      · rw [Checked.outcome_bind, bind_eq_error_iff] at failed
        rcases failed with after | ⟨others, _, failed⟩
        · obtain ⟨below, nested, shown⟩ := restIH after
          exact ⟨below, nested.mono (fileNames_rest_subset _ rest), shown⟩
        · cases failed

end Element

end RoutePlan
