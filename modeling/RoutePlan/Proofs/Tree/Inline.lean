import RoutePlan.Proofs.Tree.ImportChain
import RoutePlan.Proofs.Tree.Splice

/-!
# Inlined imports

An import may be replaced by the entries of the files that it names: what compiles before
compiles afterwards to the same forest but for imports.  The files are then no longer
being imported while their entries are compiled, so they may import what they might not
before; that changes nothing in a configuration that compiles.
-/

namespace RoutePlan

namespace Checked

variable {α β : Type}

/-- What agrees with a success after a change succeeds. -/
theorem exists_outcome_of_map_eq {change : α → β} {first others : Checked α} {value : α}
    (same : change <$> others = change <$> first) (built : first.outcome = .ok value) :
    ∃ result, others.outcome = .ok result ∧ change result = change value := by
  have outcome := congrArg outcome same
  rw [outcome_map, outcome_map, built] at outcome
  exact map_eq_ok_iff.1 outcome

end Checked

namespace Element

/-! ## Files that may be imported -/

/-- The sources with other files. -/
def Sources.withFiles (sources : Sources) (files : FileSet) : Sources :=
  { sources with files }

/-- The location of a file does not depend on the files. -/
@[simp]
theorem Sources.location_withFiles (sources : Sources) (files : FileSet) (name : String) :
    (sources.withFiles files).location name = sources.location name :=
  rfl

/-- The frame of an entry does not depend on the files. -/
@[simp]
theorem frame_withFiles (sources : Sources) (files : FileSet) (inherited : List Parameter)
    (key : String) (value : Value) :
    frame (sources.withFiles files) inherited key value = frame sources inherited key value :=
  rfl

/-- Whatever file may be imported below the files at some locations, it may be imported
from other files below other locations, and holds the same document there. -/
def Agree (sources : Sources) (files : FileSet) (visited others : List Location) : Prop :=
  ∀ chain name entries, sources.Holds (visited ++ chain) name entries →
    (sources.withFiles files).Holds (others ++ chain) name entries

theorem Agree.within {sources : Sources} {files : FileSet} {visited others : List Location}
    (agree : Agree sources files visited others) (location : Location) :
    Agree sources files (visited ++ [location]) (others ++ [location]) := by
  intro chain name entries holds
  rw [List.append_assoc] at holds ⊢
  exact agree _ name entries holds

/-- Fewer files are being imported. -/
theorem agree_of_subset {sources : Sources} {visited others : List Location}
    (subset : others ⊆ visited) : Agree sources sources.files visited others := by
  intro chain name entries holds
  refine holds.of_fresh fun member => holds.fresh ?_
  rcases List.mem_append.1 member with earlier | below
  · exact List.mem_append_left _ (subset earlier)
  · exact List.mem_append_right _ below

section Congruence

variable {sources : Sources} {visited : List Location} {inherited : List Parameter}

/-- What compiles does so in the same way when every file that is read on the way may be
imported and holds the same document. -/
theorem Agree.compileItems_eq {files : FileSet} {others : List Location} {list : List Item}
    {elements : List Element} (agree : Agree sources files visited others)
    (compiled : (compileItems sources visited inherited list).outcome = .ok elements) :
    compileItems (sources.withFiles files) others inherited list =
      compileItems sources visited inherited list := by
  induction visited, list using insideInduction sources
    generalizing others inherited elements with
  | nil visited => rw [compileItems_nil, compileItems_nil]
  | entry visited key value rest insideIH restIH =>
      obtain ⟨⟨first, built⟩, later, after⟩ := exists_of_compileItems_cons compiled
      obtain ⟨held, framed, below, within⟩ := exists_frame_of_compileItem built
      rw [compileItems_cons, compileItems_cons, restIH agree after, compileItem_entry,
        compileItem_entry, frame_withFiles]
      congr 1
      refine Checked.bind_congr_of_ok fun other known => ?_
      obtain rfl : held = other := Except.ok.inj (framed.symm.trans known)
      rw [insideIH agree within]
  | file visited name rest holdsIH restIH =>
      obtain ⟨⟨first, built⟩, later, after⟩ := exists_of_compileItems_cons compiled
      obtain ⟨entries, holds⟩ := exists_holds_of_compileItem built
      have agreed : (sources.withFiles files).Holds others name entries := by
        simpa using agree [] name entries (by simpa using holds)
      rw [holds.compileItem] at built
      rw [compileItems_cons, compileItems_cons, restIH agree after, agreed.compileItem,
        holds.compileItem, Sources.location_withFiles,
        holdsIH entries holds _ (agree.within _) built]

end Congruence

/-! ## Forests but for imports -/

/-- What some items compile to, but for imports. -/
def spliced (sources : Sources) (visited : List Location) (inherited : List Parameter)
    (list : List Item) : Checked (List Element) :=
  spliceAll <$> compileItems sources visited inherited list

section Spliced

variable {sources : Sources} {visited : List Location} {inherited : List Parameter}

theorem spliced_append (first second : List Item) :
    spliced sources visited inherited (first ++ second) = do
      let elements ← spliced sources visited inherited first
      let others ← spliced sources visited inherited second
      return elements ++ others := by
  simp only [spliced, compileItems_append, map_bind, map_pure, spliceAll_append, bind_map_left]

theorem spliced_cons (item : Item) (rest : List Item) :
    spliced sources visited inherited (item :: rest) = do
      let elements ← spliced sources visited inherited [item]
      let others ← spliced sources visited inherited rest
      return elements ++ others :=
  spliced_append [item] rest

/-- What an entry compiles to depends on what is inside but for imports. -/
theorem spliced_entry (key : String) (value : Value) :
    spliced sources visited inherited [.entry key value] = do
      let frame ← frame sources inherited key value
      let children ← spliced sources visited frame.params (inside key value)
      return spliceAll [frame.close children] := by
  have closed (frame : Frame) (children : List Element) :
      spliceAll [frame.close (spliceAll children)] = spliceAll [frame.close children] := by
    cases frame <;> simp [Frame.close, spliceAll, splice]
  rw [spliced, compileItems_cons, compileItem_entry, compileItems_nil]
  simp only [spliced, map_bind, bind_map_left, bind_assoc, pure_bind, map_pure, List.append_nil,
    closed]

/-- An import is what its files are. -/
theorem spliced_import {value : Value} {names : List String}
    (named : importNames value = .ok names) :
    spliced sources visited inherited [.entry "import" value] =
      spliced sources visited inherited (names.map .file) := by
  have shape : classify "import" value = .ok .imports := rfl
  rw [spliced, compileItems_cons, compileItem_imports shape named, compileItems_nil, spliced]
  simp [spliceAll, splice]

theorem Sources.Holds.spliced {name : String} {entries : Entries String Value}
    (holds : sources.Holds visited name entries) :
    spliced sources visited inherited [.file name] =
      spliced sources (visited ++ [sources.location name]) inherited (items entries) := by
  rw [Element.spliced, compileItems_cons, holds.compileItem, compileItems_nil, Element.spliced]
  simp

end Spliced

/-! ## Imports that are replaced by the entries of their files -/

/-- The second mapping is the first one, or has it inside its roots, with an import replaced
by the entries of the files that it names, in the order of their names.  At least one entry
is left.  That the keys are distinct is not asked for. -/
inductive Inlines (sources : Sources) : Entries String Value → Entries String Value → Prop where
  | here {before after value names documents} (named : importNames value = .ok names)
      (held : List.Forall₂ (sources.Holds []) names documents)
      (filled : before ++ documents.flatten ++ after ≠ []) :
      Inlines sources (before ++ ("import", value) :: after)
        (before ++ documents.flatten ++ after)
  | inside {before after key front back routes others}
      (shape : classify key (.map (front ++ ("routes", .map routes) :: back)) = .ok .root)
      (first : "routes" ∉ Entries.keys front) (inlined : Inlines sources routes others) :
      Inlines sources (before ++ (key, .map (front ++ ("routes", .map routes) :: back)) :: after)
        (before ++ (key, .map (front ++ ("routes", .map others) :: back)) :: after)

section Inlined

variable {sources : Sources} {visited : List Location} {inherited : List Parameter}

/-- The documents of some files are, one after the other, what the files are. -/
theorem spliced_documents {names : List String} {documents : List (Entries String Value)}
    {elements : List Element} (held : List.Forall₂ (sources.Holds []) names documents)
    (compiled : (compileItems sources visited inherited (names.map .file)).outcome =
      .ok elements) :
    spliced sources visited inherited (items documents.flatten) =
      spliced sources visited inherited (names.map .file) := by
  induction held generalizing elements with
  | nil => rfl
  | @cons name entries names documents holds rest ih =>
      rw [List.map_cons] at compiled
      obtain ⟨⟨first, built⟩, others, after⟩ := exists_of_compileItems_cons compiled
      obtain ⟨document, freshHolds⟩ := exists_holds_of_compileItem built
      obtain rfl := holds.entries_eq freshHolds rfl
      rw [freshHolds.compileItem] at built
      -- its imports may lead to the file itself, but do not
      have alone : compileItems sources visited inherited (items entries) =
          compileItems sources (visited ++ [sources.location name]) inherited (items entries) :=
        (agree_of_subset (List.subset_append_left _ _)).compileItems_eq built
      rw [List.flatten_cons, items_append, spliced_append, ih after,
        List.map_cons, spliced_cons, freshHolds.spliced, spliced, alone, ← spliced]

/-- A mapping with an inlined import is not empty. -/
theorem Inlines.ne_nil {entries others : Entries String Value}
    (inlined : Inlines sources entries others) : others ≠ [] := by
  cases inlined with
  | here named held filled => exact filled
  | inside => simp

theorem Inlines.ne_nil_left {entries others : Entries String Value}
    (inlined : Inlines sources entries others) : entries ≠ [] := by
  cases inlined <;> simp

end Inlined

/-! ### Roots with other routes -/

section Routes

variable {config other : Entries String Value}

theorem MountHead.compile_of_sameExcept (same : Entries.SameExcept "routes" config other)
    (node : NodeName) (recognized : List String) (inherited : List Parameter) :
    MountHead.compile node "root" recognized inherited other =
      MountHead.compile node "root" recognized inherited config := by
  unfold MountHead.compile
  rw [unusedKeys_of_sameExcept same, same.lookup _ (by decide : "pre_middlewares" ≠ "routes"),
    same.lookup _ (by decide : "post_middlewares" ≠ "routes"),
    same.lookup _ (by decide : "root" ≠ "routes"),
    same.lookup _ (by decide : "params" ≠ "routes")]

end Routes

section Inlined

variable {sources : Sources} {visited : List Location} {inherited : List Parameter}

/-- The frame of a root does not depend on its routes, if there are any. -/
theorem frame_routes {key : String} {front back routes others : Entries String Value}
    (shape : classify key (.map (front ++ ("routes", .map routes) :: back)) = .ok .root)
    (first : "routes" ∉ Entries.keys front) (filled : routes ≠ []) (otherFilled : others ≠ []) :
    frame sources inherited key (.map (front ++ ("routes", .map others) :: back)) =
      frame sources inherited key (.map (front ++ ("routes", .map routes) :: back)) := by
  obtain ⟨entry, rest, rfl⟩ := List.exists_cons_of_ne_nil filled
  obtain ⟨other, others, rfl⟩ := List.exists_cons_of_ne_nil otherFilled
  have same := Entries.sameExcept_field front back "routes" (.map (entry :: rest))
    (.map (other :: others))
  unfold frame
  rw [classify_of_sameExcept same (by decide) (by decide), shape]
  dsimp only
  rw [MountHead.compile_of_sameExcept same, Entries.lookup_field first, Entries.lookup_field first]

/-- What compiles compiles to the same, but for imports, when an import is inlined. -/
theorem Inlines.spliced_eq {entries others : Entries String Value} {elements : List Element}
    (inlined : Inlines sources entries others)
    (compiled : (compileItems sources visited inherited (items entries)).outcome =
      .ok elements) :
    spliced sources visited inherited (items others) =
      spliced sources visited inherited (items entries) := by
  induction inlined generalizing inherited elements with
  | @here before after value names documents named held filled =>
      rw [items_append, items_cons] at compiled
      obtain ⟨_, others, compiled⟩ := exists_of_compileItems_append compiled
      obtain ⟨⟨first, built⟩, _⟩ := exists_of_compileItems_cons compiled
      rw [compileItem_imports rfl named, Checked.outcome_map] at built
      obtain ⟨children, below, _⟩ := map_eq_ok_iff.1 built
      have inPlace : spliced sources visited inherited (items documents.flatten) =
          spliced sources visited inherited [.entry "import" value] :=
        (spliced_documents held below).trans (spliced_import named).symm
      rw [List.append_assoc, items_append, items_append, items_append, items_cons,
        spliced_append, spliced_append, spliced_append, spliced_cons, inPlace]
  | @inside before after key front back routes others shape first inlined ih =>
      rw [items_append, items_cons] at compiled
      obtain ⟨_, later, compiled⟩ := exists_of_compileItems_append compiled
      obtain ⟨⟨element, built⟩, _⟩ := exists_of_compileItems_cons compiled
      obtain ⟨held, framed, below, within⟩ := exists_frame_of_compileItem built
      have reshaped : classify key (.map (front ++ ("routes", .map others) :: back)) =
          .ok .root :=
        (classify_of_sameExcept (Entries.sameExcept_field ..) (by decide) (by decide) key).trans
          shape
      rw [inside_root shape (Entries.lookup_field first _)] at within
      have inPlace : spliced sources visited inherited
            [.entry key (.map (front ++ ("routes", .map others) :: back))] =
          spliced sources visited inherited
            [.entry key (.map (front ++ ("routes", .map routes) :: back))] := by
        rw [spliced_entry, spliced_entry,
          frame_routes shape first inlined.ne_nil_left inlined.ne_nil,
          inside_root shape (Entries.lookup_field first _),
          inside_root reshaped (Entries.lookup_field first _)]
        refine Checked.bind_congr_of_ok fun other known => ?_
        obtain rfl : held = other := Except.ok.inj (framed.symm.trans known)
        rw [ih within]
      rw [items_append, items_append, items_cons, items_cons, spliced_append, spliced_append,
        spliced_cons, spliced_cons _ (items after), inPlace]

end Inlined

/-! ## Files in which an import is inlined -/

/-- The octets hold the document of the file at a place with an import inlined. -/
def InlinesFile (sources : Sources) (place : List String) (octets : List UInt8) : Prop :=
  ∃ held entries others, sources.files.contents? place = some held ∧
    fileEntries "" held = .ok entries ∧ fileEntries "" octets = .ok others ∧
    Inlines sources entries others

/-- The sources in which the file at a place holds other octets. -/
def Sources.replace (sources : Sources) (place : List String) (octets : List UInt8) : Sources :=
  sources.withFiles (sources.files.replace place octets)

section Replaced

variable {sources : Sources} {visited : List Location} {place : List String}
  {octets : List UInt8}

theorem Sources.location_replace (name : String) :
    (sources.replace place octets).location name = sources.location name :=
  sources.location_withFiles _ name

theorem frame_replace (inherited : List Parameter) (key : String) (value : Value) :
    frame (sources.replace place octets) inherited key value =
      frame sources inherited key value :=
  frame_withFiles _ _ inherited key value

theorem Sources.Holds.replace_of_ne {name : String} {entries : Entries String Value}
    (holds : sources.Holds visited name entries)
    (apart : sources.place name ≠ place) :
    (sources.replace place octets).Holds visited name entries := by
  obtain ⟨held, contents, read⟩ := holds.readable
  exact ⟨holds.fresh, held, (FileSet.read_replace_of_ne apart).trans contents, read⟩

theorem Sources.Holds.replace_of_eq {name : String} {entries others : Entries String Value}
    (holds : sources.Holds visited name entries)
    (same : sources.place name = place)
    (replaced : fileEntries "" octets = .ok others) :
    (sources.replace place octets).Holds visited name others := by
  obtain ⟨held, contents, _⟩ := holds.readable
  exact ⟨holds.fresh, octets, FileSet.read_replace_of_eq contents same,
    fileEntries_eq_ok replaced⟩

/-- The document of a file is read at its place. -/
theorem Sources.Holds.entries_of_contents {name : String} {entries others : Entries String Value}
    {held : List UInt8} (holds : sources.Holds visited name entries)
    (same : sources.place name = place)
    (present : sources.files.contents? place = some held)
    (read : fileEntries "" held = .ok others) : entries = others := by
  obtain ⟨found, contents, readHere⟩ := holds.readable
  obtain rfl := FileSet.eq_of_contents? contents same present
  exact Except.ok.inj (readHere.symm.trans (fileEntries_eq_ok read))

/-- What compiles compiles to the same, but for imports, when an import is inlined in a
file. -/
theorem InlinesFile.spliced_eq {inherited : List Parameter} {list : List Item}
    {elements : List Element} (inlined : InlinesFile sources place octets)
    (compiled : (compileItems sources visited inherited list).outcome = .ok elements) :
    spliced (sources.replace place octets) visited inherited list =
      spliced sources visited inherited list := by
  induction visited, list using insideInduction sources generalizing inherited elements with
  | nil visited => rw [spliced, spliced, compileItems_nil, compileItems_nil]
  | entry visited key value rest insideIH restIH =>
      obtain ⟨⟨first, built⟩, later, after⟩ := exists_of_compileItems_cons compiled
      obtain ⟨held, framed, below, within⟩ := exists_frame_of_compileItem built
      rw [spliced_cons, spliced_cons _ rest, restIH after, spliced_entry, spliced_entry,
        frame_replace]
      congr 1
      refine Checked.bind_congr_of_ok fun other known => ?_
      obtain rfl : held = other := Except.ok.inj (framed.symm.trans known)
      rw [insideIH within]
  | file visited name rest holdsIH restIH =>
      obtain ⟨⟨first, built⟩, later, after⟩ := exists_of_compileItems_cons compiled
      obtain ⟨document, holds⟩ := exists_holds_of_compileItem built
      rw [holds.compileItem] at built
      rw [spliced_cons, spliced_cons _ rest, restIH after, holds.spliced]
      congr 1
      by_cases same : sources.place name = place
      · obtain ⟨held, entries, others, present, read, replaced, inlined⟩ := inlined
        obtain rfl := holds.entries_of_contents same present read
        have inPlace := inlined.spliced_eq built
        obtain ⟨forest, compiledOthers, _⟩ := Checked.exists_outcome_of_map_eq inPlace built
        -- the file may be imported again below, by a path with another location
        rw [(holds.replace_of_eq same replaced).spliced, ← inPlace, Sources.location_replace,
          holdsIH document holds (items others) compiledOthers]
      · rw [(holds.replace_of_ne same).spliced, ← holdsIH document holds _ built,
          Sources.location_replace]

end Replaced

end Element

end RoutePlan
