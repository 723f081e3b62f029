import RoutePlan.Proofs.Tree.Rewrite
import RoutePlan.Proofs.Tree.UnknownKeys

/-!
# How often a node is constructed

A compilation that succeeds constructs a node of its document once, and a node in a file as
often as the file is imported.
-/

namespace RoutePlan

theorem Place.under_injective (key : String) : Function.Injective (Place.under key) := by
  rintro ⟨file?, keys⟩ ⟨otherFile?, others⟩ same
  cases file? <;> cases otherFile? <;> simp_all [Place.under]

namespace Traced

variable {α β : Type} {keys : List String} {file : List String}

/-- How many of the nodes stand at a place. -/
def count (place : Place) (traced : Traced α) : Nat :=
  (traced.log.map Construction.place).count place

@[simp]
theorem count_pure (place : Place) (value : α) : (pure value : Traced α).count place = 0 :=
  rfl

/-- A construction in two parts that succeeds has the nodes of both. -/
theorem exists_of_bind {first : Traced α} {next : α → Traced β} {result : β}
    (built : (first >>= next).outcome = .ok result) :
    ∃ value, first.outcome = .ok value ∧ (next value).outcome = .ok result ∧
      ∀ place, (first >>= next).count place = first.count place + (next value).count place := by
  obtain ⟨log, outcome⟩ := first
  cases outcome with
  | error error => cases built
  | ok value =>
      refine ⟨value, rfl, built, fun place => ?_⟩
      show ((log ++ (next value).log).map Construction.place).count place = _
      rw [List.map_append, List.count_append]
      rfl

/-- A construction that goes on with a known result is what it goes on with. -/
theorem exists_of_ofExcept_bind {outcome : Except PlanError α} {next : α → Traced β}
    {result : β} (built : (ofExcept outcome >>= next).outcome = .ok result) :
    ∃ value, outcome = .ok value ∧ (ofExcept outcome >>= next) = next value := by
  cases outcome with
  | error error => cases built
  | ok value => exact ⟨value, rfl, rfl⟩

theorem count_under (key : String) (place : Place) (traced : Traced α) :
    (traced.under key).count (place.under key) = traced.count place := by
  have places : (traced.under key).log.map Construction.place =
      (traced.log.map Construction.place).map (Place.under key) := by
    simp [under, relog]
  rw [count, places, List.count_map_of_injective _ _ (Place.under_injective key), count]

theorem count_under_file (key : String) (traced : Traced α) :
    (traced.under key).count ⟨some file, keys⟩ = traced.count ⟨some file, keys⟩ :=
  count_under key ⟨some file, keys⟩ traced

/-- A node in a file is one of the file itself or of an import in it. -/
theorem count_inFile (traced : Traced α) :
    (traced.inFile file).count ⟨some file, keys⟩ =
      traced.count ⟨some file, keys⟩ + traced.count ⟨none, keys⟩ := by
  obtain ⟨log, outcome⟩ := traced
  unfold count inFile relog
  induction log with
  | nil => rfl
  | cons node rest ih =>
      obtain ⟨⟨file?, present⟩, warnings⟩ := node
      simp only [List.map_cons, List.count_cons, ih]
      cases file? with
      | none => simp [Place.inFile]; omega
      | some other => simp [Place.inFile]; omega

theorem count_inFile_of_ne {other : List String} (apart : other ≠ file) (traced : Traced α) :
    (traced.inFile other).count ⟨some file, keys⟩ =
      traced.count ⟨some file, keys⟩ := by
  obtain ⟨log, outcome⟩ := traced
  unfold count inFile relog
  induction log with
  | nil => rfl
  | cons node rest ih =>
      obtain ⟨⟨file?, present⟩, warnings⟩ := node
      simp only [List.map_cons, List.count_cons, ih]
      cases file? with
      | none => simp [Place.inFile, apart]
      | some held => simp [Place.inFile]

/-- Where other warnings make no difference no node stands. -/
theorem count_eq_zero {place : Place} {traced : Traced α}
    (same : ∀ change, traced.revise place change = traced) : traced.count place = 0 := by
  rw [count, List.count_eq_zero, List.mem_map]
  rintro ⟨node, member, here⟩
  have revised : traced.log.map (Construction.revise place (· ++ [⟨⟨.root, ""⟩, ""⟩])) =
      traced.log.map id := by
    rw [List.map_id]
    exact congrArg log (same _)
  have longer := List.map_inj_left.1 revised node member
  rw [Construction.revise, if_pos here] at longer
  simpa using congrArg Construction.warnings longer

/-- If the construction succeeds there is one node at the place. -/
def Once (keys : List String) (traced other : Traced α) : Prop :=
  other = traced ∧ ∀ value, traced.outcome = .ok value → traced.count ⟨none, keys⟩ = 1

theorem congruent_once : Congruent Once where
  before apart related := by
    refine ⟨congrArg _ (funext fun value => (related value).1), fun result built => ?_⟩
    obtain ⟨value, _, built, counted⟩ := exists_of_bind built
    rw [counted, count_eq_zero apart, (related value).2 result built]
  after related apart := by
    refine ⟨congrArg (· >>= _) related.1, fun result built => ?_⟩
    obtain ⟨value, first, _, counted⟩ := exists_of_bind built
    rw [counted, related.2 value first, count_eq_zero (apart value)]
  under related := by
    refine ⟨congrArg _ related.1, fun value built => ?_⟩
    rw [← related.2 value built]
    exact count_under _ ⟨none, _⟩ _
  fail _ _ := ⟨rfl, nofun⟩

end Traced

variable {sources : Element.Sources}

/-- A node of a document is constructed once, if the document compiles. -/
theorem Hole.once {level : Level} {role : Role} {keys : List String} {name : String}
    {fill : Value → Entries String Value} {config : Entries String Value} {kind : NodeKind}
    (hole : Hole level role keys name fill) (configures : role.Configures name config kind) :
    level.Related sources Traced.Once keys (fill (.map config)) (fill (.map config)) :=
  hole.related Traced.congruent_once
    (configures.related Traced.congruent_once (.refl _ kind config) ⟨rfl, fun _ _ => rfl⟩)

/-! ## Nodes in files -/

namespace Element

mutual

/-- How often a file is imported, by paths that begin in a directory. -/
def importCount (start file : List String) : Element → Nat
  | .root _ children => importCountAll start file children
  | .route _ => 0
  | .imports paths children =>
      paths.countP (fun path => FilePath.place start path = file) +
        importCountAll start file children

/-- How often a file is imported in a forest. -/
def importCountAll (start file : List String) : List Element → Nat
  | [] => 0
  | element :: rest => importCount start file element + importCountAll start file rest

end

theorem importCountAll_append (start file : List String) (first second : List Element) :
    importCountAll start file (first ++ second) =
      importCountAll start file first + importCountAll start file second := by
  induction first with
  | nil => rw [List.nil_append, importCountAll, Nat.zero_add]
  | cons element rest ih => rw [List.cons_append, importCountAll, importCountAll, ih, Nat.add_assoc]

/-- How many of the items are a file. -/
def Item.fileCount (sources : Sources) (file : List String) (list : List Item) : Nat :=
  list.countP fun item =>
    match item with
    | .entry .. => false
    | .file name => sources.place name = file

theorem Item.fileCount_entry (file : List String) (key : String) (value : Value)
    (rest : List Item) :
    Item.fileCount sources file (.entry key value :: rest) =
      Item.fileCount sources file rest := by
  simp [Item.fileCount]

theorem Item.fileCount_file (file : List String) (name : String) (rest : List Item) :
    Item.fileCount sources file (.file name :: rest) =
      Item.fileCount sources file rest +
        if sources.place name = file then 1 else 0 := by
  simp [Item.fileCount, List.countP_cons]

theorem Item.fileCount_items (file : List String) (entries : Entries String Value) :
    Item.fileCount sources file (items entries) = 0 := by
  simp [Item.fileCount, items]

variable {file : List String} {visited : List Location} {inherited : List Parameter}
  {key : String} {value : Value}

/-- The imports of a compiled entry are those of what is inside, and the files that it
names. -/
theorem importCount_close {frame : Frame} {children : List Element}
    (framed : (traceFrame sources inherited key value).outcome = .ok frame)
    (compiled : (traceItems sources visited frame.params (inside key value)).outcome =
      .ok children) :
    importCount sources.files.workingDirectory file (frame.close children) =
      importCountAll sources.files.workingDirectory file children +
        Item.fileCount sources file (inside key value) := by
  have known : (Element.frame sources inherited key value).outcome = .ok frame := by
    rw [← erase_traceFrame]
    exact framed
  cases frameOf_of_frame known with
  | imports shape named =>
      rw [inside_imports shape named, Item.fileCount, List.countP_map, Frame.close, importCount,
        List.countP_map, Nat.add_comm]
      rfl
  | route shape _ =>
      have nothing : inside key value = [] := by rw [inside, shape]
      rw [nothing, traceItems_nil] at compiled
      cases compiled
      rw [nothing]
      rfl
  | root shape _ routes =>
      rw [inside_root shape routes, Item.fileCount_items]
      rfl

variable {files : FileSet} {document rewritten : Entries String Value} {keys : List String}

/-- An entry constructs the nodes in files that are inside. -/
theorem count_traceEntry {element : Element}
    (compiled : (traceEntry sources visited inherited key value).outcome = .ok element)
    (within : ∀ params children,
      (traceItems sources visited params (inside key value)).outcome = .ok children →
        (traceItems sources visited params (inside key value)).count ⟨some file, keys⟩ =
          importCountAll sources.files.workingDirectory file children +
            Item.fileCount sources file (inside key value)) :
    (traceEntry sources visited inherited key value).count ⟨some file, keys⟩ =
      importCount sources.files.workingDirectory file element := by
  unfold traceEntry at compiled ⊢
  obtain ⟨frame, framed, compiled, first⟩ := Traced.exists_of_bind compiled
  obtain ⟨children, below, compiled, last⟩ := Traced.exists_of_bind compiled
  cases compiled
  have own : (traceFrame sources inherited key value).count ⟨some file, keys⟩ = 0 :=
    Traced.count_eq_zero fun change => revise_traceFrame_file inherited key value
  rw [first, last, own, Traced.count_under_file, within _ _ below, importCount_close framed below,
    Nat.zero_add]
  rfl

/-- A named file that compiles holds a document, whose trace it has. -/
theorem exists_holds_of_traceFile {name : String} {elements : List Element}
    (compiled : (traceFile sources visited inherited name).outcome = .ok elements) :
    ∃ entries, sources.Holds visited name entries ∧
      traceFile sources visited inherited name =
        (traceItems sources (visited ++ [sources.location name]) inherited
          (items entries)).inFile (sources.place name) := by
  unfold traceFile at compiled ⊢
  split at compiled
  · cases compiled
  · next fresh =>
      rw [if_neg fresh]
      split at compiled
      · cases compiled
      · next octets contents =>
          obtain ⟨entries, held, traced⟩ := Traced.exists_of_ofExcept_bind compiled
          exact ⟨entries, ⟨fresh, octets, contents, held⟩, traced⟩

/-- What the file holds is the document. -/
theorem Sources.Rewrites.eq_of_holds (rewrites : sources.Rewrites files file document rewritten)
    {name : String} {entries : Entries String Value} (there : sources.place name = file)
    (holds : sources.Holds visited name entries) : entries = document := by
  obtain ⟨octets, contents, held⟩ := holds.readable
  rcases rewrites.there _ there with ⟨_, unread, _⟩ | ⟨found, _, read, _, known, _⟩
  · cases contents.symm.trans unread
  · cases contents.symm.trans read
    exact Except.ok.inj (held.symm.trans (fileEntries_eq_ok known))

/-- A node in a file is constructed as often as the file is imported. -/
theorem count_traceItems (rewrites : sources.Rewrites files file document rewritten)
    (once : Level.elements.Related sources Traced.Once keys document document)
    {list : List Item} {forest : List Element}
    (compiled : (traceItems sources visited inherited list).outcome = .ok forest) :
    (traceItems sources visited inherited list).count ⟨some file, keys⟩ =
      importCountAll sources.files.workingDirectory file forest +
        Item.fileCount sources file list := by
  induction visited, list using insideInduction sources generalizing inherited forest with
  | nil visited =>
      rw [traceItems_nil] at compiled ⊢
      cases compiled
      rfl
  | entry visited key value rest insideIH restIH =>
      rw [traceItems_entry] at compiled ⊢
      obtain ⟨element, built, compiled, first⟩ := Traced.exists_of_bind compiled
      obtain ⟨others, after, compiled, last⟩ := Traced.exists_of_bind compiled
      cases compiled
      have head : (traceEntry sources visited inherited key value).count ⟨some file, keys⟩ =
          importCount sources.files.workingDirectory file element :=
        count_traceEntry built fun params children below => insideIH below
      rw [first, last, Traced.count_under_file, head, restIH after, Traced.count_pure,
        importCountAll, Item.fileCount_entry]
      omega
  | file visited name rest holdsIH restIH =>
      rw [traceItems_file] at compiled ⊢
      obtain ⟨elements, built, compiled, first⟩ := Traced.exists_of_bind compiled
      obtain ⟨others, after, compiled, last⟩ := Traced.exists_of_bind compiled
      cases compiled
      have head : (traceFile sources visited inherited name).count ⟨some file, keys⟩ =
          importCountAll sources.files.workingDirectory file elements +
            if sources.place name = file then 1 else 0 := by
        obtain ⟨entries, holds, traced⟩ := exists_holds_of_traceFile built
        rw [traced] at built ⊢
        have counted := holdsIH entries holds _ built
        rw [Item.fileCount_items, Nat.add_zero] at counted
        by_cases there : sources.place name = file
        · obtain rfl := rewrites.eq_of_holds there holds
          have own := (once (visited ++ [sources.location name]) inherited).2 elements built
          subst there
          rw [if_pos rfl, Traced.count_inFile, counted, own]
        · rw [if_neg there, Traced.count_inFile_of_ne there, counted, Nat.add_zero]
      rw [first, last, head, restIH after, Traced.count_pure, importCountAll_append,
        Item.fileCount_file]
      omega

end Element

end RoutePlan
