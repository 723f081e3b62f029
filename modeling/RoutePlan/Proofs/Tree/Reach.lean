import RoutePlan.Proofs.Tree.Items

/-!
# What a compilation reaches

A compilation of some items reaches these items, what is inside their entries, and the
items of the documents that their files hold.  The elements at any depth of the compiled
forest are exactly what the reached entries compile to, so a statement on all elements of a
tree is one on the entries of the configuration, in the document or in an imported file.
-/

namespace RoutePlan

namespace Element

mutual

/-- An element and all elements below it, each before what it encloses. -/
def parts : Element → List Element
  | .root mount children => .root mount children :: partsAll children
  | .route held => [.route held]
  | .imports paths children => .imports paths children :: partsAll children

/-- All elements of a forest. -/
def partsAll : List Element → List Element
  | [] => []
  | element :: rest => parts element ++ partsAll rest

end

theorem partsAll_append (first second : List Element) :
    partsAll (first ++ second) = partsAll first ++ partsAll second := by
  induction first with
  | nil => rfl
  | cons element rest ih => simp only [List.cons_append, partsAll, ih, List.append_assoc]

/-- An element is one of its own parts, and so are the parts of what it encloses. -/
theorem mem_parts_close_iff {frame : Frame} {children : List Element} {element : Element}
    (route : ∀ held, frame = .route held → children = []) :
    element ∈ parts (frame.close children) ↔
      element = frame.close children ∨ element ∈ partsAll children := by
  cases frame with
  | root mount => simp [Frame.close, parts]
  | route held => simp [Frame.close, parts, route held rfl, partsAll]
  | imports paths inherited => simp [Frame.close, parts]

/-- Compiling some items, while the files at some locations are being imported, comes to an
item while others are. -/
inductive Reaches (sources : Sources) (target : Item) (there : List Location) :
    List Location → List Item → Prop where
  | here {list} (member : target ∈ list) : Reaches sources target there there list
  | inside {visited list key value} (member : .entry key value ∈ list)
      (below : Reaches sources target there visited (Element.inside key value)) :
      Reaches sources target there visited list
  | file {visited list name entries} (member : .file name ∈ list)
      (holds : sources.Holds visited name entries)
      (below : Reaches sources target there (visited ++ [sources.location name])
        (items entries)) :
      Reaches sources target there visited list

variable {sources : Sources} {target : Item} {visited there : List Location}
  {inherited : List Parameter} {list : List Item} {elements : List Element} {key : String}
  {value : Value}

theorem Reaches.mono (reaches : Reaches sources target there visited list) {others : List Item}
    (more : list ⊆ others) : Reaches sources target there visited others := by
  cases reaches with
  | here member => exact .here (more member)
  | inside member below => exact .inside (more member) below
  | file member holds below => exact .file (more member) holds below

theorem Reaches.of_mem {item : Item} (reaches : Reaches sources target there visited [item])
    (member : item ∈ list) : Reaches sources target there visited list :=
  reaches.mono (List.cons_subset.2 ⟨member, List.nil_subset list⟩)

/-- What is reached from an item that is reached is reached too. -/
theorem Reaches.trans {middle : Item} {between : List Location}
    (first : Reaches sources middle between visited list)
    (second : Reaches sources target there between [middle]) :
    Reaches sources target there visited list := by
  induction first with
  | here member => exact second.of_mem member
  | inside member _ ih => exact .inside member ih
  | file member holds _ ih => exact .file member holds ih

/-! ## Frames -/

/-- The shape of the element that a frame becomes. -/
def Frame.shape : Frame → Shape
  | .root _ => .root
  | .route _ => .route
  | .imports _ _ => .imports

/-- An entry is classified as what its frame is. -/
theorem classify_of_frame {frame : Frame}
    (framed : (Element.frame sources inherited key value).outcome = .ok frame) :
    classify key value = .ok frame.shape := by
  cases frameOf_of_frame framed with
  | imports shape _ => exact shape
  | route shape _ => exact shape
  | root shape _ _ => exact shape

/-- The frame of a route is what its entry compiles to. -/
theorem route_of_frame {held : Route}
    (framed : (Element.frame sources inherited key value).outcome = .ok (.route held)) :
    (Route.compile sources.settings inherited key value).outcome = .ok held := by
  cases frameOf_of_frame framed with
  | route _ compiled => exact compiled

/-- Nothing is inside a route. -/
theorem inside_route (shape : classify key value = .ok .route) : inside key value = [] := by
  rw [inside, shape]

/-- A compiled entry is one element: its frame around what is inside. -/
theorem exists_close_of_compileItem
    (compiled : (compileItem sources visited inherited (.entry key value)).outcome =
      .ok elements) :
    ∃ frame children, (Element.frame sources inherited key value).outcome = .ok frame ∧
      (compileItems sources visited frame.params (inside key value)).outcome = .ok children ∧
      elements = [frame.close children] ∧ (∀ held, frame = .route held → children = []) := by
  rw [compileItem_entry] at compiled
  obtain ⟨frame, framed, compiled⟩ := Checked.bind_outcome_eq_ok_iff.1 compiled
  obtain ⟨children, below, compiled⟩ := Checked.bind_outcome_eq_ok_iff.1 compiled
  cases compiled
  refine ⟨frame, children, framed, below, rfl, ?_⟩
  rintro held rfl
  rw [inside_route (classify_of_frame framed)] at below
  cases below
  rfl

/-! ## Elements and the entries that they come from -/

/-- An element of a compiled forest is what some entry compiles to that is reached. -/
theorem exists_reaches_of_mem_partsAll
    (compiled : (compileItems sources visited inherited list).outcome = .ok elements)
    {element : Element} (member : element ∈ partsAll elements) :
    ∃ there params key value, Reaches sources (.entry key value) there visited list ∧
      (compileItem sources there params (.entry key value)).outcome = .ok [element] := by
  induction visited, list using insideInduction sources generalizing inherited elements with
  | nil visited =>
      cases compiled
      cases member
  | entry visited key value rest insideIH restIH =>
      rw [compileItems_cons] at compiled
      obtain ⟨first, built, compiled⟩ := Checked.bind_outcome_eq_ok_iff.1 compiled
      obtain ⟨others, after, compiled⟩ := Checked.bind_outcome_eq_ok_iff.1 compiled
      cases compiled
      rw [partsAll_append, List.mem_append] at member
      rcases member with here | later
      · obtain ⟨frame, children, framed, below, rfl, route⟩ := exists_close_of_compileItem built
        rw [partsAll, partsAll, List.append_nil, mem_parts_close_iff route] at here
        rcases here with rfl | deeper
        · exact ⟨visited, inherited, key, value, .here List.mem_cons_self, built⟩
        · obtain ⟨there, params, name, held, reaches, found⟩ := insideIH below deeper
          exact ⟨there, params, name, held, .inside List.mem_cons_self reaches, found⟩
      · obtain ⟨there, params, name, held, reaches, found⟩ := restIH after later
        exact ⟨there, params, name, held, reaches.mono (List.subset_cons_self _ _), found⟩
  | file visited name rest holdsIH restIH =>
      rw [compileItems_cons] at compiled
      obtain ⟨first, built, compiled⟩ := Checked.bind_outcome_eq_ok_iff.1 compiled
      obtain ⟨others, after, compiled⟩ := Checked.bind_outcome_eq_ok_iff.1 compiled
      cases compiled
      rw [partsAll_append, List.mem_append] at member
      rcases member with here | later
      · obtain ⟨entries, holds⟩ := exists_holds_of_compileItem built
        rw [holds.compileItem] at built
        obtain ⟨there, params, key, value, reaches, found⟩ := holdsIH entries holds _ built here
        exact ⟨there, params, key, value, .file List.mem_cons_self holds reaches, found⟩
      · obtain ⟨there, params, key, value, reaches, found⟩ := restIH after later
        exact ⟨there, params, key, value, reaches.mono (List.subset_cons_self _ _), found⟩

/-- An item of some items that compile does so, to elements of their forest. -/
theorem exists_of_mem_compileItems {item : Item}
    (compiled : (compileItems sources visited inherited list).outcome = .ok elements)
    (member : item ∈ list) :
    ∃ built, (compileItem sources visited inherited item).outcome = .ok built ∧
      partsAll built ⊆ partsAll elements := by
  obtain ⟨before, after, rfl⟩ := List.append_of_mem member
  rw [compileItems_append, compileItems_cons] at compiled
  obtain ⟨first, _, compiled⟩ := Checked.bind_outcome_eq_ok_iff.1 compiled
  obtain ⟨others, later, compiled⟩ := Checked.bind_outcome_eq_ok_iff.1 compiled
  obtain ⟨built, here, later⟩ := Checked.bind_outcome_eq_ok_iff.1 later
  obtain ⟨last, _, later⟩ := Checked.bind_outcome_eq_ok_iff.1 later
  cases later
  cases compiled
  refine ⟨built, here, ?_⟩
  rw [partsAll_append, partsAll_append]
  exact List.Subset.trans (List.subset_append_left _ _) (List.subset_append_right _ _)

/-- An item that is reached in a configuration that compiles does so, to elements of the
forest. -/
theorem Reaches.exists_compiled (reaches : Reaches sources target there visited list)
    (compiled : (compileItems sources visited inherited list).outcome = .ok elements) :
    ∃ params built, (compileItem sources there params target).outcome = .ok built ∧
      partsAll built ⊆ partsAll elements := by
  induction reaches generalizing inherited elements with
  | here member =>
      obtain ⟨built, here, parts⟩ := exists_of_mem_compileItems compiled member
      exact ⟨inherited, built, here, parts⟩
  | inside member below ih =>
      obtain ⟨built, here, parts⟩ := exists_of_mem_compileItems compiled member
      obtain ⟨frame, children, _, within, rfl, route⟩ := exists_close_of_compileItem here
      obtain ⟨params, deeper, found, inner⟩ := ih within
      refine ⟨params, deeper, found, fun element part => parts ?_⟩
      rw [partsAll, partsAll, List.append_nil, mem_parts_close_iff route]
      exact .inr (inner part)
  | file member holds below ih =>
      obtain ⟨built, here, parts⟩ := exists_of_mem_compileItems compiled member
      rw [holds.compileItem] at here
      obtain ⟨params, deeper, found, inner⟩ := ih here
      exact ⟨params, deeper, found, List.Subset.trans inner parts⟩

end Element

end RoutePlan
