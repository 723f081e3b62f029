import RoutePlan.Proofs.Lines
import RoutePlan.Proofs.Tree.Listing
import RoutePlan.Proofs.Tree.Method
import RoutePlan.Proofs.Tree.Reach
import RoutePlan.Tree.Render

/-!
# Outlines

The outline of a forest lists its nodes with their depth, each before what it encloses.  A
rendered forest is its outline, a line for each node, although the rendering knows no depth:
it indents the finished text of the inner nodes once more at every level.

What carries the proof is that a rendering, moved in to the depth at which it stands, has the
lines of the outline as its pieces.  This needs texts without line breaks, so that a label is
one line, and that nothing but an import is empty, so that a header is not followed by an
empty block.
-/

namespace RoutePlan

/-- What a listing shows of a declaration besides its kind: the name and the text of the
default. -/
def Parameter.shown (parameter : Parameter) : List String :=
  parameter.name :: (parameter.default?.map Value.text).toList

/-- A node of a tree that has a line of its own. -/
inductive TreeNode where
  | root (root : Root)
  | route (route : Route)
  | imports (sources : List String)
  | method (method : Method)
  | middleware (name : String)

namespace TreeNode

/-- What the line of the node says. -/
def label : TreeNode → String
  | .root head => head.header
  | .route held => "Route \"" ++ held.name ++ "\" " ++ held.path ++ renderParams "" held.params
  | .imports sources => "Import [" ++ String.intercalate ", " sources ++ "]"
  | .method held => held.render
  | .middleware name => renderMiddleware name

/-- The names, paths, controllers, file names and defaults that the label shows. -/
def shown : TreeNode → List String
  | .root head => head.name :: head.path :: head.params.flatMap Parameter.shown
  | .route held => held.name :: held.path :: held.params.flatMap Parameter.shown
  | .imports sources => sources
  | .method held => held.controller :: held.body.flatMap Parameter.shown
  | .middleware name => [name]

/-- Nothing that the label shows contains a line break. -/
def Unbroken (node : TreeNode) : Prop :=
  ∀ text ∈ node.shown, Text.IsUnbroken text

instance (node : TreeNode) : Decidable node.Unbroken :=
  inferInstanceAs (Decidable (∀ text ∈ node.shown, Text.IsUnbroken text))

end TreeNode

/-- A node and how many others enclose it. -/
structure OutlineEntry where
  depth : Nat
  node : TreeNode

namespace OutlineEntry

/-- The label of the node, two spaces further in for each level. -/
def line (entry : OutlineEntry) : String :=
  Text.indentation entry.depth ++ entry.node.label

end OutlineEntry

/-- Nodes that stand at the same depth, one after the other. -/
def entriesAt (depth : Nat) (nodes : List TreeNode) : List OutlineEntry :=
  nodes.map (OutlineEntry.mk depth)

namespace Element

mutual

/-- The outline of an element that stands at a depth.  The middlewares of a root are around
its children, those of a route around its methods. -/
def outline (depth : Nat) : Element → List OutlineEntry
  | .root head children =>
      ⟨depth, .root head⟩ ::
        (entriesAt (depth + 1) (head.pre.map .middleware) ++ outlineAll (depth + 1) children ++
          entriesAt (depth + 1) (head.post.map .middleware))
  | .route held =>
      ⟨depth, .route held⟩ ::
        entriesAt (depth + 1) (held.pre.map .middleware ++ held.methods.map .method ++
          held.post.map .middleware)
  | .imports sources children => ⟨depth, .imports sources⟩ :: outlineAll (depth + 1) children

/-- The outline of a forest that stands at a depth. -/
def outlineAll (depth : Nat) : List Element → List OutlineEntry
  | [] => []
  | element :: rest => outline depth element ++ outlineAll depth rest

end

/-- A root encloses an element and a route a method. -/
def Filled : Element → Prop
  | .root _ children => children ≠ []
  | .route held => held.methods ≠ []
  | .imports _ _ => True

end Element

/-! ## Labels -/

section Labels

open Text

theorem isUnbroken_repr (n : Nat) : IsUnbroken n.repr := by
  have digits : ∀ c ∈ n.repr.toList, c.isDigit = true := by
    intro c member
    rw [Nat.repr, String.toList_ofList] at member
    exact Nat.isDigit_of_mem_toDigits (by decide) (by decide) member
  constructor
  · intro member
    cases digits _ member
  · intro member
    cases digits _ member

theorem Parameter.isUnbroken_display {parameter : Parameter}
    (unbroken : ∀ text ∈ parameter.shown, IsUnbroken text) : IsUnbroken parameter.display := by
  obtain ⟨name, default⟩ := List.forall_mem_cons.1 unbroken
  have kind : IsUnbroken parameter.kind.name := by
    cases parameter.kind <;> decide
  unfold display
  cases held : parameter.default? with
  | none => simp +decide [name, kind]
  | some value =>
      have shown : IsUnbroken value.text := default _ (by simp [held])
      simp +decide [name, kind, shown]

theorem isUnbroken_renderParams {label : String} {params : List Parameter}
    (labelled : IsUnbroken label)
    (unbroken : ∀ text ∈ params.flatMap Parameter.shown, IsUnbroken text) :
    IsUnbroken (renderParams label params) := by
  unfold renderParams
  split
  · decide
  · have displays : ∀ part ∈ params.map Parameter.display, IsUnbroken part := by
      refine List.forall_mem_map.2 fun parameter member => ?_
      refine Parameter.isUnbroken_display fun text shown => unbroken text ?_
      exact List.mem_flatMap.2 ⟨parameter, member, shown⟩
    have joined : IsUnbroken (String.intercalate ", " (params.map Parameter.display)) :=
      isUnbroken_intercalate (by decide) displays
    simp +decide [labelled, joined]

/-- The headers of roots and of routes are lines. -/
theorem isLine_header {opening name path : String} {params : List Parameter}
    (opens : IsLine opening)
    (unbroken : ∀ text ∈ name :: path :: params.flatMap Parameter.shown, IsUnbroken text) :
    IsLine (opening ++ name ++ "\" " ++ path ++ renderParams "" params) := by
  obtain ⟨named, unbroken⟩ := List.forall_mem_cons.1 unbroken
  obtain ⟨placed, declared⟩ := List.forall_mem_cons.1 unbroken
  have fields : IsUnbroken (renderParams "" params) :=
    isUnbroken_renderParams (by decide) declared
  constructor
  · simp +decide [opens.unbroken, named, placed, fields]
  · simp [opens.shows]

theorem Method.isLine_render {method : Method}
    (unbroken : ∀ text ∈ method.controller :: method.body.flatMap Parameter.shown,
      IsUnbroken text) :
    IsLine method.render := by
  obtain ⟨controller, declared⟩ := List.forall_mem_cons.1 unbroken
  have verb : IsLine method.verb.name := by
    cases method.verb <;> exact ⟨by decide, by decide⟩
  have raw : IsUnbroken (if method.validated then "" else " raw") := by
    split <;> decide
  have fields : IsUnbroken (renderParams " body" method.body) :=
    isUnbroken_renderParams (by decide) declared
  constructor
  · simp +decide [render, verb.unbroken, controller, isUnbroken_repr, raw, fields]
  · simp [render, verb.shows]

/-- The label of a node is a line. -/
theorem TreeNode.isLine_label {node : TreeNode} (unbroken : node.Unbroken) :
    IsLine node.label := by
  cases node with
  | root head => exact isLine_header ⟨by decide, by decide⟩ unbroken
  | route held => exact isLine_header ⟨by decide, by decide⟩ unbroken
  | imports sources =>
      have joined : IsUnbroken (String.intercalate ", " sources) :=
        isUnbroken_intercalate (by decide) unbroken
      have opening : isBlankText "Import [" = false := by decide
      constructor
      · simp +decide [label, joined]
      · simp [label, opening]
  | method held => exact Method.isLine_render unbroken
  | middleware name =>
      have named : Text.IsUnbroken name := unbroken name List.mem_cons_self
      have opening : isBlankText "<Middleware name=\"" = false := by decide
      -- Stated by `rfl`, as deriving the equation of the definition evaluates the long literal.
      have spelled : label (.middleware name) = "<Middleware name=\"" ++ name ++ "\">" := rfl
      rw [spelled]
      constructor
      · simp +decide [named]
      · simp [opening]

theorem OutlineEntry.isLine_line {entry : OutlineEntry} (unbroken : entry.node.Unbroken) :
    IsLine entry.line :=
  isLine_indentation_append_iff.2 (TreeNode.isLine_label unbroken)

end Labels

/-! ## Renderings and their outlines -/

/-- The lines of rendered nodes, moved in to the depth at which the nodes stand. -/
def linesAt (depth : Nat) (parts : List String) : List String :=
  (parts.flatMap (Text.pieces '\n')).map (Text.indentation depth ++ ·)

section Renderings

open Text

variable {depth : Nat} {forest : List Element}

theorem linesAt_append (first second : List String) :
    linesAt depth (first ++ second) = linesAt depth first ++ linesAt depth second := by
  rw [linesAt, List.flatMap_append, List.map_append]
  rfl

/-- Nodes that enclose nothing have a line each. -/
theorem linesAt_labels {nodes : List TreeNode}
    (unbroken : ∀ entry ∈ entriesAt depth nodes, entry.node.Unbroken) :
    linesAt depth (nodes.map TreeNode.label) = (entriesAt depth nodes).map OutlineEntry.line := by
  have whole : ∀ part ∈ nodes.map TreeNode.label, IsUnbroken part := by
    refine List.forall_mem_map.2 fun node member => ?_
    exact (TreeNode.isLine_label (unbroken _ (List.mem_map_of_mem member))).unbroken
  rw [linesAt, flatMap_pieces_of_isUnbroken whole, entriesAt, List.map_map, List.map_map]
  rfl

theorem linesAt_middlewares {names : List String}
    (unbroken : ∀ entry ∈ entriesAt depth (names.map .middleware), entry.node.Unbroken) :
    linesAt depth (names.map renderMiddleware) =
      (entriesAt depth (names.map .middleware)).map OutlineEntry.line := by
  rw [← linesAt_labels unbroken, List.map_map]
  rfl

/-- A block has the line of its header and, a level further in, the lines of its parts. -/
theorem linesAt_renderBlock {header : String} {parts : List String} {entries : List OutlineEntry}
    (opens : IsLine header) (filled : parts ≠ [])
    (unbroken : ∀ entry ∈ entries, entry.node.Unbroken)
    (inside : linesAt (depth + 1) parts = entries.map OutlineEntry.line) :
    linesAt depth [renderBlock header parts] =
      (indentation depth ++ header) :: entries.map OutlineEntry.line := by
  have joined := pieces_intercalate filled
  have proper : ∀ piece ∈ pieces '\n' (String.intercalate "\n" parts), IsLine piece := by
    intro piece member
    have listed : indentation (depth + 1) ++ piece ∈ linesAt (depth + 1) parts :=
      List.mem_map_of_mem (joined ▸ member)
    rw [inside] at listed
    obtain ⟨entry, present, same⟩ := List.mem_map.1 listed
    exact isLine_indentation_append_iff.1 (same ▸ OutlineEntry.isLine_line (unbroken entry present))
  rw [linesAt, List.flatMap_singleton, renderBlock, pieces_append_line,
    pieces_of_not_mem opens.unbroken.1, pieces_indent proper, joined, List.singleton_append,
    List.map_cons, List.map_map, ← inside, linesAt]
  simp [indentation_succ, String.append_assoc]

namespace Element

theorem renderParts_ne_nil (nonempty : forest ≠ []) : renderParts forest ≠ [] := by
  obtain ⟨element, rest, rfl⟩ := List.exists_cons_of_ne_nil nonempty
  exact List.cons_ne_nil _ _

theorem linesAt_root {head : Root} {children : List Element} (nonempty : children ≠ [])
    (unbroken : ∀ entry ∈ outline depth (.root head children), entry.node.Unbroken)
    (inside : (∀ entry ∈ outlineAll (depth + 1) children, entry.node.Unbroken) →
      linesAt (depth + 1) (renderParts children) =
        (outlineAll (depth + 1) children).map OutlineEntry.line) :
    linesAt depth [render (.root head children)] =
      (outline depth (.root head children)).map OutlineEntry.line := by
  rw [outline] at unbroken ⊢
  obtain ⟨opens, body⟩ := List.forall_mem_cons.1 unbroken
  obtain ⟨front, post⟩ := List.forall_mem_append.1 body
  obtain ⟨pre, below⟩ := List.forall_mem_append.1 front
  rw [render]
  apply linesAt_renderBlock (TreeNode.isLine_label opens) _ body
  · simp only [linesAt_append, List.map_append, linesAt_middlewares pre, inside below,
      linesAt_middlewares post]
  · simp [renderParts_ne_nil nonempty]

theorem linesAt_route {held : Route} (nonempty : held.methods ≠ [])
    (unbroken : ∀ entry ∈ outline depth (.route held), entry.node.Unbroken) :
    linesAt depth [render (.route held)] =
      (outline depth (.route held)).map OutlineEntry.line := by
  rw [outline] at unbroken ⊢
  obtain ⟨opens, body⟩ := List.forall_mem_cons.1 unbroken
  rw [render, Route.render]
  apply linesAt_renderBlock (TreeNode.isLine_label opens) _ body
  · rw [← linesAt_labels body, List.map_append, List.map_append, List.map_map, List.map_map,
      List.map_map]
    rfl
  · simp [nonempty]

/-- An import that encloses nothing has the line of its header alone. -/
theorem linesAt_imports {sources : List String} {children : List Element}
    (unbroken : ∀ entry ∈ outline depth (.imports sources children), entry.node.Unbroken)
    (inside : (∀ entry ∈ outlineAll (depth + 1) children, entry.node.Unbroken) →
      linesAt (depth + 1) (renderParts children) =
        (outlineAll (depth + 1) children).map OutlineEntry.line) :
    linesAt depth [render (.imports sources children)] =
      (outline depth (.imports sources children)).map OutlineEntry.line := by
  cases children with
  | nil =>
      have alone : ∀ entry ∈ entriesAt depth [.imports sources], entry.node.Unbroken := unbroken
      exact linesAt_labels alone
  | cons child rest =>
      rw [outline] at unbroken ⊢
      obtain ⟨opens, body⟩ := List.forall_mem_cons.1 unbroken
      rw [render]
      exact linesAt_renderBlock (TreeNode.isLine_label opens) (List.cons_ne_nil _ _) body
        (inside body)

theorem linesAt_renderParts_cons {element : Element} {rest : List Element}
    (first : linesAt depth [render element] = (outline depth element).map OutlineEntry.line)
    (later : linesAt depth (renderParts rest) =
      (outlineAll depth rest).map OutlineEntry.line) :
    linesAt depth (renderParts (element :: rest)) =
      (outlineAll depth (element :: rest)).map OutlineEntry.line := by
  rw [renderParts, ← List.singleton_append, linesAt_append, first, later, outlineAll,
    List.map_append]

/-- A rendered forest has the lines of its outline.  The induction is on the forest at every
depth, since what a root or an import encloses stands a level further in. -/
theorem linesAt_renderParts (filled : ∀ element ∈ partsAll forest, element.Filled)
    (unbroken : ∀ entry ∈ outlineAll depth forest, entry.node.Unbroken) :
    linesAt depth (renderParts forest) = (outlineAll depth forest).map OutlineEntry.line := by
  induction forest using forestInduction generalizing depth with
  | nil => rfl
  | root head children rest inner others =>
      obtain ⟨filled, filledRest⟩ := List.forall_mem_append.1 filled
      obtain ⟨nonempty, filledInside⟩ := List.forall_mem_cons.1 filled
      obtain ⟨here, later⟩ := List.forall_mem_append.1 unbroken
      exact linesAt_renderParts_cons (linesAt_root nonempty here (inner filledInside))
        (others filledRest later)
  | route held rest others =>
      obtain ⟨filled, filledRest⟩ := List.forall_mem_append.1 filled
      obtain ⟨here, later⟩ := List.forall_mem_append.1 unbroken
      exact linesAt_renderParts_cons (linesAt_route (filled _ List.mem_cons_self) here)
        (others filledRest later)
  | imports sources children rest inner others =>
      obtain ⟨filled, filledRest⟩ := List.forall_mem_append.1 filled
      obtain ⟨_, filledInside⟩ := List.forall_mem_cons.1 filled
      obtain ⟨here, later⟩ := List.forall_mem_append.1 unbroken
      exact linesAt_renderParts_cons (linesAt_imports here (inner filledInside))
        (others filledRest later)

/-- The pieces of a rendered forest are the lines of its outline. -/
theorem pieces_renderAll (nonempty : forest ≠ [])
    (filled : ∀ element ∈ partsAll forest, element.Filled)
    (unbroken : ∀ entry ∈ outlineAll 0 forest, entry.node.Unbroken) :
    pieces '\n' (renderAll forest) = (outlineAll 0 forest).map OutlineEntry.line := by
  rw [← linesAt_renderParts filled unbroken, renderAll,
    pieces_intercalate (renderParts_ne_nil nonempty), linesAt]
  simp [indentation]

end Element

end Renderings

/-! ## Compiled forests -/

namespace Element

/-- Every element of a compiled forest but the imports encloses something. -/
theorem filled_of_mem_partsAll {sources : Sources} {visited : List Location}
    {inherited : List Parameter} {list : List Item} {elements : List Element}
    (compiled : (compileItems sources visited inherited list).outcome = .ok elements)
    {element : Element} (member : element ∈ partsAll elements) : element.Filled := by
  obtain ⟨there, params, key, value, _, found⟩ := exists_reaches_of_mem_partsAll compiled member
  obtain ⟨frame, children, framed, below, same, _⟩ := exists_close_of_compileItem found
  cases List.singleton_inj.1 same
  cases frame with
  | imports paths outer => trivial
  | route held => exact Route.methods_ne_nil_of_compile (route_of_frame framed)
  | root mount => exact children_ne_nil_of_root framed below

end Element

end RoutePlan
