import RoutePlan.Proofs.Session.Inline
import RoutePlan.Proofs.Session.Origin
import RoutePlan.Proofs.Session.PathParameters
import RoutePlan.Proofs.Tree.Outline

/-!
# Renderings of compiled trees

At any moment of a run, a compiled tree is shown as its outline: a line for each node, each
before what it encloses, two spaces further in for each level.  Line feeds stand between the
lines and nowhere else.
-/

namespace RoutePlan.Session

/-- The outline of the compiled tree. -/
def outline (session : Session) : List OutlineEntry :=
  Element.outlineAll 0 session.forest

/-- When nothing that is shown contains a line break, a compiled tree is rendered as the
lines of its outline with line feeds between them.  Split at its line feeds, the rendering is
exactly these lines: none is lost, cut or joined with another, none is blank, and no line
feed is at the end. -/
theorem rendering_is_indented_outline {sources : Element.Sources} {modules : Modules}
    {steps : List Step} {session : Session} (reached : (start sources modules).run steps = session)
    (compiled : session.phase ≠ .blank)
    (unbroken : ∀ entry ∈ session.outline, entry.node.Unbroken) :
    session.render = String.intercalate "\n" (session.outline.map OutlineEntry.line) ∧
      Text.pieces '\n' session.render = session.outline.map OutlineEntry.line ∧
      (∀ entry ∈ session.outline, Text.IsLine entry.line) ∧
      session.render.toList.getLast? ≠ some '\n' := by
  have origin := run_hasOrigin (start_hasOrigin sources modules) steps
  rw [reached] at origin
  obtain ⟨_, _, made⟩ := origin compiled
  obtain ⟨entries, _, filled, elements⟩ := compileItems_of_compile made
  obtain ⟨entry, rest, rfl⟩ := List.exists_cons_of_ne_nil filled
  have nonempty := Element.ne_nil_of_compileItems elements
  have split : Text.pieces '\n' session.render = session.outline.map OutlineEntry.line :=
    Element.pieces_renderAll nonempty (fun _ => Element.filled_of_mem_partsAll elements) unbroken
  have lines : ∀ entry ∈ session.outline, Text.IsLine entry.line :=
    fun entry member => OutlineEntry.isLine_line (unbroken entry member)
  have proper : ∀ piece ∈ Text.pieces '\n' session.render, Text.IsLine piece := by
    rw [split]
    exact List.forall_mem_map.2 lines
  refine ⟨?_, split, lines, Text.getLast?_ne_of_pieces proper⟩
  rw [← split, Text.intercalate_pieces]

/-- The session after the root with an import in an imported file is compiled. -/
def mountedRun : Session :=
  mountedSession.run [.parseValue (.map (mountedEntries "l"))]

theorem mountedRun_eq : mountedRun = mountedAfter := by
  obtain ⟨_, same⟩ := mounted_step
  rw [mountedRun, run, run, same]

/-- The root with an import in an imported file and the loaded root with parameters that have
defaults: nothing that they show contains a line break, and these are their lines. -/
theorem mounted_and_shop_renderings :
    (∀ entry ∈ mountedRun.outline, entry.node.Unbroken) ∧
      Text.pieces '\n' mountedRun.render =
        ["Root \"api\" /v1",
          "  Import [/srv/config/l]",
          "    Import [/srv/config/b]",
          "      Root \"shelf\" /s/:id \x7b id: NUMBER \x7d",
          "        <Middleware name=\"auth\">",
          "        Route \"book\" /book \x7b id: NUMBER \x7d",
          "          GET -> item (200)",
          "  Route \"item\" /item",
          "    GET -> item (200)"] ∧
      shopSession.phase = .loaded ∧ (∀ entry ∈ shopSession.outline, entry.node.Unbroken) ∧
      Text.pieces '\n' shopSession.render =
        ["Root \"shops\" /shops/:id \x7b id: NUMBER \x7d",
          "  <Middleware name=\"auth\">",
          "  Route \"item\" /items/:id \x7b id: NUMBER, lang: STRING = en \x7d",
          "    GET -> item (200)"] := by
  have mounted : ∀ entry ∈ mountedRun.outline, entry.node.Unbroken := by
    rw [mountedRun_eq]
    decide +kernel
  have loaded : shopSession.phase = .loaded := by decide +kernel
  have shop : ∀ entry ∈ shopSession.outline, entry.node.Unbroken := by decide +kernel
  have reached : mountedSession.run [.parseValue (.map (mountedEntries "l"))] = mountedRun := rfl
  have shopReached : (start ⟨{}, .empty⟩ shopModules).run shopSteps = shopSession := rfl
  obtain ⟨_, mountedLines, _⟩ :=
    rendering_is_indented_outline reached (by rw [mountedRun_eq]; decide) mounted
  obtain ⟨_, shopLines, _⟩ := rendering_is_indented_outline shopReached (by simp [loaded]) shop
  refine ⟨mounted, mountedLines.trans ?_, loaded, shop, shopLines.trans ?_⟩
  · rw [mountedRun_eq]
    decide +kernel
  · decide +kernel

end RoutePlan.Session
