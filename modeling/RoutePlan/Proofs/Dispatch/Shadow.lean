import RoutePlan.Proofs.Dispatch.Controller

/-!
# Shadowed routes

A layer with the handler of a method leaves no request unanswered when it goes on, and an
answered request enters no route.  So no route runs behind such a layer for a request that
the layer matches.
-/

namespace RoutePlan

/-- A layer that holds the handler of a method and goes on has answered the request. -/
theorem Layer.Sound.answered_of_isMethod {layer : Layer} (sound : layer.Sound)
    {context : Context} (applies : (layer.captures? context).isSome)
    (goesOn : (layer.run context).1 = .ok .next) {handler : Handler}
    (held : handler ∈ layer.handlers) (isMethod : handler.isMethod = true) :
    (layer.run context).2.isAnswered = true := by
  by_contra unanswered
  rw [Bool.not_eq_true] at unanswered
  have wentOn := (layer.forall_wentOn_log_iff 0 context).mpr goesOn
  obtain ⟨place, found⟩ := List.mem_iff_getElem?.mp held
  obtain ⟨run, logged, numbered⟩ := Layer.exists_run_of_forall_wentOn applies wentOn found
  obtain ⟨rfl, _⟩ := Prod.mk.inj numbered
  have answered := Handler.isAnswered_of_goesOn isMethod (wentOn run logged)
  have still := sound.unanswered_of_mem_log unanswered logged
  exact Bool.false_ne_true (still.symm.trans answered)

/-- An answered request enters only mounts. -/
theorem Layer.kind_eq_mount_of_answered {layer : Layer} {position : Nat} {context : Context}
    (answered : context.isAnswered = true) {run : HandlerRun}
    (member : run ∈ layer.log position context) : layer.kind = .mount := by
  cases kind : layer.kind with
  | mount => rfl
  | route verb =>
      obtain ⟨captures, applies⟩ :=
        Option.isSome_iff_exists.mp (Layer.captures?_isSome_of_mem_log member)
      obtain ⟨unanswered, _⟩ := (Layer.captures?_eq_some_iff_of_route kind).mp applies
      exact absurd (unanswered.symm.trans answered) Bool.false_ne_true

namespace Router

variable {layers : List (Layer × Nat)} (sound : ∀ numbered ∈ layers, numbered.1.Sound)

include sound

theorem exists_mount_of_answered {context : Context} (answered : context.isAnswered = true)
    {run : HandlerRun} (member : run ∈ logLayers layers context) :
    ∃ layer, (layer, run.layer) ∈ layers ∧ layer.kind = .mount := by
  induction layers generalizing context with
  | nil => simp [logLayers] at member
  | cons head rest ih =>
      obtain ⟨layer, position⟩ := head
      obtain ⟨headSound, restSound⟩ := List.forall_mem_cons.mp sound
      rw [logLayers] at member
      rcases List.mem_append.mp member with here | further
      · refine ⟨layer, ?_, Layer.kind_eq_mount_of_answered answered here⟩
        rw [Layer.layer_of_mem_log here]
        exact List.mem_cons_self
      · split at further
        · obtain ⟨found, present, kind⟩ := ih restSound (headSound.run_keeps answered) further
          exact ⟨found, List.mem_cons_of_mem _ present, kind⟩
        · simp at further

/-- Behind a route with the handler of a method, only mounts run for a request that the
route matches. -/
theorem exists_mount_behind (ordered : (layers.map Prod.snd).Pairwise (· < ·))
    {context request : Context} (same : context.SameRequest request) {run : HandlerRun}
    (member : run ∈ logLayers layers context) {layer : Layer} {position : Nat} {verb : Verb}
    (behind : position < run.layer) (present : (layer, position) ∈ layers)
    (kind : layer.kind = .route verb) (accepts : verb.accepts request.method = true)
    (matched : (layer.pattern.matchExact request.path).isSome) {handler : Handler}
    (held : handler ∈ layer.handlers) (isMethod : handler.isMethod = true) :
    ∃ found, (found, run.layer) ∈ layers ∧ found.kind = .mount := by
  induction layers generalizing context with
  | nil => simp at present
  | cons head rest ih =>
      obtain ⟨first, place⟩ := head
      obtain ⟨headSound, restSound⟩ := List.forall_mem_cons.mp sound
      obtain ⟨before, restOrdered⟩ := List.pairwise_cons.mp ordered
      rw [logLayers] at member
      rcases List.mem_append.mp member with here | further
      · -- The run is in the first layer, so no layer stands before it.
        rw [Layer.layer_of_mem_log here] at behind
        rcases List.mem_cons.mp present with head_eq | present
        · cases head_eq
          exact absurd behind (Nat.lt_irrefl position)
        · exact absurd (before position (List.mem_map_of_mem present)) (Nat.lt_asymm behind)
      · split at further
        · next goesOn =>
            have found : ∃ found, (found, run.layer) ∈ rest ∧ found.kind = .mount := by
              rcases List.mem_cons.mp present with head_eq | present
              · cases head_eq
                apply exists_mount_of_answered restSound _ further
                cases answered : context.isAnswered with
                | true => exact headSound.run_keeps answered
                | false =>
                    rw [← same.1] at accepts
                    rw [← same.2] at matched
                    exact headSound.answered_of_isMethod
                      (Layer.captures?_isSome_of_route kind answered accepts matched) goesOn
                      held isMethod
              · exact ih restSound restOrdered
                  ((first.run_sameRequest context).trans same) further present
            obtain ⟨found, among, mount⟩ := found
            exact ⟨found, List.mem_cons_of_mem _ among, mount⟩
        · simp at further

end Router

end RoutePlan
