import RoutePlan.Proofs.Dispatch.Log

/-!
# The log of a dispatch

The log of a dispatch joins the logs of its layers.  It ends the way the dispatch does,
positions increase along it, and a layer that the dispatch has entered and passed has
run all of its handlers.
-/

namespace RoutePlan

namespace Router

theorem runLayers_cons (layer : Layer) (rest : List Layer) (context : Context) :
    runLayers (layer :: rest) context =
      if (layer.run context).1 = .ok .next then runLayers rest (layer.run context).2
      else layer.run context := by
  rw [runLayers]
  split
  · next next stepped => simp [stepped]
  · next stopped other =>
      rw [if_neg]
      intro goesOn
      exact other (layer.run context).2 (Prod.ext goesOn rfl)

/-- The runs of numbered layers, up to the first that fails or halts. -/
def logLayers : List (Layer × Nat) → Context → List HandlerRun
  | [], _ => []
  | (layer, position) :: rest, context =>
      layer.log position context ++
        if (layer.run context).1 = .ok .next then logLayers rest (layer.run context).2 else []

/-- The log of the dispatch of a request. -/
def log (router : Router) (context : Context) : List HandlerRun :=
  logLayers router.layers.zipIdx context

/-- A run in the log is one of its layer, on a context of the same request, and
the whole log of the layer is in the log. -/
theorem exists_layer_of_mem_logLayers {layers : List (Layer × Nat)} {context : Context}
    {run : HandlerRun} (member : run ∈ logLayers layers context) :
    ∃ layer entered, (layer, run.layer) ∈ layers ∧ entered.SameRequest context ∧
      run ∈ layer.log run.layer entered ∧
      layer.log run.layer entered ⊆ logLayers layers context := by
  induction layers generalizing context with
  | nil => simp [logLayers] at member
  | cons head rest ih =>
      obtain ⟨layer, position⟩ := head
      rw [logLayers] at member ⊢
      rcases List.mem_append.mp member with member | member
      · have same := Layer.layer_of_mem_log member
        subst same
        exact ⟨layer, context, List.mem_cons_self, .refl _, member, List.subset_append_left _ _⟩
      · split at member
        · next goesOn =>
            obtain ⟨found, entered, present, same, logged, contained⟩ := ih member
            rw [if_pos goesOn]
            exact ⟨found, entered, List.mem_cons_of_mem _ present,
              same.trans (layer.run_sameRequest context), logged,
              List.subset_append_of_subset_right _ contained⟩
        · simp at member

/-- The log of numbered layers is ordered as the numbers are. -/
theorem pairwise_precedes_logLayers {layers : List (Layer × Nat)} {context : Context}
    (ordered : (layers.map Prod.snd).Pairwise (· < ·)) :
    (logLayers layers context).Pairwise HandlerRun.Precedes := by
  induction layers generalizing context with
  | nil => exact .nil
  | cons head rest ih =>
      obtain ⟨layer, position⟩ := head
      obtain ⟨first, others⟩ := List.pairwise_cons.mp ordered
      rw [logLayers]
      apply List.pairwise_append.mpr
      refine ⟨layer.pairwise_precedes_log position context, ?_, ?_⟩
      · split
        · exact ih others
        · exact .nil
      · intro early earlyMem late lateMem
        split at lateMem
        · obtain ⟨found, _, present, _⟩ := exists_layer_of_mem_logLayers lateMem
          rw [← Layer.layer_of_mem_log earlyMem] at first
          exact .inl (first late.layer (List.mem_map.mpr ⟨_, present, rfl⟩))
        · simp at lateMem

/-- Every run but the last went on. -/
theorem wentOn_of_mem_dropLast_logLayers {layers : List (Layer × Nat)} {context : Context}
    {run : HandlerRun} (member : run ∈ (logLayers layers context).dropLast) : run.WentOn := by
  induction layers generalizing context with
  | nil => simp [logLayers] at member
  | cons head rest ih =>
      obtain ⟨layer, position⟩ := head
      rw [logLayers] at member
      split at member
      · next goesOn =>
          have headWentOn := (layer.forall_wentOn_log_iff position context).mpr goesOn
          by_cases finished : logLayers rest (layer.run context).2 = []
          · rw [finished, List.append_nil] at member
            exact headWentOn run (List.dropLast_subset _ member)
          · rw [List.dropLast_append_of_ne_nil finished] at member
            rcases List.mem_append.mp member with member | member
            · exact headWentOn run member
            · exact ih member
      · rw [List.append_nil] at member
        exact Layer.wentOn_of_mem_dropLast_log member

/-- A dispatch ends as its log ends. -/
theorem outcome_logLayers (layers : List (Layer × Nat)) (context : Context) :
    HandlerRun.outcome (logLayers layers context) =
      (runLayers (layers.map Prod.fst) context).1 := by
  induction layers generalizing context with
  | nil => rfl
  | cons head rest ih =>
      obtain ⟨layer, position⟩ := head
      rw [logLayers, List.map_cons, runLayers_cons, HandlerRun.outcome_append, layer.outcome_log]
      split
      · next goesOn =>
          split
          · next nothing => rw [goesOn, ← ih, nothing, HandlerRun.outcome, List.getLast?_nil]; rfl
          · exact ih _
      · rfl

/-- The dispatch has gone past a position: a later layer has run, or nothing
stopped it. -/
def Passed (log : List HandlerRun) (position : Nat) : Prop :=
  (∃ run ∈ log, position < run.layer) ∨ ∀ run ∈ log, run.WentOn

theorem goesOn_of_passed {layer : Layer} {place position : Nat} {rest : List (Layer × Nat)}
    {context : Context} (within : place ≤ position)
    (passed : Passed (logLayers ((layer, place) :: rest) context) position) :
    (layer.run context).1 = .ok .next := by
  rcases passed with ⟨run, member, later⟩ | wentOn
  · rw [logLayers] at member
    rcases List.mem_append.mp member with member | member
    · rw [Layer.layer_of_mem_log member] at later
      exact absurd later (Nat.not_lt.mpr within)
    · split at member
      · next goesOn => exact goesOn
      · simp at member
  · rw [logLayers] at wentOn
    exact (layer.forall_wentOn_log_iff place context).mp (List.forall_mem_append.mp wentOn).1

/-- The log of a layer that the dispatch has passed is part of the log, and all
of its runs went on. -/
theorem exists_log_of_passed {layers : List (Layer × Nat)} {context : Context} {layer : Layer}
    {position : Nat} (ordered : (layers.map Prod.snd).Pairwise (· < ·))
    (member : (layer, position) ∈ layers) (passed : Passed (logLayers layers context) position) :
    ∃ entered, entered.SameRequest context ∧
      layer.log position entered ⊆ logLayers layers context ∧
      ∀ run ∈ layer.log position entered, run.WentOn := by
  induction layers generalizing context with
  | nil => simp at member
  | cons head rest ih =>
      obtain ⟨first, place⟩ := head
      obtain ⟨before, others⟩ := List.pairwise_cons.mp ordered
      rcases List.mem_cons.mp member with same | member
      · obtain ⟨rfl, rfl⟩ := Prod.mk.inj same
        have goesOn := goesOn_of_passed (Nat.le_refl position) passed
        refine ⟨context, .refl _, ?_, (layer.forall_wentOn_log_iff position context).mpr goesOn⟩
        rw [logLayers]
        exact List.subset_append_left _ _
      · have later := before position (List.mem_map.mpr ⟨_, member, rfl⟩)
        have goesOn := goesOn_of_passed (Nat.le_of_lt later) passed
        rw [logLayers, if_pos goesOn] at passed ⊢
        have inner : Passed (logLayers rest (first.run context).2) position := by
          rcases passed with ⟨run, runMem, beyond⟩ | wentOn
          · rcases List.mem_append.mp runMem with runMem | runMem
            · rw [Layer.layer_of_mem_log runMem] at beyond
              exact absurd (Nat.lt_trans beyond later) (Nat.lt_irrefl position)
            · exact .inl ⟨run, runMem, beyond⟩
          · exact .inr (List.forall_mem_append.mp wentOn).2
        obtain ⟨entered, same, contained, wentOn⟩ := ih others member inner
        exact ⟨entered, same.trans (first.run_sameRequest context),
          List.subset_append_of_subset_right _ contained, wentOn⟩

/-! ## The log of a router -/

variable {router : Router} {request : Context} {run : HandlerRun}

/-- A dispatch fails exactly when its log ends with a failure, and with the same one. -/
theorem dispatch_eq_outcome_log (router : Router) (request : Context) :
    (router.dispatch request).1 =
      (HandlerRun.outcome (router.log request)).map fun _ => () := by
  rw [log, outcome_logLayers, List.zipIdx_map_fst]
  rfl

theorem pairwise_precedes_log (router : Router) (request : Context) :
    (router.log request).Pairwise HandlerRun.Precedes :=
  pairwise_precedes_logLayers (pairwise_snd_zipIdx router.layers 0)

/-- A run in the log is one of the layer at its position, on a context of the
request, and the whole log of the layer is in the log. -/
theorem exists_layer_of_mem_log (member : run ∈ router.log request) :
    ∃ layer entered, router.layers[run.layer]? = some layer ∧ entered.SameRequest request ∧
      run ∈ layer.log run.layer entered ∧ layer.log run.layer entered ⊆ router.log request := by
  obtain ⟨layer, entered, present, rest⟩ := exists_layer_of_mem_logLayers member
  exact ⟨layer, entered, List.mk_mem_zipIdx_iff_getElem?.mp present, rest⟩

/-- What has run before a run went on. -/
theorem wentOn_of_mem_take_log {time : Nat} {other : HandlerRun}
    (logged : (router.log request)[time]? = some run)
    (earlier : other ∈ (router.log request).take time) : other.WentOn := by
  obtain ⟨within, _⟩ := List.getElem?_eq_some_iff.mp logged
  have leading : ((router.log request).take time).Sublist (router.log request).dropLast := by
    rw [List.dropLast_eq_take]
    exact List.take_sublist_take_left (Nat.le_sub_one_of_lt within)
  exact wentOn_of_mem_dropLast_logLayers (leading.subset earlier)

/-- A layer that applies to the request and that the dispatch has passed has run
each of its handlers, and all of them went on. -/
theorem exists_run_of_passed {layer : Layer} {position place : Nat} {handler : Handler}
    (registered : router.layers[position]? = some layer)
    (passed : Passed (router.log request) position)
    (applies : ∀ entered : Context, entered.SameRequest request → (layer.captures? entered).isSome)
    (held : layer.handlers[place]? = some handler) :
    ∃ run ∈ router.log request,
      run.toSpot = ⟨position, place⟩ ∧ run.handler = handler ∧ run.WentOn := by
  have placed := List.mk_mem_zipIdx_iff_getElem?.mpr registered
  obtain ⟨entered, same, contained, wentOn⟩ :=
    exists_log_of_passed (pairwise_snd_zipIdx router.layers 0) placed passed
  obtain ⟨run, member, numbered⟩ :=
    Layer.exists_run_of_forall_wentOn (applies entered same) wentOn held
  obtain ⟨sameHandler, samePlace⟩ := Prod.mk.inj numbered
  refine ⟨run, contained member, ?_, sameHandler, wentOn run member⟩
  have sameLayer := Layer.layer_of_mem_log member
  rw [← sameLayer, ← samePlace]

end Router

end RoutePlan
