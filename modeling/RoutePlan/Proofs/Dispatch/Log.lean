import RoutePlan.Router
import Mathlib.Data.List.Sort

/-!
# The log of a layer

A layer runs its handlers one after the other.  Its log lists the runs in order, each
with the position of the layer in the stack and the place of the handler in the layer.
The log ends the way the layer does, every run but the last went on, and a layer that
went on has run all of its handlers.
-/

namespace RoutePlan

/-- The numbers of numbered items increase. -/
theorem pairwise_snd_zipIdx {α : Type} (items : List α) (offset : Nat) :
    ((items.zipIdx offset).map Prod.snd).Pairwise (· < ·) := by
  rw [List.zipIdx_map_snd]
  exact List.pairwise_lt_range'

/-- A dispatch goes on after a run that neither failed nor halted. -/
instance decidableGoesOn (outcome : Except Failure Flow) : Decidable (outcome = .ok .next) :=
  match outcome with
  | .ok .next => isTrue rfl
  | .ok .halt => isFalse nofun
  | .error _ => isFalse nofun

/-- A bare request for a path. -/
def Context.bare (path : String) : Context where
  method := "GET"
  path := path
  headers := []
  params := []
  query := []
  body := .null
  args := []
  response := none

/-- A place in the stack of a router. -/
structure Spot where
  /-- The position of the layer in the stack. -/
  layer : Nat
  /-- The place of the handler in the layer. -/
  place : Nat
deriving DecidableEq

namespace Spot

/-- The spot stands before another one in the order of the stack. -/
def Precedes (first second : Spot) : Prop :=
  first.layer < second.layer ∨ first.layer = second.layer ∧ first.place < second.place

theorem Precedes.asymm {first second : Spot} (before : first.Precedes second) :
    ¬second.Precedes first := by
  unfold Precedes at *
  omega

end Spot

/-- One run of a handler in a dispatch. -/
structure HandlerRun extends Spot where
  handler : Handler
  /-- The context that the handler ran on. -/
  before : Context

namespace HandlerRun

/-- How the run ended, and the context that it left. -/
def result (run : HandlerRun) : Except Failure Flow × Context :=
  run.handler.run run.before

/-- The run neither failed nor halted. -/
def WentOn (run : HandlerRun) : Prop :=
  run.result.1 = .ok .next

instance (run : HandlerRun) : Decidable run.WentOn :=
  decidableGoesOn run.result.1

/-- The handler of the run with its place. -/
def numbered (run : HandlerRun) : Handler × Nat :=
  (run.handler, run.place)

/-- The run stands before another one in the order of the stack. -/
def Precedes (first second : HandlerRun) : Prop :=
  first.toSpot.Precedes second.toSpot

/-- How a log ends: as its last run, and well if nothing ran. -/
def outcome (log : List HandlerRun) : Except Failure Flow :=
  (log.getLast?.map fun run => run.result.1).getD (.ok .next)

theorem outcome_append (first second : List HandlerRun) :
    outcome (first ++ second) = if second = [] then outcome first else outcome second := by
  split
  · next empty => rw [empty, List.append_nil]
  · next nonempty =>
      rw [outcome, List.getLast?_append_of_ne_nil first nonempty]
      rfl

/-- Runs in the order of the stack that a log in this order holds are a part of the
log in its order. -/
theorem sublist_of_pairwise_precedes {runs log : List HandlerRun}
    (ordered : runs.Pairwise Precedes) (logOrdered : log.Pairwise Precedes)
    (contained : runs ⊆ log) : runs.Sublist log := by
  have antisymmetric : Std.Antisymm Precedes :=
    ⟨fun _ _ before after => absurd after (Spot.Precedes.asymm before)⟩
  have distinct : runs.Nodup := by
    apply ordered.imp
    rintro run _ before rfl
    exact Spot.Precedes.asymm before before
  exact List.sublist_of_subperm_of_pairwise (List.subperm_of_subset distinct contained) ordered
    logOrdered

/-- A log is split at each of its runs. -/
theorem split_at {log : List HandlerRun} {time : Nat} {run : HandlerRun}
    (logged : log[time]? = some run) : log = log.take time ++ run :: log.drop (time + 1) := by
  obtain ⟨within, rfl⟩ := List.getElem?_eq_some_iff.mp logged
  rw [← List.drop_eq_getElem_cons within, List.take_append_drop]

/-- What precedes a run has run before it. -/
theorem mem_take_of_precedes {log : List HandlerRun} (ordered : log.Pairwise Precedes) {time : Nat}
    {run other : HandlerRun} (logged : log[time]? = some run) (member : other ∈ log)
    (before : other.Precedes run) : other ∈ log.take time := by
  rw [split_at logged] at member ordered
  rcases List.mem_append.mp member with member | member
  · exact member
  · obtain ⟨_, fromRun, _⟩ := List.pairwise_append.mp ordered
    rcases List.mem_cons.mp member with rfl | member
    · exact absurd before (Spot.Precedes.asymm before)
    · exact absurd before (Spot.Precedes.asymm ((List.pairwise_cons.mp fromRun).1 other member))

/-- What has run before a run precedes it. -/
theorem precedes_of_mem_take {log : List HandlerRun} (ordered : log.Pairwise Precedes) {time : Nat}
    {run other : HandlerRun} (logged : log[time]? = some run) (earlier : other ∈ log.take time) :
    other.Precedes run := by
  rw [split_at logged] at ordered
  obtain ⟨_, _, across⟩ := List.pairwise_append.mp ordered
  exact across other earlier run List.mem_cons_self

/-- What a run precedes has run after it. -/
theorem mem_drop_of_precedes {log : List HandlerRun} (ordered : log.Pairwise Precedes) {time : Nat}
    {run other : HandlerRun} (logged : log[time]? = some run) (member : other ∈ log)
    (before : run.Precedes other) : other ∈ log.drop (time + 1) := by
  rw [split_at logged] at member ordered
  obtain ⟨_, _, across⟩ := List.pairwise_append.mp ordered
  rcases List.mem_append.mp member with member | member
  · exact absurd before (Spot.Precedes.asymm (across other member run List.mem_cons_self))
  · rcases List.mem_cons.mp member with rfl | member
    · exact absurd before (Spot.Precedes.asymm before)
    · exact member

end HandlerRun

/-! ## Handlers one after the other -/

namespace Handler

theorem runAll_cons (handler : Handler) (rest : List Handler) (context : Context) :
    runAll (handler :: rest) context =
      if (handler.run context).1 = .ok .next then runAll rest (handler.run context).2
      else handler.run context := by
  rw [runAll]
  split
  · next next stepped => simp [stepped]
  · next stopped other =>
      rw [if_neg]
      intro goesOn
      exact other (handler.run context).2 (Prod.ext goesOn rfl)

/-- The runs of numbered handlers, up to the first that fails or halts. -/
def log (layer : Nat) : List (Handler × Nat) → Context → List HandlerRun
  | [], _ => []
  | (handler, place) :: rest, context =>
      ⟨⟨layer, place⟩, handler, context⟩ ::
        if (handler.run context).1 = .ok .next then log layer rest (handler.run context).2 else []

theorem layer_of_mem_log {layer : Nat} {handlers : List (Handler × Nat)} {context : Context}
    {run : HandlerRun} (member : run ∈ log layer handlers context) : run.layer = layer := by
  induction handlers generalizing context with
  | nil => simp [log] at member
  | cons head rest ih =>
      rw [log] at member
      rcases List.mem_cons.mp member with rfl | member
      · rfl
      · split at member
        · exact ih member
        · simp at member

/-- The runs are those of the leading handlers, in order. -/
theorem log_numbered_isPrefix (layer : Nat) (handlers : List (Handler × Nat)) (context : Context) :
    (log layer handlers context).map HandlerRun.numbered <+: handlers := by
  induction handlers generalizing context with
  | nil => exact List.prefix_rfl
  | cons head rest ih =>
      rw [log, List.map_cons]
      split
      · exact (List.prefix_cons_inj head).mpr (ih _)
      · exact (List.prefix_cons_inj head).mpr List.nil_prefix

/-- Every run went on exactly when the handlers went on together. -/
theorem forall_wentOn_log_iff (layer : Nat) (handlers : List (Handler × Nat)) (context : Context) :
    (∀ run ∈ log layer handlers context, run.WentOn) ↔
      (runAll (handlers.map Prod.fst) context).1 = .ok .next := by
  induction handlers generalizing context with
  | nil => simp [log]
  | cons head rest ih =>
      rw [log, List.map_cons, runAll_cons, List.forall_mem_cons]
      split
      · next goesOn =>
          rw [ih]
          exact ⟨fun both => both.2, fun others => ⟨goesOn, others⟩⟩
      · next stops => simp [HandlerRun.WentOn, HandlerRun.result]

/-- When every run went on, every handler has run. -/
theorem log_numbered_eq {layer : Nat} {handlers : List (Handler × Nat)} {context : Context}
    (wentOn : ∀ run ∈ log layer handlers context, run.WentOn) :
    (log layer handlers context).map HandlerRun.numbered = handlers := by
  induction handlers generalizing context with
  | nil => rfl
  | cons head rest ih =>
      rw [log] at wentOn ⊢
      obtain ⟨headWentOn, restWentOn⟩ := List.forall_mem_cons.mp wentOn
      have goesOn : (head.1.run context).1 = .ok .next := headWentOn
      rw [if_pos goesOn] at restWentOn ⊢
      rw [List.map_cons, ih restWentOn]
      rfl

/-- Every run but the last went on. -/
theorem wentOn_of_mem_dropLast_log {layer : Nat} {handlers : List (Handler × Nat)}
    {context : Context} {run : HandlerRun} (member : run ∈ (log layer handlers context).dropLast) :
    run.WentOn := by
  induction handlers generalizing context with
  | nil => simp [log] at member
  | cons head rest ih =>
      rw [log] at member
      split at member
      · next goesOn =>
          cases shape : log layer rest (head.1.run context).2 with
          | nil => simp [shape] at member
          | cons first others =>
              rw [shape, List.dropLast_cons_cons, ← shape] at member
              rcases List.mem_cons.mp member with rfl | member
              · exact goesOn
              · exact ih member
      · simp at member

/-- The handlers end as their log ends. -/
theorem outcome_log (layer : Nat) (handlers : List (Handler × Nat)) (context : Context) :
    HandlerRun.outcome (log layer handlers context) =
      (runAll (handlers.map Prod.fst) context).1 := by
  induction handlers generalizing context with
  | nil => rfl
  | cons head rest ih =>
      rw [log, List.map_cons, runAll_cons, ← List.singleton_append, HandlerRun.outcome_append]
      split
      · next goesOn =>
          split
          · next nothing =>
              rw [← ih, nothing]
              exact goesOn
          · exact ih _
      · rfl

/-- A handler at or before the place of a run has run. -/
theorem exists_run_of_place_le {layer : Nat} {handlers : List (Handler × Nat)} {context : Context}
    {run : HandlerRun} {numbered : Handler × Nat}
    (ordered : (handlers.map Prod.snd).Pairwise (· < ·))
    (member : run ∈ log layer handlers context) (held : numbered ∈ handlers)
    (within : numbered.2 ≤ run.place) :
    ∃ earlier ∈ log layer handlers context, earlier.numbered = numbered := by
  obtain ⟨rest, split_eq⟩ := log_numbered_isPrefix layer handlers context
  rw [← split_eq] at held ordered
  rcases List.mem_append.mp held with held | held
  · exact List.mem_map.mp held
  · rw [List.map_append] at ordered
    obtain ⟨_, _, across⟩ := List.pairwise_append.mp ordered
    have beyond : run.place < numbered.2 :=
      across _ (List.mem_map_of_mem (List.mem_map_of_mem member)) _ (List.mem_map_of_mem held)
    exact absurd within (Nat.not_le.mpr beyond)

/-- Runs of numbered handlers are ordered as the numbers are. -/
theorem pairwise_precedes_log {layer : Nat} {handlers : List (Handler × Nat)} {context : Context}
    (ordered : (handlers.map Prod.snd).Pairwise (· < ·)) :
    (log layer handlers context).Pairwise HandlerRun.Precedes := by
  have places : ((log layer handlers context).map fun run => run.place).Pairwise (· < ·) := by
    have leading := (log_numbered_isPrefix layer handlers context).map Prod.snd
    rw [List.map_map] at leading
    exact ordered.sublist leading.sublist
  rw [List.pairwise_map] at places
  apply places.imp_of_mem
  intro first second firstMem secondMem before
  refine .inr ⟨?_, before⟩
  rw [layer_of_mem_log firstMem, layer_of_mem_log secondMem]

theorem runAll_sameRequest (handlers : List Handler) (context : Context) :
    (runAll handlers context).2.SameRequest context := by
  induction handlers generalizing context with
  | nil => exact .refl _
  | cons handler rest ih =>
      rw [runAll_cons]
      split
      · exact (ih _).trans (handler.run_sameRequest context)
      · exact handler.run_sameRequest context

end Handler

/-! ## Layers one after the other -/

namespace Layer

/-- The runs of a layer, if it applies. -/
def log (position : Nat) (layer : Layer) (context : Context) : List HandlerRun :=
  match layer.captures? context with
  | none => []
  | some captures => Handler.log position layer.handlers.zipIdx (enter captures context)

theorem run_sameRequest (layer : Layer) (context : Context) :
    (layer.run context).2.SameRequest context := by
  unfold run
  split
  · exact .refl _
  · exact Handler.runAll_sameRequest layer.handlers _

theorem layer_of_mem_log {position : Nat} {layer : Layer} {context : Context} {run : HandlerRun}
    (member : run ∈ layer.log position context) : run.layer = position := by
  unfold log at member
  split at member
  · simp at member
  · exact Handler.layer_of_mem_log member

theorem log_numbered_isPrefix (position : Nat) (layer : Layer) (context : Context) :
    (layer.log position context).map HandlerRun.numbered <+: layer.handlers.zipIdx := by
  unfold log
  split
  · exact List.nil_prefix
  · exact Handler.log_numbered_isPrefix _ _ _

theorem forall_wentOn_log_iff (position : Nat) (layer : Layer) (context : Context) :
    (∀ run ∈ layer.log position context, run.WentOn) ↔ (layer.run context).1 = .ok .next := by
  unfold log run
  cases layer.captures? context with
  | none => simp
  | some captures =>
      simpa using Handler.forall_wentOn_log_iff position layer.handlers.zipIdx
        (enter captures context)

theorem outcome_log (position : Nat) (layer : Layer) (context : Context) :
    HandlerRun.outcome (layer.log position context) = (layer.run context).1 := by
  unfold log run
  cases layer.captures? context with
  | none => rfl
  | some captures =>
      simpa using Handler.outcome_log position layer.handlers.zipIdx (enter captures context)

/-- The handler of a run is the one at its place. -/
theorem getElem?_place_of_mem_log {position : Nat} {layer : Layer} {context : Context}
    {run : HandlerRun} (member : run ∈ layer.log position context) :
    layer.handlers[run.place]? = some run.handler := by
  have numbered : run.numbered ∈ layer.handlers.zipIdx :=
    (layer.log_numbered_isPrefix position context).subset (List.mem_map_of_mem member)
  exact List.mem_zipIdx_iff_getElem?.mp numbered

/-- A handler of the layer at or before the place of a run has run. -/
theorem exists_run_of_place_le {position : Nat} {layer : Layer} {context : Context}
    {run : HandlerRun} {place : Nat} {handler : Handler}
    (member : run ∈ layer.log position context)
    (held : layer.handlers[place]? = some handler) (within : place ≤ run.place) :
    ∃ earlier ∈ layer.log position context, earlier.numbered = (handler, place) := by
  unfold log at *
  split at member
  · simp at member
  · exact Handler.exists_run_of_place_le (pairwise_snd_zipIdx layer.handlers 0) member
      (List.mk_mem_zipIdx_iff_getElem?.mpr held) within

theorem log_numbered_eq {position : Nat} {layer : Layer} {context : Context}
    (applies : (layer.captures? context).isSome)
    (wentOn : ∀ run ∈ layer.log position context, run.WentOn) :
    (layer.log position context).map HandlerRun.numbered = layer.handlers.zipIdx := by
  unfold log at *
  split at wentOn
  · next absent => simp [absent] at applies
  · exact Handler.log_numbered_eq wentOn

/-- When every run of a layer went on, each of its handlers has run. -/
theorem exists_run_of_forall_wentOn {position : Nat} {layer : Layer} {context : Context}
    {place : Nat} {handler : Handler} (applies : (layer.captures? context).isSome)
    (wentOn : ∀ run ∈ layer.log position context, run.WentOn)
    (held : layer.handlers[place]? = some handler) :
    ∃ run ∈ layer.log position context, run.numbered = (handler, place) := by
  apply List.mem_map.mp
  rw [log_numbered_eq applies wentOn]
  exact List.mk_mem_zipIdx_iff_getElem?.mpr held

theorem captures?_isSome_of_mem_log {position : Nat} {layer : Layer} {context : Context}
    {run : HandlerRun} (member : run ∈ layer.log position context) :
    (layer.captures? context).isSome := by
  unfold log at member
  split at member
  · simp at member
  · next found => simp [found]

theorem wentOn_of_mem_dropLast_log {position : Nat} {layer : Layer} {context : Context}
    {run : HandlerRun} (member : run ∈ (layer.log position context).dropLast) : run.WentOn := by
  unfold log at member
  split at member
  · simp at member
  · exact Handler.wentOn_of_mem_dropLast_log member

theorem pairwise_precedes_log (position : Nat) (layer : Layer) (context : Context) :
    (layer.log position context).Pairwise HandlerRun.Precedes := by
  unfold log
  split
  · exact .nil
  · exact Handler.pairwise_precedes_log (pairwise_snd_zipIdx layer.handlers 0)

end Layer

end RoutePlan
