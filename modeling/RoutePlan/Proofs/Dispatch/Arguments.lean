import Mathlib.Data.List.Induction
import RoutePlan.Proofs.Dispatch.Transparent

/-!
# The bag of arguments along a dispatch

Each run of a dispatch finds the bag of arguments that the run before it has left, and
the initializer empties it.  So behind an initializer, and as long as no handler
removes a key, the bag holds exactly what was written since, each key with the value
that was written last.
-/

namespace RoutePlan

/-- The handler removes no key from the bag of arguments. -/
def Handler.KeepsArgs (handler : Handler) : Prop :=
  ∀ context key, (context.args.lookup key).isSome →
    ((handler.run context).2.args.lookup key).isSome

theorem Handler.method_keepsArgs (handler : MethodHandler) : KeepsArgs (.method handler) := by
  intro context key held
  rcases handler.run_cases context with ⟨failure, failed⟩ | ⟨staged, ran⟩
  · rw [run, failed]
    exact held
  · rw [run, ran]
    exact held

namespace HandlerRun

/-! ## What runs write -/

/-- The run gives a key a value that the key did not have. -/
def Writes (run : HandlerRun) (key : String) (value : Value) : Prop :=
  run.result.2.args.lookup key = some value ∧ run.before.args.lookup key ≠ some value

/-- The value is the last one that some runs give a key. -/
def LastWrites (runs : List HandlerRun) (key : String) (value : Value) : Prop :=
  ∃ before writer after, runs = before ++ writer :: after ∧ writer.Writes key value ∧
    ∀ later ∈ after, ∀ other, ¬ later.Writes key other

theorem lastWrites_concat_iff {runs : List HandlerRun} {run : HandlerRun} {key : String}
    {value : Value} :
    LastWrites (runs ++ [run]) key value ↔
      run.Writes key value ∨
        LastWrites runs key value ∧ ∀ other, ¬ run.Writes key other := by
  constructor
  · rintro ⟨before, writer, after, split, writes, silent⟩
    rcases List.eq_nil_or_concat after with rfl | ⟨between, last, rfl⟩
    · obtain ⟨_, same⟩ := List.append_inj' split rfl
      cases same
      exact .inl writes
    · rw [List.concat_eq_append, ← List.cons_append, ← List.append_assoc] at split
      obtain ⟨rfl, same⟩ := List.append_inj' split rfl
      cases same
      rw [List.concat_eq_append] at silent
      obtain ⟨silentBetween, silentLast⟩ := List.forall_mem_append.mp silent
      exact .inr ⟨⟨before, writer, between, rfl, writes, silentBetween⟩,
        silentLast run (List.mem_singleton_self run)⟩
  · rintro (writes | ⟨⟨before, writer, after, rfl, writes, silentAfter⟩, silent⟩)
    · exact ⟨runs, run, [], rfl, writes, List.forall_mem_nil _⟩
    · refine ⟨before, writer, after ++ [run], by simp, writes, ?_⟩
      exact List.forall_mem_append.mpr ⟨silentAfter, List.forall_mem_singleton.mpr silent⟩

/-- Among runs of which one writes a key there is a last one that does. -/
theorem exists_lastWrites_of_mem {runs : List HandlerRun} {writer : HandlerRun} {key : String}
    {value : Value} (member : writer ∈ runs) (writes : writer.Writes key value) :
    ∃ last, LastWrites runs key last := by
  induction runs using List.reverseRecOn with
  | nil => cases member
  | append_singleton runs run ih =>
      by_cases here : ∃ other, run.Writes key other
      · obtain ⟨other, writesHere⟩ := here
        exact ⟨other, lastWrites_concat_iff.mpr (.inl writesHere)⟩
      · have silent := not_exists.mp here
        rcases List.mem_append.mp member with earlier | last
        · obtain ⟨final, lastWrites⟩ := ih earlier
          exact ⟨final, lastWrites_concat_iff.mpr (.inr ⟨lastWrites, silent⟩)⟩
        · rw [List.mem_singleton.mp last] at writes
          exact absurd writes (silent value)

/-- A key has a value after a run because the run has written it, or had it before and
the run has written nothing there. -/
theorem lookup_result_iff {run : HandlerRun} (keeps : run.handler.KeepsArgs) {key : String}
    {value : Value} :
    run.result.2.args.lookup key = some value ↔
      run.Writes key value ∨
        run.before.args.lookup key = some value ∧ ∀ other, ¬ run.Writes key other := by
  constructor
  · intro holds
    by_cases unchanged : run.before.args.lookup key = some value
    · refine .inr ⟨unchanged, ?_⟩
      rintro other ⟨written, changed⟩
      rw [holds] at written
      rw [unchanged] at changed
      exact changed written
    · exact .inl ⟨holds, unchanged⟩
  · rintro (⟨written, _⟩ | ⟨held, silent⟩)
    · exact written
    · obtain ⟨other, kept⟩ :=
        Option.isSome_iff_exists.mp (keeps run.before key (Option.isSome_of_eq_some held))
      have kept : run.result.2.args.lookup key = some other := kept
      by_contra changed
      apply silent other
      refine ⟨kept, ?_⟩
      rintro same
      rw [kept, ← same] at changed
      exact changed held

/-! ## Runs that pass the bag on -/

/-- The bag of arguments that some runs leave. -/
def bagAfter (args : Entries String Value) : List HandlerRun → Entries String Value
  | [] => args
  | run :: rest => bagAfter run.result.2.args rest

/-- Each run finds the bag that the run before it has left. -/
def PassOn (args : Entries String Value) : List HandlerRun → Prop
  | [] => True
  | run :: rest => run.before.args = args ∧ PassOn run.result.2.args rest

theorem bagAfter_append (args : Entries String Value) (first second : List HandlerRun) :
    bagAfter args (first ++ second) = bagAfter (bagAfter args first) second := by
  induction first generalizing args with
  | nil => rfl
  | cons run rest ih => exact ih _

theorem passOn_append_iff {args : Entries String Value} {first second : List HandlerRun} :
    PassOn args (first ++ second) ↔ PassOn args first ∧ PassOn (bagAfter args first) second := by
  induction first generalizing args with
  | nil => simp [PassOn, bagAfter]
  | cons run rest ih => rw [List.cons_append, PassOn, PassOn, bagAfter, ih, and_assoc]

/-- Runs that begin with an empty bag leave in it what they have written last. -/
theorem lookup_bagAfter_iff {runs : List HandlerRun} (passed : PassOn [] runs)
    (keep : ∀ run ∈ runs, run.handler.KeepsArgs) {key : String} {value : Value} :
    (bagAfter [] runs).lookup key = some value ↔ LastWrites runs key value := by
  induction runs using List.reverseRecOn generalizing value with
  | nil =>
      rw [bagAfter, List.lookup_nil]
      constructor
      · rintro ⟨⟩
      · rintro ⟨before, writer, after, split, _⟩
        exact absurd split.symm (List.append_ne_nil_of_right_ne_nil _ (List.cons_ne_nil _ _))
  | append_singleton runs run ih =>
      obtain ⟨passedRuns, found, _⟩ := passOn_append_iff.mp passed
      obtain ⟨keepRuns, keepLast⟩ := List.forall_mem_append.mp keep
      rw [bagAfter_append, bagAfter, bagAfter,
        lookup_result_iff (keepLast run (List.mem_singleton_self run)), found,
        ih passedRuns keepRuns, lastWrites_concat_iff]

end HandlerRun

/-! ## The bag in a log -/

namespace Handler

theorem passOn_log (layer : Nat) (handlers : List (Handler × Nat)) (context : Context) :
    HandlerRun.PassOn context.args (log layer handlers context) := by
  induction handlers generalizing context with
  | nil => trivial
  | cons head rest ih =>
      rw [log]
      refine ⟨rfl, ?_⟩
      split
      · exact ih _
      · trivial

theorem bagAfter_log (layer : Nat) (handlers : List (Handler × Nat)) (context : Context) :
    HandlerRun.bagAfter context.args (log layer handlers context) =
      (runAll (handlers.map Prod.fst) context).2.args := by
  induction handlers generalizing context with
  | nil => rfl
  | cons head rest ih =>
      rw [log, HandlerRun.bagAfter, List.map_cons, runAll_cons]
      split
      · exact ih _
      · rfl

end Handler

namespace Layer

theorem passOn_log (position : Nat) (layer : Layer) (context : Context) :
    HandlerRun.PassOn context.args (layer.log position context) := by
  unfold log
  split
  · trivial
  · next captures _ => exact Handler.passOn_log _ _ (enter captures context)

theorem bagAfter_log (position : Nat) (layer : Layer) (context : Context) :
    HandlerRun.bagAfter context.args (layer.log position context) =
      (layer.run context).2.args := by
  unfold log run
  cases layer.captures? context with
  | none => rfl
  | some captures =>
      have left := Handler.bagAfter_log position layer.handlers.zipIdx (enter captures context)
      rw [List.zipIdx_map_fst] at left
      exact left

end Layer

namespace Router

theorem passOn_logLayers (layers : List (Layer × Nat)) (context : Context) :
    HandlerRun.PassOn context.args (logLayers layers context) := by
  induction layers generalizing context with
  | nil => trivial
  | cons head rest ih =>
      obtain ⟨layer, position⟩ := head
      rw [logLayers, HandlerRun.passOn_append_iff, layer.bagAfter_log]
      refine ⟨layer.passOn_log position context, ?_⟩
      split
      · exact ih _
      · trivial

/-- The log of layers in two groups: the second runs where the first went on. -/
theorem logLayers_append (first second : List (Layer × Nat)) (context : Context) :
    logLayers (first ++ second) context =
      logLayers first context ++
        if (runLayers (first.map Prod.fst) context).1 = .ok .next then
          logLayers second (runLayers (first.map Prod.fst) context).2
        else [] := by
  induction first generalizing context with
  | nil => simp [logLayers, runLayers]
  | cons head rest ih =>
      obtain ⟨layer, position⟩ := head
      rw [List.cons_append, logLayers, logLayers, List.map_cons, runLayers_cons, ih]
      split
      · rw [List.append_assoc]
      · simp only [List.append_nil]

/-- Behind an initializer the log goes on with an empty bag. -/
theorem logLayers_initializer (position : Nat) (rest : List (Layer × Nat)) (context : Context) :
    logLayers ((.mount "/" .initializer, position) :: rest) context =
      (Layer.mount "/" .initializer).log position context ++
        logLayers rest { context with args := [], params := [] } :=
  rfl

/-- The numbers of the layers that have run. -/
theorem mem_snd_of_mem_logLayers {layers : List (Layer × Nat)} {context : Context}
    {run : HandlerRun} (member : run ∈ logLayers layers context) :
    run.layer ∈ layers.map Prod.snd := by
  obtain ⟨layer, _, present, _⟩ := exists_layer_of_mem_logLayers member
  exact List.mem_map.mpr ⟨_, present, rfl⟩

/-- A log that goes past an initializer begins anew behind it, with an empty bag. -/
theorem exists_log_eq_append {router : Router} {request : Context} {position : Nat}
    (present : router.layers[position]? = some (.mount "/" .initializer)) {run : HandlerRun}
    (member : run ∈ router.log request) (past : position < run.layer) :
    ∃ outer inner, router.log request = outer ++ inner ∧
      (∀ earlier ∈ outer, earlier.layer ≤ position) ∧
      (∀ later ∈ inner, position < later.layer) ∧ HandlerRun.PassOn [] inner := by
  obtain ⟨within, held⟩ := List.getElem?_eq_some_iff.mp present
  have numbered : router.layers.zipIdx =
      (router.layers.take position).zipIdx ++ (.mount "/" .initializer, position) ::
        (router.layers.drop (position + 1)).zipIdx (position + 1) := by
    conv_lhs => rw [← List.take_append_drop position router.layers,
      List.drop_eq_getElem_cons within, held]
    rw [List.zipIdx_append, List.zipIdx_cons, List.length_take_of_le (Nat.le_of_lt within),
      Nat.zero_add]
  have before {context : Context} {earlier : HandlerRun}
      (logged : earlier ∈ logLayers (router.layers.take position).zipIdx context) :
      earlier.layer < position := by
    have number := mem_snd_of_mem_logLayers logged
    rw [List.zipIdx_map_snd, List.mem_range'_1, List.length_take_of_le (Nat.le_of_lt within),
      Nat.zero_add] at number
    exact number.2
  rw [log, numbered, logLayers_append] at member ⊢
  split at member
  · next goesOn =>
      rw [if_pos goesOn, logLayers_initializer, ← List.append_assoc]
      have emptied := passOn_logLayers
        ((router.layers.drop (position + 1)).zipIdx (position + 1))
        { (runLayers ((router.layers.take position).zipIdx.map Prod.fst) request).2 with
          args := [], params := [] }
      refine ⟨_, _, rfl, ?_, ?_, emptied⟩
      · intro earlier logged
        rcases List.mem_append.mp logged with first | initial
        · exact Nat.le_of_lt (before first)
        · exact Nat.le_of_eq (Layer.layer_of_mem_log initial)
      · intro later logged
        have number := mem_snd_of_mem_logLayers logged
        rw [List.zipIdx_map_snd, List.mem_range'_1] at number
        exact number.1
  · rw [List.append_nil] at member
    exact absurd (before member) (Nat.lt_asymm past)

/-- What a run finds in the bag is what has been written since the initializer that it
stands behind. -/
theorem lookup_before_iff {router : Router} {request : Context} {position time : Nat}
    (present : router.layers[position]? = some (.mount "/" .initializer)) {run : HandlerRun}
    (logged : (router.log request)[time]? = some run) (past : position < run.layer)
    (keep : ∀ earlier ∈ (router.log request).take time, position < earlier.layer →
      earlier.handler.KeepsArgs) {key : String} {value : Value} :
    run.before.args.lookup key = some value ↔
      HandlerRun.LastWrites
        (((router.log request).take time).filter fun earlier => position < earlier.layer)
        key value := by
  obtain ⟨outer, inner, split, outside, inside, passed⟩ :=
    exists_log_eq_append present (List.mem_of_getElem? logged) past
  rw [split] at logged keep ⊢
  have behind : outer.length ≤ time := by
    by_contra ahead
    rw [List.getElem?_append_left (Nat.lt_of_not_le ahead)] at logged
    exact absurd past (Nat.not_lt.mpr (outside run (List.mem_of_getElem? logged)))
  rw [List.getElem?_append_right behind] at logged
  have taken : ((outer ++ inner).take time).filter (fun earlier => position < earlier.layer) =
      inner.take (time - outer.length) := by
    rw [List.take_append, List.take_of_length_le behind, List.filter_append,
      List.filter_eq_nil_iff.mpr, List.filter_eq_self.mpr, List.nil_append]
    · intro later member
      simpa using inside later (List.mem_of_mem_take member)
    · intro earlier member
      simpa using outside earlier member
  rw [HandlerRun.split_at logged, HandlerRun.passOn_append_iff] at passed
  obtain ⟨passedBefore, found, _⟩ := passed
  rw [taken, found]
  apply HandlerRun.lookup_bagAfter_iff passedBefore
  intro earlier member
  apply keep earlier _ (inside earlier (List.mem_of_mem_take member))
  rw [List.take_append]
  exact List.mem_append_right _ member

end Router

end RoutePlan
