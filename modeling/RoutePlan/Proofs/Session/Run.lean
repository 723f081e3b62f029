import RoutePlan.Session
import RoutePlan.Proofs.Tree.Load

/-!
# Runs of a session

A run makes steps one after the other: documents are compiled from a value, a text
or a file, and compiled trees are loaded; any of the steps may fail.  Between the
steps the files may change.  Only a load of a compiled tree changes the router, and
it only adds layers at the end: first the initializer, then the layers of the
leading registrations of the tree.
-/

namespace RoutePlan.Session

/-- A step of a run. -/
inductive Step where
  | parseValue (document : Value)
  | parseText (text : String)
  | parseFile (name : String)
  | load
  /-- Something else changes the files that documents are read from. -/
  | changeFiles (files : FileSet)

/-- Make a step. -/
def step (session : Session) : Step → After
  | .parseValue document => session.parseValue document
  | .parseText text => session.parseText text
  | .parseFile name => session.parseFile name
  | .load => session.load
  | .changeFiles files =>
      ⟨{ session with sources := { session.sources with files } }, [], none⟩

/-- Make steps one after the other, whether they fail or not. -/
def run (session : Session) : List Step → Session
  | [] => session
  | step :: rest => run (session.step step).session rest

/-- The sessions of a run at the moments at which it loads a compiled tree. -/
def attempts (session : Session) : List Step → List Session
  | [] => []
  | step :: rest =>
      match step, session.phase with
      | .load, .compiled => session :: attempts (session.step step).session rest
      | _, _ => attempts (session.step step).session rest

/-- What the load of a session does to its registrations. -/
def loaded (session : Session) : Loaded :=
  RoutePlan.load session.modules session.sources.settings session.registrations

/-- The position of the layer of the first registration, when the session is
loaded. -/
def firstLayer (session : Session) : Nat :=
  session.router.layers.length + 1

/-! ## Single steps -/

@[simp]
theorem adopt_router (session : Session) (compilation : Checked (List Element)) :
    (session.adopt compilation).session.router = session.router := by
  unfold adopt
  split <;> rfl

@[simp]
theorem adopt_modules (session : Session) (compilation : Checked (List Element)) :
    (session.adopt compilation).session.modules = session.modules := by
  unfold adopt
  split <;> rfl

@[simp]
theorem adopt_sources (session : Session) (compilation : Checked (List Element)) :
    (session.adopt compilation).session.sources = session.sources := by
  unfold adopt
  split <;> rfl

@[simp]
theorem adopt_warnings (session : Session) (compilation : Checked (List Element)) :
    (session.adopt compilation).warnings = compilation.warnings := by
  unfold adopt
  split <;> rfl

theorem load_of_phase_ne {session : Session} (other : session.phase ≠ .compiled) :
    session.load.session = session := by
  unfold load
  cases phase : session.phase with
  | blank => rfl
  | compiled => exact absurd phase other
  | loaded => rfl

/-- Loading a compiled tree adds the initializer and the layers of the tree. -/
theorem load_layers_of_compiled {session : Session} (compiled : session.phase = .compiled) :
    session.load.session.router.layers =
      session.router.layers ++ .mount "/" .initializer :: session.loaded.layers := by
  unfold load
  rw [compiled]
  rfl

theorem load_error_of_compiled {session : Session} (compiled : session.phase = .compiled) :
    session.load.error = session.loaded.error := by
  unfold load
  rw [compiled]
  rfl

/-- Only a load of a compiled tree succeeds. -/
theorem phase_eq_of_load_error_eq_none {session : Session} (succeeded : session.load.error = none) :
    session.phase = .compiled := by
  unfold load at succeeded
  cases phase : session.phase with
  | blank => simp [phase] at succeeded
  | compiled => rfl
  | loaded => simp [phase] at succeeded

@[simp]
theorem load_modules (session : Session) : session.load.session.modules = session.modules := by
  unfold load
  cases session.phase <;> rfl

@[simp]
theorem load_sources (session : Session) : session.load.session.sources = session.sources := by
  unfold load
  cases session.phase <;> rfl

@[simp]
theorem load_forest (session : Session) : session.load.session.forest = session.forest := by
  unfold load
  cases session.phase <;> rfl

/-- A step that does not load a compiled tree leaves the router alone. -/
theorem step_router_of_not_load {session : Session} {step : Step}
    (other : step ≠ .load ∨ session.phase ≠ .compiled) :
    (session.step step).session.router = session.router := by
  cases step with
  | parseValue document => exact session.adopt_router _
  | parseText text => exact session.adopt_router _
  | parseFile name => exact session.adopt_router _
  | load =>
      have phase := other.resolve_left (fun differs => differs rfl)
      rw [Session.step, load_of_phase_ne phase]
  | changeFiles files => rfl

@[simp]
theorem step_modules (session : Session) (step : Step) :
    (session.step step).session.modules = session.modules := by
  cases step <;> simp [Session.step, parseValue, parseText, parseFile]

@[simp]
theorem step_settings (session : Session) (step : Step) :
    (session.step step).session.sources.settings = session.sources.settings := by
  cases step <;> simp [Session.step, parseValue, parseText, parseFile]

/-- A step keeps the layers and adds others behind them. -/
theorem layers_prefix_step (session : Session) (step : Step) :
    session.router.layers <+: (session.step step).session.router.layers := by
  by_cases loads : step = .load ∧ session.phase = .compiled
  · obtain ⟨rfl, compiled⟩ := loads
    rw [Session.step, load_layers_of_compiled compiled]
    exact List.prefix_append _ _
  · have kept := step_router_of_not_load (not_and_or.mp loads)
    exact kept.symm ▸ List.prefix_rfl

/-! ## Runs -/

theorem run_append (session : Session) (first second : List Step) :
    session.run (first ++ second) = (session.run first).run second := by
  induction first generalizing session with
  | nil => rfl
  | cons step rest ih => exact ih _

theorem layers_prefix_run (session : Session) (steps : List Step) :
    session.router.layers <+: (session.run steps).router.layers := by
  induction steps generalizing session with
  | nil => exact List.prefix_rfl
  | cons step rest ih => exact (session.layers_prefix_step step).trans (ih _)

theorem attempts_cons_load {session : Session} (compiled : session.phase = .compiled)
    (rest : List Step) :
    session.attempts (.load :: rest) = session :: session.load.session.attempts rest := by
  simp [attempts, compiled, step]

theorem attempts_cons_of_not_load {session : Session} {step : Step}
    (other : step ≠ .load ∨ session.phase ≠ .compiled) (rest : List Step) :
    session.attempts (step :: rest) = (session.step step).session.attempts rest := by
  rw [attempts]
  intro loads compiled
  exact other.elim (absurd loads) (absurd compiled)

theorem attempts_append (session : Session) (first second : List Step) :
    session.attempts (first ++ second) =
      session.attempts first ++ (session.run first).attempts second := by
  induction first generalizing session with
  | nil => rfl
  | cons step rest ih =>
      rw [List.cons_append, run]
      by_cases loads : step = .load ∧ session.phase = .compiled
      · obtain ⟨rfl, compiled⟩ := loads
        rw [attempts_cons_load compiled, attempts_cons_load compiled, ih]
        rfl
      · have other := not_and_or.mp loads
        rw [attempts_cons_of_not_load other, attempts_cons_of_not_load other, ih]

/-- What every load of a run finds: the modules and the settings of the start, a
compiled tree, and a router to which the rest of the run only adds. -/
theorem of_mem_attempts {start attempt : Session} {steps : List Step}
    (member : attempt ∈ start.attempts steps) :
    attempt.modules = start.modules ∧ attempt.sources.settings = start.sources.settings ∧
      attempt.phase = .compiled ∧
      attempt.load.session.router.layers <+: (start.run steps).router.layers := by
  induction steps generalizing start with
  | nil => simp [attempts] at member
  | cons step rest ih =>
      by_cases loads : step = .load ∧ start.phase = .compiled
      · obtain ⟨rfl, compiled⟩ := loads
        rw [attempts_cons_load compiled] at member
        rcases List.mem_cons.mp member with rfl | member
        · exact ⟨rfl, rfl, compiled, layers_prefix_run _ rest⟩
        · simpa [run, step] using ih member
      · rw [attempts_cons_of_not_load (not_and_or.mp loads)] at member
        simpa [run] using ih member

/-- A layer that a load of the run has registered is where it was registered, and
it is the layer of its registration. -/
theorem layer_of_registered {start attempt : Session} {steps : List Step}
    (member : attempt ∈ start.attempts steps) {place : Nat} {registration : Registration}
    (declared : attempt.registrations[place]? = some registration)
    (registered : place < attempt.loaded.layers.length) :
    ∃ layer, (start.run steps).router.layers[attempt.firstLayer + place]? = some layer ∧
      start.modules.layer start.sources.settings registration = .ok layer := by
  obtain ⟨sameModules, sameSettings, compiled, kept⟩ := of_mem_attempts member
  obtain ⟨later, layers_eq⟩ := kept
  refine ⟨attempt.loaded.layers[place], ?_, ?_⟩
  · rw [← layers_eq, load_layers_of_compiled compiled, List.append_assoc, firstLayer,
      Nat.add_assoc, List.getElem?_append_right (Nat.le_add_right _ _), Nat.add_sub_cancel_left,
      Nat.add_comm 1 place, List.cons_append, List.getElem?_cons_succ,
      List.getElem?_append_left registered, List.getElem?_eq_getElem registered]
  · rw [← sameModules, ← sameSettings]
    exact layer_eq_ok_of_getElem?_load declared (List.getElem?_eq_getElem registered)

/-- The initializer of a load of the run is where it was registered. -/
theorem initializer_of_mem_attempts {start attempt : Session} {steps : List Step}
    (member : attempt ∈ start.attempts steps) :
    (start.run steps).router.layers[attempt.router.layers.length]? =
      some (.mount "/" .initializer) := by
  obtain ⟨_, _, compiled, later, layers_eq⟩ := of_mem_attempts member
  rw [← layers_eq, load_layers_of_compiled compiled, List.append_assoc,
    List.getElem?_append_right (Nat.le_refl _), Nat.sub_self]
  rfl

/-- Every layer that a run adds is the initializer of a load of the run, or was
registered by it. -/
theorem exists_attempt_of_lt {start : Session} {steps : List Step} {position : Nat}
    (added : start.router.layers.length ≤ position)
    (within : position < (start.run steps).router.layers.length) :
    ∃ attempt ∈ start.attempts steps,
      position = attempt.router.layers.length ∨
        ∃ place < attempt.loaded.layers.length, position = attempt.firstLayer + place := by
  induction steps generalizing start with
  | nil => exact absurd within (Nat.not_lt.mpr added)
  | cons step rest ih =>
      by_cases later : (start.step step).session.router.layers.length ≤ position
      · obtain ⟨attempt, member, found⟩ := ih later within
        refine ⟨attempt, ?_, found⟩
        by_cases loads : step = .load ∧ start.phase = .compiled
        · obtain ⟨rfl, compiled⟩ := loads
          rw [attempts_cons_load compiled]
          exact List.mem_cons_of_mem _ member
        · rw [attempts_cons_of_not_load (not_and_or.mp loads)]
          exact member
      · by_cases loads : step = .load ∧ start.phase = .compiled
        · obtain ⟨rfl, compiled⟩ := loads
          rw [Session.step, load_layers_of_compiled compiled, List.length_append,
            List.length_cons] at later
          refine ⟨start, ?_, ?_⟩
          · rw [attempts_cons_load compiled]
            exact List.mem_cons_self
          · rcases Nat.eq_or_lt_of_le added with same | beyond
            · exact .inl same.symm
            · exact .inr ⟨position - start.firstLayer, by unfold firstLayer; omega,
                (Nat.add_sub_cancel' beyond).symm⟩
        · rw [step_router_of_not_load (not_and_or.mp loads)] at later
          exact absurd added later

/-- Every layer of a run is an initializer, or the layer of a registration that a load
of the run has made. -/
theorem origin_of_layer {sources : Element.Sources} {modules : Modules} {steps : List Step}
    {position : Nat} {layer : Layer}
    (present : ((start sources modules).run steps).router.layers[position]? = some layer) :
    layer = .mount "/" .initializer ∨
      ∃ attempt ∈ (start sources modules).attempts steps, ∃ place registration,
        attempt.registrations[place]? = some registration ∧
        place < attempt.loaded.layers.length ∧ position = attempt.firstLayer + place ∧
        modules.layer sources.settings registration = .ok layer := by
  obtain ⟨within, _⟩ := List.getElem?_eq_some_iff.mp present
  obtain ⟨attempt, member, found⟩ := exists_attempt_of_lt (Nat.zero_le position) within
  rcases found with rfl | ⟨place, registered, rfl⟩
  · rw [initializer_of_mem_attempts member] at present
    exact .inl (Option.some.inj present).symm
  · have declared :=
      List.getElem?_eq_getElem (Nat.lt_of_lt_of_le registered (load_layers_length_le _ _ _))
    obtain ⟨made, presentHere, made_eq⟩ := layer_of_registered member declared registered
    cases Option.some.inj (present.symm.trans presentHere)
    exact .inr ⟨attempt, member, place, _, declared, registered, rfl, made_eq⟩

end RoutePlan.Session
