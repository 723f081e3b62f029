import RoutePlan.Proofs.Tree.ImportChain

/-!
# Compilation with an import stack

The files being imported are a parameter of a compilation.  Here the same compilation
keeps them on one stack instead, which an import pushes and pops, and its nesting is
bounded by a fuel; every state of the stack is recorded.

With fuel for the locations that the imports lead to and that are not being imported, the
compilation comes to an end with the outcome of `compileItems` (`process_leaves`).  On the way
the stack holds distinct locations, those of a chain of nested imports, and it is left as it
was found.
-/

namespace RoutePlan

namespace Element

/-- The files being imported, outermost first, and all earlier states of that stack. -/
structure Progress where
  stack : List Location
  history : List (List Location)

namespace Progress

/-- Nothing is being imported. -/
def start : Progress := ⟨[], [[]]⟩

/-- Make a list the stack. -/
def record (progress : Progress) (stack : List Location) : Progress :=
  ⟨stack, progress.history ++ [stack]⟩

/-- Begin to import a file. -/
def push (progress : Progress) (location : Location) : Progress :=
  progress.record (progress.stack ++ [location])

/-- End the innermost import. -/
def pop (progress : Progress) : Progress :=
  progress.record progress.stack.dropLast

end Progress

/-- A construction on an import stack.  It may not come to an end. -/
def Process (α : Type) := Progress → Option (Checked α × Progress)

namespace Process

variable {α β : Type}

/-- A construction that does not use the stack. -/
def lift (built : Checked α) : Process α :=
  fun progress => some (built, progress)

/-- Go on with the result of a construction. -/
def andThen (first : Process α) (next : α → Process β) : Process β :=
  fun progress =>
    match first progress with
    | none => none
    | some (built, after) =>
        match built.outcome with
        | .error error => some (⟨built.warnings, .error error⟩, after)
        | .ok value =>
            (next value after).map fun last =>
              (⟨built.warnings ++ last.1.warnings, last.1.outcome⟩, last.2)

/-- No fuel is left. -/
def stuck : Process α :=
  fun _ => none

instance : Monad Process where
  pure value := lift (pure value)
  bind := andThen

theorem bind_apply_of_error {first : Process α} {next : α → Process β}
    {progress after : Progress} {built : Checked α} {error : PlanError}
    (ran : first progress = some (built, after)) (failed : built.outcome = .error error) :
    (first >>= next) progress = some (⟨built.warnings, .error error⟩, after) := by
  show andThen first next progress = _
  unfold andThen
  rw [ran]
  dsimp only
  rw [failed]

theorem bind_apply_of_ok {first : Process α} {next : α → Process β} {progress after : Progress}
    {built : Checked α} {value : α} (ran : first progress = some (built, after))
    (succeeded : built.outcome = .ok value) :
    (first >>= next) progress = (next value after).map fun last =>
      (⟨built.warnings ++ last.1.warnings, last.1.outcome⟩, last.2) := by
  show andThen first next progress = _
  unfold andThen
  rw [ran]
  dsimp only
  rw [succeeded]

theorem bind_apply_of_none {first : Process α} {next : α → Process β} {progress : Progress}
    (ran : first progress = none) : (first >>= next) progress = none := by
  show andThen first next progress = none
  unfold andThen
  rw [ran]

/-- A change of the result at the end leaves the stack alone. -/
theorem bind_pure_apply {running : Process α} {progress after : Progress} {built : Checked α}
    (ran : running progress = some (built, after)) (change : α → β) :
    (running >>= fun value => pure (change value)) progress = some (change <$> built, after) := by
  obtain ⟨warnings, outcome⟩ := built
  cases outcome with
  | error error => exact bind_apply_of_error ran rfl
  | ok value =>
      rw [bind_apply_of_ok ran rfl]
      rfl

theorem pure_bind_eq (value : α) (next : α → Process β) : (pure value >>= next) = next value := by
  funext progress
  have ran : (pure value : Process α) progress = some (pure value, progress) := rfl
  rw [bind_apply_of_ok ran rfl]
  simp

theorem bind_pure_eq (first : Process α) : (first >>= pure) = first := by
  funext progress
  cases ran : first progress with
  | none => exact bind_apply_of_none ran
  | some last =>
      obtain ⟨⟨warnings, outcome⟩, after⟩ := last
      cases outcome with
      | error error => exact bind_apply_of_error ran rfl
      | ok value =>
          rw [bind_apply_of_ok ran rfl]
          simp [pure, lift]

theorem bind_assoc_eq {γ : Type} (first : Process α) (next : α → Process β)
    (last : β → Process γ) :
    (first >>= next >>= last) = first >>= fun value => next value >>= last := by
  funext progress
  cases ran : first progress with
  | none => rw [bind_apply_of_none ran, bind_apply_of_none (bind_apply_of_none ran)]
  | some middle =>
      obtain ⟨⟨warnings, outcome⟩, after⟩ := middle
      cases outcome with
      | error error =>
          rw [bind_apply_of_error ran rfl]
          exact bind_apply_of_error (bind_apply_of_error ran rfl) rfl
      | ok value =>
          have head : (first >>= next) progress = _ := bind_apply_of_ok ran rfl
          have whole : (first >>= fun value => next value >>= last) progress = _ :=
            bind_apply_of_ok ran rfl
          rw [whole]
          cases later : next value after with
          | none =>
              rw [later] at head
              rw [bind_apply_of_none head, bind_apply_of_none later]
              rfl
          | some further =>
              obtain ⟨⟨others, result⟩, ended⟩ := further
              rw [later] at head
              cases result with
              | error error =>
                  rw [bind_apply_of_error head rfl, bind_apply_of_error later rfl]
                  rfl
              | ok held =>
                  rw [bind_apply_of_ok head rfl, bind_apply_of_ok later rfl]
                  simp [Function.comp_def]

instance : LawfulMonad Process :=
  LawfulMonad.mk' Process bind_pure_eq pure_bind_eq bind_assoc_eq

/-- Build with a file on the stack, unless it is there already.  The file is taken off
the stack whether or not the construction succeeds. -/
def importing (location : Location) (build : Process α) : Process α :=
  fun progress =>
    if location ∈ progress.stack then
      some (.reject (.importCycle (progress.stack ++ [location])), progress)
    else
      (build (progress.push location)).map fun last => (last.1, last.2.pop)

end Process

/-- Compile some items on an import stack, with fuel for nested imports. -/
def process (sources : Sources) (fuel : Nat) (inherited : List Parameter) :
    List Item → Process (List Element)
  | [] => pure []
  | .entry key value :: rest => do
      let frame ← Process.lift (frame sources inherited key value)
      let children ← process sources fuel frame.params (inside key value)
      let others ← process sources fuel inherited rest
      pure (frame.close children :: others)
  | .file name :: rest => do
      let first ← Process.importing (sources.location name)
        (match sources.files.read (sources.path name) with
          | .error _ => Process.lift (.fail (.fileNotFound (sources.path name)))
          | .ok octets => do
              let entries ← Process.lift (.ofExcept (fileEntries (sources.path name) octets))
              match fuel with
              | 0 => Process.stuck
              | less + 1 => process sources less inherited (items entries))
      let others ← process sources fuel inherited rest
      pure (first ++ others)
termination_by list => (fuel, Item.weight list, list.length)
decreasing_by
  · have := weight_inside_le key value
    refine .right _ (.left _ _ ?_)
    rw [Item.weight]
    omega
  · refine .right _ (.left _ _ ?_)
    rw [Item.weight]
    omega
  · refine .left _ _ ?_
    omega
  · refine .right _ (.right _ ?_)
    rw [List.length_cons]
    omega

/-! ## Constructions that leave the stack -/

/-- Begun with the stack, a construction comes to an end with the outcome and leaves the
stack as it was; all states of the stack on the way are allowed. -/
def Leaves {α : Type} (stack : List Location) (allowed : List Location → Prop)
    (running : Process α) (built : Checked α) : Prop :=
  ∀ history, ∃ seen, running ⟨stack, history⟩ = some (built, ⟨stack, history ++ seen⟩) ∧
    ∀ state ∈ seen, allowed state

namespace Leaves

variable {α β : Type} {stack : List Location} {allowed : List Location → Prop}
  {location : Location}

theorem lift (built : Checked α) : Leaves stack allowed (Process.lift built) built :=
  fun history => ⟨[], by rw [List.append_nil]; rfl, by simp⟩

theorem mono {running : Process α} {built : Checked α} {others : List Location → Prop}
    (leaves : Leaves stack allowed running built)
    (more : ∀ state, allowed state → others state) : Leaves stack others running built := by
  intro history
  obtain ⟨seen, ended, each⟩ := leaves history
  exact ⟨seen, ended, fun state member => more state (each state member)⟩

theorem bind {first : Process α} {next : α → Process β} {built : Checked α}
    {result : α → Checked β} (head : Leaves stack allowed first built)
    (tail : ∀ value, built.outcome = .ok value →
      Leaves stack allowed (next value) (result value)) :
    Leaves stack allowed (first >>= next) (built >>= result) := by
  intro history
  obtain ⟨seen, ended, each⟩ := head history
  obtain ⟨warnings, outcome⟩ := built
  show ∃ seen, Process.andThen first next _ = some (Checked.andThen _ result, _) ∧ _
  unfold Process.andThen Checked.andThen
  rw [ended]
  cases outcome with
  | error error => exact ⟨seen, rfl, each⟩
  | ok value =>
      obtain ⟨later, ended, eachLater⟩ := tail value rfl (history ++ seen)
      refine ⟨seen ++ later, ?_, ?_⟩
      · dsimp only
        rw [ended, ← List.append_assoc]
        rfl
      · intro state member
        exact (List.mem_append.1 member).elim (each state) (eachLater state)

/-- An import of a file that is not being imported. -/
theorem importing {build : Process α} {built : Checked α} (fresh : location ∉ stack)
    (within : Leaves (stack ++ [location]) allowed build built)
    (pushed : allowed (stack ++ [location])) (popped : allowed stack) :
    Leaves stack allowed (Process.importing location build) built := by
  intro history
  obtain ⟨seen, ended, each⟩ := within (history ++ [stack ++ [location]])
  refine ⟨[stack ++ [location]] ++ seen ++ [stack], ?_, ?_⟩
  · unfold Process.importing
    rw [if_neg fresh, Progress.push, Progress.record, ended]
    simp [Progress.pop, Progress.record]
  · intro state member
    simp only [List.mem_append, List.mem_singleton] at member
    rcases member with (rfl | member) | rfl
    · exact pushed
    · exact each state member
    · exact popped

/-- An import of a file that is being imported. -/
theorem importing_cycle {build : Process α} (present : location ∈ stack) :
    Leaves stack allowed (Process.importing location build)
      (.reject (.importCycle (stack ++ [location]))) := by
  intro history
  refine ⟨[], ?_, by simp⟩
  rw [Process.importing, if_pos present, List.append_nil]

end Leaves

/-! ## The stack of a compilation -/

/-- A stack that may be seen while some items are compiled: distinct locations, those of a
chain of nested imports above the files that are being imported already. -/
structure StackOf (sources : Sources) (visited : List Location) (list : List Item)
    (stack : List Location) : Prop where
  distinct : stack.Nodup
  chain : stack = visited ∨
    ∃ chain, Nested sources list chain ∧ stack = visited ++ chain.map sources.location

variable {sources : Sources} {visited : List Location} {list : List Item}
  {stack : List Location}

theorem StackOf.mono (seen : StackOf sources visited list stack) {others : List Item}
    (more : fileNames list ⊆ fileNames others) : StackOf sources visited others stack :=
  ⟨seen.distinct, seen.chain.imp_right fun ⟨chain, nested, same⟩ =>
    ⟨chain, nested.mono more, same⟩⟩

/-- A stack seen while a file is imported. -/
theorem StackOf.of_file {name : String} {entries : Entries String Value}
    (seen : StackOf sources (visited ++ [sources.location name]) (items entries) stack)
    (named : name ∈ fileNames list) (holds : sources.Holds visited name entries) :
    StackOf sources visited list stack := by
  refine ⟨seen.distinct, .inr ?_⟩
  rcases seen.chain with same | ⟨chain, nested, same⟩
  · exact ⟨_, .here named, same⟩
  · refine ⟨_, .within named (holds.of_fresh List.not_mem_nil) nested, ?_⟩
    rw [same, List.append_assoc, List.singleton_append, List.map_cons]

/-- With fuel for the locations that are left, a compilation on an import stack has the
outcome of the compilation without one.  A stack of distinct locations keeps them
distinct. -/
theorem process_leaves_stack {fuel : Nat} {inherited : List Parameter}
    (enough : locationsLeft sources visited list ≤ fuel) :
    Leaves visited (fun state => visited.Nodup → StackOf sources visited list state)
      (process sources fuel inherited list) (compileItems sources visited inherited list) := by
  induction visited, list using insideInduction sources generalizing fuel inherited with
  | nil visited =>
      rw [process, compileItems_nil]
      exact .lift _
  | entry visited key value rest insideIH restIH =>
      rw [process, compileItems_cons, compileItem_entry]
      simp only [bind_assoc, pure_bind, List.singleton_append]
      refine (Leaves.lift _).bind fun frame _ => ?_
      have within := fileNames_inside_subset key value rest
      have beside := fileNames_rest_subset (.entry key value) rest
      refine Leaves.bind ((insideIH ((locationsLeft_mono within).trans enough)).mono
        fun state seen distinct => (seen distinct).mono within) fun children _ => ?_
      exact Leaves.bind ((restIH ((locationsLeft_mono beside).trans enough)).mono
        fun state seen distinct => (seen distinct).mono beside) fun others _ => .lift _
  | file visited name rest holdsIH restIH =>
      have named := mem_fileNames_file name rest
      have beside := fileNames_rest_subset (.file name) rest
      rw [process, compileItems_cons, compileItem_file]
      refine Leaves.bind ?_ fun first _ => ?_
      · by_cases present : sources.location name ∈ visited
        · rw [if_pos present]
          exact .importing_cycle present
        · rw [if_neg present]
          have longer (distinct : visited.Nodup) : (visited ++ [sources.location name]).Nodup :=
            nodup_visiting distinct present
          refine .importing present ?_
            (fun distinct => ⟨longer distinct, .inr ⟨_, .here named, rfl⟩⟩)
            (fun distinct => ⟨distinct, .inl rfl⟩)
          cases contents : sources.files.read (sources.path name) with
          | error problem => exact .lift _
          | ok octets =>
              refine (Leaves.lift _).bind fun entries held => ?_
              have holds : sources.Holds visited name entries := ⟨present, octets, contents, held⟩
              have fewer := locationsLeft_lt named holds
              cases fuel with
              | zero => exact absurd (fewer.trans_le enough) (Nat.not_lt_zero _)
              | succ less =>
                  exact (holdsIH entries holds _ (by omega)).mono fun state seen distinct =>
                    (seen (longer distinct)).of_file named holds
      · exact Leaves.bind ((restIH ((locationsLeft_mono beside).trans enough)).mono
          fun state seen distinct => (seen distinct).mono beside) fun others _ => .lift _

theorem process_leaves {fuel : Nat} {inherited : List Parameter}
    (enough : locationsLeft sources visited list ≤ fuel) (distinct : visited.Nodup) :
    Leaves visited (StackOf sources visited list) (process sources fuel inherited list)
      (compileItems sources visited inherited list) :=
  (process_leaves_stack enough).mono fun _ seen => seen distinct

/-- Some items and then others are compiled on the stack one after the other. -/
theorem process_append (fuel : Nat) (inherited : List Parameter) (first second : List Item) :
    process sources fuel inherited (first ++ second) = do
      let elements ← process sources fuel inherited first
      let others ← process sources fuel inherited second
      return elements ++ others := by
  induction first with
  | nil => simp [process]
  | cons item rest ih =>
      cases item with
      | entry key value =>
          rw [List.cons_append, process, process, ih]
          simp only [bind_assoc, pure_bind, List.cons_append]
      | file name =>
          rw [List.cons_append, process, process, ih]
          simp only [bind_assoc, pure_bind, List.append_assoc]

end Element

end RoutePlan
