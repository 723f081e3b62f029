import RoutePlan.Proofs.Tree.Items

/-!
# Traced compilations

The same compilation with a log: the nodes that it constructs, in order, each with the
place where it stands and the warnings that it gives about its own keys.  A node whose name
is not accepted is not constructed.

Without the log a traced compilation is the compilation (`erase_traceItems`), so the
warnings of a compilation are those of the nodes in its log, one node after the other.
-/

namespace RoutePlan

/-- Where a node stands: the file of its document, if it is not the document itself, and the
keys that lead to it from the top. -/
structure Place where
  file? : Option (List String)
  keys : List String
deriving DecidableEq

namespace Place

/-- The place as seen from a mapping that has the mapping of the place under a key. -/
def under (key : String) (place : Place) : Place :=
  match place.file? with
  | none => ⟨none, key :: place.keys⟩
  | some _ => place

/-- The place as seen from a document that imports the file of the document. -/
def inFile (file : List String) (place : Place) : Place :=
  ⟨some (place.file?.getD file), place.keys⟩

end Place

/-- A node that is constructed, and the warnings about its keys. -/
structure Construction where
  place : Place
  warnings : List Warning

/-- An outcome with the nodes that were constructed on the way. -/
structure Traced (α : Type) where
  log : List Construction
  outcome : Except PlanError α

namespace Traced

variable {α β : Type}

/-- Go on with the result of a construction; the logs are kept in order. -/
def andThen (first : Traced α) (next : α → Traced β) : Traced β :=
  match first.outcome with
  | .error error => ⟨first.log, .error error⟩
  | .ok value => ⟨first.log ++ (next value).log, (next value).outcome⟩

instance : Monad Traced where
  pure value := ⟨[], .ok value⟩
  bind := andThen

/-- A result without nodes. -/
def ofExcept (outcome : Except PlanError α) : Traced α :=
  ⟨[], outcome⟩

/-- Stop with an error. -/
def fail (error : PlanError) : Traced α :=
  ofExcept (.error error)

/-- Construct a node that stands here and gives the warnings. -/
def construct (warnings : List Warning) : Traced Unit :=
  ⟨[⟨⟨none, []⟩, warnings⟩], .ok ()⟩

/-- Change every entry of the log. -/
def relog (change : Construction → Construction) (traced : Traced α) : Traced α :=
  ⟨traced.log.map change, traced.outcome⟩

/-- What is traced under a key of a mapping. -/
def under (key : String) (traced : Traced α) : Traced α :=
  traced.relog fun node => { node with place := node.place.under key }

/-- What is traced in a file that is imported. -/
def inFile (file : List String) (traced : Traced α) : Traced α :=
  traced.relog fun node => { node with place := node.place.inFile file }

/-- The entries of a mapping one after the other, each under its key. -/
def each (trace : String → Value → Traced α) (entries : Entries String Value) :
    Traced (List α) :=
  entries.mapM fun entry => (trace entry.1 entry.2).under entry.1

/-- The construction without its log. -/
def erase (traced : Traced α) : Checked α :=
  ⟨traced.log.flatMap Construction.warnings, traced.outcome⟩

/-! ## Laws -/

theorem bind_pure_eq (first : Traced α) : (first >>= pure) = first := by
  obtain ⟨log, outcome⟩ := first
  show andThen _ _ = _
  cases outcome with
  | error error => rfl
  | ok value => exact congrArg (Traced.mk · _) (List.append_nil log)

theorem pure_bind_eq (value : α) (next : α → Traced β) : (pure value >>= next) = next value :=
  rfl

theorem bind_assoc_eq {γ : Type} (first : Traced α) (next : α → Traced β)
    (last : β → Traced γ) :
    (first >>= next >>= last) = first >>= fun value => next value >>= last := by
  show andThen (andThen _ _) _ = andThen _ fun value => andThen _ _
  unfold andThen
  cases first.outcome with
  | error => rfl
  | ok value => cases outcome : (next value).outcome <;> simp [outcome]

instance : LawfulMonad Traced :=
  LawfulMonad.mk' Traced bind_pure_eq pure_bind_eq bind_assoc_eq

theorem ofExcept_ok (value : α) : ofExcept (.ok value) = (pure value : Traced α) :=
  rfl

@[simp]
theorem fail_bind (error : PlanError) (next : α → Traced β) :
    (fail error >>= next) = fail error :=
  rfl

section Relog

variable (change : Construction → Construction)

@[simp]
theorem relog_pure (value : α) : relog change (pure value) = pure value :=
  rfl

@[simp]
theorem relog_ofExcept (outcome : Except PlanError α) :
    relog change (ofExcept outcome) = ofExcept outcome :=
  rfl

@[simp]
theorem relog_bind (first : Traced α) (next : α → Traced β) :
    relog change (first >>= next) = relog change first >>= fun value =>
      relog change (next value) := by
  show relog change (first.andThen next) = (relog change first).andThen _
  unfold andThen relog
  cases first.outcome <;> simp

@[simp]
theorem relog_map (result : α → β) (first : Traced α) :
    relog change (result <$> first) = result <$> relog change first := by
  simp only [← bind_pure_comp, relog_bind, relog_pure]

/-- Two changes of the log are one after the other. -/
theorem relog_relog (later : Construction → Construction) (traced : Traced α) :
    relog later (relog change traced) = relog (fun node => later (change node)) traced := by
  simp [relog]

end Relog

theorem each_cons (trace : String → Value → Traced α) (entry : String × Value)
    (rest : Entries String Value) : each trace (entry :: rest) = do
      let first ← (trace entry.1 entry.2).under entry.1
      let others ← each trace rest
      return first :: others :=
  List.mapM_cons

theorem each_append (trace : String → Value → Traced α) (first second : Entries String Value) :
    each trace (first ++ second) = do
      let built ← each trace first
      let others ← each trace second
      return built ++ others :=
  List.mapM_append

/-! ## Without the log -/

@[simp]
theorem erase_pure (value : α) : erase (pure value) = pure value :=
  rfl

@[simp]
theorem erase_ofExcept (outcome : Except PlanError α) :
    erase (ofExcept outcome) = Checked.ofExcept outcome :=
  rfl

@[simp]
theorem erase_fail (error : PlanError) : erase (fail error : Traced α) = Checked.fail error :=
  rfl

@[simp]
theorem erase_construct (warnings : List Warning) :
    erase (construct warnings) = Checked.warn warnings := by
  simp [erase, construct, Checked.warn]

@[simp]
theorem erase_bind (first : Traced α) (next : α → Traced β) :
    erase (first >>= next) = erase first >>= fun value => erase (next value) := by
  show erase (first.andThen next) = (erase first).andThen _
  unfold andThen Checked.andThen erase
  cases first.outcome <;> simp

@[simp]
theorem erase_map (result : α → β) (first : Traced α) :
    erase (result <$> first) = result <$> erase first := by
  simp only [← bind_pure_comp, erase_bind, erase_pure]

@[simp]
theorem erase_under (key : String) (traced : Traced α) :
    erase (traced.under key) = erase traced := by
  simp [erase, under, relog, List.flatMap_map]

@[simp]
theorem erase_inFile (file : List String) (traced : Traced α) :
    erase (traced.inFile file) = erase traced := by
  simp [erase, inFile, relog, List.flatMap_map]

theorem erase_each (trace : String → Value → Traced α) (entries : Entries String Value) :
    erase (each trace entries) =
      Checked.traverse (fun entry => erase (trace entry.1 entry.2)) entries := by
  induction entries with
  | nil => rfl
  | cons entry rest ih =>
      rw [each_cons, Checked.traverse, ← ih]
      simp

end Traced

/-! ## Parameters -/

namespace Parameter

/-- The kind and the default of a declaration. -/
def readFields (name : String) (config : Entries String Value) : Except PlanError Parameter := do
  let kind ← kindField name (config.lookup "type")
  let default? ← defaultField name kind (config.lookup "default_value")
  return ⟨name, kind, default?⟩

/-- Declare a parameter. -/
def trace (name : String) (declaration : Value) : Traced Parameter :=
  if Text.isBlankText name then .fail (.invalid .parameterNotNamed)
  else
    match declaration with
    | .null => .fail (.nodeMissing ⟨.parameter, name⟩)
    | .string kindName => do
        .construct []
        let kind ← .ofExcept (readKind kindName)
        return ⟨name, kind, none⟩
    | .map config => do
        .construct (unusedKeys ⟨.parameter, name⟩ recognizedKeys config)
        .ofExcept (readFields name config)
    | other => .fail (.invalid (.parameterShape name other.kindName))

/-- Declare the parameters of a mapping. -/
def traceAll (node : NodeName) (field : String) : Option Value → Traced (List Parameter)
  | none => pure []
  | some .null => pure []
  | some (.map declarations) => Traced.each trace declarations
  | some other => .fail (.invalid (.fieldNotMapping node field other.kindName))

theorem erase_trace (name : String) (declaration : Value) :
    (trace name declaration).erase = declare name declaration := by
  unfold trace declare
  split
  · rfl
  · cases declaration with
    | string kindName => simp
    | map config => simp [readFields, Checked.ofExcept_bind, Checked.ofExcept_map]
    | _ => rfl

theorem erase_traceAll (node : NodeName) (field : String) (config : Option Value) :
    (traceAll node field config).erase = declareAll node field config := by
  unfold traceAll declareAll
  cases config with
  | none => rfl
  | some value =>
      cases value with
      | map declarations => simp only [Traced.erase_each, erase_trace]
      | _ => rfl

end Parameter

/-! ## Methods and routes -/

namespace Method

/-- Compile a method from its fields. -/
def traceFields (settings : RouteSettings) (params : List Parameter) (verbName : String)
    (verb : Verb) (config : Entries String Value) : Traced Method := do
  let node : NodeName := ⟨.method, verbName⟩
  let controller ← .ofExcept (readController verbName (config.lookup "controller"))
  let status ← .ofExcept (readStatus settings verbName (config.lookup "response_code"))
  let body ← (Parameter.traceAll node "body" (config.lookup "body")).under "body"
  let pre ← .ofExcept (readMiddlewares node "pre_middlewares" (config.lookup "pre_middlewares"))
  let post ← .ofExcept
    (readMiddlewares node "post_middlewares" (config.lookup "post_middlewares"))
  return {
    verb, controller, status, params, body, pre, post
    validated := readValidated (config.lookup "abstract") }

/-- A method depends on what is read from its fields. -/
theorem traceFields_congr {settings : RouteSettings} {params : List Parameter}
    {verbName : String} {verb : Verb} {config other : Entries String Value}
    (controller : readController verbName (other.lookup "controller") =
      readController verbName (config.lookup "controller"))
    (status : readStatus settings verbName (other.lookup "response_code") =
      readStatus settings verbName (config.lookup "response_code"))
    (body : Parameter.traceAll ⟨.method, verbName⟩ "body" (other.lookup "body") =
      Parameter.traceAll ⟨.method, verbName⟩ "body" (config.lookup "body"))
    (pre : readMiddlewares ⟨.method, verbName⟩ "pre_middlewares"
        (other.lookup "pre_middlewares") =
      readMiddlewares ⟨.method, verbName⟩ "pre_middlewares" (config.lookup "pre_middlewares"))
    (post : readMiddlewares ⟨.method, verbName⟩ "post_middlewares"
        (other.lookup "post_middlewares") =
      readMiddlewares ⟨.method, verbName⟩ "post_middlewares" (config.lookup "post_middlewares"))
    (validated : readValidated (other.lookup "abstract") =
      readValidated (config.lookup "abstract")) :
    traceFields settings params verbName verb other =
      traceFields settings params verbName verb config := by
  unfold traceFields
  simp only [controller, status, body, pre, post, validated]

/-- Compile a method. -/
def trace (settings : RouteSettings) (params : List Parameter) (verbName : String)
    (value : Value) : Traced Method :=
  match Verb.parse? verbName with
  | none => .fail (.invalid (.unknownVerb verbName))
  | some verb => do
      let config ← .ofExcept (requireConfig verbName value)
      .construct (unusedKeys ⟨.method, verbName⟩ recognizedKeys config)
      traceFields settings params verbName verb config

theorem erase_trace (settings : RouteSettings) (params : List Parameter) (verbName : String)
    (value : Value) :
    (trace settings params verbName value).erase = compile settings params verbName value := by
  unfold trace compile
  cases Verb.parse? verbName with
  | none => rfl
  | some verb => simp [traceFields, Parameter.erase_traceAll]

end Method

namespace MountHead

/-- Compile the shared fields of a root or a route. -/
def traceFields (node : NodeName) (pathField : String) (inherited : List Parameter)
    (config : Entries String Value) : Traced MountHead := do
  let pre ← .ofExcept (readMiddlewares node "pre_middlewares" (config.lookup "pre_middlewares"))
  let post ← .ofExcept
    (readMiddlewares node "post_middlewares" (config.lookup "post_middlewares"))
  let path ← .ofExcept (readPath node pathField (config.lookup pathField))
  let own ← (Parameter.traceAll node "params" (config.lookup "params")).under "params"
  let params ← .ofExcept (Parameter.inherit node inherited own)
  return { path, params, pre, post }

/-- The shared fields depend on what is read from them. -/
theorem traceFields_congr {node : NodeName} {pathField : String} {inherited : List Parameter}
    {config other : Entries String Value}
    (pre : readMiddlewares node "pre_middlewares" (other.lookup "pre_middlewares") =
      readMiddlewares node "pre_middlewares" (config.lookup "pre_middlewares"))
    (post : readMiddlewares node "post_middlewares" (other.lookup "post_middlewares") =
      readMiddlewares node "post_middlewares" (config.lookup "post_middlewares"))
    (path : readPath node pathField (other.lookup pathField) =
      readPath node pathField (config.lookup pathField))
    (own : Parameter.traceAll node "params" (other.lookup "params") =
      Parameter.traceAll node "params" (config.lookup "params")) :
    traceFields node pathField inherited other = traceFields node pathField inherited config := by
  unfold traceFields
  rw [pre, post, path, own]

theorem erase_traceFields (node : NodeName) (pathField : String) (recognized : List String)
    (inherited : List Parameter) (config : Entries String Value) :
    (Traced.construct (unusedKeys node recognized config) >>= fun _ =>
        traceFields node pathField inherited config).erase =
      compile node pathField recognized inherited config := by
  simp [traceFields, compile, Parameter.erase_traceAll]

end MountHead

namespace Route

/-- Compile the methods of a route. -/
def traceMethods (settings : RouteSettings) (name : String) (params : List Parameter) :
    Option Value → Traced (List Method)
  | none => .fail (.emptyMethods name)
  | some .null => .fail (.emptyMethods name)
  | some (.map []) => .fail (.emptyMethods name)
  | some (.map methods) => Traced.each (Method.trace settings params) methods
  | some other => .fail (.invalid (.fieldNotMapping ⟨.route, name⟩ "methods" other.kindName))

/-- Compile a route from its fields. -/
def traceFields (settings : RouteSettings) (inherited : List Parameter) (name : String)
    (config : Entries String Value) : Traced Route := do
  let head ← MountHead.traceFields ⟨.route, name⟩ "path" inherited config
  let methods ← (traceMethods settings name head.params (config.lookup "methods")).under "methods"
  return {
    name, methods
    path := head.path
    params := head.params
    pre := head.pre
    post := head.post }

/-- Compile a route. -/
def trace (settings : RouteSettings) (inherited : List Parameter) (name : String)
    (value : Value) : Traced Route := do
  let config ← .ofExcept (requireMapping ⟨.route, name⟩ value)
  .construct (unusedKeys ⟨.route, name⟩ recognizedKeys config)
  traceFields settings inherited name config

theorem erase_traceMethods (settings : RouteSettings) (name : String) (params : List Parameter)
    (field : Option Value) :
    (traceMethods settings name params field).erase =
      compileMethods settings name params field := by
  unfold traceMethods compileMethods
  cases field with
  | none => rfl
  | some value =>
      cases value with
      | map methods =>
          cases methods with
          | nil => rfl
          | cons entry rest => simp only [Traced.erase_each, Method.erase_trace]
      | _ => rfl

theorem erase_trace (settings : RouteSettings) (inherited : List Parameter) (name : String)
    (value : Value) :
    (trace settings inherited name value).erase = compile settings inherited name value := by
  simp [trace, traceFields, compile, ← MountHead.erase_traceFields, erase_traceMethods]

end Route

/-! ## Elements -/

namespace Element

/-- A root has a mapping of routes that is not empty. -/
def requireRoutes (key : String) : Option Value → Except PlanError Unit
  | none => .error (.emptyRoutes key)
  | some .null => .error (.emptyRoutes key)
  | some (.map []) => .error (.emptyRoutes key)
  | some (.map _) => .ok ()
  | some other => .error (.invalid (.fieldNotMapping ⟨.root, key⟩ "routes" other.kindName))

/-- Compile a root from its fields, apart from what is inside. -/
def traceRoot (inherited : List Parameter) (key : String) (config : Entries String Value) :
    Traced Root := do
  let head ← MountHead.traceFields ⟨.root, key⟩ "root" inherited config
  .ofExcept (requireRoutes key (config.lookup "routes"))
  return Root.ofHead key head

/-- Compile an entry apart from what is inside. -/
def traceFrame (sources : Sources) (inherited : List Parameter) (key : String) (value : Value) :
    Traced Frame :=
  match classify key value with
  | .error error => .fail error
  | .ok .imports => do
      let names ← .ofExcept (importNames value)
      return .imports (names.map sources.path) inherited
  | .ok .route => do return .route (← Route.trace sources.settings inherited key value)
  | .ok .root =>
      match value with
      | .map config => do
          .construct (unusedKeys ⟨.root, key⟩ Root.recognizedKeys config)
          return .root (← traceRoot inherited key config)
      | other => .fail (.invalid (.nodeNotMapping ⟨.root, key⟩ other.kindName))

/-- Compile some items. -/
def traceItems (sources : Sources) (visited : List Location) (inherited : List Parameter) :
    List Item → Traced (List Element)
  | [] => pure []
  | .entry key value :: rest => do
      let element ← Traced.under key do
        let frame ← traceFrame sources inherited key value
        let children ←
          (traceItems sources visited frame.params (inside key value)).under "routes"
        return frame.close children
      let others ← traceItems sources visited inherited rest
      return element :: others
  | .file name :: rest =>
      (if _cycle : sources.location name ∈ visited then
          Traced.fail (.invalid (.importCycle (visited ++ [sources.location name])))
        else
          match _contents : sources.files.read (sources.path name) with
          | .error _ => .fail (.fileNotFound (sources.path name))
          | .ok octets => do
              let entries ← .ofExcept (fileEntries (sources.path name) octets)
              (traceItems sources (visited ++ [sources.location name]) inherited
                (items entries)).inFile (sources.place name)) >>= fun first => do
        let others ← traceItems sources visited inherited rest
        return first ++ others
termination_by list => (unvisited sources.files visited, Item.weight list, list.length)
decreasing_by
  · have := weight_inside_le key value
    refine .right _ (.left _ _ ?_)
    rw [Item.weight]
    omega
  · refine .right _ (.left _ _ ?_)
    rw [Item.weight]
    omega
  · exact .left _ _ (unvisited_lt _contents _cycle)
  · refine .right _ (.right _ ?_)
    rw [List.length_cons]
    omega

/-- Compile an entry. -/
def traceEntry (sources : Sources) (visited : List Location) (inherited : List Parameter)
    (key : String) (value : Value) : Traced Element := do
  let frame ← traceFrame sources inherited key value
  let children ← (traceItems sources visited frame.params (inside key value)).under "routes"
  return frame.close children

/-- Compile a named file. -/
def traceFile (sources : Sources) (visited : List Location) (inherited : List Parameter)
    (name : String) : Traced (List Element) :=
  if sources.location name ∈ visited then
    .fail (.invalid (.importCycle (visited ++ [sources.location name])))
  else
    match sources.files.read (sources.path name) with
    | .error _ => .fail (.fileNotFound (sources.path name))
    | .ok octets => do
        let entries ← .ofExcept (fileEntries (sources.path name) octets)
        (traceItems sources (visited ++ [sources.location name]) inherited
          (items entries)).inFile (sources.place name)

section Equations

variable (sources : Sources) (visited : List Location) (inherited : List Parameter)

theorem traceItems_nil : traceItems sources visited inherited [] = pure [] := by
  rw [traceItems]

theorem traceItems_entry (key : String) (value : Value) (rest : List Item) :
    traceItems sources visited inherited (.entry key value :: rest) = do
      let element ← (traceEntry sources visited inherited key value).under key
      let others ← traceItems sources visited inherited rest
      return element :: others := by
  rw [traceItems]
  rfl

theorem traceItems_file (name : String) (rest : List Item) :
    traceItems sources visited inherited (.file name :: rest) = do
      let first ← traceFile sources visited inherited name
      let others ← traceItems sources visited inherited rest
      return first ++ others := by
  rw [traceItems]
  unfold traceFile
  congr 1
  split
  · rfl
  · split
    · next contents => rw [contents]
    · next contents => rw [contents]

/-- The entries of a mapping are compiled one after the other. -/
theorem traceItems_items (entries : Entries String Value) :
    traceItems sources visited inherited (items entries) =
      Traced.each (traceEntry sources visited inherited) entries := by
  induction entries with
  | nil => exact traceItems_nil sources visited inherited
  | cons entry rest ih =>
      rw [items_cons, traceItems_entry, ih]
      rw [Traced.each_cons]

end Equations

variable {sources : Sources}

theorem erase_traceFrame (inherited : List Parameter) (key : String) (value : Value) :
    (traceFrame sources inherited key value).erase = frame sources inherited key value := by
  unfold traceFrame frame
  cases classify key value with
  | error error => rfl
  | ok kind =>
      cases kind with
      | imports => simp
      | route => simp [Route.erase_trace]
      | root =>
          cases value with
          | map config =>
              simp only [traceRoot, ← MountHead.erase_traceFields, bind_assoc, bind_pure_comp,
                map_bind, Traced.erase_bind, Traced.erase_map, Traced.erase_construct,
                Traced.erase_ofExcept]
              congr 1
              funext _
              congr 1
              funext head
              cases config.lookup "routes" with
              | none => rfl
              | some held =>
                  cases held with
                  | map entries => cases entries <;> rfl
                  | _ => rfl
          | _ => rfl

/-- Without its log, a traced compilation is the compilation. -/
theorem erase_traceItems (visited : List Location) (inherited : List Parameter)
    (list : List Item) :
    (traceItems sources visited inherited list).erase =
      compileItems sources visited inherited list := by
  induction visited, list using insideInduction sources generalizing inherited with
  | nil visited => rw [traceItems_nil, compileItems_nil, Traced.erase_pure]
  | entry visited key value rest insideIH restIH =>
      rw [traceItems_entry, compileItems_cons, compileItem_entry, traceEntry]
      simp only [Traced.erase_bind, Traced.erase_under, Traced.erase_pure, erase_traceFrame,
        insideIH, restIH, bind_assoc, pure_bind, List.singleton_append]
  | file visited name rest holdsIH restIH =>
      rw [traceItems_file, compileItems_cons, compileItem_file, traceFile]
      simp only [Traced.erase_bind, Traced.erase_pure, restIH]
      congr 1
      split
      · rfl
      · next fresh =>
          cases contents : sources.files.read (sources.path name) with
          | error problem => rfl
          | ok octets =>
              simp only [Traced.erase_bind, Traced.erase_ofExcept, Traced.erase_inFile]
              refine Checked.bind_congr_of_ok fun entries held => ?_
              exact holdsIH entries ⟨fresh, octets, contents, held⟩ (items entries) inherited

end Element

end RoutePlan
