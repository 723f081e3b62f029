import RoutePlan.NodeChecks
import RoutePlan.ParamKind

/-!
# Declared parameters

A parameter is declared by the name of its kind, or by a mapping with the kind
and perhaps a default, which makes it optional.  Validation takes a missing value
(absent or null) to the default and converts a present one.
-/

namespace RoutePlan

/-- A declared parameter. -/
structure Parameter where
  name : String
  kind : ParamKind
  /-- The converted default of an optional parameter. -/
  default? : Option Value

/-- A request value that was not accepted: the status it asks for, and why. -/
structure ValidationFailure where
  code : Nat
  message : String
deriving DecidableEq

namespace Parameter

/-! ## Declarations -/

/-- Convert a declared default.  Null and the empty string stay as written. -/
def castDefault (name : String) (kind : ParamKind) : Value → Except PlanError Value
  | .null => .ok .null
  | .string "" => .ok (.string "")
  | value =>
      match kind.cast value with
      | .ok converted => .ok converted
      | .error reason => .error (.invalid (.defaultRejected name reason.message))

/-- Read the name of a kind. -/
def readKind (kindName : String) : Except PlanError ParamKind :=
  match ParamKind.parse? kindName with
  | some kind => .ok kind
  | none => .error (.invalid (.unknownParameterKind kindName))

/-- The kind in the mapping of a declaration. -/
def kindField (name : String) : Option Value → Except PlanError ParamKind
  | some (.string kindName) => readKind kindName
  | some other => .error (.invalid (.parameterKindNotText name other.kindName))
  | none => .error (.invalid (.parameterKindMissing name))

/-- The default in the mapping of a declaration. -/
def defaultField (name : String) (kind : ParamKind) :
    Option Value → Except PlanError (Option Value)
  | none => .ok none
  | some value => (castDefault name kind value).map some

/-- The keys that declarations use. -/
def recognizedKeys : List String :=
  ["type", "default_value"]

/-- Declare a parameter. -/
def declare (name : String) (declaration : Value) : Checked Parameter :=
  if Text.isBlankText name then .reject .parameterNotNamed
  else
    match declaration with
    | .null => .fail (.nodeMissing ⟨.parameter, name⟩)
    | .string kindName => do
        let kind ← .ofExcept (readKind kindName)
        return ⟨name, kind, none⟩
    | .map config => do
        .warn (unusedKeys ⟨.parameter, name⟩ recognizedKeys config)
        let kind ← .ofExcept (kindField name (config.lookup "type"))
        let default? ← .ofExcept (defaultField name kind (config.lookup "default_value"))
        return ⟨name, kind, default?⟩
    | other => .reject (.parameterShape name other.kindName)

/-- Declare the parameters of a mapping; absent and null declare none. -/
def declareAll (node : NodeName) (field : String) : Option Value → Checked (List Parameter)
  | none => pure []
  | some .null => pure []
  | some (.map declarations) =>
      Checked.traverse (fun declaration => declare declaration.1 declaration.2) declarations
  | some other => .reject (.fieldNotMapping node field other.kindName)

/-- The inherited parameters, then the local ones; a name is declared once. -/
def inherit (node : NodeName) (inherited : List Parameter) :
    List Parameter → Except PlanError (List Parameter)
  | [] => .ok inherited
  | parameter :: rest =>
      if inherited.any fun other => other.name == parameter.name then
        .error (.invalid (.parameterRedeclared node parameter.name))
      else inherit node (inherited ++ [parameter]) rest

/-- The declaration as listings show it. -/
def display (parameter : Parameter) : String :=
  parameter.name ++ ": " ++ parameter.kind.name ++
    match parameter.default? with
    | none => ""
    | some value => " = " ++ value.text

/-! ## Validation -/

/-- Validate a request value; absent and null are both missing. -/
def validate (parameter : Parameter) (raw : Option Value) : Except ValidationFailure Value :=
  match raw.filter fun value => !value.isNull with
  | none =>
      match parameter.default? with
      | some value => .ok value
      | none => .error ⟨400, s!"Parameter \"{parameter.name}\" is mandatory"⟩
  | some value =>
      match parameter.kind.cast value with
      | .ok converted => .ok converted
      | .error reason =>
          .error ⟨reason.code,
            s!"Parameter \"{parameter.name}\" cannot be validated (Reason: {reason.message})"⟩

/-- Validate declared parameters one after the other, up to the first failure,
adding to what was validated before. -/
def validateFrom (source validated : Entries String Value) :
    List Parameter → Except ValidationFailure (Entries String Value)
  | [] => .ok validated
  | parameter :: rest => do
      let value ← parameter.validate (source.lookup parameter.name)
      validateFrom source (Entries.insert parameter.name value validated) rest

/-- Validate the declared parameters against a source.  What the source holds
besides is dropped. -/
def validateAll (declared : List Parameter) (source : Entries String Value) :
    Except ValidationFailure (Entries String Value) :=
  validateFrom source [] declared

end Parameter

end RoutePlan
