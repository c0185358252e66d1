import AgentConvert.Json.Access
import AgentConvert.Loom.Temporal

/-!
# Fields of Pi records

The accessors of the Pi importer name the record and the field they fail on.  `piRequire…` wants
the field, `piOptional…` accepts its absence.
-/

namespace AgentConvert.Pi

/-- The error of a record that does not have the form of its type. -/
def piSchemaError {α : Type} (ctx detail : String) : Except String α :=
  .error s!"malformed Pi {ctx}: {detail}"

/-- The value is an object. -/
def piEnsureObject (ctx : String) : Json → Except String Unit
  | .obj _ => pure ()
  | _ => piSchemaError ctx "expected an object"

/-- The field of an object, which must be there. -/
def piRequireField (ctx : String) (j : Json) (key : String) : Except String Json := do
  piEnsureObject ctx j
  match j.getObjVal? key with
  | .ok value => pure value
  | .error _ => piSchemaError ctx s!"missing required field '{key}'"

/-- The field, which must be a string. -/
def piRequireString (ctx : String) (j : Json) (key : String) : Except String String := do
  match ← piRequireField ctx j key with
  | .str value => pure value
  | _ => piSchemaError ctx s!"field '{key}' must be a string"

/-- The field, which must be a string that is not empty. -/
def piRequireNonemptyString (ctx : String) (j : Json) (key : String) :
    Except String String := do
  let value ← piRequireString ctx j key
  if value.isEmpty then piSchemaError ctx s!"field '{key}' must not be empty"
  else pure value

/-- The field, which must be an object. -/
def piRequireObject (ctx : String) (j : Json) (key : String) : Except String Json := do
  let value ← piRequireField ctx j key
  match value with
  | .obj _ => pure value
  | _ => piSchemaError ctx s!"field '{key}' must be an object"

/-- The elements of the field, which must be an array. -/
def piRequireArray (ctx : String) (j : Json) (key : String) : Except String (List Json) := do
  match ← piRequireField ctx j key with
  | .arr values => pure values
  | _ => piSchemaError ctx s!"field '{key}' must be an array"

/-- The field, which must be a Boolean. -/
def piRequireBool (ctx : String) (j : Json) (key : String) : Except String Bool := do
  match ← piRequireField ctx j key with
  | .bool value => pure value
  | _ => piSchemaError ctx s!"field '{key}' must be a boolean"

/-- The field, which must be a natural number. -/
def piRequireNat (ctx : String) (j : Json) (key : String) : Except String Nat := do
  match Json.getNat? (← piRequireField ctx j key) with
  | .ok value => pure value
  | .error _ => piSchemaError ctx s!"field '{key}' must be a natural number"

/-- The field must be a number.  Its value is not used. -/
def piRequireNumber (ctx : String) (j : Json) (key : String) : Except String Unit := do
  match ← piRequireField ctx j key with
  | .num _ => pure ()
  | _ => piSchemaError ctx s!"field '{key}' must be a number"

/-- The field, which must be a string if it is there. -/
def piOptionalString (ctx : String) (j : Json) (key : String) :
    Except String (Option String) := do
  piEnsureObject ctx j
  match j.getObjVal? key with
  | .error _ => pure none
  | .ok (.str value) => pure (some value)
  | .ok _ => piSchemaError ctx s!"field '{key}' must be a string when present"

/-- The field, which may be missing or null and must be a string that is not empty otherwise. -/
def piOptionalNullableString (ctx : String) (j : Json) (key : String) :
    Except String (Option String) := do
  piEnsureObject ctx j
  match j.getObjVal? key with
  | .error _ | .ok .null => pure none
  | .ok (.str value) =>
    if value.isEmpty then piSchemaError ctx s!"field '{key}' must not be empty"
    else pure (some value)
  | .ok _ => piSchemaError ctx s!"field '{key}' must be a string or null"

/-- The name of a tool, which may be missing, null or empty. -/
def piOptionalNullableToolName (ctx : String) (j : Json) : Except String (Option String) := do
  piEnsureObject ctx j
  match j.getObjVal? "toolName" with
  | .error _ | .ok .null => pure none
  | .ok (.str value) => pure (some value)
  | .ok _ => piSchemaError ctx "field 'toolName' must be a string or null"

/-- The field, which must be a Boolean if it is there. -/
def piOptionalBool (ctx : String) (j : Json) (key : String) :
    Except String (Option Bool) := do
  piEnsureObject ctx j
  match j.getObjVal? key with
  | .error _ => pure none
  | .ok (.bool value) => pure (some value)
  | .ok _ => piSchemaError ctx s!"field '{key}' must be a boolean when present"

/-- The field, which must be a natural number if it is there. -/
def piOptionalNat (ctx : String) (j : Json) (key : String) : Except String (Option Nat) := do
  piEnsureObject ctx j
  match j.getObjVal? key with
  | .error _ => pure none
  | .ok value =>
    match value.getNat? with
    | .ok number => pure (some number)
    | .error _ => piSchemaError ctx s!"field '{key}' must be a natural number when present"

/-- The field must be a number if it is there. -/
def piOptionalNumber (ctx : String) (j : Json) (key : String) : Except String Unit := do
  piEnsureObject ctx j
  match j.getObjVal? key with
  | .error _ => pure ()
  | .ok (.num _) => pure ()
  | .ok _ => piSchemaError ctx s!"field '{key}' must be a number when present"

/-- The elements of the field, which must be an array if it is there. -/
def piOptionalArray (ctx : String) (j : Json) (key : String) :
    Except String (Option (List Json)) := do
  piEnsureObject ctx j
  match j.getObjVal? key with
  | .error _ => pure none
  | .ok (.arr values) => pure (some values)
  | .ok _ => piSchemaError ctx s!"field '{key}' must be an array when present"

/-- The field, which must be an object if it is there. -/
def piOptionalObject (ctx : String) (j : Json) (key : String) :
    Except String (Option Json) := do
  piEnsureObject ctx j
  match j.getObjVal? key with
  | .error _ => pure none
  | .ok (.obj kvs) => pure (some (.obj kvs))
  | .ok _ => piSchemaError ctx s!"field '{key}' must be an object when present"

/-- The field, which may be missing or null and must be a natural number otherwise. -/
def piOptionalNullableNat (ctx : String) (j : Json) (key : String) :
    Except String (Option Nat) := do
  piEnsureObject ctx j
  match j.getObjVal? key with
  | .error _ | .ok .null => pure none
  | .ok value =>
    match value.getNat? with
    | .ok number => pure (some number)
    | .error _ => piSchemaError ctx s!"field '{key}' must be a natural number or null"

/-- The id of the parent: null for a root, and a string that is not empty otherwise. -/
def piRequireParentId (ctx : String) (j : Json) : Except String (Option String) := do
  match ← piRequireField ctx j "parentId" with
  | .null => pure none
  | .str value =>
    if value.isEmpty then piSchemaError ctx "field 'parentId' must not be empty"
    else pure (some value)
  | _ => piSchemaError ctx "field 'parentId' must be a string or null"

/-- The time of the entry, in one of the forms that Pi writes. -/
def piRequireTimestamp (ctx : String) (j : Json) : Except String String := do
  let value ← piRequireString ctx j "timestamp"
  if (iso8601ToEpochMs? value).isSome then pure value
  else piSchemaError ctx ("field 'timestamp' must be UTC ISO-8601 with optional seconds " ++
    "or exactly millisecond precision")

/-! ### Assistant metadata -/

/-- The usage of an assistant message has all its counts, and a cost for each. -/
def piValidateUsage (ctx : String) (message : Json) : Except String Unit := do
  let usage ← piRequireObject ctx message "usage"
  let usageCtx := s!"{ctx}.usage"
  ["input", "output", "cacheRead", "cacheWrite", "totalTokens"].forM fun key =>
    piRequireNumber usageCtx usage key
  let cost ← piRequireObject usageCtx usage "cost"
  let costCtx := s!"{usageCtx}.cost"
  ["input", "output", "cacheRead", "cacheWrite", "total"].forM fun key =>
    piRequireNumber costCtx cost key

/-- The reason why an assistant message ended is one of those that Pi knows. -/
def piValidateStopReason (ctx : String) (message : Json) : Except String Unit := do
  let reason ← piRequireNonemptyString ctx message "stopReason"
  if ["stop", "length", "toolUse", "error", "aborted"].contains reason then pure ()
  else piSchemaError ctx s!"field 'stopReason' has unsupported value '{reason}'"
  let _ ← piOptionalString ctx message "errorMessage"
  pure ()

/-- The error of a diagnostic has a message; its other fields are optional. -/
def piValidateDiagnosticError (ctx : String) (error : Json) : Except String Unit := do
  piEnsureObject ctx error
  let _ ← piOptionalString ctx error "name"
  let _ ← piRequireString ctx error "message"
  let _ ← piOptionalString ctx error "stack"
  match error.getObjVal? "code" with
  | .error _ | .ok (.str _) | .ok (.num _) => pure ()
  | .ok _ => piSchemaError ctx "field 'code' must be a string or number when present"

/-- A diagnostic has a type and a time, and may have an error and details. -/
def piValidateDiagnostic (itemCtx : String) (diagnostic : Json) : Except String Unit := do
  piEnsureObject itemCtx diagnostic
  let _ ← piRequireString itemCtx diagnostic "type"
  piRequireNumber itemCtx diagnostic "timestamp"
  match ← piOptionalObject itemCtx diagnostic "error" with
  | some error => piValidateDiagnosticError s!"{itemCtx}.error" error
  | none => pure ()
  let _ ← piOptionalObject itemCtx diagnostic "details"
  pure ()

/-- The diagnostics of an assistant message, if it has any. -/
def piValidateDiagnostics (ctx : String) (message : Json) : Except String Unit := do
  match ← piOptionalArray ctx message "diagnostics" with
  | none => pure ()
  | some diagnostics =>
    diagnostics.zipIdx.forM fun (diagnostic, index) =>
      piValidateDiagnostic s!"{ctx}.diagnostics[{index}]" diagnostic

/-- The fields of a message about a command that the user ran. -/
def piValidateBashMessage (ctx : String) (message : Json) : Except String Unit := do
  let _ ← piRequireString ctx message "command"
  let _ ← piRequireString ctx message "output"
  piOptionalNumber ctx message "exitCode"
  let _ ← piRequireBool ctx message "cancelled"
  let _ ← piRequireBool ctx message "truncated"
  let _ ← piOptionalString ctx message "fullOutputPath"
  let _ ← piOptionalBool ctx message "excludeFromContext"
  pure ()

end AgentConvert.Pi
