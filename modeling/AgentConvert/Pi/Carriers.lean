import AgentConvert.Pi.Fields

/-!
# Carriers inside Pi records

Pi's content unions are closed, so what they have no place for travels in a reserved member of
an ordinary record, the stamp.  A stamp is optional, but one that is present has to be well
formed: every reserved member is checked before the record is read.
-/

namespace AgentConvert.Pi

/-- The member under which the converter keeps what Pi has no field for. -/
def piCarrierKey : String := "loomPi"

/-- The only version of carriers. -/
def piCarrierVersion : Nat := 1

/-- The text for values that the source did not record. -/
def piSentinel : String := "loom-unrecorded"

/-- The member that keeps the environment of the source in the origin of a session. -/
def piSourceEnvironmentExtraKey : String := "piSourceEnvironment"

/-- A string, or null when there is none. -/
def piNullableStringJson : Option String → Json
  | some value => .str value
  | none => .null

/-- The environment of the source as an object with all its members. -/
def piSourceEnvironmentJson (env : EnvInfo) : Json := Json.mkObj [
  ("cwd", piNullableStringJson env.cwd),
  ("model", piNullableStringJson env.model),
  ("provider", piNullableStringJson env.provider),
  ("harnessVersion", piNullableStringJson env.harnessVersion),
  ("instructions", piNullableStringJson env.instructions),
  ("sessionId", piNullableStringJson env.sessionId)]

/-- The member, which must be there and must be a string or null. -/
def piDecodeNullableString (value : Json) (key : String) : Option (Option String) :=
  match value.getObjVal? key with
  | .ok (.str text) => some (some text)
  | .ok .null => some none
  | _ => none

/-- The environment of the source from an object with all its members. -/
def piDecodeSourceEnvironment (value : Json) : Option EnvInfo := do
  let cwd ← piDecodeNullableString value "cwd"
  let model ← piDecodeNullableString value "model"
  let provider ← piDecodeNullableString value "provider"
  let harnessVersion ← piDecodeNullableString value "harnessVersion"
  let instructions ← piDecodeNullableString value "instructions"
  let sessionId ← piDecodeNullableString value "sessionId"
  pure { cwd, model, provider, harnessVersion, instructions, sessionId }

/-! ### Stamps -/

/-- A block that Pi has no shape for, kept with the constructor it was made by. -/
structure PiBlockCarrier where
  constructor : String
  label : String
  raw : Json

/-- The stamp of the converter on a value, if it has one.  A stamp has a version. -/
def piReservedStamp? (ctx : String) (j : Json) : Except String (Option Json) :=
  match j.getObjVal? piCarrierKey with
  | .error _ => pure none
  | .ok stamp => do
    piEnsureObject s!"{ctx}.{piCarrierKey}" stamp
    let version ← piRequireNat s!"{ctx}.{piCarrierKey}" stamp "version"
    if version != piCarrierVersion then
      piSchemaError s!"{ctx}.{piCarrierKey}" s!"unsupported Loom Pi carrier version {version}"
    else pure (some stamp)

/-- A member of a stamp, which must be an object if it is there. -/
def piReservedObjectMember? (ctx : String) (stamp : Json) (key : String) :
    Except String (Option Json) :=
  match stamp.getObjVal? key with
  | .error _ => pure none
  | .ok (.obj kvs) => pure (some (.obj kvs))
  | .ok _ =>
    piSchemaError s!"{ctx}.{piCarrierKey}.{key}" "recognized reserved member must be an object"

/-- The tools that have a name of their own in the intermediate representation. -/
def piParseCanonicalToolName? : String → Option CanonicalTool
  | "bash" => some .bash
  | "read" => some .read
  | "write" => some .write
  | "edit" => some .edit
  | "grep" => some .grep
  | "glob" => some .glob
  | "webFetch" => some .webFetch
  | "webSearch" => some .webSearch
  | "agentSpawn" => some .agentSpawn
  | "applyPatch" => some .applyPatch
  | _ => none

/-- A canonical-tool item of the stamp: the block it is for and the tool. -/
def piToolCanonicalItem (canonicalCtx : String) (value : Json) :
    Except String (Nat × CanonicalTool) := do
  let blockIdx ← piRequireNat canonicalCtx value "block"
  let name ← piRequireNonemptyString canonicalCtx value "canonical"
  match piParseCanonicalToolName? name with
  | some canonical => pure (blockIdx, canonical)
  | none => piSchemaError canonicalCtx s!"unsupported Loom canonical tool '{name}'"

/-- The member that says how the error of a tool result was found. -/
def piValidateToolErrorMember (memberCtx : String) (value : Json) : Except String Unit := do
  match ← piRequireNonemptyString memberCtx value "state" with
  | "inferred" =>
    let _ ← piRequireBool memberCtx value "value"
    let _ ← piRequireString memberCtx value "heuristic"
    pure ()
  | "heuristic" | "structured" =>
    let _ ← piRequireBool memberCtx value "value"
    let field := if ostr value "state" == some "heuristic" then "method" else "source"
    let _ ← piRequireString memberCtx value field
    pure ()
  | "unrecorded" => pure ()
  | state => piSchemaError memberCtx s!"unsupported Loom tool-error carrier state '{state}'"

/-- The member of a tool result that has no call. -/
def piValidateToolCallRefMember (memberCtx : String) (value : Json) : Except String Unit := do
  let state ← piRequireNonemptyString memberCtx value "state"
  if state != "unresolved" then
    piSchemaError memberCtx s!"unsupported Loom tool-call carrier state '{state}'"
  else pure ()
  let _ ← piOptionalNullableString memberCtx value "rawId"
  let _ ← piRequireString memberCtx value "note"
  pure ()

/-- The member of an assistant message that was replayed as context. -/
def piValidateAssistantHistoryMember (memberCtx : String) (value : Json) :
    Except String Unit := do
  let mode ← piRequireNonemptyString memberCtx value "mode"
  if mode != "context" then
    piSchemaError memberCtx s!"unsupported assistant history mode '{mode}'"
  else pure ()
  ["identity", "metadata", "usage", "stopReason", "timestamp"].forM fun key => do
    let _ ← piRequireNonemptyString memberCtx value key
    pure ()

/-- The member that gives tool calls their canonical names, at most one for each block. -/
def piValidateToolCanonicalMember (canonicalCtx : String) (stamp : Json) :
    Except String Unit :=
  match stamp.getObjVal? "toolCanonical" with
  | .error _ => pure ()
  | .ok (.arr values) => do
    if values.isEmpty then piSchemaError canonicalCtx "must not be empty when present"
    else pure ()
    let indices ← values.mapM fun value => do
      piEnsureObject canonicalCtx value
      let (blockIdx, _) ← piToolCanonicalItem canonicalCtx value
      pure blockIdx
    if indices.eraseDups.length != indices.length then
      piSchemaError canonicalCtx "must not contain duplicate block indices"
    else pure ()
  | .ok _ => piSchemaError canonicalCtx "must be an array of block/canonical members"

/-- Check an optional member of the stamp when it is there. -/
def piValidateReservedMember (ctx : String) (stamp : Json) (key : String)
    (validate : String → Json → Except String Unit) : Except String Unit := do
  match ← piReservedObjectMember? ctx stamp key with
  | some value => validate s!"{ctx}.{piCarrierKey}.{key}" value
  | none => pure ()

/-- The members that a stamp on a message may have. -/
def piValidateMessageReservedStamp (ctx : String) (stamp : Json) : Except String Unit := do
  piValidateReservedMember ctx stamp "toolError" piValidateToolErrorMember
  piValidateReservedMember ctx stamp "toolCallRef" piValidateToolCallRefMember
  piValidateReservedMember ctx stamp "assistantHistory" piValidateAssistantHistoryMember
  piValidateToolCanonicalMember s!"{ctx}.{piCarrierKey}.toolCanonical" stamp

/-- The members that a stamp on an entry may have. -/
def piValidateEntryReservedStamp (ctx : String) (entry : Json) : Except String Unit := do
  match ← piReservedStamp? ctx entry with
  | none => pure ()
  | some stamp =>
    piValidateReservedMember ctx stamp "targetModelChange" fun memberCtx value =>
      ["author", "target_provider", "target_model", "target_timestamp"].forM fun key => do
        let _ ← piRequireNonemptyString memberCtx value key
        pure ()

/-- The block that is carried by a block, if there is one.  It is carried in a message of its
author. -/
def piBlockCarrier? (ctx author : String) (j : Json) :
    Except String (Option PiBlockCarrier) := do
  match ← piReservedStamp? ctx j with
  | none => pure none
  | some stamp =>
    let stampCtx := s!"{ctx}.{piCarrierKey}"
    let kind ← piRequireNonemptyString stampCtx stamp "kind"
    if kind != "block" then
      piSchemaError stampCtx s!"reserved block stamp has unsupported kind '{kind}'"
    else pure ()
    let stampedAuthor ← piRequireNonemptyString stampCtx stamp "author"
    if stampedAuthor != author then
      piSchemaError stampCtx
        s!"reserved block stamp author '{stampedAuthor}' is invalid for {author} content"
    else pure ()
    let constructor ← piRequireNonemptyString stampCtx stamp "constructor"
    let label ← piRequireString stampCtx stamp "label"
    let raw ← piRequireField stampCtx stamp "raw"
    pure (some { constructor, label, raw })

/-! ### Content blocks -/

/-- A block of a user message, a tool result or a custom message. -/
def parseUserBlockAt (ctx : String) (j : Json) : Except String UserBlock := do
  piEnsureObject ctx j
  let kind ← piRequireNonemptyString ctx j "type"
  let carrier ← piBlockCarrier? ctx "user" j
  match kind with
  | "text" =>
    let text ← piRequireString ctx j "text"
    let _ ← piOptionalString ctx j "textSignature"
    match carrier with
    | some { constructor := "unmodeled", label, raw } => pure (.unmodeled label raw)
    | some _ => piSchemaError ctx "invalid Loom user-block carrier"
    | none => pure (.text text)
  | "image" =>
    match carrier with
    | some _ => piSchemaError ctx "reserved Loom user-block carrier must use type 'text'"
    | none =>
      pure (.media (← piRequireNonemptyString ctx j "mimeType") (← piRequireString ctx j "data"))
  | _ => piSchemaError ctx s!"block type '{kind}' is not valid for user/tool-result content"

/-- A block of an assistant message.  A tool call takes the canonical name that the message gives
it. -/
def parseAssistantBlockAt (ctx : String) (canonicalOverride : Option CanonicalTool)
    (j : Json) : Except String AssistantBlock := do
  piEnsureObject ctx j
  let kind ← piRequireNonemptyString ctx j "type"
  let carrier ← piBlockCarrier? ctx "assistant" j
  match kind with
  | "text" =>
    let text ← piRequireString ctx j "text"
    let _ ← piOptionalString ctx j "textSignature"
    match carrier with
    | some { constructor := "toolCall", raw, .. } =>
      let name ← piRequireString ctx raw "name"
      let arguments ← piRequireField ctx raw "arguments"
      let id ← piOptionalString ctx raw "id"
      pure (.toolCall { raw := name, canonical := none } arguments id)
    | some { constructor := "media", raw, .. } =>
      pure (.media (← piRequireNonemptyString ctx raw "mimeType")
        (← piRequireString ctx raw "data"))
    | some { constructor := "unmodeled", label, raw } => pure (.unmodeled label raw)
    | some _ => piSchemaError ctx "invalid Loom assistant-block carrier"
    | none => pure (.text text)
  | "thinking" =>
    match carrier with
    | some _ => piSchemaError ctx "reserved Loom assistant-block carrier must use type 'text'"
    | none =>
      let _ ← piOptionalBool ctx j "redacted"
      pure (.thinking (← piRequireString ctx j "thinking")
        (← piOptionalString ctx j "thinkingSignature"))
  | "toolCall" =>
    match carrier with
    | some _ => piSchemaError ctx "reserved Loom assistant-block carrier must use type 'text'"
    | none =>
      let id ← piRequireNonemptyString ctx j "id"
      let name ← piRequireNonemptyString ctx j "name"
      let arguments ← piRequireObject ctx j "arguments"
      let _ ← piOptionalString ctx j "thoughtSignature"
      pure (.toolCall { raw := name, canonical := canonicalOverride } arguments (some id))
  | _ => piSchemaError ctx s!"block type '{kind}' is not valid for assistant content"

/-- The content of a message: a text, or blocks. -/
def piParseUserContent (ctx : String) (value : Json) : Except String (List UserBlock) :=
  match value with
  | .str text => pure [.text text]
  | .arr blocks => blocks.zipIdx.mapM fun (block, blockIdx) =>
    parseUserBlockAt s!"{ctx}[{blockIdx}]" block
  | _ => piSchemaError ctx "content must be a string or an array"

/-! ### What a stamp says about its record -/

/-- What is kept of a tool call that was not found. -/
structure PiUnresolvedCall where
  rawId : Option String
  note : String

/-- The environment of the source that the header of a converted session carries. -/
def piHeaderSourceEnvironment? (ctx : String) (header : Json) :
    Except String (Option EnvInfo) := do
  match ← piReservedStamp? ctx header with
  | none => pure none
  | some stamp =>
    match ← piReservedObjectMember? ctx stamp "sourceEnvironment" with
    | none => pure none
    | some source =>
      match piDecodeSourceEnvironment source with
      | some env => pure (some env)
      | none =>
        piSchemaError s!"{ctx}.{piCarrierKey}.sourceEnvironment"
          "expected all six EnvInfo fields as strings or null"

/-- The time that an entry carries in place of its timestamp. -/
def piTimeCarrier? (ctx : String) (entry : Json) : Except String (Option Time) := do
  match ← piReservedStamp? ctx entry with
  | none => pure none
  | some stamp =>
    match ← piReservedObjectMember? ctx stamp "time" with
    | none => pure none
    | some time =>
      let state ← piRequireNonemptyString s!"{ctx}.{piCarrierKey}.time" time "state"
      match state with
      | "absent" => pure (some .absent)
      | "sequenced" => pure (some (.sequenced (← piRequireNat ctx time "ordinal")))
      | "interpolated" =>
        pure (some (.interpolated ⟨← piRequireNat ctx time "ms"⟩
          (← piRequireString ctx time "basis")))
      | other => piSchemaError ctx s!"unsupported Loom time carrier state '{other}'"

/-- The error signal of a tool result.  A stamp refines the native flag and must not contradict
it. -/
def piToolErrorSignal (ctx : String) (message : Json) (nativeValue : Bool) :
    Except String ErrorSignal := do
  match ← piReservedStamp? ctx message with
  | none => pure (.native nativeValue)
  | some stamp =>
    match ← piReservedObjectMember? ctx stamp "toolError" with
    | none => pure (.native nativeValue)
    | some toolError =>
      let state ← piRequireNonemptyString s!"{ctx}.{piCarrierKey}.toolError" toolError "state"
      match state with
      | "inferred" =>
        let value ← piRequireBool ctx toolError "value"
        if nativeValue && !value then
          piSchemaError ctx "Loom inferred tool-error carrier disagrees with required isError"
        else pure (.heuristic value (← piRequireString ctx toolError "heuristic"))
      | "heuristic" | "structured" =>
        let value ← piRequireBool ctx toolError "value"
        if (if state == "heuristic" then nativeValue && !value else value != nativeValue) then
          piSchemaError ctx "Loom derived tool-error carrier disagrees with required isError"
        else if state == "heuristic" then
          pure (.heuristic value (← piRequireString ctx toolError "method"))
        else pure (.structured value (← piRequireString ctx toolError "source"))
      | "unrecorded" =>
        if nativeValue then
          piSchemaError ctx "Loom unrecorded tool-error placeholder must use isError=false"
        else pure .unrecorded
      | other => piSchemaError ctx s!"unsupported Loom tool-error carrier state '{other}'"

/-- The canonical names that a message carries for its tool calls, by block. -/
def piToolCanonicalCarrier? (ctx : String) (message : Json) :
    Except String (List (Nat × CanonicalTool)) := do
  match ← piReservedStamp? ctx message with
  | none => pure []
  | some stamp =>
    match stamp.getObjVal? "toolCanonical" with
    | .error _ => pure []
    | .ok (.arr values) =>
      values.mapM (piToolCanonicalItem s!"{ctx}.{piCarrierKey}.toolCanonical")
    | .ok _ =>
      piSchemaError s!"{ctx}.{piCarrierKey}.toolCanonical"
        "must be an array of block/canonical members"

/-- The canonical name that is carried for a block. -/
def piCanonicalForBlock (overrides : List (Nat × CanonicalTool)) (blockIdx : Nat) :
    Option CanonicalTool :=
  (overrides.find? fun entry => entry.1 == blockIdx).map Prod.snd

/-- The call that a tool result carries because its call was not found. -/
def piUnresolvedCallCarrier? (ctx : String) (message : Json) :
    Except String (Option PiUnresolvedCall) := do
  match ← piReservedStamp? ctx message with
  | none => pure none
  | some stamp =>
    match ← piReservedObjectMember? ctx stamp "toolCallRef" with
    | none => pure none
    | some callRef =>
      let state ← piRequireNonemptyString s!"{ctx}.{piCarrierKey}.toolCallRef" callRef "state"
      if state != "unresolved" then
        piSchemaError ctx s!"unsupported Loom tool-call carrier state '{state}'"
      else
        let rawId ← piOptionalNullableString ctx callRef "rawId"
        let note ← piRequireString ctx callRef "note"
        pure (some { rawId, note })

/-- The error signal that a carrier spells out. -/
def piCarrierErrorSignal (ctx : String) (value : Json) : Except String ErrorSignal := do
  piEnsureObject ctx value
  let state ← piRequireNonemptyString ctx value "state"
  match state with
  | "native" => pure (.native (← piRequireBool ctx value "value"))
  | "inferred" =>
    pure (.heuristic (← piRequireBool ctx value "value")
      (← piRequireString ctx value "heuristic"))
  | "heuristic" =>
    pure (.heuristic (← piRequireBool ctx value "value") (← piRequireString ctx value "method"))
  | "structured" =>
    pure (.structured (← piRequireBool ctx value "value") (← piRequireString ctx value "source"))
  | "unrecorded" => pure .unrecorded
  | other => piSchemaError ctx s!"unsupported Loom error carrier state '{other}'"

end AgentConvert.Pi
