import AgentConvert.Pi.Historical

/-!
# Pi entries

A line of a Pi session after the header is an entry: an identity, a parent and one of a dozen
record types.  `parseEntry` reads an entry by itself; what an entry says about other entries (its
parent, the call it answers, the first entry a compaction kept) stays a name to be resolved when
all lines are read.
-/

namespace AgentConvert.Pi

/-- A note about how a part of a record was read. -/
def piImportNote (label loc detail : String) : ImportNote :=
  { kind := .other label, loc := some loc, detail }

/-- A note for every block of a user message that was kept as it is. -/
def piUserBlockNotes (role ctx : String) (blocks : List UserBlock) : List ImportNote :=
  blocks.zipIdx.filterMap fun (block, blockIdx) =>
    match block with
    | .unmodeled label _ =>
      some (piImportNote "pi-unmodeled-block" s!"{ctx}[{blockIdx}]"
        s!"preserved unknown Pi block type '{label}' verbatim for role '{role}'")
    | _ => none

/-- A note for every block of an assistant message that was kept as it is. -/
def piAssistantBlockNotes (ctx : String) (blocks : List AssistantBlock) : List ImportNote :=
  blocks.zipIdx.filterMap fun (block, blockIdx) =>
    match block with
    | .unmodeled label _ =>
      some (piImportNote "pi-unmodeled-block" s!"{ctx}[{blockIdx}]"
        s!"preserved unknown Pi assistant block type '{label}' verbatim")
    | _ => none

/-- An entry before its references are resolved. -/
structure RawEntry where
  line : Nat
  id : String
  parentId : Option String
  ts : String
  payload : Payload
  toolResultId : Option String := none
  toolResultError : ErrorSignal := .unrecorded
  toolResultForcedUnresolved : Option PiUnresolvedCall := none
  toolResultHistoricalSource : Option (Nat × Nat) := none
  toolResultContent : List UserBlock := []
  historicalAssistantSourceEntry : Option Nat := none
  historicalAssistantSourceBlocks : List Nat := []
  historicalPayloadDirect : Bool := false
  firstKeptEntryId : Option String := none
  tokensBefore : Option Nat := none
  timeOverride : Option Time := none
  piRaw : Option Json := none
  disposition : EntryDisposition := .native
  notes : List ImportNote := []

/-- The note that what was read comes from the converter itself. -/
def piHistoricalCarrierNote (loc : String) : ImportNote :=
  piImportNote "unverifiedAgentConvertCarrier" loc
    "exact in-band agent-convert carrier decoded as historical, unverified data"

/-- Some block has a stamp of the converter. -/
def piAssistantContentHasCarrier (content : List Json) : Bool :=
  content.any fun block => hasKey block piCarrierKey

/-- The content has blocks, and some block has a stamp of the converter. -/
def piUserContentHasCarrier (content : Json) : Bool :=
  match content with
  | .arr blocks => piAssistantContentHasCarrier blocks
  | _ => false

/-- A stamp on the call reference says that the linkage was reconstructed. -/
def piToolResultLinkageIsReconstructed (message : Json) : Bool :=
  match oobj message piCarrierKey with
  | some stamp => (oobj stamp "toolCallRef").isSome
  | none => false

/-- What was read from a carrier is unverified. -/
def carrierDisposition (historical : Bool) : EntryDisposition :=
  if historical then .historicalUnverified else .native

/-- What was read from a carrier is noted. -/
def carrierNotes (historical : Bool) (loc : String) : List ImportNote :=
  if historical then [piHistoricalCarrierNote loc] else []

/-! ### Message entries -/

/-- The reserved stamp of a message is checked before its role is looked at. -/
def piCheckMessageStamp (ctx : String) (message : Json) : Except String Unit := do
  match ← piReservedStamp? ctx message with
  | some stamp => piValidateMessageReservedStamp ctx stamp
  | none => pure ()

/-- A message of the user. -/
def parseUserMessage (ctx : String) (base : Payload → RawEntry) (message : Json) :
    Except String RawEntry := do
  let contentCtx := s!"{ctx}.content"
  let contentValue ← piRequireField ctx message "content"
  let blocks ← piParseUserContent contentCtx contentValue
  let historical := piUserContentHasCarrier contentValue
  pure { base (.userMsg blocks) with
    disposition := carrierDisposition historical
    notes := piUserBlockNotes "user" contentCtx blocks ++ carrierNotes historical contentCtx }

/-- A message of the assistant.  Its metadata is checked and left out. -/
def parseAssistantMessage (ctx : String) (base : Payload → RawEntry) (message : Json) :
    Except String RawEntry := do
  let contentCtx := s!"{ctx}.content"
  let content ← piRequireArray ctx message "content"
  let _ ← piRequireNonemptyString ctx message "api"
  let _ ← piRequireNonemptyString ctx message "provider"
  let _ ← piRequireNonemptyString ctx message "model"
  let _ ← piOptionalString ctx message "responseModel"
  let _ ← piOptionalString ctx message "responseId"
  piValidateUsage ctx message
  piValidateStopReason ctx message
  piValidateDiagnostics ctx message
  let toolCanonical ← piToolCanonicalCarrier? ctx message
  let blocks ← content.zipIdx.mapM fun (block, blockIdx) =>
    parseAssistantBlockAt s!"{contentCtx}[{blockIdx}]"
      (piCanonicalForBlock toolCanonical blockIdx) block
  let historical := piAssistantContentHasCarrier content
  pure { base (.assistantMsg blocks) with
    disposition := carrierDisposition historical
    notes := piAssistantBlockNotes contentCtx blocks ++ carrierNotes historical contentCtx }

/-- A tool result keeps the id of its call until all entries are read. -/
def parseToolResultMessage (ctx : String) (base : Payload → RawEntry) (message : Json) :
    Except String RawEntry := do
  let contentCtx := s!"{ctx}.content"
  let content ← piRequireArray ctx message "content"
  let toolCallId ← piRequireNonemptyString ctx message "toolCallId"
  let _ ← piRequireNonemptyString ctx message "toolName"
  let isError ← piRequireBool ctx message "isError"
  let error ← piToolErrorSignal ctx message isError
  let forcedUnresolved ← piUnresolvedCallCarrier? ctx message
  let blocks ← content.zipIdx.mapM fun (block, blockIdx) =>
    parseUserBlockAt s!"{contentCtx}[{blockIdx}]" block
  let historical := piToolResultLinkageIsReconstructed message ||
    piAssistantContentHasCarrier content
  pure { base (.envMsg []) with
    toolResultId := some toolCallId
    toolResultError := error
    toolResultForcedUnresolved := forcedUnresolved
    toolResultContent := blocks
    disposition := carrierDisposition historical
    notes := piUserBlockNotes "toolResult" contentCtx blocks ++
      carrierNotes historical contentCtx }

/-- A message of an extension of Pi. -/
def parseCustomMessage (ctx : String) (base : Payload → RawEntry) (message : Json) :
    Except String RawEntry := do
  let contentCtx := s!"{ctx}.content"
  let _ ← piRequireNonemptyString ctx message "customType"
  let contentValue ← piRequireField ctx message "content"
  let blocks ← piParseUserContent contentCtx contentValue
  let _ ← piRequireBool ctx message "display"
  let historical := piUserContentHasCarrier contentValue
  pure { base (.otherMsg "custom" blocks) with
    disposition := carrierDisposition historical
    notes := piUserBlockNotes "custom" contentCtx blocks ++ carrierNotes historical contentCtx }

/-- A message of another role, kept as it is. -/
def inertMessage (base : Payload → RawEntry) (role : String) (message : Json)
    (note : ImportNote) : RawEntry :=
  { base (.otherMsg role [.unmodeled role message]) with notes := [note] }

/-- A message by its role.  A role that Pi does not have is kept as it is. -/
def parseMessageOfRole (ctx : String) (base : Payload → RawEntry) (message : Json)
    (role : String) : Except String RawEntry := do
  if role == "user" then
    parseUserMessage ctx base message
  else if role == "assistant" then
    parseAssistantMessage ctx base message
  else if role == "toolResult" then
    parseToolResultMessage ctx base message
  else if role == "bashExecution" then
    piValidateBashMessage ctx message
    pure (inertMessage base role message (piImportNote "pi-structured-other-role"
      s!"{ctx}.role" "preserved native Pi bashExecution fields in an inert block"))
  else if role == "branchSummary" then
    let _ ← piRequireString ctx message "summary"
    let _ ← piRequireNonemptyString ctx message "fromId"
    pure (inertMessage base role message (piImportNote "pi-structured-other-role"
      s!"{ctx}.role" "preserved native Pi branchSummary fields in an inert block"))
  else if role == "compactionSummary" then
    let _ ← piRequireString ctx message "summary"
    let _ ← piRequireNat ctx message "tokensBefore"
    pure (inertMessage base role message (piImportNote "pi-structured-other-role"
      s!"{ctx}.role" "preserved native Pi compactionSummary fields in an inert block"))
  else if role == "custom" then
    parseCustomMessage ctx base message
  else
    pure (inertMessage base role message (piImportNote "pi-unmodeled-role" s!"{ctx}.role"
      s!"preserved unknown Pi message role '{role}' inertly"))

/-- An entry of type `message`, by the role of its message. -/
def parseMessageEntry (ctx : String) (base : Payload → RawEntry) (j : Json) :
    Except String RawEntry := do
  let message ← piRequireObject ctx j "message"
  let messageCtx := s!"{ctx}.message"
  piCheckMessageStamp messageCtx message
  let role ← piRequireNonemptyString messageCtx message "role"
  let _ ← piRequireNat messageCtx message "timestamp"
  parseMessageOfRole messageCtx base message role

/-! ### Carrier entries -/

/-- The blocks of an archived assistant message, with their source coordinates when the
representation records them. -/
def parseAssistantCarrier (ctx : String) (value : Json) :
    Except String (List AssistantBlock × Option Nat × List Nat) := do
  let representation ← piRequireNonemptyString ctx value "representation"
  let carried ← piRequireArray ctx value "blocks"
  match representation with
  | "inert-unrecorded-metadata" =>
    let blocks ← carried.zipIdx.mapM fun (block, blockIdx) =>
      parseAssistantBlockAt s!"{ctx}.data.value.blocks[{blockIdx}]" none block
    pure (blocks, none, [])
  | "historical-assistant-blocks" =>
    let scope ← piRequireNonemptyString ctx value "scope"
    if scope != "unsafe" && scope != "full" then
      piSchemaError ctx s!"unsupported assistant carrier scope '{scope}'"
    else pure ()
    let sourceEntry ← piRequireNat ctx value "sourceEntry"
    let indices ← piRequireArray ctx value "sourceBlockIndices"
    let sourceBlocks ← piSourceBlockIndices s!"{ctx}.data.value" indices
    if indices.length != carried.length then
      piSchemaError ctx "assistant carrier blocks and sourceBlockIndices must have equal length"
    else pure ()
    let blocks ← carried.zipIdx.mapM fun (block, blockIdx) =>
      piParseHistoricalAssistantBlock s!"{ctx}.data.value.blocks[{blockIdx}]" block
    pure (blocks, some sourceEntry, sourceBlocks)
  | other => piSchemaError ctx s!"unsupported assistant carrier representation '{other}'"

/-- An archived tool result.  A resolved one names its call by id, and by the coordinates the
call had in the source when they were recorded. -/
def parseToolResultCarrier (ctx : String) (base : Payload → RawEntry) (value : Json) :
    Except String RawEntry := do
  let call ← piRequireObject ctx value "call"
  let callState ← piRequireNonemptyString s!"{ctx}.data.value.call" call "state"
  let toolCallId ← piOptionalNullableString ctx value "toolCallId"
  let _ ← piOptionalNullableToolName ctx value
  let content ← piRequireArray ctx value "content"
  let blocks ← content.zipIdx.mapM fun (block, blockIdx) =>
    parseUserBlockAt s!"{ctx}.data.value.content[{blockIdx}]" block
  let error ← piCarrierErrorSignal s!"{ctx}.data.value.error"
    (← piRequireObject ctx value "error")
  match callState with
  | "resolved" =>
    match toolCallId with
    | none => piSchemaError ctx "resolved toolResult carrier requires toolCallId"
    | some rawId =>
      let sourceEntry ← piOptionalNat ctx call "sourceEntry"
      let sourceBlock ← piOptionalNat ctx call "sourceBlock"
      if sourceEntry.isSome != sourceBlock.isSome then
        piSchemaError ctx
          "resolved toolResult carrier sourceEntry/sourceBlock must appear together"
      else pure ()
      let source := sourceEntry.bind fun entry => sourceBlock.map fun block => (entry, block)
      pure { base (.envMsg []) with
        toolResultId := some rawId
        toolResultError := error
        toolResultHistoricalSource := source
        toolResultContent := blocks }
  | "unresolved" =>
    let rawId ← piOptionalNullableString ctx call "rawId"
    let note ← piRequireString ctx call "note"
    pure { base (.envMsg []) with
      toolResultId := some (toolCallId.getD piSentinel)
      toolResultError := error
      toolResultForcedUnresolved := some { rawId, note }
      toolResultContent := blocks }
  | other => piSchemaError ctx s!"unsupported Loom tool-result call state '{other}'"

/-- The entry a carrier of the given kind restores. -/
def parseCarrierValue (ctx : String) (base : Payload → RawEntry) (carrierKind : String)
    (value : Json) : Except String RawEntry :=
  match carrierKind with
  | "branchSummary" => do pure (base (.event (.branchSummary (← value.getStr?))))
  | "permissionMode" => do pure (base (.event (.permissionMode (← value.getStr?))))
  | "event" => do
    let label ← piRequireNonemptyString ctx value "label"
    pure (base (.event (.custom label (← piRequireField ctx value "raw"))))
  | "modelChange" => do
    let previous ← piOptionalNullableString ctx value "previous"
    let next ← piOptionalNullableString ctx value "next"
    pure (base (.event (.modelChange previous next)))
  | "thinkingLevelChange" => do
    let previous ← piOptionalNullableString ctx value "previous"
    let next ← piOptionalNullableString ctx value "next"
    pure (base (.event (.thinkingLevelChange previous next)))
  | "compaction" => do
    let summary ← piRequireString ctx value "summary"
    let firstKeptEntryId ← piOptionalNullableString ctx value "firstKeptEntryId"
    let tokensBefore ← piOptionalNullableNat ctx value "tokensBefore"
    pure { base (.compaction summary .unknownPrefix tokensBefore) with
      firstKeptEntryId, tokensBefore }
  | "assistantMessage" => do
    let (blocks, sourceEntry, sourceBlocks) ← parseAssistantCarrier ctx value
    pure { base (.assistantMsg blocks) with
      historicalAssistantSourceEntry := sourceEntry
      historicalAssistantSourceBlocks := sourceBlocks }
  | "toolResult" => parseToolResultCarrier ctx base value
  | "emptyEnv" =>
    if value == .null then pure (base (.envMsg []))
    else piSchemaError ctx "Loom emptyEnv carrier value must be null"
  | "envBlock" => do
    let label ← piRequireString ctx value "label"
    let raw ← piRequireField ctx value "raw"
    pure (base (.envMsg [.unmodeled label raw]))
  | "historicalPayload" => do
    let valueCtx := s!"{ctx}.data.value"
    let payload ← piParseHistoricalPayload valueCtx value
    let (sourceEntry, sourceBlocks) ← piParseHistoricalAssistantSource valueCtx value payload
    pure { base payload with
      historicalAssistantSourceEntry := sourceEntry
      historicalAssistantSourceBlocks := sourceBlocks
      historicalPayloadDirect := true }
  | other => piSchemaError ctx s!"unsupported Loom Pi carrier kind '{other}'"

/-- An entry of type `custom`: a carrier, or an entry kept as it is. -/
def parseCustomEntry (ctx : String) (line : Nat) (base : Payload → RawEntry) (j : Json) :
    Except String RawEntry := do
  let customType ← piRequireNonemptyString ctx j "customType"
  if customType == "loom.pi.carrier" then
    let data ← piRequireObject ctx j "data"
    let version ← piRequireNat s!"{ctx}.data" data "version"
    if version != piCarrierVersion then
      piSchemaError ctx s!"unsupported Loom Pi carrier version {version}"
    else pure ()
    let carrierKind ← piRequireNonemptyString s!"{ctx}.data" data "kind"
    let value ← piRequireField s!"{ctx}.data" data "value"
    let restored ← parseCarrierValue ctx base carrierKind value
    pure { restored with
      disposition := .historicalUnverified
      notes := restored.notes ++ [piHistoricalCarrierNote s!"{ctx}.data"] }
  else
    pure { base (.event (.custom "custom" j)) with
      notes := [piImportNote "pi-unmodeled-entry" s!"line{line}"
        s!"preserved Pi custom entry '{customType}' inertly"] }

/-- An entry of type `custom_message`. -/
def parseCustomMessageEntry (ctx : String) (base : Payload → RawEntry) (j : Json) :
    Except String RawEntry := do
  let customType ← piRequireNonemptyString ctx j "customType"
  let content ← piRequireField ctx j "content"
  let blocks ← piParseUserContent s!"{ctx}.content" content
  let _ ← piRequireBool ctx j "display"
  if customType == "loom.pi.compaction-summary" then
    let details ← piRequireObject ctx j "details"
    let version ← piRequireNat ctx details "version"
    if version != piCarrierVersion then
      piSchemaError ctx "unsupported context-summary version"
    else pure ()
    let value ← piRequireObject ctx details "compaction"
    let summary ← piRequireString ctx value "summary"
    if content != .str ("[Conversation summary]\n" ++ summary) then
      piSchemaError ctx "compaction metadata must match model-facing summary"
    else pure ()
    let firstKeptEntryId ← piOptionalNullableString ctx value "firstKeptEntryId"
    let tokensBefore ← piOptionalNullableNat ctx value "tokensBefore"
    pure { base (.compaction summary .unknownPrefix tokensBefore) with
      firstKeptEntryId, tokensBefore }
  else if customType == "loom.pi.other-message" then
    let details ← piRequireObject ctx j "details"
    let version ← piRequireNat s!"{ctx}.details" details "version"
    if version != piCarrierVersion then
      piSchemaError ctx s!"unsupported Loom Pi carrier version {version}"
    else pure ()
    let role ← piRequireNonemptyString s!"{ctx}.details" details "role"
    let carried ← piRequireArray s!"{ctx}.details" details "blocks"
    let carriedBlocks ← carried.zipIdx.mapM fun (block, blockIdx) =>
      parseUserBlockAt s!"{ctx}.details.blocks[{blockIdx}]" block
    pure { base (.otherMsg role carriedBlocks) with
      disposition := .historicalUnverified
      notes := [piHistoricalCarrierNote s!"{ctx}.details"] }
  else
    let historical := piUserContentHasCarrier content
    pure { base (.otherMsg "custom" blocks) with
      disposition := carrierDisposition historical
      notes := carrierNotes historical s!"{ctx}.content" }

/-! ### Entries -/

/-- A record behind the header.  What all records have is read first, then the fields of its type.
-/
def parseEntry (line : Nat) (j : Json) : Except String RawEntry := do
  let ctx := s!"record at line {line}"
  piEnsureObject ctx j
  let kind ← piRequireNonemptyString ctx j "type"
  if kind == "session" then
    piSchemaError ctx "a session header is only valid as the first record"
  else pure ()
  let id ← piRequireNonemptyString ctx j "id"
  let parentId ← piRequireParentId ctx j
  let ts ← piRequireTimestamp ctx j
  let timeOverride ← piTimeCarrier? ctx j
  piValidateEntryReservedStamp ctx j
  let base := fun (payload : Payload) => ({
    line, id, parentId, ts, payload, timeOverride, piRaw := some j } : RawEntry)
  match kind with
  | "message" => parseMessageEntry ctx base j
  | "compaction" =>
    let summary ← piRequireString ctx j "summary"
    let firstKeptEntryId ← piRequireNonemptyString ctx j "firstKeptEntryId"
    let tokensBefore ← piRequireNat ctx j "tokensBefore"
    let _ ← piOptionalBool ctx j "fromHook"
    pure { base (.compaction summary .unknownPrefix (some tokensBefore)) with
      firstKeptEntryId := some firstKeptEntryId, tokensBefore := some tokensBefore }
  | "model_change" =>
    let _ ← piRequireNonemptyString ctx j "provider"
    let modelId ← piRequireNonemptyString ctx j "modelId"
    let previous ← piOptionalString ctx j "previousModelId"
    pure (base (.event (.modelChange previous (some modelId))))
  | "thinking_level_change" =>
    let level ← piRequireNonemptyString ctx j "thinkingLevel"
    let previous ← piOptionalString ctx j "previousThinkingLevel"
    pure (base (.event (.thinkingLevelChange previous (some level))))
  | "branch_summary" =>
    let _ ← piRequireNonemptyString ctx j "fromId"
    let _ ← piOptionalBool ctx j "fromHook"
    pure (base (.event (.branchSummary (← piRequireString ctx j "summary"))))
  | "custom" => parseCustomEntry ctx line base j
  | "custom_message" => parseCustomMessageEntry ctx base j
  | "label" =>
    let _ ← piRequireNonemptyString ctx j "targetId"
    let _ ← piOptionalString ctx j "label"
    pure { base (.event (.custom "label" j)) with
      notes := [piImportNote "pi-unmodeled-entry" s!"line{line}"
        "preserved Pi label entry inertly"] }
  | "session_info" =>
    let _ ← piOptionalString ctx j "name"
    pure { base (.event (.custom "session_info" j)) with
      notes := [piImportNote "pi-unmodeled-entry" s!"line{line}"
        "preserved Pi session_info entry inertly"] }
  | other =>
    pure { base (.event (.custom other j)) with
      notes := [piImportNote "pi-unmodeled-entry" s!"line{line}"
        s!"preserved unknown Pi entry kind '{other}' verbatim"] }

/-- What the origin of an entry keeps: its timestamp and the record. -/
def rawEntryExtras (r : RawEntry) : Option Json :=
  let fields : List (String × Json) := [("ts", .str r.ts)] ++
    (match r.piRaw with | some raw => [("piRaw", raw)] | none => [])
  if fields.isEmpty then none else some (Json.mkObj fields)

end AgentConvert.Pi
