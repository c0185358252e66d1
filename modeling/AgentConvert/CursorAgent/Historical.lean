import AgentConvert.Json.Access
import AgentConvert.Loom.Core

/-!
# Historical entry carriers of the cursor-agent format

An entry that cursor-agent has no native record for is archived as a carrier record.  A carrier
is read back only when rendering what was read gives the same object again: a missing or an
unexpected member anywhere inside it makes the record malformed.
-/

namespace AgentConvert.CursorAgent

/-- The type of a record that archives an entry. -/
def cursorAgentHistoricalRecordType : String := "agent_convert_historical_entry"

/-- The only protocol of such records. -/
def cursorAgentHistoricalProtocol : String := "agent-convert.cursor-agent-entry.v1"

/-- The member that keeps the record the entry was read from. -/
def cursorAgentHistoricalSourceRawRecordKey : String := "sourceRawRecord"

/-- The name of a canonical tool. -/
def cursorHistoricalCanonicalTool : CanonicalTool → String
  | .bash => "bash"
  | .read => "read"
  | .write => "write"
  | .edit => "edit"
  | .grep => "grep"
  | .glob => "glob"
  | .webFetch => "webFetch"
  | .webSearch => "webSearch"
  | .agentSpawn => "agentSpawn"
  | .applyPatch => "applyPatch"

/-- A canonical tool by its name. -/
def cursorParseHistoricalCanonicalTool? : String → Option CanonicalTool
  | "bash" => some .bash
  | "read" => some .read
  | "write" => some .write
  | "edit" => some .edit
  | "grep" => some .grep
  | "glob" => some .glob
  | "webFetch" => some .webFetch
  | "webSearch" => some .webSearch
  | "agentSpawn" => some .agentSpawn
  | "applyPatch" => some .applyPatch
  | _ => none

/-- A string, or null when there is none. -/
def cursorHistoricalOptionalString : Option String → Json
  | some value => .str value
  | none => .null

/-- The member, which must be there and must be a string or null. -/
def cursorHistoricalOptionalString? (j : Json) (key : String) : Option (Option String) :=
  match oobj j key with
  | some .null => some none
  | some (.str value) => some (some value)
  | _ => none

/-- A missing id and an explicit null are both no id, but the archive keeps them apart. -/
inductive CursorHistoricalRawId where
  | missing
  | explicitNull
  | string (value : String)
  deriving Repr, DecidableEq

/-- The id of a tool call, as it was spelled. -/
def cursorHistoricalRawId? (j : Json) (key : String) : Option CursorHistoricalRawId :=
  match j.getObjVal? key with
  | .error _ => some .missing
  | .ok .null => some .explicitNull
  | .ok (.str value) => some (.string value)
  | .ok _ => none

/-- The id, if there is one. -/
def CursorHistoricalRawId.value : CursorHistoricalRawId → Option String
  | .missing | .explicitNull => none
  | .string value => some value

/-- The spelling that is written for an id. -/
def cursorHistoricalRawIdFromValue : Option String → CursorHistoricalRawId
  | none => .missing
  | some value => .string value

/-- The member that spells the id. -/
def cursorHistoricalRawIdField (key : String) (rawId : CursorHistoricalRawId) :
    List (String × Json) :=
  match rawId with
  | .missing => []
  | .explicitNull => [(key, .null)]
  | .string value => [(key, .str value)]

/-! ### Blocks -/

/-- A block of a user message. -/
def cursorHistoricalUserBlockJson : UserBlock → Json
  | .text text => Json.mkObj [("kind", .str "text"), ("text", .str text)]
  | .media mimeType data =>
    Json.mkObj [("kind", .str "media"), ("mimeType", .str mimeType), ("data", .str data)]
  | .unmodeled label raw =>
    Json.mkObj [("kind", .str "unmodeled"), ("label", .str label), ("raw", raw)]

/-- A block of a user message, by its kind. -/
def cursorHistoricalUserBlock? (j : Json) : Option UserBlock := do
  match ← ostr j "kind" with
  | "text" => pure (.text (← ostr j "text"))
  | "media" => pure (.media (← ostr j "mimeType") (← ostr j "data"))
  | "unmodeled" => pure (.unmodeled (← ostr j "label") (← oobj j "raw"))
  | _ => none

/-- The rendering of an assistant block.  A tool call is rendered with the id spelling of its
source when that spelling has the id of the call. -/
def cursorHistoricalAssistantBlockJsonWithRawId (sourceRawId? : Option CursorHistoricalRawId) :
    AssistantBlock → Json
  | .text text => Json.mkObj [("kind", .str "text"), ("text", .str text)]
  | .thinking thinking signature =>
    Json.mkObj [("kind", .str "thinking"), ("thinking", .str thinking),
      ("signature", cursorHistoricalOptionalString signature)]
  | .toolCall name arguments rawId =>
    Json.mkObj ([("kind", .str "toolCall"), ("name", .str name.raw),
      ("canonical", (name.canonical.map fun canonical =>
        Json.str (cursorHistoricalCanonicalTool canonical)).getD .null),
      ("arguments", arguments)] ++
      cursorHistoricalRawIdField "rawId" (match sourceRawId? with
        | some sourceRawId =>
          if sourceRawId.value == rawId then sourceRawId
          else cursorHistoricalRawIdFromValue rawId
        | none => cursorHistoricalRawIdFromValue rawId))
  | .media mimeType data =>
    Json.mkObj [("kind", .str "media"), ("mimeType", .str mimeType), ("data", .str data)]
  | .unmodeled label raw =>
    Json.mkObj [("kind", .str "unmodeled"), ("label", .str label), ("raw", raw)]

/-- A block of an assistant message. -/
def cursorHistoricalAssistantBlockJson : AssistantBlock → Json :=
  cursorHistoricalAssistantBlockJsonWithRawId none

/-- The canonical tool of an archived call, which may be null but not absent. -/
def cursorHistoricalCanonical? (j : Json) : Option (Option CanonicalTool) :=
  match oobj j "canonical" with
  | some .null => some none
  | some (.str value) => (cursorParseHistoricalCanonicalTool? value).map some
  | _ => none

/-- A block of an assistant message, by its kind. -/
def cursorHistoricalAssistantBlock? (j : Json) : Option AssistantBlock := do
  match ← ostr j "kind" with
  | "text" => pure (.text (← ostr j "text"))
  | "thinking" =>
    pure (.thinking (← ostr j "thinking") (← cursorHistoricalOptionalString? j "signature"))
  | "toolCall" =>
    let canonical ← cursorHistoricalCanonical? j
    let rawId ← cursorHistoricalRawId? j "rawId"
    pure (.toolCall { raw := ← ostr j "name", canonical } (← oobj j "arguments") rawId.value)
  | "media" => pure (.media (← ostr j "mimeType") (← ostr j "data"))
  | "unmodeled" => pure (.unmodeled (← ostr j "label") (← oobj j "raw"))
  | _ => none

/-- The call that a tool result answers. -/
def cursorHistoricalCallRefJson : CallRef → Json
  | .resolved entry block =>
    Json.mkObj [("kind", .str "resolved"), ("entry", .ofNat entry), ("block", .ofNat block)]
  | .unresolved rawId note =>
    Json.mkObj [("kind", .str "unresolved"), ("rawId", cursorHistoricalOptionalString rawId),
      ("note", .str note)]

/-- The call that a tool result answers, by its kind. -/
def cursorHistoricalCallRef? (j : Json) : Option CallRef := do
  match ← ostr j "kind" with
  | "resolved" => pure (.resolved (← onat j "entry") (← onat j "block"))
  | "unresolved" =>
    pure (.unresolved (← cursorHistoricalOptionalString? j "rawId") (← ostr j "note"))
  | _ => none

/-- How the error of a tool result was found. -/
def cursorHistoricalErrorJson : ErrorSignal → Json
  | .native value => Json.mkObj [("kind", .str "native"), ("value", .bool value)]
  | .heuristic value heuristic =>
    Json.mkObj [("kind", .str "heuristic"), ("value", .bool value), ("method", .str heuristic)]
  | .structured value source =>
    Json.mkObj [("kind", .str "structured"), ("value", .bool value), ("source", .str source)]
  | .unrecorded => Json.mkObj [("kind", .str "unrecorded")]

/-- How the error of a tool result was found.  Older records name inferred errors. -/
def cursorHistoricalError? (j : Json) : Option ErrorSignal := do
  match ← ostr j "kind" with
  | "native" => pure (.native (← obool j "value"))
  | "inferred" => pure (.heuristic (← obool j "value") (← ostr j "heuristic"))
  | "heuristic" => pure (.heuristic (← obool j "value") (← ostr j "method"))
  | "structured" => pure (.structured (← obool j "value") (← ostr j "source"))
  | "unrecorded" => pure .unrecorded
  | _ => none

/-- A block of an environment message. -/
def cursorHistoricalEnvBlockJson : EnvBlock → Json
  | .toolResult call content error =>
    Json.mkObj [("kind", .str "toolResult"), ("call", cursorHistoricalCallRefJson call),
      ("content", .arr (content.map cursorHistoricalUserBlockJson)),
      ("error", cursorHistoricalErrorJson error)]
  | .unmodeled label raw =>
    Json.mkObj [("kind", .str "unmodeled"), ("label", .str label), ("raw", raw)]

/-- A block of an environment message, by its kind. -/
def cursorHistoricalEnvBlock? (j : Json) : Option EnvBlock := do
  match ← ostr j "kind" with
  | "toolResult" =>
    let content ← oarr j "content"
    pure (.toolResult (← oobj j "call" >>= cursorHistoricalCallRef?)
      (← content.mapM cursorHistoricalUserBlock?) (← oobj j "error" >>= cursorHistoricalError?))
  | "unmodeled" => pure (.unmodeled (← ostr j "label") (← oobj j "raw"))
  | _ => none

/-! ### Payloads -/

/-- What a compaction left out. -/
def cursorHistoricalCoverageJson : CompactionCoverage → Json
  | .knownPrefix firstKept =>
    Json.mkObj [("kind", .str "knownPrefix"), ("firstKept", .ofNat firstKept)]
  | .unknownPrefix => Json.mkObj [("kind", .str "unknownPrefix")]

/-- What a compaction left out, by its kind. -/
def cursorHistoricalCoverage? (j : Json) : Option CompactionCoverage := do
  match ← ostr j "kind" with
  | "knownPrefix" => pure (.knownPrefix (← onat j "firstKept"))
  | "unknownPrefix" => pure .unknownPrefix
  | _ => none

/-- An event of the session. -/
def cursorHistoricalMetaEventJson : MetaEvent → Json
  | .modelChange previous next =>
    Json.mkObj [("kind", .str "modelChange"),
      ("previous", cursorHistoricalOptionalString previous),
      ("next", cursorHistoricalOptionalString next)]
  | .thinkingLevelChange previous next =>
    Json.mkObj [("kind", .str "thinkingLevelChange"),
      ("previous", cursorHistoricalOptionalString previous),
      ("next", cursorHistoricalOptionalString next)]
  | .permissionMode mode => Json.mkObj [("kind", .str "permissionMode"), ("mode", .str mode)]
  | .branchSummary summary =>
    Json.mkObj [("kind", .str "branchSummary"), ("summary", .str summary)]
  | .custom label raw =>
    Json.mkObj [("kind", .str "custom"), ("label", .str label), ("raw", raw)]

/-- An event of the session, by its kind. -/
def cursorHistoricalMetaEvent? (j : Json) : Option MetaEvent := do
  match ← ostr j "kind" with
  | "modelChange" =>
    pure (.modelChange (← cursorHistoricalOptionalString? j "previous")
      (← cursorHistoricalOptionalString? j "next"))
  | "thinkingLevelChange" =>
    pure (.thinkingLevelChange (← cursorHistoricalOptionalString? j "previous")
      (← cursorHistoricalOptionalString? j "next"))
  | "permissionMode" => pure (.permissionMode (← ostr j "mode"))
  | "branchSummary" => pure (.branchSummary (← ostr j "summary"))
  | "custom" => pure (.custom (← ostr j "label") (← oobj j "raw"))
  | _ => none

/-- The payload of an archived entry. -/
def cursorHistoricalPayloadJson : Payload → Json
  | .userMsg blocks =>
    Json.mkObj [("kind", .str "userMsg"),
      ("blocks", .arr (blocks.map cursorHistoricalUserBlockJson))]
  | .assistantMsg blocks =>
    Json.mkObj [("kind", .str "assistantMsg"),
      ("blocks", .arr (blocks.map cursorHistoricalAssistantBlockJson))]
  | .envMsg blocks =>
    Json.mkObj [("kind", .str "envMsg"),
      ("blocks", .arr (blocks.map cursorHistoricalEnvBlockJson))]
  | .otherMsg role blocks =>
    Json.mkObj [("kind", .str "otherMsg"), ("role", .str role),
      ("blocks", .arr (blocks.map cursorHistoricalUserBlockJson))]
  | .compaction summary coverage tokensBefore =>
    Json.mkObj [("kind", .str "compaction"), ("summary", .str summary),
      ("coverage", cursorHistoricalCoverageJson coverage),
      ("tokensBefore", (tokensBefore.map Json.ofNat).getD .null)]
  | .event event =>
    Json.mkObj [("kind", .str "event"), ("event", cursorHistoricalMetaEventJson event)]

/-- The archived token count, which may be null but not absent. -/
def cursorHistoricalTokensBefore? (j : Json) : Option (Option Nat) :=
  match oobj j "tokensBefore" with
  | some .null => some none
  | some value => value.getNat?.toOption.map some
  | none => none

/-- The payload of an archived entry, by its kind. -/
def cursorHistoricalPayload? (j : Json) : Option Payload := do
  match ← ostr j "kind" with
  | "userMsg" =>
    let blocks ← oarr j "blocks"
    pure (.userMsg (← blocks.mapM cursorHistoricalUserBlock?))
  | "assistantMsg" =>
    let blocks ← oarr j "blocks"
    pure (.assistantMsg (← blocks.mapM cursorHistoricalAssistantBlock?))
  | "envMsg" =>
    let blocks ← oarr j "blocks"
    pure (.envMsg (← blocks.mapM cursorHistoricalEnvBlock?))
  | "otherMsg" =>
    let blocks ← oarr j "blocks"
    pure (.otherMsg (← ostr j "role") (← blocks.mapM cursorHistoricalUserBlock?))
  | "compaction" =>
    let tokensBefore ← cursorHistoricalTokensBefore? j
    pure (.compaction (← ostr j "summary") (← oobj j "coverage" >>= cursorHistoricalCoverage?)
      tokensBefore)
  | "event" => pure (.event (← oobj j "event" >>= cursorHistoricalMetaEvent?))
  | _ => none

/-! ### Carriers -/

/-- The rendering of a block with the id spelling of the raw block it was read from. -/
def cursorHistoricalRenderBlock (rawBlock : Json) (block : AssistantBlock) : Option Json :=
  match block with
  | .toolCall _ _ rawId => do
    let sourceRawId ← cursorHistoricalRawId? rawBlock "rawId"
    guard (sourceRawId.value == rawId)
    pure (cursorHistoricalAssistantBlockJsonWithRawId (some sourceRawId) block)
  | _ => some (cursorHistoricalAssistantBlockJsonWithRawId none block)

/-- The rendering a payload must have been read from.  The id spelling of a tool call is the one
thing copied from the raw object. -/
def cursorHistoricalCanonicalPayload? (j : Json) : Payload → Option Json
  | .assistantMsg blocks => do
    let rawBlocks ← oarr j "blocks"
    guard (rawBlocks.length == blocks.length)
    let rendered ← (rawBlocks.zip blocks).mapM fun (rawBlock, block) =>
      cursorHistoricalRenderBlock rawBlock block
    pure (Json.mkObj [("kind", .str "assistantMsg"), ("blocks", .arr rendered)])
  | payload => some (cursorHistoricalPayloadJson payload)

/-- A payload which renders to the very object it was read from. -/
def cursorHistoricalStrictPayload? (j : Json) : Option Payload := do
  let payload ← cursorHistoricalPayload? j
  let canonical ← cursorHistoricalCanonicalPayload? j payload
  guard (j == canonical)
  pure payload

/-- The record the entry was read from, which must be an object if it is kept. -/
def cursorHistoricalSourceRawRecord? (j : Json) : Option (Option Json) :=
  match j.getObjVal? cursorAgentHistoricalSourceRawRecordKey with
  | .error _ => some none
  | .ok (.obj kvs) => some (some (.obj kvs))
  | .ok _ => none

/-- The payload of a record that archives an entry.  The record must be the one that is written for
it, to the last member. -/
def cursorAgentHistoricalEntryPayload? (j : Json) : Option Payload := do
  guard (ostr j "type" == some cursorAgentHistoricalRecordType)
  guard (ostr j "protocol" == some cursorAgentHistoricalProtocol)
  let rawPayload ← oobj j "payload"
  let payload ← cursorHistoricalStrictPayload? rawPayload
  let sourceRawRecord? ← cursorHistoricalSourceRawRecord? j
  let canonical := Json.mkObj ([("type", .str cursorAgentHistoricalRecordType),
    ("protocol", .str cursorAgentHistoricalProtocol), ("payload", rawPayload)] ++
    sourceRawRecord?.toList.map fun source => (cursorAgentHistoricalSourceRawRecordKey, source))
  guard (j == canonical)
  pure payload

end AgentConvert.CursorAgent
