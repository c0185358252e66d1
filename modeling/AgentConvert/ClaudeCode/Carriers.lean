import AgentConvert.ClaudeCode.Historical
import AgentConvert.Json.Parser

/-!
# Carriers in Claude records

What the exporter adds to a Claude session stands in one reserved member of a record, the marker,
or in a text block below a fixed header line.  A marker names its protocol, and each of its
members has a reader here; `none` means that the member is there but malformed.  None of them
reads the members of a record that link it to other records.
-/

namespace AgentConvert.ClaudeCode

/-- The member under which the converter keeps what Claude has no field for. -/
def claudeCarrierMarkerKey : String := "_agent_convert"

/-- The only protocol of such members. -/
def claudeCarrierProtocol : String := "agent-convert.claude-carriers.v1"

/-- The first line of a text block that carries a tool call. -/
def claudeHistoricalToolCallCarrierHeader : String :=
  "[Historical tool call from source transcript; not executed by Claude]"

/-- The first line of a text block that carries a tool result. -/
def claudeHistoricalToolResultCarrierHeader : String :=
  "[Historical tool result from source transcript; not executed by Claude]"

/-- The first line of a text block that carries an image. -/
def claudeMediaCarrierHeader : String :=
  "[Historical image source from source transcript]"

/-- The first line of a text block that carries an unknown block of the assistant. -/
def claudeUnmodeledAssistantCarrierHeader : String :=
  "[Historical unmodeled assistant block from source transcript]"

/-- The first line of a text block that carries an unknown block of the user. -/
def claudeUnmodeledUserCarrierHeader : String :=
  "[Historical unmodeled user block from source transcript]"

/-- The first line of a text block that carries an unknown block of the environment. -/
def claudeUnmodeledEnvCarrierHeader : String :=
  "[Historical unmodeled environment block from source transcript]"

/-- The name of a record that carries the environment of the source. -/
def claudeSourceEnvCarrierId : String := "agent-convert.claude-source-env.v1"

/-- The marker of a record, when it names the protocol. -/
def cCarrierMarker? (j : Json) : Option Json := do
  let marker ← oobj j claudeCarrierMarkerKey
  guard (ostr marker "protocol" == some claudeCarrierProtocol)
  pure marker

/-! ### Carriers in text blocks -/

/-- The object below a header line. -/
def cCarrierRecord? (header carrier text : String) : Option Json := do
  let encoded ← Text.dropPrefix? text (header ++ "\n")
  let record ← (Json.parse encoded).toOption
  guard (ostr record "carrier" == some carrier)
  pure record

/-- A tool call that was carried, and which of its calls it was. -/
structure ClaudeHistoricalCall where
  block : AssistantBlock
  occurrence : Option String

/-- The tool call that a text block carries. -/
def parseClaudeHistoricalToolCallCarrier? (text : String) : Option ClaudeHistoricalCall := do
  let record ← cCarrierRecord? claudeHistoricalToolCallCarrierHeader
    "agent-convert.claude-tool-call.v1" text
  let name ← ostr record "name"
  let canonical ← cParseCanonicalToolField? record
  let args ← oobj record "arguments"
  pure {
    block := .toolCall { raw := name, canonical } args (ostr record "id")
    occurrence := ostr record "occurrence" }

/-- The call that a carried result answers: an occurrence, or what is known of it. -/
inductive ClaudeHistoricalCallRef where
  | resolved (occurrence : String) (rawId : Option String)
  | unresolved (rawId : Option String) (note : String)

/-- A tool result that was carried. -/
structure ClaudeHistoricalResult where
  occurrence : String
  call : ClaudeHistoricalCallRef
  rawId : Option String
  content : List UserBlock
  error : ErrorSignal

/-- The call a historical result belongs to. -/
def cParseHistoricalCallRef? (callJson : Json) : Option ClaudeHistoricalCallRef :=
  match ostr callJson "kind" with
  | some "resolved" => do
    pure (.resolved (← ostr callJson "occurrence") (ostr callJson "rawId"))
  | some "unresolved" => do
    pure (.unresolved (ostr callJson "rawId") (← ostr callJson "note"))
  | _ => none

/-- The tool result that a text block carries. -/
def parseClaudeHistoricalToolResultCarrier? (text : String) : Option ClaudeHistoricalResult := do
  let record ← cCarrierRecord? claudeHistoricalToolResultCarrierHeader
    "agent-convert.claude-tool-result.v1" text
  let callJson ← oobj record "call"
  let call ← cParseHistoricalCallRef? callJson
  let contentJson ← oarr record "content"
  let content ← contentJson.mapM cParseHistoricalUserBlock?
  let error ← oobj record "error" >>= cParseErrorSignal?
  pure {
    occurrence := ← ostr record "occurrence"
    call, rawId := ostr record "id", content, error }

/-- The image that a text block carries, by its type and locator. -/
def parseClaudeMediaCarrier? (text : String) : Option (String × String) := do
  let record ← cCarrierRecord? claudeMediaCarrierHeader "agent-convert.claude-media.v1" text
  pure (← ostr record "mimeType", ← ostr record "locator")

/-- The block that a text block with the given header carries, as it is. -/
def cParseUnmodeledCarrier? (header carrier text : String) : Option (String × Json) := do
  let record ← cCarrierRecord? header carrier text
  pure (← ostr record "label", ← oobj record "raw")

/-- The unknown block of the assistant that a text block carries. -/
def parseClaudeUnmodeledAssistantCarrier? (text : String) : Option AssistantBlock := do
  let (label, raw) ← cParseUnmodeledCarrier? claudeUnmodeledAssistantCarrierHeader
    "agent-convert.claude-assistant-block.v1" text
  pure (.unmodeled label raw)

/-- The unknown block of the user that a text block carries. -/
def parseClaudeUnmodeledUserCarrier? (text : String) : Option UserBlock := do
  let (label, raw) ← cParseUnmodeledCarrier? claudeUnmodeledUserCarrierHeader
    "agent-convert.claude-user-block.v1" text
  pure (.unmodeled label raw)

/-- The unknown block of the environment that a text block carries. -/
def parseClaudeUnmodeledEnvCarrier? (text : String) : Option EnvBlock := do
  let (label, raw) ← cParseUnmodeledCarrier? claudeUnmodeledEnvCarrierHeader
    "agent-convert.claude-env-block.v1" text
  pure (.unmodeled label raw)

/-! ### Marker members -/

/-- The time that is carried in place of a timestamp. -/
def cParseTimeProvenance? (j : Json) : Option Time := do
  guard (ostr j "carrier" == some "agent-convert.time-provenance.v1")
  match ← ostr j "kind" with
  | "interpolated" => pure (.interpolated ⟨← onat j "ms"⟩ (← ostr j "basis"))
  | "sequenced" => pure (.sequenced (← onat j "ordinal"))
  | "absent" => pure .absent
  | _ => none

/-- The time that the marker of a record carries. -/
def cCarrierTimeProvenance? (j : Json) : Option Time := do
  let marker ← cCarrierMarker? j
  oobj marker "timeProvenance" >>= cParseTimeProvenance?

/-- A compaction that was carried, with the records it was read from. -/
structure ClaudeCompactionCarrier where
  summary : String
  coverage : CompactionCoverage
  tokensBefore : Option Nat
  sourceEnvelope : Option Json
  sourceBoundary : Option Json

/-- The compaction a record archives. -/
def cParseCompactionRecord? (record : Json) : Option ClaudeCompactionCarrier := do
  guard (ostr record "carrier" == some "agent-convert.claude-compaction.v1")
  pure {
    summary := ← ostr record "summary"
    coverage := ← oobj record "coverage" >>= cParseCompactionCoverage?
    tokensBefore := ← cOptionalNat? record "tokensBefore"
    sourceEnvelope := cNonNull (oobj record "sourceEnvelope")
    sourceBoundary := cNonNull (oobj record "sourceBoundary") }

/-- The compaction that a system record carries. -/
def cParseCompactionCarrier? (j : Json) : Option ClaudeCompactionCarrier := do
  guard (ostr j "type" == some "system")
  guard (ostr j "subtype" == some "agent_convert_compaction")
  let marker ← cCarrierMarker? j
  let record ← oobj marker "compaction"
  cParseCompactionRecord? record

/-- The stamp of a summary that is already in the model's input.  It is a compaction record under
another name, and has to agree with the text of the message. -/
def cParseContextCompaction? (j : Json) : Option ClaudeCompactionCarrier := do
  guard (ostr j "type" == some "user")
  let message ← oobj j "message"
  guard (ostr message "role" == some "user")
  let marker ← cCarrierMarker? j
  let record ← oobj marker "contextSummary"
  let synthetic := Json.mkObj [("type", .str "system"),
    ("subtype", .str "agent_convert_compaction"),
    (claudeCarrierMarkerKey, Json.mkObj [
      ("protocol", .str claudeCarrierProtocol), ("compaction", record)])]
  let parsed ← cParseCompactionCarrier? synthetic
  let expected := if (obool j "isCompactSummary").getD false then parsed.summary
    else "[Conversation summary]\n" ++ parsed.summary
  guard (ostr message "content" == some expected)
  pure parsed

/-- The payload that a system record carries without a part in the conversation. -/
def cParseInertPayloadCarrier? (j : Json) : Option Payload := do
  guard (ostr j "type" == some "system")
  guard (ostr j "subtype" == some "agent_convert_inert")
  let marker ← cCarrierMarker? j
  let record ← oobj marker "inertPayload"
  guard (ostr record "carrier" == some "agent-convert.claude-inert-payload.v1")
  oobj record "payload" >>= cParseInertPayloadJson?

/-- The items of a marker member which is a list; a missing list is empty. -/
def cMarkerItems? {α : Type} (key : String) (parse : Json → Option α) (j : Json) :
    Option (List α) := do
  let marker ← cCarrierMarker? j
  match oobj marker key with
  | none => pure []
  | some (.arr values) => values.mapM parse
  | some _ => none

/-- A member that is a natural number. -/
def cMember? (value : Json) (key : String) : Option Nat :=
  (oobj value key).bind fun raw => raw.getNat?.toOption

/-- The readable text that stands for reasoning of another provider. -/
def cCodexReasoningSummaryText? (raw : Json) : Option String :=
  match oarr raw "summary" with
  | none => some ""
  | some summary =>
    (summary.mapM fun item => do
      guard (ostr item "type" == some "summary_text")
      ostr item "text").map (String.intercalate "\n")

/-- The reasoning of a Codex record that cannot be read. -/
def cCodexReasoningEncryptedContent? (raw : Json) : Option String :=
  match ostr raw "type", oobj raw "encrypted_content" with
  | some _, some (.str value) => if value.isEmpty then none else some value
  | _, _ => none

/-- The text block that stands for reasoning of another harness. -/
def cReasoningContextBlock? : AssistantBlock → Option Json
  | .thinking text _ =>
    some (Json.mkObj [("type", .str "text"),
      ("text", .str (if text.isEmpty then "[prior reasoning not retained as readable text]"
        else "[Prior reasoning]\n" ++ text))])
  | .unmodeled label raw => do
    let _ ← cCodexReasoningEncryptedContent? raw
    let text := (cCodexReasoningSummaryText? raw).getD ""
    pure (Json.mkObj [("type", .str "text"),
      ("text", .str (if text.isEmpty then
        "[prior reasoning not retained as readable text: " ++ label ++ "]"
        else "[Prior reasoning]\n" ++ text))])
  | _ => none

/-- One item of the carried reasoning: a block and what it stands for, spelled exactly so. -/
def cReasoningItem? (value : Json) : Option (Nat × AssistantBlock) := do
  let block ← cMember? value "block"
  let source ← oobj value "source" >>= cParseHistoricalAssistantBlock?
  guard (cReasoningContextBlock? source).isSome
  guard (value == Json.mkObj [("block", .ofNat block),
    ("source", cHistoricalAssistantBlockJson source)])
  pure (block, source)

/-- The reasoning that the marker of a record carries. -/
def cCarrierReasoning? (j : Json) : Option (List (Nat × AssistantBlock)) :=
  cMarkerItems? "reasoning" cReasoningItem? j

/-- One item of the carried canonical names: a block and its tool. -/
def cToolCanonicalItem? (value : Json) : Option (Nat × CanonicalTool) := do
  let blockIdx ← cMember? value "block"
  let canonical ← cParseCanonicalToolField? value
  let canonical ← canonical
  pure (blockIdx, canonical)

/-- The canonical names that the marker of a record carries. -/
def cCarrierToolCanonical? (j : Json) : Option (List (Nat × CanonicalTool)) :=
  cMarkerItems? "toolCanonical" cToolCanonicalItem? j

/-- One item of the carried translations: a block, and the call it was translated from. -/
def cToolTranslationItem? (value : Json) : Option Json := do
  let _ ← cMember? value "block"
  let sourceFormat ← ostr value "sourceFormat"
  let sourceName ← ostr value "sourceName"
  guard (!sourceFormat.isEmpty && !sourceName.isEmpty)
  let _ ← oobj value "sourceInput"
  match oobj value "sourceNamespace" with
  | none | some (.str _) => pure value
  | _ => none

/-- The translations that the marker of a record carries. -/
def cCarrierToolTranslation? (j : Json) : Option (List Json) :=
  cMarkerItems? "toolTranslation" cToolTranslationItem? j

/-- One item of the carried error signals: a block and its signal, spelled exactly so. -/
def cToolErrorItem? (value : Json) : Option (Nat × ErrorSignal) := do
  let block ← cMember? value "block"
  let raw ← oobj value "errorSignal"
  let signal ← cParseErrorSignal? raw
  guard (raw == cErrorSignalJson signal)
  guard (value == Json.mkObj [("block", .ofNat block), ("errorSignal", raw)])
  pure (block, signal)

/-- The error signals that the marker of a record carries. -/
def cCarrierToolErrors? (j : Json) : Option (List (Nat × ErrorSignal)) :=
  cMarkerItems? "toolResultErrors" cToolErrorItem? j

/-- One item of the carried outputs: a block, a place in its content, and what the placeholder
there stands for. -/
def cUnavailableOutputItem? (value : Json) : Option (Nat × Nat × UserBlock) := do
  let block ← cMember? value "block"
  let content ← cMember? value "contentIndex"
  let source ← oobj value "source" >>= cParseHistoricalUserBlock?
  guard (cUnavailableResultPlaceholder? source).isSome
  guard (value == Json.mkObj [("block", .ofNat block), ("contentIndex", .ofNat content),
    ("source", cHistoricalUserBlockJson source)])
  pure (block, content, source)

/-- The outputs that the marker of a record carries. -/
def cCarrierUnavailableOutput? (j : Json) : Option (List (Nat × Nat × UserBlock)) :=
  cMarkerItems? "unavailableOutput" cUnavailableOutputItem? j

/-- The native envelope nested in a provenance member. -/
def cCarrierRawEnvelope? (j : Json) : Option Json := do
  let marker ← cCarrierMarker? j
  let provenance ← oobj marker "provenance"
  guard (ostr provenance "carrier" == some "agent-convert.claude-envelope-provenance.v1")
  let raw ← oobj provenance "rawEnvelope"
  match raw with
  | .obj _ => pure raw
  | _ => none

/-- The identity that the marker of a record carries as unverified. -/
def cCarrierIdentityProvenance? (j : Json) : Option Json := do
  let marker ← cCarrierMarker? j
  let identity ← oobj marker "identityProvenance"
  guard (ostr identity "carrier" == some "agent-convert.claude-identity-provenance.v1")
  guard (ostr identity "trust" == some "historical-unverified")
  pure identity

/-! ### Carriers of whole sessions -/

/-- The member, which must be there and must be a string or null. -/
def cDecodeNullableString (j : Json) (key : String) : Option (Option String) :=
  match j.getObjVal? key with
  | .ok (.str value) => some (some value)
  | .ok .null => some none
  | _ => none

/-- The environment of the source from an object with all its members. -/
def cDecodeSourceEnv? (j : Json) : Option EnvInfo := do
  guard (ostr j "carrier" == some claudeSourceEnvCarrierId)
  let cwd ← cDecodeNullableString j "cwd"
  let model ← cDecodeNullableString j "model"
  let provider ← cDecodeNullableString j "provider"
  let harnessVersion ← cDecodeNullableString j "harnessVersion"
  let instructions ← cDecodeNullableString j "instructions"
  let sessionId ← cDecodeNullableString j "sessionId"
  pure { cwd, model, provider, harnessVersion, instructions, sessionId }

/-- A recognized control text and its readable rendering. -/
structure ClaudeControlEnvelope where
  kind : String
  rendered : String
  raw : String

/-- A control removed from the conversation. -/
structure ClaudeArchivedControl where
  uuid : Option String
  sourceBlock : Nat
  ts : Option String
  envelope : ClaudeControlEnvelope
  rawRecord : Json

/-- A record left out of the conversation. -/
structure ClaudeArchivedRecord where
  uuid : Option String
  ts : Option String
  kind : String
  role : Option String
  reason : String
  raw : Json

/-- A member that is an object. -/
def cObject? (j : Json) (key : String) : Option Json :=
  match oobj j key with
  | some (.obj kvs) => some (.obj kvs)
  | _ => none

/-- A control message that was taken out of the conversation. -/
def cParseArchivedControlJson? (j : Json) : Option ClaudeArchivedControl := do
  let sourceBlock ← onat j "contentBlock"
  let rawRecord ← cObject? j "record"
  pure {
    uuid := ← cOptionalStringField? j "uuid"
    sourceBlock
    ts := ← cOptionalStringField? j "timestamp"
    envelope := {
      kind := ← ostr j "kind"
      rendered := ← ostr j "rendered"
      raw := ← ostr j "raw" }
    rawRecord }

/-- A record that was taken out of the conversation. -/
def cParseArchivedRecordJson? (j : Json) : Option ClaudeArchivedRecord := do
  let raw ← cObject? j "raw"
  pure {
    uuid := ← cOptionalStringField? j "uuid"
    ts := ← cOptionalStringField? j "timestamp"
    kind := ← ostr j "kind"
    role := ← cOptionalStringField? j "role"
    reason := ← ostr j "reason"
    raw }

/-- What a record about the session as a whole carries. -/
inductive ClaudeTranscriptProvenance where
  | control (value : ClaudeArchivedControl)
  | record (value : ClaudeArchivedRecord)
  | sourceEnv (value : EnvInfo) (rawCarrier : Json)

/-- The kind and the payload of a session carrier. -/
def cTranscriptProvenancePayload? (j : Json) : Option (String × Json) := do
  guard (ostr j "type" == some "agent-convert-provenance")
  let marker ← cCarrierMarker? j
  let carrier ← oobj marker "transcriptProvenance"
  guard (ostr carrier "carrier" == some "agent-convert.claude-transcript-provenance.v1")
  let payload ← oobj carrier "payload"
  let kind ← ostr carrier "kind"
  pure (kind, payload)

/-- What the record carries about the session as a whole. -/
def cParseTranscriptProvenanceCarrier? (j : Json) : Option ClaudeTranscriptProvenance := do
  let (kind, payload) ← cTranscriptProvenancePayload? j
  match kind with
  | "control" => (cParseArchivedControlJson? payload).map .control
  | "record" => (cParseArchivedRecordJson? payload).map .record
  | "sourceEnv" => (cDecodeSourceEnv? payload).map fun env => .sourceEnv env j
  | _ => none

/-- Whether the record is the header with the environment of the source. -/
def cIsSourceEnvCarrier (record : Json) : Bool :=
  match cParseTranscriptProvenanceCarrier? record with
  | some (.sourceEnv _ _) => true
  | _ => false

/-- The number of records that carry the environment of the source. -/
def cTranscriptSourceEnvCount (records : List Json) : Nat :=
  records.countP cIsSourceEnvCarrier

/-- The batch of events that is stored outside the conversation. -/
def cEventBatch? (record : Json) : Option Json :=
  oobj record claudeCarrierMarkerKey >>= fun marker => cNonNull (oobj marker "eventBatch")

/-! ### Kinds of records -/

/-- The envelope type decides the author when the message has no role; a role that disagrees
makes the record something else than conversation. -/
def cConversationKind? (j : Json) : Option String :=
  let kind := ostr j "type"
  let role := oobj j "message" >>= fun message => ostr message "role"
  match kind with
  | some "user" => if role.isNone || role == some "user" then some "user" else none
  | some "assistant" =>
    if role.isNone || role == some "assistant" then some "assistant" else none
  | _ => none

/-- Records of these types can stand on a path. -/
def cPathRecord (j : Json) : Bool :=
  match ostr j "type" with
  | some "user" | some "assistant" | some "system" => true
  | _ => false

/-- Records of these types can be named by a UUID. -/
def cGraphRecord (j : Json) : Bool := cPathRecord j || ostr j "type" == some "attachment"

/-- A record that Claude writes where it has compacted the conversation. -/
def cCompactionBoundary (j : Json) : Bool :=
  ostr j "type" == some "system" && ostr j "subtype" == some "compact_boundary"

/-- Records that are part of the resumable graph.  Other graph records count only where an edge
names them and no record of this kind has the same UUID. -/
def cSemanticGraphRecord (j : Json) : Bool :=
  (cConversationKind? j).isSome || cCompactionBoundary j ||
    (cParseCompactionCarrier? j).isSome || (cParseInertPayloadCarrier? j).isSome ||
    ostr j "type" == some "attachment"

/-- A session can be resumed from such a record. -/
def cResumableRecord (j : Json) : Bool :=
  (cConversationKind? j).isSome || (cParseCompactionCarrier? j).isSome ||
    (cParseInertPayloadCarrier? j).isSome

end AgentConvert.ClaudeCode
