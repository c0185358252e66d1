import AgentConvert.CursorAgent.Import

/-!
# The cursor-agent exporter

An entry is written as a native message record when cursor-agent can hold all of it, and whole in
an archive record otherwise.  Native syntax for a tool call is an authority to run it, and each
authority is used at most once: a later copy of the call is archived.
-/

namespace AgentConvert.CursorAgent

/-! ### Blocks -/

/-- The input has the form of a native tool call. -/
def cursorAgentNativeToolInput (name : ToolName) (args : Json) : Bool :=
  match args with
  | .obj _ => true
  | .str _ => name.raw == "ApplyPatch"
  | _ => false

/-- Whether a native block can hold everything the call asserts.  The canonical tool is derived
from the name when the block is read, so a call that asserts another one cannot be native. -/
def cursorAgentToolCallIsNativeRepresentable (name : ToolName) (args : Json)
    (rawId : Option String) : Bool :=
  !name.raw.isEmpty &&
    (name.canonical.isNone || name.canonical == cursorCanonicalTool (some name.raw)) &&
    cursorAgentNativeToolInput name args &&
    (match rawId with
      | some id => !id.isEmpty
      | none => true)

/-- A call as a native block.  An absent id stays absent. -/
def cursorAgentNativeToolBlock (name : ToolName) (args : Json) (rawId : Option String) : Json :=
  Json.mkObj ([("type", .str "tool_use"), ("name", .str name.raw), ("input", args)] ++
    match rawId with
    | some id => [("id", .str id)]
    | none => [])

/-- A block that carries a call of another harness. -/
def cursorAgentForeignToolCarrier (name : ToolName) (args : Json) (rawId : Option String) :
    Json :=
  Json.mkObj ([("type", .str "agent_convert_tool_call"), ("rawName", .str name.raw),
    ("args", args)] ++
    match rawId with
    | some id => [("rawId", .str id)]
    | none => [])

/-- A block without the record it was read from. -/
def exportAssistantBlock : AssistantBlock → Option Json
  | .text s => some (Json.mkObj [("type", .str "text"), ("text", .str s)])
  | .toolCall name args rawId => some (cursorAgentForeignToolCarrier name args rawId)
  | .unmodeled _ raw => some raw
  | .thinking _ _ | .media _ _ => none

/-- The raw value with the given members set to the given values. -/
def overlayJsonFields (raw : Json) (modeledKeys : List String) (fields : List (String × Json)) :
    Json :=
  match raw with
  | .obj obj =>
    let obj := modeledKeys.foldl (fun acc key => Json.eraseMember key acc) obj
    .obj (fields.foldl (fun acc field => Json.insertMember field.1 field.2 acc) obj)
  | _ => Json.mkObj fields

/-! ### The record an entry was read from -/

/-- The record the entry was read from, if it comes from this harness. -/
def cursorAgentRawRecord (e : Entry) : Option Json :=
  if e.origin.format == .cursorAgent then
    e.origin.extras.bind fun extras => oobj extras "rawRecord"
  else none

/-- The blocks of the record. -/
def cursorAgentRawContent (rawRecord : Option Json) : Option (List Json) :=
  (rawRecord.bind fun record => oobj record "message").bind fun message => oarr message "content"

/-- The block of the record at an index. -/
def cursorAgentRawBlock (rawRecord : Option Json) (idx : Nat) : Option Json :=
  (cursorAgentRawContent rawRecord).bind fun content => content[idx]?

/-- The block at an index of an archived assistant message. -/
def cursorAgentHistoricalRawBlock (rawRecord : Json) (idx : Nat) : Option Json := do
  guard (ostr rawRecord "type" == some cursorAgentHistoricalRecordType)
  guard (ostr rawRecord "protocol" == some cursorAgentHistoricalProtocol)
  let payload ← oobj rawRecord "payload"
  guard (ostr payload "kind" == some "assistantMsg")
  let blocks ← oarr payload "blocks"
  blocks[idx]?

/-- The id of the raw block, when the block is the given call. -/
def cursorAgentMatchingRawToolId? (raw : Json)
    (discriminator expected keyName keyArgs keyId : String) (name : ToolName) (args : Json)
    (rawId : Option String) : Option CursorHistoricalRawId := do
  guard (ostr raw discriminator == some expected)
  guard (ostr raw keyName == some name.raw)
  guard (oobj raw keyArgs == some args)
  let sourceRawId ← cursorHistoricalRawId? raw keyId
  guard (sourceRawId.value == rawId)
  pure sourceRawId

/-- The spelling of a tool id in the record the entry was read from. -/
def cursorAgentSourceRawToolId? (entry : Entry) (blockIdx : Nat) (name : ToolName) (args : Json)
    (rawId : Option String) : Option CursorHistoricalRawId := do
  let rawRecord ← cursorAgentRawRecord entry
  match cursorAgentHistoricalRawBlock rawRecord blockIdx with
  | some raw =>
    cursorAgentMatchingRawToolId? raw "kind" "toolCall" "name" "arguments" "rawId" name args rawId
  | none =>
    let raw ← cursorAgentRawBlock (some rawRecord) blockIdx
    match ostr raw "type" with
    | some "tool_use" =>
      cursorAgentMatchingRawToolId? raw "type" "tool_use" "name" "input" "id" name args rawId
    | some "agent_convert_tool_call" =>
      cursorAgentMatchingRawToolId? raw "type" "agent_convert_tool_call" "rawName" "args" "rawId"
        name args rawId
    | _ => none

/-! ### Archive records -/

/-- The payload of an entry, with the ids of its calls spelled as the source spelled them. -/
def cursorHistoricalEntryPayloadJson (entry : Entry) : Json :=
  match entry.payload with
  | .assistantMsg blocks => Json.mkObj [("kind", .str "assistantMsg"),
      ("blocks", .arr (blocks.zipIdx.map fun (block, blockIdx) =>
        let sourceRawId? := match block with
          | .toolCall name args rawId =>
            cursorAgentSourceRawToolId? entry blockIdx name args rawId
          | _ => none
        cursorHistoricalAssistantBlockJsonWithRawId sourceRawId? block))]
  | payload => cursorHistoricalPayloadJson payload

/-- The record an entry was read from; of an archive record, the one inside it. -/
def cursorAgentHistoricalSourceRawRecord? (entry : Entry) : Option Json := do
  let rawRecord ← cursorAgentRawRecord entry
  if ostr rawRecord "type" == some cursorAgentHistoricalRecordType &&
      ostr rawRecord "protocol" == some cursorAgentHistoricalProtocol then
    match rawRecord.getObjVal? cursorAgentHistoricalSourceRawRecordKey with
    | .ok (.obj kvs) => some (.obj kvs)
    | _ => none
  else
    match rawRecord with
    | .obj kvs => some (.obj kvs)
    | _ => none

/-- The record that archives an entry. -/
def cursorAgentHistoricalEntryCarrier (entry : Entry) : Json :=
  Json.mkObj ([("type", .str cursorAgentHistoricalRecordType),
    ("protocol", .str cursorAgentHistoricalProtocol),
    ("payload", cursorHistoricalEntryPayloadJson entry)] ++
    (cursorAgentHistoricalSourceRawRecord? entry).toList.map fun source =>
      (cursorAgentHistoricalSourceRawRecordKey, source))

/-! ### Native tool calls -/

/-- The block the call was read from, if the entry and the record it was read from agree on it. -/
def cursorAgentExactImportedToolBlock? (e : Entry) (blockIdx : Nat) (name : ToolName)
    (args : Json) (rawId : Option String) : Option Json := do
  guard (e.disposition == .native)
  guard (e.origin.format == .cursorAgent)
  let rawRecord ← cursorAgentRawRecord e
  let content ← match classifyCursorAgentRecord 0 rawRecord with
    | .ok (.message "assistant" content) => some content
    | _ => none
  let raw ← content[blockIdx]?
  guard (ostr raw "type" == some "tool_use")
  let rawName ← ostr raw "name"
  guard (rawName == name.raw)
  guard (name.canonical == cursorCanonicalTool (some rawName))
  guard (oobj raw "input" == some args)
  let sourceId ← (optionalString "cursor-agent raw tool block" raw "id").toOption
  guard (sourceId == rawId)
  guard (cursorAgentNativeToolInput name args)
  pure raw

/-- The native block for a call: the one it was read from, or a new one for a call of another
format. -/
def cursorAgentNativeToolBlockFor? (e : Entry) (blockIdx : Nat) (name : ToolName) (args : Json)
    (rawId : Option String) : Option Json :=
  match cursorAgentExactImportedToolBlock? e blockIdx name args rawId with
  | some raw => some raw
  | none =>
    if e.origin.format == .cursorAgent then none
    else if e.disposition != .native then none
    else if cursorAgentToolCallIsNativeRepresentable name args rawId then
      some (cursorAgentNativeToolBlock name args rawId)
    else none

/-- What makes two native blocks the same call: the id, or the block itself when it has none. -/
inductive CursorAgentToolAuthorityKey where
  | explicitId (rawId : String)
  | anonymousBlock (canonicalSourceBlock : String)
  deriving Repr, DecidableEq

/-- What a native tool call of an entry is known by. -/
def cursorAgentToolAuthorityKey? (entry : Entry) (blockIdx : Nat) (name : ToolName)
    (args : Json) (rawId : Option String) : Option CursorAgentToolAuthorityKey := do
  let sourceBlock ← cursorAgentNativeToolBlockFor? entry blockIdx name args rawId
  match rawId with
  | some sourceId =>
    guard (!sourceId.isEmpty)
    pure (.explicitId sourceId)
  | none => pure (.anonymousBlock sourceBlock.compress)

/-- What the native tool calls of an entry are known by. -/
def cursorAgentEntryToolAuthorityKeys (entry : Entry) : List CursorAgentToolAuthorityKey :=
  match entry.payload with
  | .assistantMsg blocks => blocks.zipIdx.filterMap fun (block, blockIdx) =>
    match block with
    | .toolCall name args rawId => cursorAgentToolAuthorityKey? entry blockIdx name args rawId
    | _ => none
  | _ => []

/-- No key is among the used ones or comes twice. -/
def cursorAgentToolAuthorityKeysFresh :
    List CursorAgentToolAuthorityKey → List CursorAgentToolAuthorityKey → Bool
  | _, [] => true
  | seen, key :: keys =>
    if seen.contains key then false else cursorAgentToolAuthorityKeysFresh (key :: seen) keys

/-! ### Entries -/

/-- Whether the record the entry was read from is a message of the role. -/
def cursorAgentRawRecordAuthorizesRole (entry : Entry) (role : String) : Bool :=
  if entry.origin.format != .cursorAgent then true
  else
    match cursorAgentRawRecord entry with
    | none => false
    | some rawRecord =>
      match classifyCursorAgentRecord 0 rawRecord with
      | .ok (.message sourceRole _) => sourceRole == role
      | _ => false

/-- An entry is archived when it is unverified or has a part that is not native. -/
def cursorAgentEntryNeedsHistoricalCarrier (e : Entry) : Bool :=
  e.disposition == .historicalUnverified ||
    match e.payload with
    | .userMsg blocks =>
      !cursorAgentRawRecordAuthorizesRole e "user" ||
        blocks.any fun block =>
          match block with
          | .text _ => false
          | .media _ _ | .unmodeled _ _ => true
    | .assistantMsg blocks =>
      !cursorAgentRawRecordAuthorizesRole e "assistant" ||
        (blocks.zipIdx.any fun (block, blockIdx) =>
          match block with
          | .text _ => false
          | .toolCall name args rawId =>
            (cursorAgentNativeToolBlockFor? e blockIdx name args rawId).isNone
          | .thinking _ _ | .media _ _ | .unmodeled _ _ => true) ||
        !cursorAgentToolAuthorityKeysFresh [] (cursorAgentEntryToolAuthorityKeys e)
    | .envMsg _ | .otherMsg _ _ | .compaction _ _ _ | .event _ => true

/-- A tool call of the entry is known by what another call is known by. -/
def cursorAgentEntryReusesToolAuthority (used : List CursorAgentToolAuthorityKey)
    (entry : Entry) : Bool :=
  !cursorAgentToolAuthorityKeysFresh used (cursorAgentEntryToolAuthorityKeys entry)

/-- The block of the source with the modeled fields replaced, if it is of the same type. -/
def overlayCursorAgentBlock (raw : Option Json) (kind : String) (modeledKeys : List String)
    (fields : List (String × Json)) : Json :=
  match raw with
  | some source =>
    if ostr source "type" == some kind then overlayJsonFields source modeledKeys fields
    else Json.mkObj fields
  | none => Json.mkObj fields

/-- A block of the user, with what the source had beside its fields. -/
def exportUserBlockPreserving (raw : Option Json) : UserBlock → Option Json
  | .text text => some (overlayCursorAgentBlock raw "text" ["type", "text"]
      [("type", .str "text"), ("text", .str text)])
  | .unmodeled _ source => some source
  | .media _ _ => none

/-- A block of the assistant, with what the source had beside its fields. -/
def exportAssistantBlockPreserving (entry : Entry) (raw : Option Json) (blockIdx : Nat) :
    AssistantBlock → Option Json
  | .text text => some (overlayCursorAgentBlock raw "text" ["type", "text"]
      [("type", .str "text"), ("text", .str text)])
  | .toolCall name args rawId =>
    match cursorAgentNativeToolBlockFor? entry blockIdx name args rawId with
    | some source => some source
    | none => exportAssistantBlock (.toolCall name args rawId)
  | .unmodeled _ source => some source
  | .thinking _ _ | .media _ _ => none

/-- A message, with what the source had beside its fields. -/
def exportCursorAgentMessage (rawRecord : Option Json) (role : String) (content : List Json) :
    Json :=
  let messageFields := [("content", Json.arr content)]
  let message := match rawRecord.bind fun record => oobj record "message" with
    | some rawMessage => overlayJsonFields rawMessage ["content"] messageFields
    | none => Json.mkObj messageFields
  let recordFields := [("role", Json.str role), ("message", message)]
  match rawRecord with
  | some raw => overlayJsonFields raw ["role", "message"] recordFields
  | none => Json.mkObj recordFields

/-- One entry as a record. -/
def exportEntry (e : Entry) : Option Json :=
  if cursorAgentEntryNeedsHistoricalCarrier e then some (cursorAgentHistoricalEntryCarrier e)
  else
  let rawRecord := cursorAgentRawRecord e
  match e.payload with
  | .userMsg blocks =>
    match blocks.zipIdx.mapM fun (block, idx) =>
        exportUserBlockPreserving (cursorAgentRawBlock rawRecord idx) block with
    | some content => some (exportCursorAgentMessage rawRecord "user" content)
    | none => some (cursorAgentHistoricalEntryCarrier e)
  | .assistantMsg blocks =>
    match blocks.zipIdx.mapM fun (block, idx) =>
        exportAssistantBlockPreserving e (cursorAgentRawBlock rawRecord idx) idx block with
    | some content => some (exportCursorAgentMessage rawRecord "assistant" content)
    | none => some (cursorAgentHistoricalEntryCarrier e)
  | _ => some (cursorAgentHistoricalEntryCarrier e)

/-- The record that the export loop writes for an entry, given the authorities used so far. -/
def exportRecord (used : List CursorAgentToolAuthorityKey) (entry : Entry) : Option Json :=
  if cursorAgentEntryNeedsHistoricalCarrier entry ||
      cursorAgentEntryReusesToolAuthority used entry then
    some (cursorAgentHistoricalEntryCarrier entry)
  else exportEntry entry

/-- The export loop.  The authorities of an entry are used up even when it is archived. -/
def exportFrom : List CursorAgentToolAuthorityKey → List Entry → List Json
  | _, [] => []
  | used, entry :: entries =>
    (exportRecord used entry).toList ++
      exportFrom (cursorAgentEntryToolAuthorityKeys entry ++ used) entries

/-- The records of a transcript, in its order. -/
def exportCursorAgentEntries (entries : List Entry) : List Json := exportFrom [] entries

/-- A transcript as lines, each ended by a newline. -/
def exportCursorAgent (t : Transcript) : String :=
  String.intercalate "\n" ((exportCursorAgentEntries t.entries).map Json.compress) ++ "\n"

end AgentConvert.CursorAgent
