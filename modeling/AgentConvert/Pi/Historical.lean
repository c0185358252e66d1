import AgentConvert.Pi.Carriers

/-!
# Historical payloads in Pi records

A record that Pi has no native shape for is archived as a custom entry with a typed payload.
These are the readers of that payload, one for each type of the intermediate representation.
-/

namespace AgentConvert.Pi

/-- A canonical tool by its name. -/
def piParseHistoricalCanonicalTool (ctx value : String) : Except String CanonicalTool :=
  match piParseCanonicalToolName? value with
  | some tool => pure tool
  | none => piSchemaError ctx s!"unsupported canonical tool '{value}'"

/-- A block of a user message. -/
def piParseHistoricalUserBlock (ctx : String) (value : Json) : Except String UserBlock := do
  match ← piRequireNonemptyString ctx value "kind" with
  | "text" => pure (.text (← piRequireString ctx value "text"))
  | "media" =>
    pure (.media (← piRequireString ctx value "mimeType") (← piRequireString ctx value "data"))
  | "unmodeled" =>
    pure (.unmodeled (← piRequireString ctx value "label") (← piRequireField ctx value "raw"))
  | other => piSchemaError ctx s!"unsupported historical user block '{other}'"

/-- The canonical tool of a call, if it has one. -/
def piParseHistoricalCanonical (ctx : String) (value : Json) :
    Except String (Option CanonicalTool) := do
  match ← piOptionalNullableString ctx value "canonical" with
  | some name => pure (some (← piParseHistoricalCanonicalTool s!"{ctx}.canonical" name))
  | none => pure none

/-- A block of an assistant message. -/
def piParseHistoricalAssistantBlock (ctx : String) (value : Json) :
    Except String AssistantBlock := do
  match ← piRequireNonemptyString ctx value "kind" with
  | "text" => pure (.text (← piRequireString ctx value "text"))
  | "thinking" =>
    pure (.thinking (← piRequireString ctx value "thinking")
      (← piOptionalNullableString ctx value "signature"))
  | "toolCall" =>
    let canonical ← piParseHistoricalCanonical ctx value
    pure (.toolCall { raw := ← piRequireString ctx value "name", canonical }
      (← piRequireField ctx value "arguments") (← piOptionalNullableString ctx value "rawId"))
  | "media" =>
    pure (.media (← piRequireString ctx value "mimeType") (← piRequireString ctx value "data"))
  | "unmodeled" =>
    pure (.unmodeled (← piRequireString ctx value "label") (← piRequireField ctx value "raw"))
  | other => piSchemaError ctx s!"unsupported historical assistant block '{other}'"

/-- The call that a tool result answers. -/
def piParseHistoricalCallRef (ctx : String) (value : Json) : Except String CallRef := do
  match ← piRequireNonemptyString ctx value "kind" with
  | "resolved" =>
    pure (.resolved (← piRequireNat ctx value "entry") (← piRequireNat ctx value "block"))
  | "unresolved" =>
    pure (.unresolved (← piOptionalNullableString ctx value "rawId")
      (← piRequireString ctx value "note"))
  | other => piSchemaError ctx s!"unsupported historical call reference '{other}'"

/-- How the error of a tool result was found. -/
def piParseHistoricalErrorSignal (ctx : String) (value : Json) :
    Except String ErrorSignal := do
  match ← piRequireNonemptyString ctx value "kind" with
  | "native" => pure (.native (← piRequireBool ctx value "value"))
  | "inferred" =>
    pure (.heuristic (← piRequireBool ctx value "value")
      (← piRequireString ctx value "heuristic"))
  | "heuristic" =>
    pure (.heuristic (← piRequireBool ctx value "value") (← piRequireString ctx value "method"))
  | "structured" =>
    pure (.structured (← piRequireBool ctx value "value") (← piRequireString ctx value "source"))
  | "unrecorded" => pure .unrecorded
  | other => piSchemaError ctx s!"unsupported historical error signal '{other}'"

/-- A block of an environment message: a tool result, or a value kept as it is. -/
def piParseHistoricalEnvBlock (ctx : String) (value : Json) : Except String EnvBlock := do
  match ← piRequireNonemptyString ctx value "kind" with
  | "toolResult" =>
    pure (.toolResult
      (← piParseHistoricalCallRef s!"{ctx}.call" (← piRequireObject ctx value "call"))
      (← (← piRequireArray ctx value "content").zipIdx.mapM fun (block, blockIdx) =>
        piParseHistoricalUserBlock s!"{ctx}.content[{blockIdx}]" block)
      (← piParseHistoricalErrorSignal s!"{ctx}.error" (← piRequireObject ctx value "error")))
  | "unmodeled" =>
    pure (.unmodeled (← piRequireString ctx value "label") (← piRequireField ctx value "raw"))
  | other => piSchemaError ctx s!"unsupported historical environment block '{other}'"

/-- What a compaction left out. -/
def piParseHistoricalCoverage (ctx : String) (value : Json) :
    Except String CompactionCoverage := do
  match ← piRequireNonemptyString ctx value "kind" with
  | "knownPrefix" => pure (.knownPrefix (← piRequireNat ctx value "firstKept"))
  | "unknownPrefix" => pure .unknownPrefix
  | other => piSchemaError ctx s!"unsupported historical compaction coverage '{other}'"

/-- An event of the session. -/
def piParseHistoricalMetaEvent (ctx : String) (value : Json) : Except String MetaEvent := do
  match ← piRequireNonemptyString ctx value "kind" with
  | "modelChange" =>
    pure (.modelChange (← piOptionalNullableString ctx value "previous")
      (← piOptionalNullableString ctx value "next"))
  | "thinkingLevelChange" =>
    pure (.thinkingLevelChange (← piOptionalNullableString ctx value "previous")
      (← piOptionalNullableString ctx value "next"))
  | "permissionMode" => pure (.permissionMode (← piRequireString ctx value "mode"))
  | "branchSummary" => pure (.branchSummary (← piRequireString ctx value "summary"))
  | "custom" =>
    pure (.custom (← piRequireString ctx value "label") (← piRequireField ctx value "raw"))
  | other => piSchemaError ctx s!"unsupported historical event '{other}'"

/-- The blocks of an archived message. -/
def piParseHistoricalBlocks {α : Type} (parse : String → Json → Except String α)
    (ctx : String) (value : Json) : Except String (List α) := do
  (← piRequireArray ctx value "blocks").zipIdx.mapM fun (block, blockIdx) =>
    parse s!"{ctx}.blocks[{blockIdx}]" block

/-- The payload of an archived entry. -/
def piParseHistoricalPayload (ctx : String) (value : Json) : Except String Payload := do
  match ← piRequireNonemptyString ctx value "kind" with
  | "userMsg" =>
    pure (.userMsg (← piParseHistoricalBlocks piParseHistoricalUserBlock ctx value))
  | "assistantMsg" =>
    pure (.assistantMsg (← piParseHistoricalBlocks piParseHistoricalAssistantBlock ctx value))
  | "envMsg" =>
    pure (.envMsg (← piParseHistoricalBlocks piParseHistoricalEnvBlock ctx value))
  | "otherMsg" =>
    pure (.otherMsg (← piRequireString ctx value "role")
      (← piParseHistoricalBlocks piParseHistoricalUserBlock ctx value))
  | "compaction" =>
    pure (.compaction (← piRequireString ctx value "summary")
      (← piParseHistoricalCoverage s!"{ctx}.coverage" (← piRequireObject ctx value "coverage"))
      (← piOptionalNullableNat ctx value "tokensBefore"))
  | "event" =>
    pure (.event (← piParseHistoricalMetaEvent s!"{ctx}.event"
      (← piRequireObject ctx value "event")))
  | other => piSchemaError ctx s!"unsupported historical payload '{other}'"

/-- Source block indices, which are natural numbers. -/
def piSourceBlockIndices (ctx : String) (indices : List Json) : Except String (List Nat) :=
  indices.zipIdx.mapM fun (index, indexIdx) =>
    match index.getNat? with
    | .ok block => pure block
    | .error _ =>
      piSchemaError s!"{ctx}.sourceBlockIndices[{indexIdx}]"
        "source block index must be a natural number"

/-- Where an archived assistant message stood in its source, when that was recorded. -/
def piParseHistoricalAssistantSource (ctx : String) (value : Json) (payload : Payload) :
    Except String (Option Nat × List Nat) :=
  match payload with
  | .assistantMsg blocks => do
    let sourceEntry ← piOptionalNat ctx value "sourceEntry"
    let sourceIndices ← piOptionalArray ctx value "sourceBlockIndices"
    if sourceEntry.isSome != sourceIndices.isSome then
      piSchemaError ctx
        "historical assistant sourceEntry/sourceBlockIndices must appear together"
    else
      match sourceEntry, sourceIndices with
      | some entry, some indices =>
        let sourceBlocks ← piSourceBlockIndices ctx indices
        if sourceBlocks.length != blocks.length then
          piSchemaError ctx
            "historical assistant blocks and sourceBlockIndices must have equal length"
        else pure (some entry, sourceBlocks)
      | none, none => pure (none, [])
      | _, _ => piSchemaError ctx "historical assistant source coordinates are incomplete"
  | _ => pure (none, [])

end AgentConvert.Pi
