import AgentConvert.Json.Access
import AgentConvert.Lib.Text
import AgentConvert.Loom.Core

/-!
# Historical values in Claude records

What Claude Code has no record for is archived as JSON inside a reserved member.  These are the
readers of the archived values, one for each type of the intermediate representation, and the
renderings that some readers compare their input with.
-/

namespace AgentConvert.ClaudeCode

/-- A member that must be there, as a string or as null. -/
def cParseNullableStringField? (j : Json) (key : String) : Option (Option String) :=
  match oobj j key with
  | some .null => some none
  | some (.str value) => some (some value)
  | _ => none

/-- A member that may be missing, but is a string when it is there. -/
def cOptionalStringField? (j : Json) (key : String) : Option (Option String) :=
  match oobj j key with
  | none => some none
  | some (.str value) => some (some value)
  | some _ => none

/-- The member, which may be missing or null and must be a natural number otherwise. -/
def cOptionalNat? (j : Json) (key : String) : Option (Option Nat) :=
  match oobj j key with
  | none | some .null => some none
  | some value => value.getNat?.toOption.map some

/-- Null counts as missing. -/
def cNonNull : Option Json → Option Json
  | some .null => none
  | other => other

/-! ### Blocks -/

/-- A block of a user message. -/
def cHistoricalUserBlockJson : UserBlock → Json
  | .text text => Json.mkObj [("kind", .str "text"), ("text", .str text)]
  | .media mime locator =>
    Json.mkObj [("kind", .str "media"), ("mimeType", .str mime), ("locator", .str locator)]
  | .unmodeled label raw =>
    Json.mkObj [("kind", .str "unmodeled"), ("label", .str label), ("raw", raw)]

/-- A block of a user message, by its kind. -/
def cParseHistoricalUserBlock? (j : Json) : Option UserBlock := do
  match ← ostr j "kind" with
  | "text" => pure (.text (← ostr j "text"))
  | "media" => pure (.media (← ostr j "mimeType") (← ostr j "locator"))
  | "unmodeled" => pure (.unmodeled (← ostr j "label") (← oobj j "raw"))
  | _ => none

/-- The source of a native image block for a locator that can have one. -/
def cClaudeImageSource? (mime locator : String) : Option Json :=
  match Text.dropPrefix? locator "data:" with
  | some rest =>
    match Text.splitOn rest ";base64," with
    | [encodedMime, data] =>
      if encodedMime != mime || !Text.startsWith encodedMime "image/" || data.isEmpty then none
      else
        some (Json.mkObj [("type", .str "base64"), ("media_type", .str encodedMime),
          ("data", .str data)])
    | _ => none
  | none =>
    if mime == "image" &&
        (Text.startsWith locator "https://" || Text.startsWith locator "http://") then
      some (Json.mkObj [("type", .str "url"), ("url", .str locator)])
    else
      match Text.dropPrefix? locator "claude-file:" with
      | some fileId =>
        if mime != "image" || fileId.isEmpty then none
        else some (Json.mkObj [("type", .str "file"), ("file_id", .str fileId)])
      | none => none

/-- The text that stands in a tool result for content that cannot be shown. -/
def cUnavailableResultPlaceholder? : UserBlock → Option Json
  | .text _ => none
  | .media mime locator =>
    if (cClaudeImageSource? mime locator).isSome then none
    else
      some (Json.mkObj [("type", .str "text"),
        ("text", .str s!"[output not retained in a displayable form: {mime}]")])
  | .unmodeled label _ =>
    some (Json.mkObj [("type", .str "text"),
      ("text", .str s!"[output not retained as readable text: {label}]")])

/-- How the error of a tool result was found. -/
def cErrorSignalJson : ErrorSignal → Json
  | .native isError => Json.mkObj [("kind", .str "native"), ("isError", .bool isError)]
  | .heuristic isError heuristic =>
    Json.mkObj [("kind", .str "heuristic"), ("isError", .bool isError),
      ("method", .str heuristic)]
  | .structured isError source =>
    Json.mkObj [("kind", .str "structured"), ("isError", .bool isError),
      ("source", .str source)]
  | .unrecorded => Json.mkObj [("kind", .str "unrecorded")]

/-- Only recorded or structured status asserts a native error. -/
def errorBool : ErrorSignal → Bool := ErrorSignal.failureFlag

/-- How the error of a tool result was found.  Older carriers name inferred errors. -/
def cParseErrorSignal? (j : Json) : Option ErrorSignal := do
  match ← ostr j "kind" with
  | "native" => pure (.native (← obool j "isError"))
  | "inferred" => pure (.heuristic (← obool j "isError") (← ostr j "heuristic"))
  | "heuristic" => pure (.heuristic (← obool j "isError") (← ostr j "method"))
  | "structured" => pure (.structured (← obool j "isError") (← ostr j "source"))
  | "unrecorded" => pure .unrecorded
  | _ => none

/-- The name of a canonical tool. -/
def cCanonicalToolName : CanonicalTool → String
  | .bash => "bash"
  | .read => "read"
  | .write => "write"
  | .edit => "edit"
  | .grep => "grep"
  | .glob => "glob"
  | .webFetch => "webFetch"
  | .webSearch => "webSearch"
  | .agentSpawn => "agentSpawn"
  | .applyPatch => "applyPatch"

/-- A canonical tool by its name. -/
def cParseCanonicalTool? : String → Option CanonicalTool
  | "bash" => some .bash
  | "read" => some .read
  | "write" => some .write
  | "edit" => some .edit
  | "grep" => some .grep
  | "glob" => some .glob
  | "webFetch" => some .webFetch
  | "webSearch" => some .webSearch
  | "agentSpawn" => some .agentSpawn
  | "applyPatch" => some .applyPatch
  | _ => none

/-- The canonical tool of an archived call, which may be missing or null. -/
def cParseCanonicalToolField? (j : Json) : Option (Option CanonicalTool) :=
  match oobj j "canonical" with
  | none | some .null => some none
  | some (.str name) => (cParseCanonicalTool? name).map some
  | some _ => none

/-- A block of an assistant message. -/
def cHistoricalAssistantBlockJson : AssistantBlock → Json
  | .text text => Json.mkObj [("kind", .str "text"), ("text", .str text)]
  | .thinking thinking signature =>
    Json.mkObj [("kind", .str "thinking"), ("thinking", .str thinking),
      ("signature", (signature.map Json.str).getD .null)]
  | .toolCall name arguments rawId =>
    Json.mkObj [("kind", .str "toolCall"), ("name", .str name.raw),
      ("canonical", (name.canonical.map fun tool => Json.str (cCanonicalToolName tool)).getD .null),
      ("arguments", arguments), ("rawId", (rawId.map Json.str).getD .null)]
  | .media mime locator =>
    Json.mkObj [("kind", .str "media"), ("mimeType", .str mime), ("locator", .str locator)]
  | .unmodeled label raw =>
    Json.mkObj [("kind", .str "unmodeled"), ("label", .str label), ("raw", raw)]

/-- A block of an assistant message, by its kind. -/
def cParseHistoricalAssistantBlock? (j : Json) : Option AssistantBlock := do
  match ← ostr j "kind" with
  | "text" => pure (.text (← ostr j "text"))
  | "thinking" =>
    pure (.thinking (← ostr j "thinking") (← cParseNullableStringField? j "signature"))
  | "toolCall" =>
    let canonical ← cParseCanonicalToolField? j
    pure (.toolCall { raw := ← ostr j "name", canonical } (← oobj j "arguments")
      (← cParseNullableStringField? j "rawId"))
  | "media" => pure (.media (← ostr j "mimeType") (← ostr j "locator"))
  | "unmodeled" => pure (.unmodeled (← ostr j "label") (← oobj j "raw"))
  | _ => none

/-- The call that a tool result answers. -/
def cParseHistoricalDirectCallRef? (j : Json) : Option CallRef := do
  match ← ostr j "kind" with
  | "resolved" => pure (.resolved (← onat j "entry") (← onat j "block"))
  | "unresolved" =>
    pure (.unresolved (← cParseNullableStringField? j "rawId") (← ostr j "note"))
  | _ => none

/-- A block of an environment message, by its kind. -/
def cParseHistoricalEnvBlock? (j : Json) : Option EnvBlock := do
  match ← ostr j "kind" with
  | "toolResult" =>
    let content ← oarr j "content"
    pure (.toolResult (← oobj j "call" >>= cParseHistoricalDirectCallRef?)
      (← content.mapM cParseHistoricalUserBlock?) (← oobj j "error" >>= cParseErrorSignal?))
  | "unmodeled" => pure (.unmodeled (← ostr j "label") (← oobj j "raw"))
  | _ => none

/-! ### Payloads -/

/-- What a compaction left out. -/
def cParseCompactionCoverage? (j : Json) : Option CompactionCoverage := do
  match ← ostr j "kind" with
  | "unknownPrefix" => pure .unknownPrefix
  | "knownPrefix" => pure (.knownPrefix (← onat j "firstKept"))
  | _ => none

/-- An event of the session, by its kind. -/
def cParseMetaEvent? (j : Json) : Option MetaEvent := do
  match ← ostr j "kind" with
  | "modelChange" =>
    pure (.modelChange (← cParseNullableStringField? j "prev")
      (← cParseNullableStringField? j "next"))
  | "thinkingLevelChange" =>
    pure (.thinkingLevelChange (← cParseNullableStringField? j "prev")
      (← cParseNullableStringField? j "next"))
  | "permissionMode" => pure (.permissionMode (← ostr j "mode"))
  | "branchSummary" => pure (.branchSummary (← ostr j "summary"))
  | "custom" => pure (.custom (← ostr j "label") (← oobj j "raw"))
  | _ => none

/-- The payload of an entry that has no part in the conversation. -/
def cParseInertPayloadJson? (j : Json) : Option Payload := do
  match ← ostr j "kind" with
  | "userMsg" =>
    let blocks ← oarr j "blocks"
    pure (.userMsg (← blocks.mapM cParseHistoricalUserBlock?))
  | "assistantMsg" =>
    let blocks ← oarr j "blocks"
    pure (.assistantMsg (← blocks.mapM cParseHistoricalAssistantBlock?))
  | "envMsg" =>
    let blocks ← oarr j "blocks"
    pure (.envMsg (← blocks.mapM cParseHistoricalEnvBlock?))
  | "otherMsg" =>
    let blocks ← oarr j "blocks"
    pure (.otherMsg (← ostr j "role") (← blocks.mapM cParseHistoricalUserBlock?))
  | "event" => pure (.event (← oobj j "event" >>= cParseMetaEvent?))
  | _ => none

end AgentConvert.ClaudeCode
