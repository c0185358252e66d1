import AgentConvert.Json.Parser
import AgentConvert.Lib.Text
import AgentConvert.Loom.Core

/-!
# The versioned wire format

A transcript as one JSON object.  Nothing is dropped: every constructor of the representation
has its tag, an open label that is spelled like a built-in one is marked as open, and members that
are absent stand for absent values.  Required members must be there; unknown ones are ignored.
-/

namespace AgentConvert.Wire

/-! ### Members -/

/-- A string member, left out when there is no string. -/
def optStr (k : String) : Option String → List (String × Json)
  | some s => [(k, .str s)]
  | none => []

/-- A member, left out when there is no value. -/
def optJson (k : String) : Option Json → List (String × Json)
  | some j => [(k, j)]
  | none => []

/-- Numbers are written as texts. -/
def optNat (k : String) : Option Nat → List (String × Json)
  | some n => [(k, .str (toString n))]
  | none => []

/-- The value is an object. -/
def ensureObj (ctx : String) : Json → Except String Unit
  | .obj _ => .ok ()
  | _ => .error s!"{ctx}: expected object"

/-- The field of an object, which must be there. -/
def objField (ctx : String) (j : Json) (k : String) : Except String Json := do
  ensureObj ctx j
  match j.getObjVal? k with
  | .ok v => .ok v
  | .error _ => .error s!"{ctx}: missing required field '{k}'"

/-- The value, which must be a string. -/
def strJson (ctx : String) (j : Json) : Except String String :=
  match j.getStr? with
  | .ok s => .ok s
  | .error _ => .error s!"{ctx}: expected string"

/-- The field, which must be a string. -/
def strField (ctx : String) (j : Json) (k : String) : Except String String := do
  strJson s!"{ctx}.{k}" (← objField ctx j k)

/-- The field, which must be a string if it is there. -/
def optStrField (ctx : String) (j : Json) (k : String) : Except String (Option String) := do
  ensureObj ctx j
  match j.getObjVal? k with
  | .ok v => do pure (some (← strJson s!"{ctx}.{k}" v))
  | .error _ => .ok none

/-- The elements of the value, which must be an array. -/
def arrJson (ctx : String) (j : Json) : Except String (List Json) :=
  match j.getArr? with
  | .ok a => .ok a
  | .error _ => .error s!"{ctx}: expected array"

/-- The elements of the field, which must be an array. -/
def arrField (ctx : String) (j : Json) (k : String) : Except String (List Json) := do
  arrJson s!"{ctx}.{k}" (← objField ctx j k)

/-- A natural number, or a text that stands for one. -/
def natJson (ctx : String) (j : Json) : Except String Nat :=
  match j.getNat? with
  | .ok n => .ok n
  | .error _ =>
    match j.getStr? with
    | .ok s =>
      match Text.toNat? s with
      | some n => .ok n
      | none => .error s!"{ctx}: expected natural-number string"
    | .error _ => .error s!"{ctx}: expected natural number or natural-number string"

/-- The field, which must be a natural number in one of its spellings. -/
def natField (ctx : String) (j : Json) (k : String) : Except String Nat := do
  natJson s!"{ctx}.{k}" (← objField ctx j k)

/-- The field, which must be a natural number if it is there. -/
def optNatField (ctx : String) (j : Json) (k : String) : Except String (Option Nat) := do
  ensureObj ctx j
  match j.getObjVal? k with
  | .ok v => do pure (some (← natJson s!"{ctx}.{k}" v))
  | .error _ => .ok none

/-- A Boolean, or a text that stands for one. -/
def boolJson (ctx : String) (j : Json) : Except String Bool :=
  match j.getBool? with
  | .ok b => .ok b
  | .error _ =>
    match j.getStr? with
    | .ok "true" => .ok true
    | .ok "false" => .ok false
    | .ok _ => .error s!"{ctx}: expected boolean string"
    | .error _ => .error s!"{ctx}: expected boolean or boolean string"

/-- The field, which must be a Boolean in one of its spellings. -/
def boolField (ctx : String) (j : Json) (k : String) : Except String Bool := do
  boolJson s!"{ctx}.{k}" (← objField ctx j k)

/-- The field, which must be a Boolean if it is there. -/
def optBoolField (ctx : String) (j : Json) (k : String) : Except String (Option Bool) := do
  ensureObj ctx j
  match j.getObjVal? k with
  | .ok v => do pure (some (← boolJson s!"{ctx}.{k}" v))
  | .error _ => .ok none

/-- The elements in order, each with its index in the error it may give. -/
def parseJsonList {α : Type} (ctx : String) (a : List Json)
    (f : String → Json → Except String α) : Except String (List α) :=
  a.zipIdx.mapM fun (j, i) => f s!"{ctx}[{i}]" j

/-- The stated position of an element must be its position. -/
def requireIndex (ctx : String) (expected : Nat) (j : Json) : Except String Unit := do
  let actual ← natField ctx j "index"
  if actual == expected then
    pure ()
  else
    .error s!"{ctx}: index {actual} does not match position {expected}"

/-! ### Labels -/

/-- The label of a format.  A format without a label of its own is its own label. -/
def formatToWireString : Format → String
  | .pi => "pi"
  | .claudeCode => "claude"
  | .codexCli => "codex"
  | .cursorAgent => "cursor-agent"
  | .cursorIde => "cursor-ide"
  | .hermes => "hermes"
  | .googleAiStudio => "google-ai-studio"
  | .openCode => "opencode"
  | .other name => name

/-- The format of a label.  Any other label is a format of its own. -/
def formatFromWireString : String → Format
  | "pi" => .pi
  | "claude" => .claudeCode
  | "codex" => .codexCli
  | "cursor-agent" => .cursorAgent
  | "cursor-ide" => .cursorIde
  | "hermes" => .hermes
  | "google-ai-studio" => .googleAiStudio
  | "opencode" => .openCode
  | name => .other name

/-- Whether the format is an open label spelled like a built-in one. -/
def formatNeedsOtherMarker : Format → Bool
  | .other name =>
    match formatFromWireString name with
    | .other _ => false
    | _ => true
  | _ => false

/-- The label of a canonical tool. -/
def canonicalToolToWireString : CanonicalTool → String
  | .bash => "bash"
  | .read => "read"
  | .write => "write"
  | .edit => "edit"
  | .grep => "grep"
  | .glob => "glob"
  | .webFetch => "webFetch"
  | .webSearch => "webSearch"
  | .agentSpawn => "agentSpawn"
  | .applyPatch => "applyPatch"

/-- The canonical tool of a label, which must be one of those that are written. -/
def canonicalToolFromWireString (ctx value : String) : Except String CanonicalTool :=
  match value with
  | "bash" => .ok .bash
  | "read" => .ok .read
  | "write" => .ok .write
  | "edit" => .ok .edit
  | "grep" => .ok .grep
  | "glob" => .ok .glob
  | "webFetch" => .ok .webFetch
  | "webSearch" => .ok .webSearch
  | "agentSpawn" => .ok .agentSpawn
  | "applyPatch" => .ok .applyPatch
  | other => .error s!"{ctx}: unsupported canonical tool '{other}'"

/-! ### Provenance -/

/-- Where an entry or a session comes from.  A format that would be read as another one is marked.
-/
def originToWireJson (o : Origin) : Json :=
  Json.mkObj ([("format", .str (formatToWireString o.format)), ("sourceRef", .str o.sourceRef)] ++
    (if formatNeedsOtherMarker o.format then [("formatOther", .bool true)] else []) ++
    optStr "rawId" o.rawId ++ optJson "extras" o.extras)

/-- Where an entry or a session comes from.  A marked format is taken as it is. -/
def originFromWireJson (ctx : String) (j : Json) : Except String Origin := do
  let formatLabel ← strField ctx j "format"
  let format := if (← optBoolField ctx j "formatOther").getD false then
      Format.other formatLabel
    else
      formatFromWireString formatLabel
  let sourceRef ← strField ctx j "sourceRef"
  let rawId ← optStrField ctx j "rawId"
  let extras := (j.getObjVal? "extras").toOption
  pure { format, sourceRef, rawId, extras }

/-- The time of an entry, with its numbers as texts. -/
def timeToWireJson : Time → Json
  | .recorded t => Json.mkObj [("kind", .str "recorded"), ("ms", .str (toString t.ms))]
  | .interpolated t basis =>
    Json.mkObj [("kind", .str "interpolated"), ("ms", .str (toString t.ms)), ("basis", .str basis)]
  | .sequenced ord => Json.mkObj [("kind", .str "sequenced"), ("ord", .str (toString ord))]
  | .absent => Json.mkObj [("kind", .str "absent")]

/-- The time of an entry, by its kind. -/
def timeFromWireJson (ctx : String) (j : Json) : Except String Time := do
  match ← strField ctx j "kind" with
  | "recorded" => pure (.recorded ⟨← natField ctx j "ms"⟩)
  | "interpolated" => pure (.interpolated ⟨← natField ctx j "ms"⟩ (← strField ctx j "basis"))
  | "sequenced" => pure (.sequenced (← natField ctx j "ord"))
  | "absent" => pure .absent
  | other => .error s!"{ctx}: unsupported time kind '{other}'"

/-- How the error of a tool result was found. -/
def errorSignalToWireJson : ErrorSignal → Json
  | .native isError =>
    Json.mkObj [("kind", .str "native"), ("isError", .str (toString isError))]
  | .heuristic isError heuristic =>
    Json.mkObj [("kind", .str "heuristic"), ("isError", .str (toString isError)),
      ("method", .str heuristic)]
  | .structured isError source =>
    Json.mkObj [("kind", .str "structured"), ("isError", .str (toString isError)),
      ("source", .str source)]
  | .unrecorded => Json.mkObj [("kind", .str "unrecorded")]

/-- The older kind `inferred` is still read. -/
def errorSignalFromWireJson (ctx : String) (j : Json) : Except String ErrorSignal := do
  match ← strField ctx j "kind" with
  | "native" => pure (.native (← boolField ctx j "isError"))
  | "inferred" => pure (.heuristic (← boolField ctx j "isError") (← strField ctx j "heuristic"))
  | "heuristic" => pure (.heuristic (← boolField ctx j "isError") (← strField ctx j "method"))
  | "structured" => pure (.structured (← boolField ctx j "isError") (← strField ctx j "source"))
  | "unrecorded" => pure .unrecorded
  | other => .error s!"{ctx}: unsupported error kind '{other}'"

/-- The call that a tool result answers, by its place or by what is known of it. -/
def callRefToWireJson : CallRef → Json
  | .resolved entry block =>
    Json.mkObj [("kind", .str "resolved"), ("entry", .str (toString entry)),
      ("block", .str (toString block))]
  | .unresolved rawId note =>
    Json.mkObj ([("kind", .str "unresolved"), ("note", .str note)] ++ optStr "rawId" rawId)

/-- The call that a tool result answers, by its kind. -/
def callRefFromWireJson (ctx : String) (j : Json) : Except String CallRef := do
  match ← strField ctx j "kind" with
  | "resolved" => pure (.resolved (← natField ctx j "entry") (← natField ctx j "block"))
  | "unresolved" => pure (.unresolved (← optStrField ctx j "rawId") (← strField ctx j "note"))
  | other => .error s!"{ctx}: unsupported callRef kind '{other}'"

/-! ### Threads -/

/-- What a thread is to the session. -/
def threadKindToWireJson : ThreadKind → Json
  | .main => Json.mkObj [("kind", .str "main")]
  | .sidechain anchor =>
    Json.mkObj [("kind", .str "sidechain"), ("anchor", callRefToWireJson anchor)]
  | .detached note => Json.mkObj [("kind", .str "detached"), ("note", .str note)]

/-- What a thread is to the session, by its kind. -/
def threadKindFromWireJson (ctx : String) (j : Json) : Except String ThreadKind := do
  match ← strField ctx j "kind" with
  | "main" => pure .main
  | "sidechain" =>
    pure (.sidechain (← callRefFromWireJson s!"{ctx}.anchor" (← objField ctx j "anchor")))
  | "detached" => pure (.detached (← strField ctx j "note"))
  | other => .error s!"{ctx}: unsupported thread kind '{other}'"

/-- A thread with its index. -/
def threadToWireJson (i : Nat) (th : Thread) : Json :=
  Json.mkObj ([("index", .str (toString i)), ("kind", threadKindToWireJson th.kind)] ++
    optStr "label" th.label)

/-- A thread, which must have the index of its place. -/
def threadFromWireJson (i : Nat) (j : Json) : Except String Thread := do
  let ctx := s!"threads[{i}]"
  requireIndex ctx i j
  let kind ← threadKindFromWireJson s!"{ctx}.kind" (← objField ctx j "kind")
  let label ← optStrField ctx j "label"
  pure { kind, label }

/-! ### Blocks -/

/-- A block of a user message. -/
def userBlockToWireJson : UserBlock → Json
  | .text text => Json.mkObj [("type", .str "text"), ("text", .str text)]
  | .media mimeType data =>
    Json.mkObj [("type", .str "media"), ("mimeType", .str mimeType), ("data", .str data)]
  | .unmodeled label raw =>
    Json.mkObj [("type", .str "unmodeled"), ("label", .str label), ("raw", raw)]

/-- A block of an unknown type is kept whole. -/
def userBlockFromWireJson (ctx : String) (j : Json) : Except String UserBlock := do
  match ← strField ctx j "type" with
  | "text" => pure (.text (← strField ctx j "text"))
  | "media" => pure (.media (← strField ctx j "mimeType") (← strField ctx j "data"))
  | "unmodeled" => pure (.unmodeled (← strField ctx j "label") (← objField ctx j "raw"))
  | label => pure (.unmodeled label j)

/-- A block of an assistant message.  A tool call has its canonical name beside its own. -/
def assistantBlockToWireJson : AssistantBlock → Json
  | .text text => Json.mkObj [("type", .str "text"), ("text", .str text)]
  | .thinking thinking signature =>
    Json.mkObj ([("type", .str "thinking"), ("thinking", .str thinking)] ++
      optStr "thinkingSignature" signature)
  | .toolCall name arguments rawId =>
    Json.mkObj ([("type", .str "toolCall"), ("name", .str name.raw), ("arguments", arguments)] ++
      optStr "canonical" (name.canonical.map canonicalToolToWireString) ++ optStr "id" rawId)
  | .media mimeType data =>
    Json.mkObj [("type", .str "media"), ("mimeType", .str mimeType), ("data", .str data)]
  | .unmodeled label raw =>
    Json.mkObj [("type", .str "unmodeled"), ("label", .str label), ("raw", raw)]

/-- The canonical tool of a call, which may be absent. -/
def canonicalFromWireJson (ctx : String) (j : Json) : Except String (Option CanonicalTool) := do
  match ← optStrField ctx j "canonical" with
  | some value => pure (some (← canonicalToolFromWireString s!"{ctx}.canonical" value))
  | none => pure none

/-- A block of an assistant message, by its type. -/
def assistantBlockFromWireJson (ctx : String) (j : Json) : Except String AssistantBlock := do
  match ← strField ctx j "type" with
  | "text" => pure (.text (← strField ctx j "text"))
  | "thinking" =>
    pure (.thinking (← strField ctx j "thinking") (← optStrField ctx j "thinkingSignature"))
  | "toolCall" =>
    let canonical ← canonicalFromWireJson ctx j
    pure (.toolCall { raw := ← strField ctx j "name", canonical }
      (← objField ctx j "arguments") (← optStrField ctx j "id"))
  | "media" => pure (.media (← strField ctx j "mimeType") (← strField ctx j "data"))
  | "unmodeled" => pure (.unmodeled (← strField ctx j "label") (← objField ctx j "raw"))
  | label => pure (.unmodeled label j)

/-- A block of an environment message. -/
def envBlockToWireJson : EnvBlock → Json
  | .toolResult call content error =>
    Json.mkObj [("type", .str "toolResult"), ("call", callRefToWireJson call),
      ("content", .arr (content.map userBlockToWireJson)),
      ("error", errorSignalToWireJson error)]
  | .unmodeled label raw =>
    Json.mkObj [("type", .str "unmodeled"), ("label", .str label), ("raw", raw)]

/-- A block of an environment message, by its type. -/
def envBlockFromWireJson (ctx : String) (j : Json) : Except String EnvBlock := do
  match ← strField ctx j "type" with
  | "toolResult" =>
    let content ← parseJsonList s!"{ctx}.content" (← arrField ctx j "content")
      userBlockFromWireJson
    pure (.toolResult (← callRefFromWireJson s!"{ctx}.call" (← objField ctx j "call"))
      content (← errorSignalFromWireJson s!"{ctx}.error" (← objField ctx j "error")))
  | "unmodeled" => pure (.unmodeled (← strField ctx j "label") (← objField ctx j "raw"))
  | label => pure (.unmodeled label j)

/-! ### Payloads -/

/-- What a compaction left out. -/
def compactionCoverageToWireJson : CompactionCoverage → Json
  | .knownPrefix firstKept =>
    Json.mkObj [("kind", .str "knownPrefix"), ("firstKept", .str (toString firstKept))]
  | .unknownPrefix => Json.mkObj [("kind", .str "unknownPrefix")]

/-- What a compaction left out, by its kind. -/
def compactionCoverageFromWireJson (ctx : String) (j : Json) :
    Except String CompactionCoverage := do
  match ← strField ctx j "kind" with
  | "knownPrefix" => pure (.knownPrefix (← natField ctx j "firstKept"))
  | "unknownPrefix" => pure .unknownPrefix
  | other => .error s!"{ctx}: unsupported compaction coverage kind '{other}'"

/-- An event of the session. -/
def metaEventToWireJson : MetaEvent → Json
  | .modelChange prev next =>
    Json.mkObj ([("type", .str "modelChange")] ++ optStr "prev" prev ++ optStr "next" next)
  | .thinkingLevelChange prev next =>
    Json.mkObj ([("type", .str "thinkingLevelChange")] ++ optStr "prev" prev ++
      optStr "next" next)
  | .permissionMode mode => Json.mkObj [("type", .str "permissionMode"), ("mode", .str mode)]
  | .branchSummary summary =>
    Json.mkObj [("type", .str "branchSummary"), ("summary", .str summary)]
  | .custom label raw =>
    Json.mkObj [("type", .str "custom"), ("label", .str label), ("raw", raw)]

/-- An event of the session, by its type. -/
def metaEventFromWireJson (ctx : String) (j : Json) : Except String MetaEvent := do
  match ← strField ctx j "type" with
  | "modelChange" =>
    pure (.modelChange (← optStrField ctx j "prev") (← optStrField ctx j "next"))
  | "thinkingLevelChange" =>
    pure (.thinkingLevelChange (← optStrField ctx j "prev") (← optStrField ctx j "next"))
  | "permissionMode" => pure (.permissionMode (← strField ctx j "mode"))
  | "branchSummary" => pure (.branchSummary (← strField ctx j "summary"))
  | "custom" => pure (.custom (← strField ctx j "label") (← objField ctx j "raw"))
  | label => pure (.custom label j)

/-- The payload of an entry. -/
def payloadToWireJson : Payload → Json
  | .userMsg blocks =>
    Json.mkObj [("type", .str "userMsg"), ("blocks", .arr (blocks.map userBlockToWireJson))]
  | .assistantMsg blocks =>
    Json.mkObj [("type", .str "assistantMsg"),
      ("blocks", .arr (blocks.map assistantBlockToWireJson))]
  | .envMsg blocks =>
    Json.mkObj [("type", .str "envMsg"), ("blocks", .arr (blocks.map envBlockToWireJson))]
  | .otherMsg role blocks =>
    Json.mkObj [("type", .str "otherMsg"), ("role", .str role),
      ("blocks", .arr (blocks.map userBlockToWireJson))]
  | .compaction summary coverage tokensBefore =>
    Json.mkObj ([("type", .str "compaction"), ("summary", .str summary),
      ("coverage", compactionCoverageToWireJson coverage)] ++ optNat "tokensBefore" tokensBefore)
  | .event e => Json.mkObj [("type", .str "event"), ("event", metaEventToWireJson e)]

/-- The payload of an entry, by its type. -/
def payloadFromWireJson (ctx : String) (j : Json) : Except String Payload := do
  match ← strField ctx j "type" with
  | "userMsg" =>
    let blocks ← parseJsonList s!"{ctx}.blocks" (← arrField ctx j "blocks") userBlockFromWireJson
    pure (.userMsg blocks)
  | "assistantMsg" =>
    let blocks ← parseJsonList s!"{ctx}.blocks" (← arrField ctx j "blocks")
      assistantBlockFromWireJson
    pure (.assistantMsg blocks)
  | "envMsg" =>
    let blocks ← parseJsonList s!"{ctx}.blocks" (← arrField ctx j "blocks") envBlockFromWireJson
    pure (.envMsg blocks)
  | "otherMsg" =>
    let blocks ← parseJsonList s!"{ctx}.blocks" (← arrField ctx j "blocks") userBlockFromWireJson
    pure (.otherMsg (← strField ctx j "role") blocks)
  | "compaction" =>
    pure (.compaction (← strField ctx j "summary")
      (← compactionCoverageFromWireJson s!"{ctx}.coverage" (← objField ctx j "coverage"))
      (← optNatField ctx j "tokensBefore"))
  | "event" =>
    pure (.event (← metaEventFromWireJson s!"{ctx}.event" (← objField ctx j "event")))
  | other => .error s!"{ctx}: unsupported payload type '{other}'"

/-! ### Entries -/

/-- The label of a disposition. -/
def entryDispositionToWireString : EntryDisposition → String
  | .native => "native"
  | .historicalUnverified => "historicalUnverified"

/-- The disposition of a label, which must be one of those that are written. -/
def entryDispositionFromWireString (ctx value : String) : Except String EntryDisposition :=
  match value with
  | "native" => .ok .native
  | "historicalUnverified" => .ok .historicalUnverified
  | other => .error s!"{ctx}: unsupported entry disposition '{other}'"

/-- A native entry does not say that it is one. -/
def entryDispositionWireField : EntryDisposition → List (String × Json)
  | .native => []
  | .historicalUnverified =>
    [("disposition", .str (entryDispositionToWireString .historicalUnverified))]

/-- An entry with its index. -/
def entryToWireJson (i : Nat) (e : Entry) : Json :=
  Json.mkObj ([("index", .str (toString i)), ("thread", .str (toString e.thread)),
    ("time", timeToWireJson e.time), ("payload", payloadToWireJson e.payload),
    ("origin", originToWireJson e.origin)] ++ entryDispositionWireField e.disposition ++
    optNat "parent" e.parent)

/-- The disposition of an entry, which is native when it is not stated. -/
def dispositionFromWireJson (ctx : String) (j : Json) : Except String EntryDisposition := do
  match ← optStrField ctx j "disposition" with
  | some value => entryDispositionFromWireString s!"{ctx}.disposition" value
  | none => pure .native

/-- An entry, which must have the index of its place. -/
def entryFromWireJson (i : Nat) (j : Json) : Except String Entry := do
  let ctx := s!"entries[{i}]"
  requireIndex ctx i j
  let disposition ← dispositionFromWireJson ctx j
  pure {
    parent := ← optNatField ctx j "parent"
    thread := ← natField ctx j "thread"
    time := ← timeFromWireJson s!"{ctx}.time" (← objField ctx j "time")
    payload := ← payloadFromWireJson s!"{ctx}.payload" (← objField ctx j "payload")
    origin := ← originFromWireJson s!"{ctx}.origin" (← objField ctx j "origin")
    disposition }

/-! ### Transcripts -/

/-- The environment of a session, with the members it has. -/
def envInfoToWireJson (e : EnvInfo) : Json :=
  Json.mkObj (optStr "cwd" e.cwd ++ optStr "model" e.model ++ optStr "provider" e.provider ++
    optStr "harnessVersion" e.harnessVersion ++ optStr "instructions" e.instructions ++
    optStr "sessionId" e.sessionId)

/-- The environment of a session.  Every member may be missing. -/
def envInfoFromWireJson (ctx : String) (j : Json) : Except String EnvInfo := do
  pure {
    cwd := ← optStrField ctx j "cwd"
    model := ← optStrField ctx j "model"
    provider := ← optStrField ctx j "provider"
    harnessVersion := ← optStrField ctx j "harnessVersion"
    instructions := ← optStrField ctx j "instructions"
    sessionId := ← optStrField ctx j "sessionId" }

/-- The label of a kind of note.  A kind without a label of its own is its own label. -/
def assumptionKindToWireString : AssumptionKind → String
  | .dedupDropped => "dedupDropped"
  | .timeInterpolated => "timeInterpolated"
  | .timeSequenced => "timeSequenced"
  | .errorInferred => "errorInferred"
  | .roleCoerced => "roleCoerced"
  | .toolNameMapped => "toolNameMapped"
  | .idSynthesized => "idSynthesized"
  | .contentSkipped => "contentSkipped"
  | .activeLeafGuessed => "activeLeafGuessed"
  | .other label => label

/-- The kind of note of a label.  Any other label is a kind of its own. -/
def assumptionKindFromWireString : String → AssumptionKind
  | "dedupDropped" => .dedupDropped
  | "timeInterpolated" => .timeInterpolated
  | "timeSequenced" => .timeSequenced
  | "errorInferred" => .errorInferred
  | "roleCoerced" => .roleCoerced
  | "toolNameMapped" => .toolNameMapped
  | "idSynthesized" => .idSynthesized
  | "contentSkipped" => .contentSkipped
  | "activeLeafGuessed" => .activeLeafGuessed
  | label => .other label

/-- Whether the kind is an open label spelled like a built-in one. -/
def assumptionKindNeedsOtherMarker : AssumptionKind → Bool
  | .other label =>
    match assumptionKindFromWireString label with
    | .other _ => false
    | _ => true
  | _ => false

/-- A note.  A kind that would be read as another one is marked. -/
def importNoteToWireJson (n : ImportNote) : Json :=
  Json.mkObj ([("kind", .str (assumptionKindToWireString n.kind)), ("detail", .str n.detail)] ++
    (if assumptionKindNeedsOtherMarker n.kind then [("kindOther", .bool true)] else []) ++
    optStr "loc" n.loc)

/-- A note.  A marked kind is taken as it is. -/
def importNoteFromWireJson (ctx : String) (j : Json) : Except String ImportNote := do
  let kindLabel ← strField ctx j "kind"
  pure {
    kind := if (← optBoolField ctx j "kindOther").getD false then
        AssumptionKind.other kindLabel
      else
        assumptionKindFromWireString kindLabel
    loc := ← optStrField ctx j "loc"
    detail := ← strField ctx j "detail" }

/-- A transcript as one value. -/
def exportLoomWireJson (t : Transcript) : Json :=
  Json.mkObj ([("schema", .str "loom.transcript.v0"), ("origin", originToWireJson t.origin),
    ("env", envInfoToWireJson t.env),
    ("threads", .arr (t.threads.zipIdx.map fun (th, i) => threadToWireJson i th)),
    ("entries", .arr (t.entries.zipIdx.map fun (e, i) => entryToWireJson i e)),
    ("importNotes", .arr (t.importNotes.map importNoteToWireJson))] ++
    optNat "activeLeaf" t.activeLeaf)

/-- A transcript as a text. -/
def exportLoomWire (t : Transcript) : String := (exportLoomWireJson t).compress

/-- A transcript from a value of the schema that is written. -/
def importLoomWireJson (j : Json) : Except String Transcript := do
  let schema ← strField "loom wire" j "schema"
  if schema != "loom.transcript.v0" then
    .error s!"loom wire: unsupported schema '{schema}'"
  else
    let threads ← (← arrField "loom wire" j "threads").zipIdx.mapM
      fun (tj, i) => threadFromWireJson i tj
    let entries ← (← arrField "loom wire" j "entries").zipIdx.mapM
      fun (ej, i) => entryFromWireJson i ej
    let notes ← parseJsonList "importNotes" (← arrField "loom wire" j "importNotes")
      importNoteFromWireJson
    pure {
      threads
      entries
      env := ← envInfoFromWireJson "loom wire.env" (← objField "loom wire" j "env")
      activeLeaf := ← optNatField "loom wire" j "activeLeaf"
      importNotes := notes
      origin := ← originFromWireJson "loom wire.origin" (← objField "loom wire" j "origin") }

/-- A transcript from a text. -/
def importLoomWire (text : String) : Except String Transcript := do
  importLoomWireJson (← Json.parse text)

end AgentConvert.Wire
