import AgentConvert.CursorAgent.Historical
import AgentConvert.Json.RawScan
import AgentConvert.Lib.Lines
import AgentConvert.Loom.SourceVersion

/-!
# The cursor-agent importer

One message record per line, no identities, no times, no links.  The importer reads the lines
from top to bottom; the tool ids it has met, and the entries and notes it has written, are its
whole memory.  Nothing on a line refers to a later line, so a first part of a session that is
read is read as well (`importCursorAgent_accepts_of_cut`).
-/

namespace AgentConvert.CursorAgent

/-! ### Record classification -/

/-- The field, which must be a string. -/
def requireString (ctx : String) (j : Json) (k : String) : Except String String :=
  match j.getObjVal? k with
  | .ok (.str value) => .ok value
  | .ok _ => .error s!"{ctx}.{k}: expected string"
  | .error _ => .error s!"{ctx}.{k}: missing required string"

/-- The field, which must be an object. -/
def requireObject (ctx : String) (j : Json) (k : String) : Except String Json :=
  match j.getObjVal? k with
  | .ok (.obj kvs) => .ok (.obj kvs)
  | .ok _ => .error s!"{ctx}.{k}: expected object"
  | .error _ => .error s!"{ctx}.{k}: missing required object"

/-- The field, which must be there. -/
def requireField (ctx : String) (j : Json) (k : String) : Except String Json :=
  match j.getObjVal? k with
  | .ok value => .ok value
  | .error _ => .error s!"{ctx}.{k}: missing required field"

/-- The elements of the field, which must be an array. -/
def requireArray (ctx : String) (j : Json) (k : String) : Except String (List Json) :=
  match j.getObjVal? k with
  | .ok (.arr values) => .ok values
  | .ok _ => .error s!"{ctx}.{k}: expected array"
  | .error _ => .error s!"{ctx}.{k}: missing required array"

/-- The field, which may be missing or null and must be a string otherwise. -/
def optionalString (ctx : String) (j : Json) (k : String) : Except String (Option String) :=
  match j.getObjVal? k with
  | .ok .null => .ok none
  | .ok (.str value) => .ok (some value)
  | .ok _ => .error s!"{ctx}.{k}: expected string when present"
  | .error _ => .ok none

/-- What a record is to the importer. -/
inductive CursorAgentRecord where
  | message (role : String) (content : List Json)
  | historical
  | turnEnded
  | unknown (label : String)

/-- The record kind.  A record with a discriminator or with identity members of another format
is inert; only a record without them can be a message. -/
def classifyCursorAgentRecord (line : Nat) (j : Json) : Except String CursorAgentRecord :=
  let ctx := s!"line{line}"
  match j with
  | .obj _ =>
    if hasKey j "type" then
      match j.getObjVal? "type" with
      | .ok (.str "agent_convert_historical_entry") => .ok .historical
      | .ok (.str "turn_ended") => do
        let status ← requireString ctx j "status"
        if status.isEmpty then
          .error s!"{ctx}.status: turn_ended status must be non-empty"
        else
        let error? ← optionalString ctx j "error"
        if status == "error" && error?.isNone then
          .error s!"{ctx}.error: error turn_ended record requires an error string"
        else
        pure .turnEnded
      | .ok (.str kind) => .ok (.unknown s!"cursor_agent.{kind}")
      | .ok _ => .ok (.unknown "cursor_agent.unknown_type")
      | .error _ => .ok (.unknown "cursor_agent.unknown_record")
    else if hasKey j "uuid" || hasKey j "parentUuid" || hasKey j "sessionId" then
      .ok (.unknown "cursor_agent.foreign_record")
    else if hasKey j "role" || hasKey j "message" then do
      let role ← requireString ctx j "role"
      let message ← requireObject ctx j "message"
      let content ← requireArray s!"{ctx}.message" message "content"
      if role == "user" || role == "assistant" then
        pure (.message role content)
      else
        pure (.unknown s!"cursor_agent.unknown_role.{role}")
    else
      .ok (.unknown "cursor_agent.unknown_record")
  | _ => .ok (.unknown "cursor_agent.non_object")

/-! ### Tool names -/

/-- The tools by the names they have elsewhere. -/
def claudeToPiTool : List (String × String) := [
  ("Bash", "bash"), ("BashOutput", "bash_output"), ("KillShell", "kill_shell"),
  ("Shell", "bash"), ("StrReplace", "edit"), ("ReadFile", "read"),
  ("ApplyPatch", "applyPatch"), ("rg", "grep"),
  ("Read", "read"), ("Edit", "edit"), ("Write", "write"), ("Grep", "grep"),
  ("Glob", "glob"), ("LS", "ls"), ("TodoWrite", "todo_write"), ("Task", "task"),
  ("TaskCreate", "task_create"), ("TaskUpdate", "task_update"), ("TaskList", "task_list"),
  ("TaskGet", "task_get"), ("TaskOutput", "task_output"), ("TaskStop", "task_stop"),
  ("WebSearch", "web_search"), ("WebFetch", "web_fetch"), ("NotebookEdit", "notebook_edit"),
  ("ExitPlanMode", "exit_plan_mode"), ("Agent", "dispatch_subagent"),
  ("ToolSearch", "tool_search"), ("Skill", "skill")
]

/-- The shared name of a tool; a name that is not in the table is put in lower case. -/
def piToolName : Option String → String
  | none => "unknown"
  | some "" => "unknown"
  | some name =>
    match claudeToPiTool.find? (fun p => p.1 == name) with
    | some p => p.2
    | none => String.ofList (name.toList.map Char.toLower)

/-- The canonical tool of a name. -/
def cursorCanonicalTool (name : Option String) : Option CanonicalTool :=
  match piToolName name with
  | "bash" => some .bash
  | "read" => some .read
  | "write" => some .write
  | "edit" => some .edit
  | "grep" => some .grep
  | "glob" => some .glob
  | "web_fetch" => some .webFetch
  | "web_search" => some .webSearch
  | "task" | "subagent" | "dispatch_subagent" => some .agentSpawn
  | "apply_patch" | "applyPatch" => some .applyPatch
  | _ => none

/-- Zero-padded to width four. -/
def pad4 (n : Nat) : String :=
  let s := toString n
  String.ofList (List.replicate (4 - s.length) '0') ++ s

/-! ### Lines -/

/-- The members that an object of the text has twice. -/
def cursorAgentRawJsonDuplicatePaths (text : String) : Except String (List String) :=
  rawJsonDuplicatePaths text

/-- Parse a line.  A key that is spelled twice anywhere in it is refused before parsing. -/
def cursorAgentParseJsonLine (line : Nat) (text : String) : Except String Json :=
  match cursorAgentRawJsonDuplicatePaths text with
  | .error error => .error s!"line{line}: raw JSON duplicate scan failed: {error}"
  | .ok (path :: _) => .error s!"line{line}: duplicate JSON object key '{path}'"
  | .ok [] =>
    match Json.parse text with
    | .ok parsed => .ok parsed
    | .error error => .error s!"line{line}: malformed JSON: {error}"

/-! ### Message content -/

/-- A block of a user message. -/
def userContentBlock (ctx : String) (b : Json) : Except String UserBlock :=
  match b.getObjVal? "type" with
  | .error _ => .ok (.unmodeled "cursor_agent.content" b)
  | .ok (.str "text") => do pure (.text (← requireString ctx b "text"))
  | .ok (.str "tool_use") =>
    .error s!"{ctx}: tool_use is not valid in a user-authored message"
  | .ok (.str kind) => .ok (.unmodeled kind b)
  | .ok _ => .error s!"{ctx}.type: expected string discriminator"

/-- What reading the blocks of an assistant message carries along. -/
structure AssistantContent where
  blocks : List AssistantBlock
  notes : List ImportNote
  usedToolIds : List String
  disposition : EntryDisposition

/-- Record a tool-call id: an explicit id is remembered, and noted when it was used before; an
absent one is noted. -/
def noteToolCallId (duplicateKind missingKind ctx duplicateDetail missingDetail : String)
    (sourceId? : Option String) (acc : AssistantContent) : AssistantContent :=
  match sourceId? with
  | some sourceId =>
    { acc with
      notes := if acc.usedToolIds.contains sourceId then
          acc.notes ++ [{ kind := .other duplicateKind, loc := some ctx
                          detail := duplicateDetail }]
        else acc.notes
      usedToolIds := sourceId :: acc.usedToolIds }
  | none =>
    { acc with
      notes := acc.notes ++ [{ kind := .other missingKind, loc := some ctx
                               detail := missingDetail }] }

/-- A block of an assistant message. -/
def assistantContentBlock (sourceRef : String) (acc : AssistantContent) (b : Json)
    (blockIdx : Nat) : Except String AssistantContent :=
  let ctx := s!"{sourceRef}.message.content[{blockIdx}]"
  match b.getObjVal? "type" with
  | .error _ => .ok { acc with blocks := acc.blocks ++ [.unmodeled "cursor_agent.content" b] }
  | .ok (.str "text") => do
    let text ← requireString ctx b "text"
    pure { acc with blocks := acc.blocks ++ [.text text] }
  | .ok (.str "tool_use") => do
    let srcRaw ← requireString ctx b "name"
    if srcRaw.isEmpty then
      .error s!"{ctx}.name: tool name must be non-empty"
    else
    let args ← requireField ctx b "input"
    let sourceId? ← optionalString ctx b "id"
    if sourceId? == some "" then
      .error s!"{ctx}.id: must be non-empty when present"
    else
    let shownId := sourceId?.getD ""
    let acc := noteToolCallId "cursorAgentDuplicateToolCallId" "cursorAgentMissingToolCallId" ctx
      (s!"duplicate explicit tool-call id '{shownId}' " ++
        "retained unchanged in ToolCall.rawId")
      "native tool-call id is absent or null; retained as ToolCall.rawId = none" sourceId? acc
    let canonical := cursorCanonicalTool (some srcRaw)
    pure { acc with
      blocks := acc.blocks ++ [.toolCall { raw := srcRaw, canonical } args sourceId?]
      notes := if canonical.isSome then
          acc.notes ++ [{
            kind := .toolNameMapped, loc := some sourceRef
            detail := s!"tool name '{srcRaw}' interpreted as " ++
              s!"'{piToolName (some srcRaw)}' (raw preserved)" }]
        else acc.notes }
  | .ok (.str "agent_convert_tool_call") => do
    let srcRaw ← requireString ctx b "rawName"
    if srcRaw.isEmpty then
      .error s!"{ctx}.rawName: historical tool name must be non-empty"
    else
    let args ← requireField ctx b "args"
    let sourceId? ← optionalString ctx b "rawId"
    let shownId := sourceId?.getD ""
    let acc := noteToolCallId "cursorAgentHistoricalDuplicateToolCallId"
      "cursorAgentHistoricalMissingToolCallId" ctx
      (s!"duplicate historical tool-call id '{shownId}' " ++
        "retained unchanged in ToolCall.rawId")
      "historical tool-call id is absent or null; retained as ToolCall.rawId = none" sourceId? acc
    pure { acc with
      disposition := .historicalUnverified
      blocks := acc.blocks ++
        [.toolCall { raw := srcRaw, canonical := cursorCanonicalTool (some srcRaw) }
          args sourceId?] }
  | .ok (.str kind) => .ok { acc with blocks := acc.blocks ++ [.unmodeled kind b] }
  | .ok _ => .error s!"{ctx}.type: expected string discriminator"

/-! ### The import loop -/

/-- The variables of the import loop. -/
structure ImportState where
  entries : List Entry
  notes : List ImportNote
  entryCounter : Nat
  usedToolIds : List String

/-- The payload of one record, with the loop variables it changes. -/
def recordPayload (state : ImportState) (sourceRef : String) (j : Json) :
    CursorAgentRecord → Except String (Payload × EntryDisposition × ImportState)
  | .historical =>
    match cursorAgentHistoricalEntryPayload? j with
    | some payload => .ok (payload, .historicalUnverified, state)
    | none => .error s!"{sourceRef}: malformed agent-convert historical entry carrier"
  | .turnEnded => .ok (.event (.custom "cursor_agent.turn_ended" j), .native, state)
  | .unknown label =>
    .ok (.event (.custom label j), .native,
      { state with
        notes := state.notes ++ [{
          kind := .other "cursorAgentUnmodeledRecord", loc := some sourceRef
          detail := s!"retained inert open-world record '{label}'" }] })
  | .message "user" content => do
    let blocks ← content.zipIdx.mapM fun (b, blockIdx) =>
      userContentBlock s!"{sourceRef}.message.content[{blockIdx}]" b
    pure (.userMsg blocks, .native, state)
  | .message "assistant" content => do
    let final ← content.zipIdx.foldlM
      (fun acc (b, blockIdx) => assistantContentBlock sourceRef acc b blockIdx)
      { blocks := [], notes := state.notes, usedToolIds := state.usedToolIds
        disposition := .native }
    pure (.assistantMsg final.blocks, final.disposition,
      { state with notes := final.notes, usedToolIds := final.usedToolIds })
  | .message role _ => .error s!"{sourceRef}.role: unsupported role '{role}'"

/-- One pass through the import loop. -/
def importStep (state : ImportState) (record : Json × Nat) : Except String ImportState := do
  let (j, line) := record
  let sourceRef := s!"line{line}"
  let record ← classifyCursorAgentRecord line j
  let (payload, disposition, state) ← recordPayload state sourceRef j record
  let entryCounter := state.entryCounter + 1
  let caId := s!"ca{pad4 entryCounter}"
  let idx := state.entries.length
  let entry : Entry := {
    parent := if idx == 0 then none else some (idx - 1)
    thread := 0
    time := .absent
    payload
    origin := { format := .cursorAgent, sourceRef, rawId := none
                extras := some (Json.mkObj [("rawRecord", j)]) }
    disposition }
  let carrierNotes : List ImportNote :=
    if disposition == .historicalUnverified then [{
      kind := .other "unverifiedAgentConvertCarrier", loc := some sourceRef
      detail := "exact in-band agent-convert carrier decoded as historical, unverified data" }]
    else []
  pure { state with
    entries := state.entries ++ [entry]
    notes := state.notes ++ carrierNotes ++ [{
      kind := .idSynthesized, loc := some sourceRef
      detail := s!"synthesized entry id {caId} (cursor-agent has no per-entry identity)" }]
    entryCounter }

/-- The nonempty lines, numbered from one, parsed. -/
def cursorAgentRecords (text : String) : Except String (List (Json × Nat)) :=
  ((splitLines text).zipIdx.filter fun (line, _) => !line.isEmpty).mapM fun (raw, lineIdx) => do
    let line := lineIdx + 1
    pure (← cursorAgentParseJsonLine line raw, line)

/-- What the loop leaves, as a transcript.  The last entry is the active leaf. -/
def cursorAgentTranscript (jsons : List (Json × Nat)) (state : ImportState) : Transcript :=
  let activeLeaf := if state.entries.isEmpty then none else some (state.entries.length - 1)
  let leafNotes : List ImportNote := match activeLeaf with
    | some leaf => [{
        kind := .activeLeafGuessed, loc := some s!"entry{leaf}"
        detail := "cursor-agent records no active selection; selected the final linear entry " ++
          "by file order" }]
    | none => []
  let observedVersion := latestSourceVersion (jsons.filterMap fun (record, _) =>
    ostr record "version" <|> ostr record "cli_version")
  reviewSourceVersion .cursorAgent observedVersion {
    threads := [{ kind := .main }]
    entries := state.entries
    env := { cwd := none }
    activeLeaf
    importNotes := state.notes ++ leafNotes
    origin := { format := .cursorAgent, sourceRef := "importCursorAgent", rawId := none } }

/-- A session file is a list of records, one on each line. -/
def importCursorAgent (text : String) : Except String Transcript := do
  let jsons ← cursorAgentRecords text
  let state ← jsons.foldlM importStep
    { entries := [], notes := [], entryCounter := 0, usedToolIds := [] }
  pure (cursorAgentTranscript jsons state)

/-! ### First parts of a session -/

/-- Reading a record leaves the entries alone. -/
theorem recordPayload_entries {state state' : ImportState} {sourceRef : String} {j : Json}
    {record : CursorAgentRecord} {payload : Payload} {disposition : EntryDisposition}
    (h : recordPayload state sourceRef j record = .ok (payload, disposition, state')) :
    state'.entries = state.entries := by
  unfold recordPayload at h
  split at h
  · -- historical
    split at h
    · cases h
      rfl
    · cases h
  · cases h
    rfl
  · cases h
    rfl
  · -- a user message
    obtain ⟨_, _, hpure⟩ := bind_ok_iff.mp h
    cases hpure
    rfl
  · -- an assistant message
    obtain ⟨_, _, hpure⟩ := bind_ok_iff.mp h
    cases hpure
    rfl
  · cases h

/-- One pass of the loop adds an entry behind the others. -/
theorem importStep_entries {state state' : ImportState} {record : Json × Nat}
    (h : importStep state record = .ok state') : state.entries <+: state'.entries := by
  obtain ⟨_, _, h⟩ := bind_ok_iff.mp h
  obtain ⟨⟨payload, disposition, read⟩, hread, hpure⟩ := bind_ok_iff.mp h
  cases hpure
  rw [← recordPayload_entries hread]
  exact List.prefix_append _ _

/-- **A first part of an accepted cursor-agent session is accepted, and is a shorter session**:
each line is parsed by itself, and the loop looks only at what came before. -/
theorem importCursorAgent_of_cut {p text : String} {whole : Transcript}
    (hcut : CompleteLineCut p text) (h : importCursorAgent text = .ok whole) :
    ∃ part, importCursorAgent p = .ok part ∧ part.env = whole.env ∧
      part.entries <+: whole.entries := by
  obtain ⟨jsons, hjsons, h⟩ := bind_ok_iff.mp h
  obtain ⟨state, hloop, hpure⟩ := bind_ok_iff.mp h
  cases hpure
  have hlines := hcut.segmentCut.filter_zipIdx_isPrefix (fun line => !line.isEmpty) (by decide)
  obtain ⟨jsons', hjsons', hfirst⟩ := mapM_ok_of_isPrefix hlines hjsons
  obtain ⟨reached, hreached, rest, hrest⟩ := foldlM_ok_of_isPrefix hfirst hloop
  refine ⟨cursorAgentTranscript jsons' reached, ?_, ?_, ?_⟩
  · exact bind_ok_iff.mpr ⟨jsons', hjsons', bind_ok_iff.mpr ⟨reached, hreached, rfl⟩⟩
  · unfold cursorAgentTranscript
    rw [reviewSourceVersion_env, reviewSourceVersion_env]
  · unfold cursorAgentTranscript
    rw [reviewSourceVersion_entries, reviewSourceVersion_entries]
    exact foldlM_ok_grows ImportState.entries (fun _ _ _ => importStep_entries) hrest

/-- **Every first part of an accepted session is accepted.**  No record is looked up in another
one. -/
theorem importCursorAgent_accepts_of_cut {p text : String} (hcut : CompleteLineCut p text)
    (haccepts : Accepts (importCursorAgent text)) : Accepts (importCursorAgent p) := by
  obtain ⟨whole, hwhole⟩ := haccepts
  obtain ⟨part, hpart, _⟩ := importCursorAgent_of_cut hcut hwhole
  exact ⟨part, hpart⟩

end AgentConvert.CursorAgent
