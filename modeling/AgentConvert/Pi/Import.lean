import AgentConvert.Lib.Lines
import AgentConvert.Lib.Fallible
import AgentConvert.Loom.SourceVersion
import AgentConvert.Json.Parser
import AgentConvert.Pi.Entry

/-!
# The Pi importer

A Pi session is a header and a tree of entries.  Entry ids are unique, only the first entry is a
root, and a parent has to stand on an earlier line.  A tool result is linked to the one earlier
call on its path that it can belong to, or left unresolved.  The only name that may refer to a
later line is the first entry a compaction kept.
-/

namespace AgentConvert.Pi

/-! ### The entry tree -/

/-- No two entries have the same id. -/
def validateUniquePiEntryIds : List RawEntry → List (String × Nat) → Except String Unit
  | [], _ => pure ()
  | raw :: rest, seen =>
    match seen.find? (fun prior => prior.1 == raw.id) with
    | some (_, priorLine) =>
      piSchemaError s!"record at line {raw.line}"
        s!"field 'id' duplicates '{raw.id}' first seen at line {priorLine}"
    | none => validateUniquePiEntryIds rest ((raw.id, raw.line) :: seen)

/-- The first entry, and no other one, is the root. -/
def validatePiRoot : List RawEntry → Except String Unit
  | [] => pure ()
  | root :: rest =>
    if root.parentId.isSome then
      piSchemaError s!"record at line {root.line}"
        "the first session entry must be the root with parentId=null"
    else
      match rest.find? (fun entry => entry.parentId.isNone) with
      | some extraRoot =>
        piSchemaError s!"record at line {extraRoot.line}"
          "only the first session entry may have parentId=null"
      | none => pure ()

/-- The index of the parent of one entry.  `seen` has the ids of the entries before it; `raws`
only tells which of two errors a missing parent is. -/
def piParentIndex (raws : List RawEntry) (seen : List (String × Nat)) (raw : RawEntry) :
    Except String (Option Nat) :=
  match raw.parentId with
  | none => pure none
  | some parentId =>
    match seen.find? (fun pair => pair.1 == parentId) with
    | some pair => pure (some pair.2)
    | none =>
      if raws.any (fun candidate => candidate.id == parentId) then
        piSchemaError s!"record at line {raw.line}"
          s!"parentId '{parentId}' must reference an earlier record"
      else
        piSchemaError s!"record at line {raw.line}"
          s!"parentId references unknown entry id '{parentId}'"

/-- One pass of the loop that resolves parents. -/
def piParentStep (raws : List RawEntry) (state : List (String × Nat) × List (Option Nat))
    (item : RawEntry × Nat) : Except String (List (String × Nat) × List (Option Nat)) := do
  let (seen, parents) := state
  let (raw, entryIdx) := item
  let parent ← piParentIndex raws seen raw
  pure ((raw.id, entryIdx) :: seen, parents ++ [parent])

/-- The places of the parents, for all entries in order. -/
def piParentIndices (raws : List RawEntry) : Except String (List (Option Nat)) := do
  let (_, parents) ← raws.zipIdx.foldlM (piParentStep raws) ([], [])
  pure parents

/-- Whether the parents of an entry lead to the ancestor, in as many steps as there is fuel. -/
def piIsAncestorAux (parents : List (Option Nat)) (ancestor : Nat) : Nat → Nat → Bool
  | _, 0 => false
  | current, fuel + 1 =>
    match parents[current]? with
    | some (some parent) => parent == ancestor || piIsAncestorAux parents ancestor parent fuel
    | _ => false

/-- Whether the entry is a proper ancestor of the other one. -/
def piIsAncestor (parents : List (Option Nat)) (ancestor descendant : Nat) : Bool :=
  ancestor < descendant && piIsAncestorAux parents ancestor descendant (parents.length + 1)

/-! ### Tool results -/

/-- A tool call with an id, and its place. -/
structure PiCallOccurrence where
  rawId : String
  entry : Nat
  block : Nat

/-- The tool calls of one entry that have an id. -/
def piEntryCalls (raw : RawEntry) (entryIdx : Nat) : List PiCallOccurrence :=
  match raw.payload with
  | .assistantMsg blocks =>
    blocks.zipIdx.filterMap fun (block, blockIdx) =>
      match block with
      | .toolCall _ _ (some rawId) => some { rawId, entry := entryIdx, block := blockIdx }
      | _ => none
  | _ => []

/-- The tool calls that have an id, in order. -/
def piCallOccurrences (raws : List RawEntry) : List PiCallOccurrence :=
  raws.zipIdx.flatMap fun (raw, entryIdx) => piEntryCalls raw entryIdx

/-- How one tool result is linked. -/
structure PiLink where
  ref : CallRef
  used : Option (Nat × Nat) := none
  notes : List ImportNote := []

/-- The call is earlier than the entry, on its path and not taken. -/
def piCallIsFree (parents : List (Option Nat)) (used : List (Nat × Nat)) (entryIdx : Nat)
    (call : PiCallOccurrence) : Bool :=
  call.entry < entryIdx && piIsAncestor parents call.entry entryIdx &&
    !used.contains (call.entry, call.block)

/-- The call of one archived entry that an archived result may belong to. -/
def piHistoricalCandidate (raws : List RawEntry) (parents : List (Option Nat))
    (used : List (Nat × Nat)) (raw : RawEntry) (entryIdx sourceEntry sourceBlock : Nat)
    (candidate : RawEntry) (candidateIdx : Nat) : Option PiCallOccurrence :=
  if candidate.historicalAssistantSourceEntry != some sourceEntry then none
  else
    match candidate.historicalAssistantSourceBlocks.zipIdx.find?
        (fun pair => pair.1 == sourceBlock) with
    | some (_, mappedBlock) =>
      (piCallOccurrences raws).find? fun call =>
        call.entry == candidateIdx && call.block == mappedBlock &&
          raw.toolResultId == some call.rawId && piCallIsFree parents used entryIdx call
    | none => none

/-- Calls an archived result may belong to: its coordinates select the entry and the block, and
the call is earlier, on its path and not taken. -/
def piHistoricalCandidates (raws : List RawEntry) (parents : List (Option Nat))
    (used : List (Nat × Nat)) (raw : RawEntry) (entryIdx sourceEntry sourceBlock : Nat) :
    List PiCallOccurrence :=
  raws.zipIdx.filterMap fun (candidate, candidateIdx) =>
    piHistoricalCandidate raws parents used raw entryIdx sourceEntry sourceBlock candidate
      candidateIdx

/-- Calls a native result may belong to: same id, earlier, on its path and not taken. -/
def piCandidates (raws : List RawEntry) (parents : List (Option Nat)) (used : List (Nat × Nat))
    (entryIdx : Nat) (rawId : String) : List PiCallOccurrence :=
  (piCallOccurrences raws).filter fun call =>
    call.rawId == rawId && piCallIsFree parents used entryIdx call

/-- The link of one entry, when it is a tool result.  Only a single candidate is a link; none or
several leave the result unresolved. -/
def piResultLink (raws : List RawEntry) (parents : List (Option Nat)) (used : List (Nat × Nat))
    (raw : RawEntry) (entryIdx : Nat) : Option PiLink :=
  match raw.payload with
  | .envMsg [] =>
    if raw.toolResultId.isNone && raw.toolResultForcedUnresolved.isNone &&
        raw.toolResultHistoricalSource.isNone then
      none
    else match raw.toolResultForcedUnresolved with
    | some forced => some {
        ref := .unresolved forced.rawId forced.note
        notes := [piImportNote "pi-unresolved-tool-result"
          s!"line{raw.line}.message.{piCarrierKey}.toolCallRef"
          "preserved an explicitly unresolved Loom call reference"] }
    | none => match raw.toolResultHistoricalSource with
    | some (sourceEntry, sourceBlock) =>
      match piHistoricalCandidates raws parents used raw entryIdx sourceEntry sourceBlock with
      | [call] => some {
          ref := .resolved call.entry call.block, used := some (call.entry, call.block) }
      | _ => some {
          ref := .unresolved raw.toolResultId ("historical toolResult source coordinates do " ++
            "not select exactly one earlier ancestor toolCall")
          notes := [piImportNote "pi-unresolved-tool-result" s!"line{raw.line}.data.value.call"
            ("historical source coordinates did not select exactly one unmatched " ++
              "ancestor toolCall")] }
    | none => match raw.toolResultId with
    | none => some {
        ref := .unresolved none "validated Pi toolResult unexpectedly has no toolCallId"
        notes := [piImportNote "pi-unresolved-tool-result"
          s!"line{raw.line}.message.toolCallId"
          "validated Pi toolResult unexpectedly has no toolCallId"] }
    | some rawId =>
      match piCandidates raws parents used entryIdx rawId with
      | [call] => some {
          ref := .resolved call.entry call.block, used := some (call.entry, call.block) }
      | [] => some {
          ref := .unresolved (some rawId)
            "pi toolResult has no unmatched earlier ancestor toolCall occurrence with this id"
          notes := [piImportNote "pi-unresolved-tool-result"
            s!"line{raw.line}.message.toolCallId"
            s!"no unmatched earlier ancestor toolCall occurrence has id '{rawId}'"] }
      | _ => some {
          ref := .unresolved (some rawId)
            "pi toolResult matches multiple unmatched ancestor toolCall occurrences"
          notes := [piImportNote "pi-ambiguous-tool-result"
            s!"line{raw.line}.message.toolCallId"
            s!"multiple unmatched ancestor toolCall occurrences have id '{rawId}'"] }
  | _ => none

/-- The variables of the loop that links tool results. -/
structure PiLinkState where
  refs : List (Nat × CallRef)
  used : List (Nat × Nat)
  notes : List ImportNote

/-- One entry of the loop that links tool results. -/
def piResultStep (raws : List RawEntry) (parents : List (Option Nat)) (state : PiLinkState)
    (item : RawEntry × Nat) : PiLinkState :=
  match piResultLink raws parents state.used item.1 item.2 with
  | none => state
  | some link => {
      refs := state.refs ++ [(item.2, link.ref)]
      used := link.used.toList ++ state.used
      notes := state.notes ++ link.notes }

/-- Every tool result with its link, in order.  A call that was linked is not linked again. -/
def piResultRefs (raws : List RawEntry) (parents : List (Option Nat)) :
    List (Nat × CallRef) × List ImportNote :=
  let state := raws.zipIdx.foldl (piResultStep raws parents) { refs := [], used := [], notes := [] }
  (state.refs, state.notes)

/-! ### The session header -/

/-- The header of a session. -/
structure PiHeader where
  id : String
  cwd : String
  ts : String
  raw : Json
  sourceEnvironment : Option EnvInfo := none
  notes : List ImportNote := []

/-- The header must be of the version that the importer knows. -/
def parsePiHeader (j : Json) : Except String PiHeader := do
  let ctx := "session header at line 1"
  piEnsureObject ctx j
  let kind ← piRequireNonemptyString ctx j "type"
  if kind != "session" then
    piSchemaError ctx s!"field 'type' must be 'session', got '{kind}'"
  else pure ()
  let id ← piRequireNonemptyString ctx j "id"
  let cwd ← piRequireString ctx j "cwd"
  let version ← piRequireNat ctx j "version"
  if version != 3 then piSchemaError ctx s!"unsupported schema version {version}"
  else pure ()
  let _ ← piOptionalString ctx j "parentSession"
  let ts ← piRequireTimestamp ctx j
  let sourceEnvironment ← piHeaderSourceEnvironment? ctx j
  pure { id, cwd, ts, raw := j, sourceEnvironment }

/-- The record on a line. -/
def parsePiJsonLine (line : Nat) (text : String) : Except String Json :=
  match Json.parse text with
  | .ok value => pure value
  | .error error => .error s!"malformed Pi JSONL at line {line}: {error}"

/-! ### Import -/

/-- The entry lines, numbered from two. -/
def piRawEntries (lines : List String) : Except String (List RawEntry) :=
  lines.zipIdx.mapM fun (lineText, index) => do
    let line := index + 2
    parseEntry line (← parsePiJsonLine line lineText)

/-- The id of the entry a compaction names as the first one it kept.  An archived payload has its
coverage already. -/
def piFirstKeptReference (r : RawEntry) : Option String :=
  match r.payload with
  | .compaction .. => if r.historicalPayloadDirect then none else r.firstKeptEntryId
  | _ => none

/-- The payload of an entry with its references resolved. -/
def piResolvePayload (lookup : String → Option Nat) (resultRefs : List (Nat × CallRef))
    (i : Nat) (r : RawEntry) : Except String Payload :=
  match r.payload with
  | .envMsg [] =>
    match r.toolResultId with
    | none => pure (.envMsg [])
    | some _ =>
      match (resultRefs.find? fun pair => pair.1 == i).map (·.2) with
      | some call => pure (.envMsg [.toolResult call r.toolResultContent r.toolResultError])
      | none => piSchemaError s!"record at line {r.line}" "toolResult linkage was not indexed"
  | .compaction summary coverage tokensBefore =>
    if r.historicalPayloadDirect then pure (.compaction summary coverage tokensBefore) else
    match r.firstKeptEntryId with
    | none => pure (.compaction summary .unknownPrefix tokensBefore)
    | some firstKeptId =>
      match lookup firstKeptId with
      | some firstKept => pure (.compaction summary (.knownPrefix firstKept) tokensBefore)
      | none =>
        piSchemaError s!"record at line {r.line}"
          s!"firstKeptEntryId references unknown entry id '{firstKeptId}'"
  | other => pure other

/-- The index of the entry with the given id. -/
def piEntryLookup (raws : List RawEntry) (s : String) : Option Nat :=
  ((raws.zipIdx.map fun (r, i) => (r.id, i)).find? fun p => p.1 == s).map (·.2)

/-- An entry of the transcript, with its references resolved. -/
def piEntry (lookup : String → Option Nat) (resultRefs : List (Nat × CallRef))
    (item : (RawEntry × Option Nat) × Nat) : Except String Entry := do
  let ((r, parent), i) := item
  let payload ← piResolvePayload lookup resultRefs i r
  pure {
    parent
    thread := 0
    time := r.timeOverride.getD (.recorded ((iso8601ToEpochMs? r.ts).getD ⟨0⟩))
    payload
    origin := { format := .pi, sourceRef := s!"line{r.line}", rawId := some r.id
                extras := rawEntryExtras r }
    disposition := r.disposition }

/-- The entries of the transcript, and the notes of the linking. -/
def piLinkedEntries (raws : List RawEntry) : Except String (List Entry × List ImportNote) := do
  validateUniquePiEntryIds raws []
  validatePiRoot raws
  let parentIndices ← piParentIndices raws
  let (resultRefs, resultNotes) := piResultRefs raws parentIndices
  let entries ← (raws.zip parentIndices).zipIdx.mapM (piEntry (piEntryLookup raws) resultRefs)
  pure (entries, resultNotes)

/-- The transcript: one thread, and the last entry as the active leaf. -/
def piTranscript (hj : Json) (parsedHeader : PiHeader) (raws : List RawEntry)
    (entries : List Entry) (resultNotes : List ImportNote) : Transcript :=
  let headerExtras := Json.mkObj ([("ts", .str parsedHeader.ts), ("piRaw", parsedHeader.raw)] ++
    (match parsedHeader.sourceEnvironment with
      | some source => [(piSourceEnvironmentExtraKey, piSourceEnvironmentJson source)]
      | none => []))
  let activeLeaf := if entries.isEmpty then none else some (entries.length - 1)
  reviewSourceVersion .pi ((onat hj "version").map toString) {
    threads := [{ kind := .main }]
    entries
    env := { cwd := some parsedHeader.cwd, sessionId := some parsedHeader.id }
    activeLeaf
    importNotes := parsedHeader.notes ++ raws.flatMap (fun raw => raw.notes) ++ resultNotes
    origin := { format := .pi, sourceRef := "importPi", rawId := some parsedHeader.id
                extras := some headerExtras } }

/-- The nonempty lines of a session. -/
def piLines (text : String) : List String :=
  (splitLines text).filter fun l => !l.isEmpty

/-- A session file is a header and entries, one record on each line that is not empty. -/
def importPi (text : String) : Except String Transcript :=
  match piLines text with
  | [] => .error "empty session"
  | header :: rest => do
    let hj ← parsePiJsonLine 1 header
    let parsedHeader ← parsePiHeader hj
    let raws ← piRawEntries rest
    let (entries, resultNotes) ← piLinkedEntries raws
    pure (piTranscript hj parsedHeader raws entries resultNotes)

end AgentConvert.Pi
