import AgentConvert.ClaudeCode.Graph
import AgentConvert.Lib.Lines

/-!
# The Claude Code importer

A Claude session is one JSON object a line.  The importer reads every line, puts the events of a
batch back, checks every record by itself, resolves the last resume pointer and validates the
path from the selected leaf to its root.  What follows is a function that cannot fail and is not
part of this module: `importClaudeCode` returns what the transcript is built from.
-/

namespace AgentConvert.ClaudeCode

/-! ### Lines -/

/-- A member that stands twice in the marker of the converter. -/
def cReservedOuterDuplicatePath? (paths : List String) : Option String :=
  paths.find? fun path => path == claudeCarrierMarkerKey ||
    Text.startsWith path (claudeCarrierMarkerKey ++ ".") ||
    Text.startsWith path (claudeCarrierMarkerKey ++ "[")

/-- The lines of a text with their positions.  The empty segment behind a last newline is the
only one that is not a line. -/
def cSourceLines (text : String) : List (String × Nat) :=
  let split := splitLines text
  split.zipIdx.filter fun (line, index) =>
    !(line.isEmpty && Text.endsWith text "\n" && index + 1 == split.length)

/-- The record on a line, given by its characters. -/
def cParseClaudeChars (line : List Char) (index : Nat) : Except String Json :=
  if line.isEmpty then
    .error s!"malformed Claude JSONL at line {index + 1}: empty record"
  else
    match Json.parseChars line with
    | .error error => .error s!"malformed Claude JSONL at line {index + 1}: {error}"
    | .ok (.obj kvs) =>
      match rawJsonDuplicatePathsOfChars line with
      | .error error =>
        .error (s!"malformed Claude JSONL at line {index + 1}: reserved JSON scan failed: " ++
          error)
      | .ok duplicatePaths =>
        match cReservedOuterDuplicatePath? duplicatePaths with
        | some path =>
          .error (s!"malformed Claude record at line {index + 1}: exporter-owned reserved JSON " ++
            s!"contains duplicate object member '{path}'")
        | none => .ok (.obj kvs)
    | .ok _ => .error s!"malformed Claude JSONL at line {index + 1}: expected JSON object"

/-- The record on a line. -/
def cParseClaudeLine (item : String × Nat) : Except String Json :=
  cParseClaudeChars item.1.toList item.2

/-- The records on the lines of a text. -/
def cParseClaudeJsonLines (text : String) : Except String (List Json) :=
  if text.isEmpty then .error "empty session"
  else
    let records := cSourceLines text
    if records.isEmpty then .error "empty session"
    else records.mapM cParseClaudeLine

/-! ### Sessions -/

/-- What the importer builds a transcript from. -/
structure ClaudeSession where
  physical : List Json
  records : List Json
  lastPrompt : Option ((Json × Nat) × (Json × Nat))
  leaf : Json × Nat
  selectedLeafToRoot : List (Json × Nat)
  graphNotes : List ImportNote

/-- The leaf the session goes on from. -/
def cSelectLeaf (lastPrompt : Option ((Json × Nat) × (Json × Nat)))
    (indexed : List (Json × Nat)) : Except String (Json × Nat) :=
  match cSelectedLeaf? lastPrompt indexed with
  | some leaf => pure leaf
  | none =>
    .error "Claude session contains no resumable user, assistant, or compaction record"

/-- The checks behind the reading of the lines, on the expanded records. -/
def cResolveSession (physical parsed : List Json) : Except String ClaudeSession := do
  cValidateClaudeRecords parsed
  match parsed with
  | [] => .error "empty session"
  | _ =>
    let indexed := parsed.zipIdx
    let lastPrompt ← cValidateLastPromptTarget indexed
    let leaf ← cSelectLeaf lastPrompt indexed
    let (selectedLeafToRoot, graphNotes) ← cValidateSelectedPath indexed parsed.length leaf []
    pure { physical, records := parsed, lastPrompt, leaf, selectedLeafToRoot, graphNotes }

/-- A session file is a list of records, one on each line. -/
def importClaudeCode (text : String) : Except String ClaudeSession := do
  let physical ← cParseClaudeJsonLines text
  let parsed ← cExpandEventBatch physical
  cResolveSession physical parsed

end AgentConvert.ClaudeCode
