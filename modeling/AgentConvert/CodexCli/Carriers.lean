import AgentConvert.Json.Access
import AgentConvert.Lib.Text
import AgentConvert.Loom.Temporal

/-!
# Reserved members of Codex records

The exporter marks what it writes with reserved members.  A record that has one is read only when
the member has its exact shape and the line has the bytes the exporter would have written, so
that a duplicate member cannot hide behind the parsed object.
-/

namespace AgentConvert.CodexCli

/-- The member that marks a value as the converter's. -/
def codexCarrierMarkerKey : String := "_agent_convert"

/-- The only protocol of such members. -/
def codexCarrierProtocol : String := "agent-convert.codex-carriers.v1"

/-- The member of the header that keeps the source of a converted session. -/
def codexSourceArchiveKey : String := "_agent_convert_source_archive"

/-- The member that keeps a time in place of a timestamp. -/
def codexTimeProvenanceKey : String := "_agent_convert_time"

/-- The member that keeps the id a call had in its source. -/
def codexCallIdMapKey : String := "_agent_convert_call_id"

/-- The kind of the archive in the header. -/
def codexSourceArchiveKind : String := "historical_source_provenance"

/-- The kind of controls that the converter wrote. -/
def codexGeneratedTargetDefaultsKind : String := "explicit_target_controls"

/-- The kind of a time that is kept. -/
def codexEntryTimeProvenanceKind : String := "entry_time_provenance"

/-- The protocol of the controls for the target. -/
def codexTargetControlsProtocol : String := "agent-convert.codex-target-controls.v1"

/-- The version of Codex that sessions are written for. -/
def codexCliTargetVersion : String := "0.144.1"

/-- The line the exporter writes for a record: angle brackets are escaped. -/
def codexCanonicalJsonLine (json : Json) : String :=
  Text.replaceChar (Text.replaceChar json.compress '<' "\\u003c") '>' "\\u003e"

/-! ### Call id mappings -/

/-- Whether an id can be sent as it is. -/
def codexWireCallIdValid (id : String) : Bool := !id.isEmpty && decide (id.length ≤ 64)

/-- The id of a call in its source, beside the one it was given. -/
def codexCallIdMapJson (source target : String) : Json := Json.mkObj [
  ("protocol", .str "agent-convert.codex-call-id.v1"),
  ("source", .str source), ("target", .str target)]

/-- The source id of a tool record whose id was mapped. -/
def codexMappedSourceCallId? (record : Json) : Option String := do
  guard (ostr record "type" == some "response_item")
  let payload ← oobj record "payload"
  guard (["function_call", "function_call_output", "custom_tool_call",
    "custom_tool_call_output"].contains ((ostr payload "type").getD ""))
  let mapping ← oobj record codexCallIdMapKey
  let source ← ostr mapping "source"
  let target ← ostr mapping "target"
  guard (!source.isEmpty && !codexWireCallIdValid source && codexWireCallIdValid target)
  guard (mapping == codexCallIdMapJson source target)
  guard (ostr payload "call_id" == some target)
  pure source

/-! ### Target controls -/

/-- The mark on a value of the given kind. -/
def codexMarker (kind : String) : Json := Json.mkObj [
  ("protocol", .str codexCarrierProtocol), ("kind", .str kind)]

/-- What a converted session asks of the harness it is resumed in. -/
structure CodexTargetControls where
  approvalPolicy : String
  sandboxPolicy : Json
  summary : String

/-- The approval policies of Codex. -/
def codexApprovalPolicyValid (policy : String) : Bool :=
  ["untrusted", "on-failure", "on-request", "never"].contains policy

/-- The summary policies of Codex. -/
def codexSummaryPolicyValid (summary : String) : Bool :=
  ["auto", "concise", "detailed", "none"].contains summary

/-- Every operational Boolean of the sandbox is explicit. -/
def codexTargetSandboxPolicyValid (sandbox : Json) : Bool :=
  match ostr sandbox "type", obool sandbox "network_access",
      obool sandbox "exclude_tmpdir_env_var", obool sandbox "exclude_slash_tmp" with
  | some "workspace-write", some network, some excludeTmp, some excludeSlash =>
    sandbox == Json.mkObj [
      ("type", .str "workspace-write"),
      ("network_access", .bool network),
      ("exclude_tmpdir_env_var", .bool excludeTmp),
      ("exclude_slash_tmp", .bool excludeSlash)]
  | _, _, _, _ => false

/-- The controls as an object. -/
def codexTargetControlsJson (controls : CodexTargetControls) : Json := Json.mkObj [
  ("protocol", .str codexTargetControlsProtocol),
  ("approval_policy", .str controls.approvalPolicy),
  ("sandbox_policy", controls.sandboxPolicy),
  ("summary", .str controls.summary)]

/-- The controls from an object of their protocol. -/
def parseCodexTargetControls? (raw : Json) : Option CodexTargetControls := do
  guard (ostr raw "protocol" == some codexTargetControlsProtocol)
  let approvalPolicy ← ostr raw "approval_policy"
  let sandboxPolicy ← oobj raw "sandbox_policy"
  let summary ← ostr raw "summary"
  guard (codexApprovalPolicyValid approvalPolicy)
  guard (codexTargetSandboxPolicyValid sandboxPolicy)
  guard (codexSummaryPolicyValid summary)
  let controls : CodexTargetControls := { approvalPolicy, sandboxPolicy, summary }
  guard (raw == codexTargetControlsJson controls)
  pure controls

/-! ### Time provenance -/

/-- A time that is kept in place of a timestamp. -/
structure CodexTimeProvenance where
  time : Time
  sourceTimestamp : Option String

/-- The reserved member for a time that is not a recorded one. -/
def codexTimeProvenanceJson? (time : Time) (sourceTimestamp : Option String) : Option Json :=
  let common : List (String × Json) := [
    ("protocol", .str codexCarrierProtocol),
    ("kind", .str codexEntryTimeProvenanceKind)]
  let sourceField : List (String × Json) := match sourceTimestamp with
    | some value => [("source_timestamp", .str value)]
    | none => []
  match time with
  | .recorded _ => none
  | .interpolated timestamp basis => some (Json.mkObj (common ++ [
      ("state", .str "interpolated"),
      ("ms", .ofNat timestamp.ms),
      ("basis", .str basis)] ++ sourceField))
  | .sequenced ordinal => some (Json.mkObj (common ++ [
      ("state", .str "sequenced"),
      ("ordinal", .ofNat ordinal)] ++ sourceField))
  | .absent => some (Json.mkObj (common ++ [("state", .str "absent")] ++ sourceField))

/-- The time that is kept, by its state. -/
def parseCodexTimeProvenanceTime? (raw : Json) : Option Time :=
  match ostr raw "state" with
  | some "interpolated" => do
    let ms ← onat raw "ms"
    let basis ← ostr raw "basis"
    pure (.interpolated ⟨ms⟩ basis)
  | some "sequenced" => do
    let ordinal ← onat raw "ordinal"
    pure (.sequenced ordinal)
  | some "absent" => pure .absent
  | _ => none

/-- The time that a record keeps. -/
def parseCodexTimeProvenance? (record : Json) : Option CodexTimeProvenance := do
  let raw ← oobj record codexTimeProvenanceKey
  guard (ostr raw "protocol" == some codexCarrierProtocol)
  guard (ostr raw "kind" == some codexEntryTimeProvenanceKind)
  let sourceTimestamp := ostr raw "source_timestamp"
  let time ← parseCodexTimeProvenanceTime? raw
  guard (codexTimeProvenanceJson? time sourceTimestamp == some raw)
  pure { time, sourceTimestamp }

/-- Why the time member of a record is refused, if it is. -/
def codexTimeProvenanceSourceFailure? (sourceLine : String) (record : Json) : Option String :=
  if (oobj record codexTimeProvenanceKey).isNone then none
  else if (parseCodexTimeProvenance? record).isNone then
    some (s!"reserved {codexTimeProvenanceKey} must be an exact {codexCarrierProtocol} " ++
      "entry_time_provenance object")
  else if sourceLine != codexCanonicalJsonLine record then
    some s!"reserved {codexTimeProvenanceKey} requires canonical exporter-owned JSON bytes"
  else none

/-- The record says of itself that the converter wrote it. -/
def codexOuterCarrierProtocolClaimed (record : Json) : Bool :=
  ostr record "type" == some "response_item" &&
    (oobj record "payload").any fun payload =>
      (oobj payload codexCarrierMarkerKey).any fun marker =>
        ostr marker "protocol" == some codexCarrierProtocol

/-- Why a record with reserved members is refused, if it is.  Only a session with the exporter's
stamp may have them. -/
def codexReservedRecordSourceFailure? (carrierSessionSelfIdentified : Bool)
    (sourceLine : String) (record : Json) : Option String :=
  if (oobj record codexCallIdMapKey).isSome &&
      (!carrierSessionSelfIdentified || (codexMappedSourceCallId? record).isNone ||
        sourceLine != codexCanonicalJsonLine record) then
    some s!"reserved {codexCallIdMapKey} requires a valid exporter-owned call ID mapping"
  else if (oobj record codexTimeProvenanceKey).isSome then
    if !carrierSessionSelfIdentified then
      some s!"reserved {codexTimeProvenanceKey} requires an exact exporter-owned session stamp"
    else codexTimeProvenanceSourceFailure? sourceLine record
  else if carrierSessionSelfIdentified && codexOuterCarrierProtocolClaimed record &&
      sourceLine != codexCanonicalJsonLine record then
    some "exporter-owned Codex carrier envelope requires canonical JSONL bytes"
  else none

/-! ### Source archives -/

/-- The controls are marked as the converter's, with nothing else in the mark. -/
def codexGeneratedTargetDefaultsMarkerExact (payload : Json) : Bool :=
  oobj payload codexCarrierMarkerKey == some (codexMarker codexGeneratedTargetDefaultsKind)

/-- The members of a header that identify a session. -/
def codexSourceIdentityJson (payload : Json) : Json :=
  let keys := ["id", "session_id", "parent_thread_id", "forked_from_id", "thread_source", "source"]
  Json.mkObj (keys.filterMap fun key => (oobj payload key).map fun value => (key, value))

/-- A string, or null when there is none. -/
def codexOptionalStringJson : Option String → Json
  | some value => .str value
  | none => .null

/-- The environment of the source as an object with all its members. -/
def codexSourceEnvJson (env : EnvInfo) : Json := Json.mkObj [
  ("cwd", codexOptionalStringJson env.cwd),
  ("model", codexOptionalStringJson env.model),
  ("provider", codexOptionalStringJson env.provider),
  ("harnessVersion", codexOptionalStringJson env.harnessVersion),
  ("instructions", codexOptionalStringJson env.instructions),
  ("sessionId", codexOptionalStringJson env.sessionId)]

/-- The member, which must be there and must be a string or null. -/
def codexSourceEnvString? (raw : Json) (key : String) : Option (Option String) :=
  match oobj raw key with
  | some .null => some none
  | some (.str value) => some (some value)
  | _ => none

/-- The environment of the source from an object with all its members. -/
def parseCodexSourceEnv? (raw : Json) : Option EnvInfo := do
  let env : EnvInfo := {
    cwd := ← codexSourceEnvString? raw "cwd"
    model := ← codexSourceEnvString? raw "model"
    provider := ← codexSourceEnvString? raw "provider"
    harnessVersion := ← codexSourceEnvString? raw "harnessVersion"
    instructions := ← codexSourceEnvString? raw "instructions"
    sessionId := ← codexSourceEnvString? raw "sessionId" }
  guard (raw == codexSourceEnvJson env)
  pure env

/-- What the header of a converted session keeps of its source. -/
structure CodexSourceArchive where
  sourceSessionPayload : Json
  sourceIdentity : Json
  sourceEnv : EnvInfo
  sourceControls : List Json
  generatedTargetControls : List Json

/-- The archive as an object. -/
def codexSourceArchiveJson (archive : CodexSourceArchive) : Json := Json.mkObj [
  ("protocol", .str codexCarrierProtocol),
  ("kind", .str codexSourceArchiveKind),
  ("source_session_payload", archive.sourceSessionPayload),
  ("source_identity", archive.sourceIdentity),
  ("source_env", codexSourceEnvJson archive.sourceEnv),
  ("source_control_records", .arr archive.sourceControls),
  ("generated_target_control_records", .arr archive.generatedTargetControls)]

/-- A member that is an object. -/
def objectMember? (j : Json) (key : String) : Option Json :=
  match oobj j key with
  | some (.obj kvs) => some (.obj kvs)
  | _ => none

/-- The archive from an object that says the same everywhere. -/
def parseCodexSourceArchive? (sessionPayload : Json) : Option CodexSourceArchive := do
  let raw ← oobj sessionPayload codexSourceArchiveKey
  guard (ostr raw "protocol" == some codexCarrierProtocol)
  guard (ostr raw "kind" == some codexSourceArchiveKind)
  let sourceSessionPayload ← objectMember? raw "source_session_payload"
  let sourceIdentity ← objectMember? raw "source_identity"
  let sourceEnv ← oobj raw "source_env" >>= parseCodexSourceEnv?
  let sourceControls ← oarr raw "source_control_records"
  let generatedTargetControls ← oarr raw "generated_target_control_records"
  guard (sourceIdentity == codexSourceIdentityJson sourceSessionPayload)
  let archive : CodexSourceArchive := {
    sourceSessionPayload, sourceIdentity, sourceEnv, sourceControls, generatedTargetControls }
  guard (raw == codexSourceArchiveJson archive)
  pure archive

/-- The stamp of a session the exporter wrote. -/
def codexCarrierSessionSelfIdentified (sessionPayload : Json) : Bool :=
  oobj sessionPayload codexCarrierMarkerKey == some (Json.mkObj [
    ("protocol", .str codexCarrierProtocol), ("kind", .str "session")])

end AgentConvert.CodexCli
