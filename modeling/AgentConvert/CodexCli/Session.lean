import AgentConvert.CodexCli.Carriers
import AgentConvert.Json.Parser
import AgentConvert.Lib.Lines
import AgentConvert.Lib.Fallible

/-!
# Codex sessions

A Codex session is a `session_meta` header and a list of records.  All checks are made while the
session is read; the transcript is then built by a function that cannot fail, so
`parseCodexSession` decides what the importer accepts.

Each record is checked against the header, and a later header against the header and the records
before it.  A first part that has the header is therefore accepted with the session
(`importCodexCli_of_cut`).
-/

namespace AgentConvert.CodexCli

/-! ### Session identity -/

/-- A string that is not empty. -/
def nonempty? (value : String) : Option String := if value.isEmpty then none else some value

/-- The identity of a session: `id`, or `session_id` when `id` is absent or empty. -/
def codexSessionId? (payload : Json) : Option String :=
  match ostr payload "id" with
  | some id => if id.isEmpty then (ostr payload "session_id").bind nonempty? else some id
  | none => (ostr payload "session_id").bind nonempty?

/-- The header has the expected id. -/
def codexSessionIdFieldsMatch (payload : Json) (expected : String) : Bool :=
  codexSessionId? payload == some expected

/-- The digits of a UUID. -/
def codexHexDigit (char : Char) : Bool :=
  ('0' ≤ char && char ≤ '9') || ('a' ≤ char && char ≤ 'f') || ('A' ≤ char && char ≤ 'F')

/-- A UUID in its usual form. -/
def codexUuidValid (value : String) : Bool :=
  match Text.splitOnChar value '-' with
  | [a, b, c, d, e] =>
    a.length == 8 && b.length == 4 && c.length == 4 && d.length == 4 && e.length == 12 &&
      [a, b, c, d, e].all fun part => part.toList.all codexHexDigit
  | _ => false

/-- The letters that can name a drive. -/
def codexAsciiAlpha (char : Char) : Bool :=
  ('a' ≤ char && char ≤ 'z') || ('A' ≤ char && char ≤ 'Z')

/-- An absolute path of one of the systems that Codex runs on. -/
def codexAbsolutePathValid (value : String) : Bool :=
  Text.startsWith value "/" || Text.startsWith value "\\\\" ||
    match value.toList with
    | drive :: ':' :: slash :: _ => codexAsciiAlpha drive && (slash == '/' || slash == '\\')
    | _ => false

/-! ### Checks of single records -/

/-- The payload of a header that stands behind the first one. -/
def laterCodexSessionPayload (record : Json) : Except String Json :=
  match record with
  | .obj _ =>
    match oobj record "payload" with
    | some (.obj kvs) => pure (.obj kvs)
    | some _ => .error "later session_meta payload must be an object"
    | none => .error "later session_meta record is missing payload"
  | _ => .error "later session_meta record must be an object"

/-- The controls of a turn context, when they have the exact shape the exporter writes. -/
def turnContextControls? (contextPayload : Option Json) : Option CodexTargetControls := do
  let turn ← contextPayload
  let approvalPolicy ← ostr turn "approval_policy"
  let sandboxPolicy ← oobj turn "sandbox_policy"
  let summary ← ostr turn "summary"
  parseCodexTargetControls? (Json.mkObj [
    ("protocol", .str codexTargetControlsProtocol),
    ("approval_policy", .str approvalPolicy),
    ("sandbox_policy", sandboxPolicy),
    ("summary", .str summary)])

/-- What is wrong with the metadata of a generated target session, if anything. -/
def generatedCodexTargetMetadataFailure? (header payload context : Json) : Option String :=
  let topTimestamp := ostr header "timestamp"
  let payloadTimestamp := ostr payload "timestamp"
  let contextTimestamp := ostr context "timestamp"
  let contextPayload := oobj context "payload"
  let contextControls := turnContextControls? contextPayload
  if !(ostr payload "id").any codexUuidValid then
    some "generated Codex target session_meta.id must be a UUID"
  else if !(ostr payload "session_id").any codexUuidValid then
    some "generated Codex target session_meta.session_id must be a UUID"
  else if ostr payload "id" != ostr payload "session_id" then
    some "generated Codex target session_meta id and session_id must agree"
  else if topTimestamp.isNone || topTimestamp != payloadTimestamp ||
      topTimestamp != contextTimestamp || !(topTimestamp.bind iso8601ToEpochMs?).isSome then
    some "generated Codex target timestamps must agree and be valid UTC ISO-8601"
  else if !(ostr payload "cwd").any codexAbsolutePathValid then
    some "generated Codex target session_meta.cwd must be an absolute path"
  else if !((ostr payload "originator").any fun value => !value.isEmpty) then
    some "generated Codex target session_meta.originator must be nonempty"
  else if ostr payload "cli_version" != some codexCliTargetVersion then
    some s!"generated Codex target cli_version must be {codexCliTargetVersion}"
  else if ostr payload "source" != some "cli" then
    some "generated Codex target session_meta.source must be cli"
  else if !(oobj payload "git" == some .null) then
    some "generated Codex target session_meta.git must be null"
  else if !(parseCodexSourceArchive? payload).isSome then
    some "generated Codex target source provenance archive is invalid"
  else if !(match oobj payload "model_provider" with
      | none | some .null => true
      | some (.str value) => !value.isEmpty
      | _ => false) then
    some "generated Codex target model_provider must be absent or a nonempty string"
  else match contextPayload with
    | none => some "generated Codex target turn_context payload must be an object"
    | some turn =>
      if ostr turn "cwd" != ostr payload "cwd" then
        some "generated Codex target turn_context.cwd must match session_meta.cwd"
      else if !((ostr turn "model").any fun value => !value.isEmpty) then
        some "generated Codex target turn_context.model must be nonempty"
      else if contextControls.isNone then
        some "generated Codex target turn_context controls are invalid or incomplete"
      else if ostr turn "provenance" != some
          "explicit target controls from origin.extras.target_codex_controls" then
        some "generated Codex target turn_context.provenance is invalid"
      else none

/-- Refuse with the failure, if there is one. -/
def refuse (failure : Option String) : Except String Unit :=
  match failure with
  | some message => .error message
  | none => pure ()

/-- The check of a turn context that claims to be generated. -/
def checkTurnContext (header payload record : Json) : Except String Unit :=
  if ostr record "type" == some "turn_context" &&
      (oobj record "payload").any codexGeneratedTargetDefaultsMarkerExact then
    refuse (generatedCodexTargetMetadataFailure? header payload record)
  else pure ()

/-- One pass of the loop over later headers.  Once content has started, a later header has to
carry the identity of the first one. -/
def laterSessionStep (primaryId : Option String) (contentStarted : Bool) (record : Json) :
    Except String Bool :=
  if ostr record "type" == some "session_meta" then do
    let laterPayload ← laterCodexSessionPayload record
    if contentStarted then
      match primaryId, codexSessionId? laterPayload with
      | some expected, some actual =>
        if !codexSessionIdFieldsMatch laterPayload expected then
          .error (s!"different session_meta id '{actual}' after content for primary session " ++
            s!"'{expected}'")
        else pure contentStarted
      | _, _ => .error "cannot prove later session_meta belongs to the primary session"
    else pure contentStarted
  else pure true

/-! ### Sessions -/

/-- The header object and its payload. -/
def parseCodexHeader (metaLine : String) : Except String (Json × Json) := do
  let header ← Json.parse metaLine
  match header with
  | .obj _ =>
    if ostr header "type" != some "session_meta" then
      .error "first codex record must have type session_meta"
    else
      match oobj header "payload" with
      | some (.obj kvs) => pure (header, .obj kvs)
      | some _ => .error "session_meta payload must be an object"
      | none => .error "session_meta header is missing payload"
  | _ => .error "first codex record must be a session_meta object"

/-- The records after the header, with their source lines, checked. -/
def parseCodexRecords (header payload : Json) (rest : List String) :
    Except String (List Json) := do
  let records ← rest.mapM Json.parse
  let carrierSession := codexCarrierSessionSelfIdentified payload
  (rest.zip records).forM fun (sourceLine, record) =>
    refuse (codexReservedRecordSourceFailure? carrierSession sourceLine record)
  records.forM (checkTurnContext header payload)
  let _ ← records.foldlM (laterSessionStep (codexSessionId? payload)) false
  pure records

/-- The lines that are not empty. -/
def codexLines (text : String) : List String :=
  (splitLines text).filter fun line => !line.isEmpty

/-- The payload of the header, and the records behind it. -/
def parseCodexSession (text : String) : Except String (Json × List Json) :=
  match codexLines text with
  | [] => .error "empty codex session: missing session_meta header"
  | metaLine :: rest => do
    let (header, payload) ← parseCodexHeader metaLine
    let records ← parseCodexRecords header payload rest
    pure (payload, records)

/-- What the importer builds a transcript from.  Building it cannot fail. -/
structure CodexSession where
  payload : Json
  records : List Json
  compactions : List Json

/-- The records of compactions. -/
def codexCompactionRecords (records : List Json) : List Json :=
  records.filter fun record => ostr record "type" == some "compacted"

/-- A session file is a header and records, one on each line that is not empty. -/
def importCodexCli (text : String) : Except String CodexSession := do
  let (payload, records) ← parseCodexSession text
  pure { payload, records, compactions := codexCompactionRecords records }

/-- An accepted text has a line, the header. -/
theorem codexLines_ne_nil {text : String} {session : CodexSession}
    (h : importCodexCli text = .ok session) : codexLines text ≠ [] := by
  intro hnil
  unfold importCodexCli parseCodexSession at h
  rw [hnil] at h
  cases h

/-! ### First parts of a session -/

/-- The checks of the records look at the header, the record and the records before it. -/
theorem parseCodexRecords_of_isPrefix {header payload : Json} {short full : List String}
    {records : List Json} (hcut : short <+: full)
    (h : parseCodexRecords header payload full = .ok records) :
    ∃ records', parseCodexRecords header payload short = .ok records' ∧ records' <+: records := by
  obtain ⟨read, hread, h⟩ := bind_ok_iff.mp h
  obtain ⟨_, hreserved, h⟩ := bind_ok_iff.mp h
  obtain ⟨_, hcontexts, h⟩ := bind_ok_iff.mp h
  obtain ⟨_, hlater, hpure⟩ := bind_ok_iff.mp h
  cases hpure
  obtain ⟨read', hread', hfirst⟩ := mapM_ok_of_isPrefix hcut hread
  have hzip : ∀ pair ∈ short.zip read', pair ∈ full.zip records := by
    obtain ⟨more, rfl⟩ := hcut
    obtain ⟨moreRead, rfl⟩ := hfirst
    have hlength : short.length = read'.length := (mapM_ok_iff.mp hread').length_eq
    intro pair hpair
    rw [List.zip_append hlength]
    exact List.mem_append_left _ hpair
  obtain ⟨reached, hreached, _⟩ := foldlM_ok_of_isPrefix hfirst hlater
  refine ⟨read', bind_ok_iff.mpr ⟨read', hread', bind_ok_iff.mpr ⟨⟨⟩, ?_, ?_⟩⟩, hfirst⟩
  · exact forM_ok_iff.mpr fun pair hpair => forM_ok_iff.mp hreserved pair (hzip pair hpair)
  · refine bind_ok_iff.mpr ⟨⟨⟩, ?_, bind_ok_iff.mpr ⟨reached, hreached, rfl⟩⟩
    exact forM_ok_iff.mpr fun record hrecord =>
      forM_ok_iff.mp hcontexts record (hfirst.subset hrecord)

/-- **A first part of an accepted Codex session that has the header is accepted, and is the same
session with fewer records.** -/
theorem importCodexCli_of_cut {p text : String} {whole : CodexSession}
    (hcut : CompleteLineCut p text) (h : importCodexCli text = .ok whole)
    (hheader : codexLines p ≠ []) :
    ∃ part, importCodexCli p = .ok part ∧ part.payload = whole.payload ∧
      part.records <+: whole.records := by
  have hlines : codexLines p <+: codexLines text :=
    hcut.segmentCut.filter_isPrefix (fun line => !line.isEmpty) (by decide)
  obtain ⟨metaLine, rest, hp⟩ : ∃ metaLine rest, codexLines p = metaLine :: rest :=
    List.exists_cons_of_ne_nil hheader
  obtain ⟨more, hmore⟩ := hlines
  rw [hp] at hmore
  have htext : codexLines text = metaLine :: (rest ++ more) := hmore.symm
  obtain ⟨⟨payload, records⟩, hparse, hpure⟩ := bind_ok_iff.mp h
  cases hpure
  unfold parseCodexSession at hparse
  rw [htext] at hparse
  obtain ⟨⟨header, headPayload⟩, hhead, hparse⟩ := bind_ok_iff.mp hparse
  obtain ⟨_, hrecords, hpure⟩ := bind_ok_iff.mp hparse
  cases hpure
  obtain ⟨records', hrecords', hfirst⟩ :=
    parseCodexRecords_of_isPrefix (List.prefix_append rest more) hrecords
  refine ⟨⟨payload, records', codexCompactionRecords records'⟩, ?_, rfl, hfirst⟩
  unfold importCodexCli parseCodexSession
  rw [hp]
  refine bind_ok_iff.mpr ⟨(payload, records'), ?_, rfl⟩
  exact bind_ok_iff.mpr ⟨(header, payload), hhead, bind_ok_iff.mpr ⟨records', hrecords', rfl⟩⟩

/-- **Every first part of an accepted session that has its header is accepted.**  No record behind
the header is looked up in another one. -/
theorem importCodexCli_accepts_of_cut {p text : String} (hcut : CompleteLineCut p text)
    (haccepts : Accepts (importCodexCli text)) (hheader : codexLines p ≠ []) :
    Accepts (importCodexCli p) := by
  obtain ⟨whole, hwhole⟩ := haccepts
  obtain ⟨part, hpart, _⟩ := importCodexCli_of_cut hcut hwhole hheader
  exact ⟨part, hpart⟩

end AgentConvert.CodexCli
