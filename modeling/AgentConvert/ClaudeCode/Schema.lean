import AgentConvert.ClaudeCode.Carriers
import AgentConvert.Json.RawScan

/-!
# Record schemas of Claude sessions

Every record of a Claude session is checked by itself before the graph is looked at.  A check
fails with the path of the member it is about and what is wrong with it; the source line is added
where the records are checked in order, so what a check accepts does not depend on the line.
-/

namespace AgentConvert.ClaudeCode

/-- Why a record is refused: the path of a member, and what is wrong with it. -/
structure SchemaFailure where
  path : String
  detail : String
  deriving Repr, DecidableEq

/-- A failure at a path of the record. -/
def schemaError {α : Type} (path detail : String) : Except SchemaFailure α :=
  .error ⟨path, detail⟩

/-- The error of a record that does not have the form of its type. -/
def cSchemaError {α : Type} (line : Nat) (path detail : String) : Except String α :=
  .error s!"malformed Claude record at line {line}: {path} {detail}"

/-- A check of the record at a source line. -/
def atLine {α : Type} (line : Nat) (check : Except SchemaFailure α) : Except String α :=
  match check with
  | .ok a => .ok a
  | .error failure => cSchemaError line failure.path failure.detail

/-- The line a check is made at only shows in its error. -/
theorem atLine_ok_iff {α : Type} {line : Nat} {check : Except SchemaFailure α} {a : α} :
    atLine line check = .ok a ↔ check = .ok a := by
  cases check with
  | error failure => simp [atLine, cSchemaError]
  | ok a => simp [atLine]

/-- Naming the line of a failure changes nothing about acceptance. -/
theorem accepts_atLine_iff {α : Type} {line : Nat} {check : Except SchemaFailure α} :
    Accepts (atLine line check) ↔ Accepts check := by
  simp only [Accepts, atLine_ok_iff]

/-! ### Identities -/

/-- The digits of a UUID. -/
def cClaudeHexDigit (char : Char) : Bool :=
  ('0' ≤ char && char ≤ '9') || ('a' ≤ char && char ≤ 'f') || ('A' ≤ char && char ≤ 'F')

/-- The canonical five-group spelling of a UUID, in either case. -/
def claudeUuidValid (value : String) : Bool :=
  match Text.splitOnChar value '-' with
  | [a, b, c, d, e] =>
    a.length == 8 && b.length == 4 && c.length == 4 && d.length == 4 && e.length == 12 &&
      [a, b, c, d, e].all fun part => part.toList.all cClaudeHexDigit
  | _ => false

/-! ### Required members -/

/-- The member, which must be a string. -/
def cRequireString (path key : String) (j : Json) : Except SchemaFailure String :=
  match oobj j key with
  | none => schemaError (path ++ key) "is required"
  | some (.str value) => .ok value
  | some _ => schemaError (path ++ key) "must be a string"

/-- The member, which must be a string that is not empty. -/
def cRequireNonemptyString (path key : String) (j : Json) : Except SchemaFailure String := do
  let value ← cRequireString path key j
  if value.isEmpty then schemaError (path ++ key) "must not be empty" else pure value

/-- The member, which must be a UUID. -/
def cRequireUuidString (path key : String) (j : Json) : Except SchemaFailure String := do
  let value ← cRequireNonemptyString path key j
  if claudeUuidValid value then pure value else schemaError (path ++ key) "must be a UUID"

/-- What a required string is. -/
theorem cRequireString_ok_iff {path key : String} {j : Json} {value : String} :
    cRequireString path key j = .ok value ↔ ostr j key = some value := by
  unfold cRequireString
  constructor
  · intro h
    split at h
    · cases h
    next hmember =>
      cases h
      exact ostr_of_oobj hmember
    · cases h
  · intro h
    rw [oobj_of_ostr h]

/-- What a required string is that must not be empty. -/
theorem cRequireNonemptyString_ok_iff {path key : String} {j : Json} {value : String} :
    cRequireNonemptyString path key j = .ok value ↔
      ostr j key = some value ∧ value.isEmpty = false := by
  unfold cRequireNonemptyString
  rw [bind_ok_iff]
  constructor
  · rintro ⟨value', hvalue', h⟩
    split at h
    · cases h
    next hnonempty =>
      cases h
      exact ⟨cRequireString_ok_iff.mp hvalue', by simpa using hnonempty⟩
  · rintro ⟨hmember, hnonempty⟩
    refine ⟨value, cRequireString_ok_iff.mpr hmember, ?_⟩
    rw [if_neg (by simp [hnonempty])]
    rfl

/-- What a required UUID is. -/
theorem cRequireUuidString_ok_iff {path key : String} {j : Json} {value : String} :
    cRequireUuidString path key j = .ok value ↔
      (ostr j key = some value ∧ value.isEmpty = false) ∧ claudeUuidValid value = true := by
  unfold cRequireUuidString
  rw [bind_ok_iff]
  constructor
  · rintro ⟨value', hvalue', h⟩
    split at h
    next hvalid =>
      cases h
      exact ⟨cRequireNonemptyString_ok_iff.mp hvalue', hvalid⟩
    · cases h
  · rintro ⟨hmember, hvalid⟩
    refine ⟨value, cRequireNonemptyString_ok_iff.mpr hmember, ?_⟩
    rw [if_pos hvalid]
    rfl

/-- The member, which must be an object. -/
def cRequireObject (path key : String) (j : Json) : Except SchemaFailure Json :=
  match oobj j key with
  | none => schemaError (path ++ key) "is required"
  | some (.obj kvs) => .ok (.obj kvs)
  | some _ => schemaError (path ++ key) "must be an object"

/-- Refuse unless the condition holds. -/
def require (holds : Bool) (path detail : String) : Except SchemaFailure Unit :=
  if holds then pure () else schemaError path detail

theorem require_ok_iff {holds : Bool} {path detail : String} {u : Unit} :
    require holds path detail = .ok u ↔ holds = true := by
  cases holds with
  | false => simp [require, schemaError]
  | true => simp [require, pure, Except.pure]

/-- A requirement is met when its test is. -/
theorem accepts_require_iff {holds : Bool} {path detail : String} :
    Accepts (require holds path detail) ↔ holds = true := by
  simp only [Accepts, require_ok_iff, exists_const]

/-- Whether a value repeats an earlier one, or one that was seen before the list. -/
def cHasDuplicateNatAfter (seen : List Nat) : List Nat → Bool
  | [] => false
  | value :: values => seen.contains value || cHasDuplicateNatAfter (value :: seen) values

/-- Some number stands in the list twice. -/
def cHasDuplicateNat (values : List Nat) : Bool := cHasDuplicateNatAfter [] values

/-! ### Markers -/

/-- The text carries something that a message of the role may carry. -/
def cMarkedConversationCarrierValid (role text : String) : Bool :=
  if role == "assistant" then
    (parseClaudeHistoricalToolCallCarrier? text).isSome ||
      (parseClaudeMediaCarrier? text).isSome ||
      (parseClaudeUnmodeledAssistantCarrier? text).isSome
  else if role == "user" then
    (parseClaudeHistoricalToolResultCarrier? text).isSome ||
      (parseClaudeMediaCarrier? text).isSome ||
      (parseClaudeUnmodeledUserCarrier? text).isSome ||
      (parseClaudeUnmodeledEnvCarrier? text).isSome
  else false

/-- What stands behind the header of a carrier. -/
def cMarkedCarrierEncodedJson? (text : String) : Option String :=
  [claudeHistoricalToolCallCarrierHeader, claudeHistoricalToolResultCarrierHeader,
    claudeMediaCarrierHeader, claudeUnmodeledAssistantCarrierHeader,
    claudeUnmodeledUserCarrierHeader, claudeUnmodeledEnvCarrierHeader].findSome?
      fun header => Text.dropPrefix? text (header ++ "\n")

/-- No object of a carrier has a member twice. -/
def cValidateMarkedCarrierDuplicateMembers (blockIdx : Nat) (text : String) :
    Except SchemaFailure Unit :=
  match cMarkedCarrierEncodedJson? text with
  | none => pure ()
  | some encoded =>
    match rawJsonDuplicatePaths encoded with
    | .ok (path :: _) =>
      schemaError s!"message.content[{blockIdx}]"
        s!"exporter-owned carrier JSON contains duplicate object member '{path}'"
    | .ok [] | .error _ => pure ()

/-- The marker of a record, if it has one, is an object of the known protocol. -/
def cValidateCarrierProtocol (record : Json) : Except SchemaFailure Unit :=
  match oobj record claudeCarrierMarkerKey with
  | none => pure ()
  | some (.obj kvs) =>
    match ostr (.obj kvs) "protocol" with
    | some protocol =>
      require (protocol == claudeCarrierProtocol) (claudeCarrierMarkerKey ++ ".protocol")
        s!"must be '{claudeCarrierProtocol}'"
    | none =>
      schemaError (claudeCarrierMarkerKey ++ ".protocol") "is required and must be a string"
  | some _ => schemaError claudeCarrierMarkerKey "must be an object"

/-- The time that the marker carries, if it carries one, is of a known form. -/
def cValidateCarrierTimeProvenance (record : Json) : Except SchemaFailure Unit :=
  match oobj record claudeCarrierMarkerKey with
  | some marker =>
    if ostr marker "protocol" != some claudeCarrierProtocol then pure ()
    else
      match oobj marker "timeProvenance" with
      | none => pure ()
      | some _ =>
        require (cCarrierTimeProvenance? record).isSome
          (claudeCarrierMarkerKey ++ ".timeProvenance")
          "is not a valid agent-convert time provenance carrier"
  | none => pure ()

/-- The positions of the native calls of a message. -/
def cNativeCallIndices (content : Json) : List Nat :=
  match content with
  | .arr blocks => blocks.zipIdx.filterMap fun (block, blockIdx) =>
    if ostr block "type" == some "tool_use" then some blockIdx else none
  | _ => []

/-- A list of annotated blocks can only name native calls, each once. -/
def cValidateCallIndices (path : String) (content : Json) (indices : List Nat) :
    Except SchemaFailure Unit := do
  require (!cHasDuplicateNat indices) path "must not contain duplicate block indices"
  indices.forM fun blockIdx =>
    require ((cNativeCallIndices content).contains blockIdx) path
      s!"block index {blockIdx} does not address a native tool_use block"

/-- A member that annotates native calls: a nonempty list that `indices?` reads. -/
def cValidateCallAnnotations (key wording : String) (indices? : Option (List Nat))
    (content marker : Json) : Except SchemaFailure Unit :=
  match oobj marker key with
  | none => pure ()
  | some (.arr raw) => do
    require (!raw.isEmpty) (claudeCarrierMarkerKey ++ "." ++ key) "must not be empty when present"
    match indices? with
    | some indices => cValidateCallIndices (claudeCarrierMarkerKey ++ "." ++ key) content indices
    | none => schemaError (claudeCarrierMarkerKey ++ "." ++ key) wording
  | some _ => schemaError (claudeCarrierMarkerKey ++ "." ++ key) "must be an array"

/-- The canonical names annotate tool calls of the message. -/
def cValidateToolCanonical (content record marker : Json) : Except SchemaFailure Unit :=
  cValidateCallAnnotations "toolCanonical"
    "must list block/canonical members naming a recognized canonical tool"
    ((cCarrierToolCanonical? record).map fun pairs => pairs.map Prod.fst) content marker

/-- The translations annotate tool calls of the message. -/
def cValidateToolTranslation (content record marker : Json) : Except SchemaFailure Unit :=
  cValidateCallAnnotations "toolTranslation"
    "must list block/sourceFormat/sourceName/sourceInput members"
    ((cCarrierToolTranslation? record).map fun values =>
      values.filterMap fun value => cMember? value "block") content marker

/-- The block a member of the marker names. -/
def cAnnotatedBlock (path : String) (content : Json) (index : Nat) :
    Except SchemaFailure Json :=
  match content with
  | .arr blocks =>
    match blocks[index]? with
    | some block => pure block
    | none => schemaError path "is out of range"
  | _ => schemaError path "requires content array"

/-- An error signal annotates a tool result, and agrees with what the result says. -/
def cValidateToolResultError (content : Json) (item : Nat × ErrorSignal) :
    Except SchemaFailure Unit := do
  let (index, signal) := item
  let block ← cAnnotatedBlock "toolResultErrors.block" content index
  require (ostr block "type" == some "tool_result") "toolResultErrors.block"
    "must address a native tool_result"
  let agrees := match signal with
    | .unrecorded => (oobj block "is_error").isNone
    | _ => obool block "is_error" == some (errorBool signal)
  require agrees "toolResultErrors.errorSignal" "contradicts the emitted native error flag"

/-- The error signals annotate tool results of the message, each at most once. -/
def cValidateToolResultErrors (content record marker : Json) : Except SchemaFailure Unit :=
  match oobj marker "toolResultErrors" with
  | none => pure ()
  | some _ =>
    match cCarrierToolErrors? record with
    | some pairs => do
      require (!(pairs.isEmpty || cHasDuplicateNat (pairs.map Prod.fst)))
        (claudeCarrierMarkerKey ++ ".toolResultErrors")
        "must contain unique result-block indices"
      pairs.forM (cValidateToolResultError content)
    | none =>
      schemaError (claudeCarrierMarkerKey ++ ".toolResultErrors")
        "must list exact block/errorSignal objects"

/-- The block of the message is the text that stands for the reasoning. -/
def cValidateReasoningItem (content : Json) (item : Nat × AssistantBlock) :
    Except SchemaFailure Unit :=
  let (index, source) := item
  let actual := match content with
    | .arr blocks => blocks[index]?
    | _ => none
  require (actual.isSome && actual == cReasoningContextBlock? source) "reasoning.source"
    "does not match its readable context block"

/-- The reasoning that is carried stands for blocks of an assistant message. -/
def cValidateReasoning (kind : String) (content record marker : Json) :
    Except SchemaFailure Unit :=
  match oobj marker "reasoning" with
  | none => pure ()
  | some _ =>
    match cCarrierReasoning? record with
    | some retained => do
      require (!(kind != "assistant" || retained.isEmpty ||
          cHasDuplicateNat (retained.map Prod.fst))) "reasoning"
        "must annotate unique assistant reasoning blocks"
      retained.forM (cValidateReasoningItem content)
    | none => schemaError "reasoning" "must list exact block/source reasoning objects"

/-- The content of the tool result has the placeholder that stands for the output. -/
def cValidateUnavailableOutputItem (content : Json) (item : Nat × Nat × UserBlock) :
    Except SchemaFailure Unit := do
  let (blockIndex, contentIndex, source) := item
  let block ← cAnnotatedBlock "unavailableOutput.block" content blockIndex
  require (ostr block "type" == some "tool_result") "unavailableOutput.block"
    "must address a native tool_result"
  let actual := oarr block "content" >>= fun blocks => blocks[contentIndex]?
  require (actual == cUnavailableResultPlaceholder? source) "unavailableOutput.source"
    "does not match its native placeholder"

/-- The outputs that are carried stand for placeholders of the message, each at most once. -/
def cValidateUnavailableOutput (content record marker : Json) : Except SchemaFailure Unit :=
  match oobj marker "unavailableOutput" with
  | none => pure ()
  | some _ =>
    match cCarrierUnavailableOutput? record with
    | some retained => do
      let coordinates := retained.map fun (block, index, _) => (block, index)
      require (!(retained.isEmpty || coordinates.eraseDups.length != coordinates.length))
        "unavailableOutput" "must contain unique content locations"
      retained.forM (cValidateUnavailableOutputItem content)
    | none =>
      schemaError "unavailableOutput"
        "must list exact block/contentIndex/source objects for unavailable content"

/-- The texts of the blocks of a message; a block that is marked has to be a text. -/
def cContentTexts (content : Json) (indices : List Nat) : Except SchemaFailure (List String) :=
  match content with
  | .str text => pure [text]
  | .arr blocks => blocks.zipIdx.mapM fun (block, blockIdx) =>
    match block with
    | .obj kvs =>
      if ostr (.obj kvs) "type" != some "text" then
        if indices.contains blockIdx then
          schemaError s!"message.content[{blockIdx}].type" "a marked carrier block must be text"
        else pure ""
      else
        match ostr (.obj kvs) "text" with
        | some text => pure text
        | none =>
          schemaError s!"message.content[{blockIdx}].text" "is required and must be a string"
    | _ => schemaError s!"message.content[{blockIdx}]" "must be an object"
  | _ => schemaError "message.content" "must be a string or an array"

/-- A marked block is a text that carries something. -/
def cValidateMarkedBlock (role : String) (texts : List String) (blockIdx : Nat) :
    Except SchemaFailure Unit :=
  match texts[blockIdx]? with
  | none =>
    schemaError (claudeCarrierMarkerKey ++ ".contentBlocks")
      s!"index {blockIdx} is out of range for message.content"
  | some text => do
    cValidateMarkedCarrierDuplicateMembers blockIdx text
    require (cMarkedConversationCarrierValid role text) s!"message.content[{blockIdx}]"
      (s!"is not a valid {role} historical carrier (header, role, schema, and carrier id must " ++
        "agree)")

/-- The blocks that a marker marks. -/
def cContentBlockIndices (rawIndices : List Json) : Except SchemaFailure (List Nat) :=
  rawIndices.zipIdx.mapM fun (value, memberIdx) =>
    match value.getNat? with
    | .ok index => pure index
    | .error _ =>
      schemaError s!"{claudeCarrierMarkerKey}.contentBlocks[{memberIdx}]"
        "must be a natural number"

/-- The marked blocks are blocks of the message, each at most once, and carry something. -/
def cValidateMarkedBlocks (role : String) (content marker : Json) :
    Except SchemaFailure Unit :=
  match oobj marker "contentBlocks" with
  | none => pure ()
  | some (.arr rawIndices) => do
    require (!rawIndices.isEmpty) (claudeCarrierMarkerKey ++ ".contentBlocks")
      "must not be empty when present"
    let indices ← cContentBlockIndices rawIndices
    require (!cHasDuplicateNat indices) (claudeCarrierMarkerKey ++ ".contentBlocks")
      "must not contain duplicate indices"
    let texts ← cContentTexts content indices
    indices.forM (cValidateMarkedBlock role texts)
  | some _ => schemaError (claudeCarrierMarkerKey ++ ".contentBlocks") "must be an array"

/-- The members of a marker that say something about a conversation record. -/
def cConversationMarkerKeys : List String :=
  ["contentBlocks", "provenance", "identityProvenance", "timeProvenance", "toolCanonical",
    "toolTranslation", "toolResultErrors", "unavailableOutput", "reasoning", "contextSummary"]

/-- A member that is valid when `parsed` is there. -/
def cValidateMember (key wording : String) (marker : Json) (parsed : Bool) :
    Except SchemaFailure Unit :=
  match oobj marker key with
  | none => pure ()
  | some _ => require parsed (claudeCarrierMarkerKey ++ "." ++ key) wording

/-- What the marker of a message says about its blocks is right. -/
def cValidateConversationCarrierMarker (kind role : String) (content record : Json) :
    Except SchemaFailure Unit :=
  match oobj record claudeCarrierMarkerKey with
  | none => pure ()
  | some marker => do
    require (kind == role) claudeCarrierMarkerKey
      "cannot annotate an envelope/message role mismatch"
    require (cConversationMarkerKeys.any (hasKey marker)) claudeCarrierMarkerKey
      "has no recognized conversation-carrier payload"
    cValidateMember "contextSummary" "must match the model-facing user summary" marker
      (cParseContextCompaction? record).isSome
    cValidateToolCanonical content record marker
    cValidateToolTranslation content record marker
    cValidateToolResultErrors content record marker
    cValidateReasoning kind content record marker
    cValidateUnavailableOutput content record marker
    cValidateMember "provenance" "is not a valid envelope-provenance carrier" marker
      (cCarrierRawEnvelope? record).isSome
    cValidateMember "identityProvenance" "is not a valid historical identity carrier" marker
      (cCarrierIdentityProvenance? record).isSome
    cValidateMarkedBlocks role content marker

/-! ### Message content -/

/-- An image of a known source has its data or a place to find them. -/
def cValidateImageBlock (path : String) (block : Json) : Except SchemaFailure Unit := do
  let source ← cRequireObject path "source" block
  match ← cRequireNonemptyString (path ++ "source.") "type" source with
  | "base64" =>
    let _ ← cRequireNonemptyString (path ++ "source.") "media_type" source
    let _ ← cRequireString (path ++ "source.") "data" source
    pure ()
  | "url" =>
    let _ ← cRequireNonemptyString (path ++ "source.") "url" source
    pure ()
  | "file" =>
    let _ ← cRequireNonemptyString (path ++ "source.") "file_id" source
    pure ()
  | _ => pure ()

/-- A block of a tool result has the fields of its type. -/
def cValidateResultContentBlock (path : String) (item : Json × Nat) :
    Except SchemaFailure Unit :=
  let (block, blockIdx) := item
  match block with
  | .obj kvs => do
    match ← cRequireNonemptyString s!"{path}[{blockIdx}]." "type" (.obj kvs) with
    | "text" =>
      let _ ← cRequireString s!"{path}[{blockIdx}]." "text" (.obj kvs)
      pure ()
    | "image" => cValidateImageBlock s!"{path}[{blockIdx}]." (.obj kvs)
    | _ => pure ()
  | _ => schemaError (path ++ s!"[{blockIdx}]") "must be an object"

/-- The content of a tool result is a text or blocks. -/
def cValidateResultContent (path : String) (content : Json) : Except SchemaFailure Unit :=
  match content with
  | .str _ => pure ()
  | .arr blocks => blocks.zipIdx.forM (cValidateResultContentBlock path)
  | _ => schemaError path "must be a string or an array"

/-- A member that is missing or passes a test. -/
def cOptionalMember (test : Json → Bool) (path key wording : String) (j : Json) :
    Except SchemaFailure Unit :=
  match oobj j key with
  | none => pure ()
  | some value => require (test value) (path ++ key) wording

/-- The value is a string. -/
def isStr : Json → Bool
  | .str _ => true
  | _ => false

/-- The value is a Boolean. -/
def isBool : Json → Bool
  | .bool _ => true
  | _ => false

/-- A block of a message has the fields of its type.  Tool calls belong to the assistant, tool
results to the user. -/
def cValidateContentBlock (dialogueRole : String) (item : Json × Nat) :
    Except SchemaFailure Unit :=
  let (block, blockIdx) := item
  let path := s!"message.content[{blockIdx}]."
  match block with
  | .obj kvs => do
    match ← cRequireNonemptyString path "type" (.obj kvs) with
    | "text" =>
      let _ ← cRequireString path "text" (.obj kvs)
      pure ()
    | "thinking" =>
      let _ ← cRequireString path "thinking" (.obj kvs)
      cOptionalMember isStr path "signature" "must be a string" (.obj kvs)
    | "tool_use" =>
      require (dialogueRole != "user") (path ++ "type")
        "tool_use is not valid in a user dialogue record"
      let _ ← cRequireNonemptyString path "id" (.obj kvs)
      let _ ← cRequireNonemptyString path "name" (.obj kvs)
      let _ ← cRequireObject path "input" (.obj kvs)
      pure ()
    | "tool_result" =>
      require (dialogueRole != "assistant") (path ++ "type")
        "tool_result is not valid in an assistant dialogue record"
      let _ ← cRequireNonemptyString path "tool_use_id" (.obj kvs)
      cOptionalMember isBool path "is_error" "must be a boolean" (.obj kvs)
      match oobj (.obj kvs) "content" with
      | none => schemaError (path ++ "content") "is required"
      | some content => cValidateResultContent (path ++ "content") content
    | "image" => cValidateImageBlock path (.obj kvs)
    | _ => pure ()
  | _ => schemaError s!"message.content[{blockIdx}]" "must be an object"

/-- All blocks of a message have the fields of their types. -/
def cValidateContentBlocks (dialogueRole : String) (blocks : List Json) :
    Except SchemaFailure Unit :=
  blocks.zipIdx.forM (cValidateContentBlock dialogueRole)

/-- Whether the record is a compact summary. -/
def cCompactSummaryFlag (j : Json) : Except SchemaFailure Bool :=
  match oobj j "isCompactSummary" with
  | none => pure false
  | some (.bool value) => pure value
  | some _ => schemaError "isCompactSummary" "must be a boolean"

/-- The content of a message: a text or blocks, and a text for a compaction summary. -/
def cMessageContent (kind role : String) (compactSummary : Bool) (message : Json) :
    Except SchemaFailure Json :=
  match oobj message "content" with
  | none => schemaError "message.content" "is required"
  | some (.str text) => do
    require (kind != "assistant") "message.content" "must be an array for an assistant record"
    pure (.str text)
  | some (.arr blocks) => do
    require (!compactSummary) "message.content"
      "must be a string when isCompactSummary is true"
    cValidateContentBlocks (if kind == role then role else "inert") blocks
    pure (.arr blocks)
  | some _ => schemaError "message.content" "must be a string or an array"

/-- A message has a role and content, and its marker fits them. -/
def cValidateConversationRecord (kind : String) (j : Json) : Except SchemaFailure Unit := do
  let message ← cRequireObject "" "message" j
  let role ← cRequireNonemptyString "message." "role" message
  let compactSummary ← cCompactSummaryFlag j
  require (!(compactSummary && (kind != "user" || role != "user"))) "isCompactSummary"
    "is only valid on a user envelope with message.role user"
  let content ← cMessageContent kind role compactSummary message
  cValidateConversationCarrierMarker kind role content j

/-! ### Graph identity -/

/-- A parent is null or a UUID. -/
def cValidateParentUuid (j : Json) : Except SchemaFailure Unit :=
  match oobj j "parentUuid" with
  | none => schemaError "parentUuid" "is required"
  | some .null => pure ()
  | some (.str value) =>
    require (claudeUuidValid value) "parentUuid" "must be a UUID or null"
  | some _ => schemaError "parentUuid" "must be a string or null"

/-- The record that a record was copied from is named by UUIDs. -/
def cValidateForkedFrom (j : Json) : Except SchemaFailure Unit :=
  match oobj j "forkedFrom" with
  | none => pure ()
  | some (.obj kvs) => do
    let _ ← cRequireUuidString "forkedFrom." "sessionId" (.obj kvs)
    let _ ← cRequireUuidString "forkedFrom." "messageUuid" (.obj kvs)
    pure ()
  | some _ => schemaError "forkedFrom" "must be an object"

/-- The identity and the links of a record of the graph. -/
def cValidateGraphIdentity (j : Json) : Except SchemaFailure Unit := do
  let _ ← cRequireUuidString "" "uuid" j
  let _ ← cRequireUuidString "" "sessionId" j
  cValidateParentUuid j
  cValidateForkedFrom j

/-! ### Records -/

/-- The value is a natural number. -/
def isNat (value : Json) : Bool := value.getNat?.toOption.isSome

/-- A compaction boundary says where it stands and what was compacted. -/
def cValidateCompactionBoundary (j : Json) : Except SchemaFailure Unit := do
  cValidateGraphIdentity j
  let _ ← cRequireString "" "content" j
  let metadata ← cRequireObject "" "compactMetadata" j
  let _ ← cRequireUuidString "" "logicalParentUuid" j
  cOptionalMember isNat "compactMetadata." "preTokens" "must be a natural number" metadata

/-- A system record by its subtype.  Subtypes that the importer does not know are not checked. -/
def cValidateSystemRecord (j : Json) : Except SchemaFailure Unit :=
  if cCompactionBoundary j then cValidateCompactionBoundary j
  else if ostr j "subtype" == some "agent_convert_compaction" then do
    require (cParseCompactionCarrier? j).isSome (claudeCarrierMarkerKey ++ ".compaction")
      "is not a valid agent-convert compaction carrier"
    cValidateGraphIdentity j
  else if ostr j "subtype" == some "agent_convert_inert" then do
    require (cParseInertPayloadCarrier? j).isSome (claudeCarrierMarkerKey ++ ".inertPayload")
      "is not a valid agent-convert inert payload carrier"
    cValidateGraphIdentity j
  else pure ()

/-- A resume pointer names a record and a session by UUIDs. -/
def cValidateLastPromptRecord (j : Json) : Except SchemaFailure Unit := do
  let _ ← cRequireUuidString "" "leafUuid" j
  let _ ← cRequireUuidString "" "sessionId" j
  cOptionalMember isStr "" "lastPrompt" "must be a string" j

/-- The check of a record by its type. -/
def cValidateRecordOfType (kind : String) (j : Json) : Except SchemaFailure Unit :=
  match kind with
  | "user" => do
    cValidateGraphIdentity j
    cValidateConversationRecord "user" j
  | "assistant" => do
    cValidateGraphIdentity j
    cValidateConversationRecord "assistant" j
  | "system" => cValidateSystemRecord j
  | "attachment" => cValidateGraphIdentity j
  | "last-prompt" => cValidateLastPromptRecord j
  | "agent-convert-provenance" =>
    require (cParseTranscriptProvenanceCarrier? j).isSome
      (claudeCarrierMarkerKey ++ ".transcriptProvenance")
      "is not a valid agent-convert transcript provenance carrier"
  | _ => pure ()

/-- The check of a record, apart from its line. -/
def cCheckRecord (j : Json) : Except SchemaFailure Unit := do
  cValidateCarrierProtocol j
  cValidateCarrierTimeProvenance j
  let kind ← cRequireNonemptyString "" "type" j
  cValidateRecordOfType kind j

/-- The checks of a record, with its line in the error. -/
def cValidateRecord (j : Json) (index : Nat) : Except String Unit :=
  atLine (index + 1) (cCheckRecord j)

end AgentConvert.ClaudeCode
