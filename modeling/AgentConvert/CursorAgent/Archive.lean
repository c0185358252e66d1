import AgentConvert.CursorAgent.Export
import AgentConvert.Json.Ordered

/-!
# Archived entries are read back

An archive record holds a whole entry.  Reading the record gives back the payload of the entry
(`cursorAgentHistoricalEntryPayload?_carrier`): the parts of a payload are read back from their
renderings, the rendering of what is read is the record again, and so the reader, which compares
the two, accepts.

The comparison goes by key, so the values that the entry keeps in their source form have to be
ordered, as everything parsed is.
-/

namespace AgentConvert.CursorAgent

/-! ### Values kept in their source form -/

/-- The values a user block keeps in their source form are ordered. -/
def OrderedUserBlock : UserBlock → Prop
  | .unmodeled _ raw => raw.Ordered
  | .text _ | .media _ _ => True

/-- The values that the block keeps are ordered. -/
def OrderedAssistantBlock : AssistantBlock → Prop
  | .toolCall _ args _ => args.Ordered
  | .unmodeled _ raw => raw.Ordered
  | .text _ | .thinking _ _ | .media _ _ => True

/-- The values that the block keeps are ordered. -/
def OrderedEnvBlock : EnvBlock → Prop
  | .toolResult _ content _ => ∀ b ∈ content, OrderedUserBlock b
  | .unmodeled _ raw => raw.Ordered

/-- The value that the event keeps is ordered. -/
def OrderedMetaEvent : MetaEvent → Prop
  | .custom _ raw => raw.Ordered
  | .modelChange _ _ | .thinkingLevelChange _ _ | .permissionMode _ | .branchSummary _ => True

/-- The values that the payload keeps are ordered. -/
def OrderedPayload : Payload → Prop
  | .userMsg blocks => ∀ b ∈ blocks, OrderedUserBlock b
  | .assistantMsg blocks => ∀ b ∈ blocks, OrderedAssistantBlock b
  | .envMsg blocks => ∀ b ∈ blocks, OrderedEnvBlock b
  | .otherMsg _ blocks => ∀ b ∈ blocks, OrderedUserBlock b
  | .compaction _ _ _ => True
  | .event e => OrderedMetaEvent e

/-- Every value an entry keeps in its source form is ordered. -/
structure OrderedEntry (e : Entry) : Prop where
  payload : OrderedPayload e.payload
  extras : ∀ extras, e.origin.extras = some extras → extras.Ordered

/-! ### Parts of a payload -/

/-- A block of the user is read back. -/
theorem cursorHistoricalUserBlock?_json (b : UserBlock) :
    cursorHistoricalUserBlock? (cursorHistoricalUserBlockJson b) = some b := by
  unfold cursorHistoricalUserBlock? cursorHistoricalUserBlockJson
  cases b with
  | text s => simp [List.lookup_cons]
  | media mimeType data => simp [List.lookup_cons]
  | unmodeled label raw => simp [List.lookup_cons]

/-- A string that may be missing is read back. -/
theorem cursorHistoricalOptionalString?_of_oobj {j : Json} {key : String}
    {value : Option String} (h : oobj j key = some (cursorHistoricalOptionalString value)) :
    cursorHistoricalOptionalString? j key = some value := by
  unfold cursorHistoricalOptionalString?
  rw [h]
  cases value with
  | none => rfl
  | some s => rfl

/-- A canonical tool is read back by its name. -/
theorem cursorParseHistoricalCanonicalTool?_name (tool : CanonicalTool) :
    cursorParseHistoricalCanonicalTool? (cursorHistoricalCanonicalTool tool) = some tool := by
  cases tool <;> rfl

/-- A call reference is read back. -/
theorem cursorHistoricalCallRef?_json (call : CallRef) :
    cursorHistoricalCallRef? (cursorHistoricalCallRefJson call) = some call := by
  unfold cursorHistoricalCallRef? cursorHistoricalCallRefJson
  cases call with
  | resolved entry block => simp [List.lookup_cons]
  | unresolved rawId note =>
    have hraw : cursorHistoricalOptionalString? (Json.mkObj [("kind", .str "unresolved"),
        ("rawId", cursorHistoricalOptionalString rawId), ("note", .str note)]) "rawId" =
          some rawId :=
      cursorHistoricalOptionalString?_of_oobj (by simp [List.lookup_cons])
    simp [hraw, List.lookup_cons]

/-- An error signal is read back. -/
theorem cursorHistoricalError?_json (error : ErrorSignal) :
    cursorHistoricalError? (cursorHistoricalErrorJson error) = some error := by
  unfold cursorHistoricalError? cursorHistoricalErrorJson
  cases error with
  | native value => simp [List.lookup_cons]
  | structured value source => simp [List.lookup_cons]
  | heuristic value method => simp [List.lookup_cons]
  | unrecorded => simp [List.lookup_cons]

/-- Archived user blocks are read back. -/
theorem mapM_cursorHistoricalUserBlock? (blocks : List UserBlock) :
    (blocks.map cursorHistoricalUserBlockJson).mapM cursorHistoricalUserBlock? = some blocks := by
  rw [List.mapM_map]
  refine (mapM_eq_some_map fun b _ => ?_).trans (congrArg some (List.map_id blocks))
  exact cursorHistoricalUserBlock?_json b

/-- A block of the environment is read back. -/
theorem cursorHistoricalEnvBlock?_json (b : EnvBlock) :
    cursorHistoricalEnvBlock? (cursorHistoricalEnvBlockJson b) = some b := by
  unfold cursorHistoricalEnvBlock? cursorHistoricalEnvBlockJson
  cases b with
  | toolResult call content error =>
    simp [List.lookup_cons, -List.mapM_map, mapM_cursorHistoricalUserBlock?,
      cursorHistoricalCallRef?_json, cursorHistoricalError?_json]
  | unmodeled label raw => simp [List.lookup_cons]

/-- A coverage is read back. -/
theorem cursorHistoricalCoverage?_json (coverage : CompactionCoverage) :
    cursorHistoricalCoverage? (cursorHistoricalCoverageJson coverage) = some coverage := by
  unfold cursorHistoricalCoverage? cursorHistoricalCoverageJson
  cases coverage with
  | knownPrefix firstKept => simp [List.lookup_cons]
  | unknownPrefix => simp

/-- An event is read back. -/
theorem cursorHistoricalMetaEvent?_json (event : MetaEvent) :
    cursorHistoricalMetaEvent? (cursorHistoricalMetaEventJson event) = some event := by
  have hchange : ∀ kind previous next,
      let j := Json.mkObj [("kind", .str kind),
        ("previous", cursorHistoricalOptionalString previous),
        ("next", cursorHistoricalOptionalString next)]
      cursorHistoricalOptionalString? j "previous" = some previous ∧
        cursorHistoricalOptionalString? j "next" = some next := by
    intro kind previous next
    exact ⟨cursorHistoricalOptionalString?_of_oobj (by simp [List.lookup_cons]),
      cursorHistoricalOptionalString?_of_oobj (by simp)⟩
  unfold cursorHistoricalMetaEvent? cursorHistoricalMetaEventJson
  cases event with
  | modelChange previous next =>
    obtain ⟨hprevious, hnext⟩ := hchange "modelChange" previous next
    simp [List.lookup_cons, hprevious, hnext]
  | thinkingLevelChange previous next =>
    obtain ⟨hprevious, hnext⟩ := hchange "thinkingLevelChange" previous next
    simp [List.lookup_cons, hprevious, hnext]
  | permissionMode mode => simp [List.lookup_cons]
  | branchSummary summary => simp [List.lookup_cons]
  | custom label raw => simp [List.lookup_cons]

/-! ### Tool calls and their ids -/

/-- A raw identifier is read back. -/
theorem cursorHistoricalRawIdFromValue_value (rawId : Option String) :
    (cursorHistoricalRawIdFromValue rawId).value = rawId := by
  cases rawId with
  | none => rfl
  | some _ => rfl

/-- The spelling of the id with which a block is rendered. -/
def renderedRawId (source : Option CursorHistoricalRawId) (rawId : Option String) :
    CursorHistoricalRawId :=
  match source with
  | some spelling =>
    if spelling.value == rawId then spelling else cursorHistoricalRawIdFromValue rawId
  | none => cursorHistoricalRawIdFromValue rawId

/-- Whichever spelling is chosen, it is a spelling of the id. -/
theorem renderedRawId_value (source : Option CursorHistoricalRawId) (rawId : Option String) :
    (renderedRawId source rawId).value = rawId := by
  unfold renderedRawId
  split
  · split
    next hvalue => exact beq_iff_eq.mp hvalue
    next => exact cursorHistoricalRawIdFromValue_value rawId
  · exact cursorHistoricalRawIdFromValue_value rawId

theorem cursorHistoricalAssistantBlockJsonWithRawId_toolCall
    (source : Option CursorHistoricalRawId) (name : ToolName) (args : Json)
    (rawId : Option String) :
    cursorHistoricalAssistantBlockJsonWithRawId source (.toolCall name args rawId) =
      Json.mkObj ([("kind", .str "toolCall"), ("name", .str name.raw),
        ("canonical", (name.canonical.map fun canonical =>
          Json.str (cursorHistoricalCanonicalTool canonical)).getD .null),
        ("arguments", args)] ++
        cursorHistoricalRawIdField "rawId" (renderedRawId source rawId)) := rfl

/-- The id spelling, by the member. -/
theorem cursorHistoricalRawId?_of_oobj {j : Json} {key : String}
    {spelling : CursorHistoricalRawId}
    (h : oobj j key = (cursorHistoricalRawIdField key spelling).lookup key) :
    cursorHistoricalRawId? j key = some spelling := by
  unfold oobj at h
  unfold cursorHistoricalRawId?
  cases hmember : j.getObjVal? key with
  | error e =>
    rw [hmember] at h
    cases spelling <;> simp_all [cursorHistoricalRawIdField, Except.toOption]
  | ok value =>
    rw [hmember] at h
    cases spelling <;> simp_all [cursorHistoricalRawIdField, Except.toOption]

/-- The chosen spelling is the one in the rendering. -/
theorem cursorHistoricalRawId?_toolCall (source : Option CursorHistoricalRawId) (name : ToolName)
    (args : Json) (rawId : Option String) :
    cursorHistoricalRawId? (cursorHistoricalAssistantBlockJsonWithRawId source
      (.toolCall name args rawId)) "rawId" = some (renderedRawId source rawId) := by
  rw [cursorHistoricalAssistantBlockJsonWithRawId_toolCall]
  apply cursorHistoricalRawId?_of_oobj
  rw [oobj_mkObj]
  cases renderedRawId source rawId <;> simp [cursorHistoricalRawIdField, List.lookup_cons]

/-- The members of a rendered call, apart from the id. -/
theorem oobj_toolCall (source : Option CursorHistoricalRawId) (name : ToolName) (args : Json)
    (rawId : Option String) {k : String} (hk : k ≠ "rawId") :
    oobj (cursorHistoricalAssistantBlockJsonWithRawId source (.toolCall name args rawId)) k =
      [("arguments", args), ("canonical", (name.canonical.map fun canonical =>
        Json.str (cursorHistoricalCanonicalTool canonical)).getD .null),
        ("name", .str name.raw), ("kind", .str "toolCall")].lookup k := by
  have hne : (k == "rawId") = false := beq_eq_false_iff_ne.mpr hk
  have hfield : (cursorHistoricalRawIdField "rawId" (renderedRawId source rawId)).reverse.lookup k
      = none := by
    cases renderedRawId source rawId <;> simp [cursorHistoricalRawIdField, List.lookup_cons, hne]
  rw [cursorHistoricalAssistantBlockJsonWithRawId_toolCall, oobj_mkObj, List.reverse_append,
    List.lookup_append, hfield, Option.none_or]
  rfl

/-- The canonical tool of a call is read back, however its id is spelled. -/
theorem cursorHistoricalCanonical?_toolCall (source : Option CursorHistoricalRawId)
    (name : ToolName) (args : Json) (rawId : Option String) :
    cursorHistoricalCanonical? (cursorHistoricalAssistantBlockJsonWithRawId source
      (.toolCall name args rawId)) = some name.canonical := by
  unfold cursorHistoricalCanonical?
  rw [oobj_toolCall source name args rawId (by decide)]
  cases hcanonical : name.canonical with
  | none => rfl
  | some tool =>
    simp [List.lookup_cons, cursorParseHistoricalCanonicalTool?_name]

/-- **An assistant block is read back**, whatever spelling its id is rendered with. -/
theorem cursorHistoricalAssistantBlock?_json (source : Option CursorHistoricalRawId)
    (b : AssistantBlock) :
    cursorHistoricalAssistantBlock? (cursorHistoricalAssistantBlockJsonWithRawId source b) =
      some b := by
  cases b with
  | toolCall name args rawId =>
    have hmember := fun k => @oobj_toolCall source name args rawId k
    unfold cursorHistoricalAssistantBlock?
    rw [cursorHistoricalCanonical?_toolCall, cursorHistoricalRawId?_toolCall,
      ostr_eq_bind _ "kind", ostr_eq_bind _ "name", hmember "kind" (by decide),
      hmember "name" (by decide), hmember "arguments" (by decide)]
    simp [List.lookup_cons, renderedRawId_value]
  | text s =>
    simp [cursorHistoricalAssistantBlock?, cursorHistoricalAssistantBlockJsonWithRawId,
      List.lookup_cons]
  | thinking s signature =>
    have hsignature : cursorHistoricalOptionalString?
        (cursorHistoricalAssistantBlockJsonWithRawId source (.thinking s signature)) "signature" =
          some signature :=
      cursorHistoricalOptionalString?_of_oobj
        (by simp [cursorHistoricalAssistantBlockJsonWithRawId])
    unfold cursorHistoricalAssistantBlock?
    rw [hsignature]
    simp [cursorHistoricalAssistantBlockJsonWithRawId, List.lookup_cons]
  | media mimeType data =>
    simp [cursorHistoricalAssistantBlock?, cursorHistoricalAssistantBlockJsonWithRawId,
      List.lookup_cons]
  | unmodeled label raw =>
    simp [cursorHistoricalAssistantBlock?, cursorHistoricalAssistantBlockJsonWithRawId,
      List.lookup_cons]

/-- Rendering a block with the spelling found in its rendering gives the rendering again. -/
theorem cursorHistoricalRenderBlock_json (source : Option CursorHistoricalRawId)
    (b : AssistantBlock) :
    cursorHistoricalRenderBlock (cursorHistoricalAssistantBlockJsonWithRawId source b) b =
      some (cursorHistoricalAssistantBlockJsonWithRawId source b) := by
  cases b with
  | toolCall name args rawId =>
    have hvalue := renderedRawId_value source rawId
    have hagain : renderedRawId (some (renderedRawId source rawId)) rawId =
        renderedRawId source rawId := by
      unfold renderedRawId at hvalue ⊢
      exact if_pos (beq_iff_eq.mpr hvalue)
    unfold cursorHistoricalRenderBlock
    rw [cursorHistoricalRawId?_toolCall]
    simp [hvalue, hagain, cursorHistoricalAssistantBlockJsonWithRawId_toolCall]
  | text s => rfl
  | thinking s signature => rfl
  | media mimeType data => rfl
  | unmodeled label raw => rfl

/-! ### Renderings are ordered -/

theorem ordered_cursorHistoricalOptionalString (value : Option String) :
    (cursorHistoricalOptionalString value).Ordered := by
  cases value with
  | none => trivial
  | some _ => trivial

/-- What is written for a block is ordered when the values in it are. -/
theorem ordered_cursorHistoricalUserBlockJson {b : UserBlock} (h : OrderedUserBlock b) :
    (cursorHistoricalUserBlockJson b).Ordered := by
  cases b with
  | text s => exact Json.ordered_mkObj (by simp)
  | media mimeType data => exact Json.ordered_mkObj (by simp)
  | unmodeled label raw =>
    have hraw : raw.Ordered := h
    exact Json.ordered_mkObj (by simpa using hraw)

theorem ordered_cursorHistoricalRawIdField (key : String) (spelling : CursorHistoricalRawId) :
    ∀ member ∈ cursorHistoricalRawIdField key spelling, member.2.Ordered := by
  cases spelling <;> simp [cursorHistoricalRawIdField]

/-- The same of a block of the assistant, however its id is spelled. -/
theorem ordered_cursorHistoricalAssistantBlockJson (source : Option CursorHistoricalRawId)
    {b : AssistantBlock} (h : OrderedAssistantBlock b) :
    (cursorHistoricalAssistantBlockJsonWithRawId source b).Ordered := by
  cases b with
  | text s => exact Json.ordered_mkObj (by simp)
  | thinking s signature =>
    have hsignature := ordered_cursorHistoricalOptionalString signature
    exact Json.ordered_mkObj (by simpa using hsignature)
  | toolCall name args rawId =>
    have hargs : args.Ordered := h
    have hcanonical : ((name.canonical.map fun canonical =>
        Json.str (cursorHistoricalCanonicalTool canonical)).getD .null).Ordered := by
      cases name.canonical <;> trivial
    rw [cursorHistoricalAssistantBlockJsonWithRawId_toolCall]
    refine Json.ordered_mkObj fun member hmember => ?_
    rcases List.mem_append.mp hmember with hfixed | hfield
    · simp only [List.mem_cons, List.not_mem_nil, or_false] at hfixed
      rcases hfixed with rfl | rfl | rfl | rfl
      · trivial
      · trivial
      · exact hcanonical
      · exact hargs
    · exact ordered_cursorHistoricalRawIdField _ _ member hfield
  | media mimeType data => exact Json.ordered_mkObj (by simp)
  | unmodeled label raw =>
    have hraw : raw.Ordered := h
    exact Json.ordered_mkObj (by simpa using hraw)

theorem ordered_cursorHistoricalCallRefJson (call : CallRef) :
    (cursorHistoricalCallRefJson call).Ordered := by
  cases call with
  | resolved entry block => exact Json.ordered_mkObj (by simp)
  | unresolved rawId note =>
    have hrawId := ordered_cursorHistoricalOptionalString rawId
    exact Json.ordered_mkObj (by simpa using hrawId)

theorem ordered_cursorHistoricalErrorJson (error : ErrorSignal) :
    (cursorHistoricalErrorJson error).Ordered := by
  cases error <;> exact Json.ordered_mkObj (by simp)

/-- An archived block has its keys in order when its raw values have. -/
theorem ordered_cursorHistoricalEnvBlockJson {b : EnvBlock} (h : OrderedEnvBlock b) :
    (cursorHistoricalEnvBlockJson b).Ordered := by
  cases b with
  | toolResult call content error =>
    have hcall := ordered_cursorHistoricalCallRefJson call
    have hcontent : (Json.arr (content.map cursorHistoricalUserBlockJson)).Ordered :=
      Json.ordered_arr_map fun b hb => ordered_cursorHistoricalUserBlockJson (h b hb)
    have herror := ordered_cursorHistoricalErrorJson error
    exact Json.ordered_mkObj (by simp [hcall, hcontent, herror])
  | unmodeled label raw =>
    have hraw : raw.Ordered := h
    exact Json.ordered_mkObj (by simpa using hraw)

theorem ordered_cursorHistoricalCoverageJson (coverage : CompactionCoverage) :
    (cursorHistoricalCoverageJson coverage).Ordered := by
  cases coverage <;> exact Json.ordered_mkObj (by simp)

/-- An archived meta event has its keys in order when its raw values have. -/
theorem ordered_cursorHistoricalMetaEventJson {event : MetaEvent} (h : OrderedMetaEvent event) :
    (cursorHistoricalMetaEventJson event).Ordered := by
  cases event with
  | modelChange previous next =>
    exact Json.ordered_mkObj (by simp [ordered_cursorHistoricalOptionalString])
  | thinkingLevelChange previous next =>
    exact Json.ordered_mkObj (by simp [ordered_cursorHistoricalOptionalString])
  | permissionMode mode => exact Json.ordered_mkObj (by simp)
  | branchSummary summary => exact Json.ordered_mkObj (by simp)
  | custom label raw =>
    have hraw : raw.Ordered := h
    exact Json.ordered_mkObj (by simpa using hraw)

/-! ### Payloads -/

/-- A payload that is rendered without reference to a source is read back. -/
theorem cursorHistoricalPayload?_json {payload : Payload}
    (h : ∀ blocks, payload ≠ .assistantMsg blocks) :
    cursorHistoricalPayload? (cursorHistoricalPayloadJson payload) = some payload := by
  have henv (blocks : List EnvBlock) :
      (blocks.map cursorHistoricalEnvBlockJson).mapM cursorHistoricalEnvBlock? = some blocks := by
    rw [List.mapM_map]
    refine (mapM_eq_some_map fun b _ => ?_).trans (congrArg some (List.map_id blocks))
    exact cursorHistoricalEnvBlock?_json b
  unfold cursorHistoricalPayload? cursorHistoricalPayloadJson
  cases payload with
  | userMsg blocks =>
    simp [List.lookup_cons, -List.mapM_map, mapM_cursorHistoricalUserBlock?]
  | assistantMsg blocks => exact absurd rfl (h blocks)
  | envMsg blocks => simp [List.lookup_cons, -List.mapM_map, henv]
  | otherMsg role blocks =>
    simp [List.lookup_cons, -List.mapM_map, mapM_cursorHistoricalUserBlock?]
  | compaction summary coverage tokensBefore =>
    have htokens : cursorHistoricalTokensBefore? (Json.mkObj [("kind", .str "compaction"),
        ("summary", .str summary), ("coverage", cursorHistoricalCoverageJson coverage),
        ("tokensBefore", (tokensBefore.map Json.ofNat).getD .null)]) = some tokensBefore := by
      unfold cursorHistoricalTokensBefore?
      cases tokensBefore with
      | none => simp
      | some n =>
        simp
        rfl
    simp [List.lookup_cons, htokens, cursorHistoricalCoverage?_json]
  | event event => simp [List.lookup_cons, cursorHistoricalMetaEvent?_json]

/-- What is written for a payload is ordered when the values in it are. -/
theorem ordered_cursorHistoricalPayloadJson {payload : Payload} (h : OrderedPayload payload) :
    (cursorHistoricalPayloadJson payload).Ordered := by
  cases payload with
  | userMsg blocks =>
    have hblocks : (Json.arr (blocks.map cursorHistoricalUserBlockJson)).Ordered :=
      Json.ordered_arr_map fun b hb => ordered_cursorHistoricalUserBlockJson (h b hb)
    exact Json.ordered_mkObj (by simpa using hblocks)
  | assistantMsg blocks =>
    have hblocks : (Json.arr (blocks.map cursorHistoricalAssistantBlockJson)).Ordered :=
      Json.ordered_arr_map fun b hb => ordered_cursorHistoricalAssistantBlockJson none (h b hb)
    exact Json.ordered_mkObj (by simpa using hblocks)
  | envMsg blocks =>
    have hblocks : (Json.arr (blocks.map cursorHistoricalEnvBlockJson)).Ordered :=
      Json.ordered_arr_map fun b hb => ordered_cursorHistoricalEnvBlockJson (h b hb)
    exact Json.ordered_mkObj (by simpa using hblocks)
  | otherMsg role blocks =>
    have hblocks : (Json.arr (blocks.map cursorHistoricalUserBlockJson)).Ordered :=
      Json.ordered_arr_map fun b hb => ordered_cursorHistoricalUserBlockJson (h b hb)
    exact Json.ordered_mkObj (by simpa using hblocks)
  | compaction summary coverage tokensBefore =>
    have hcoverage := ordered_cursorHistoricalCoverageJson coverage
    have htokens : ((tokensBefore.map Json.ofNat).getD .null).Ordered := by
      cases tokensBefore <;> trivial
    exact Json.ordered_mkObj (by simp [hcoverage, htokens])
  | event event =>
    have hevent := ordered_cursorHistoricalMetaEventJson h
    exact Json.ordered_mkObj (by simpa using hevent)

section AssistantMsg

variable (source : AssistantBlock × Nat → Option CursorHistoricalRawId)
  (blocks : List AssistantBlock)

/-- An assistant message whose calls are rendered with spellings of their ids from a source. -/
def cursorHistoricalAssistantMsgJson : Json :=
  Json.mkObj [("kind", .str "assistantMsg"), ("blocks", .arr (blocks.zipIdx.map fun p =>
    cursorHistoricalAssistantBlockJsonWithRawId (source p) p.1))]

/-- An assistant message is read back, however its ids are spelled. -/
theorem cursorHistoricalPayload?_assistantMsg :
    cursorHistoricalPayload? (cursorHistoricalAssistantMsgJson source blocks) =
      some (.assistantMsg blocks) := by
  have hblocks : (blocks.zipIdx.map fun p =>
      cursorHistoricalAssistantBlockJsonWithRawId (source p) p.1).mapM
        cursorHistoricalAssistantBlock? = some blocks := by
    rw [List.mapM_map]
    refine (mapM_eq_some_map fun p _ => ?_).trans (congrArg some (List.zipIdx_map_fst 0 blocks))
    exact cursorHistoricalAssistantBlock?_json (source p) p.1
  unfold cursorHistoricalPayload? cursorHistoricalAssistantMsgJson
  simp [List.lookup_cons, -List.mapM_map, hblocks]

/-- What is rendered for an assistant message spells the ids as they were spelled. -/
theorem cursorHistoricalCanonicalPayload?_assistantMsg :
    cursorHistoricalCanonicalPayload? (cursorHistoricalAssistantMsgJson source blocks)
      (.assistantMsg blocks) = some (cursorHistoricalAssistantMsgJson source blocks) := by
  let rendered := blocks.zipIdx.map fun p =>
    cursorHistoricalAssistantBlockJsonWithRawId (source p) p.1
  have hraw : oarr (cursorHistoricalAssistantMsgJson source blocks) "blocks" = some rendered := by
    simp [cursorHistoricalAssistantMsgJson, rendered]
  have hlength : rendered.length = blocks.length := by simp [rendered]
  have hpairs : rendered.zip blocks = blocks.zipIdx.map fun p =>
      (cursorHistoricalAssistantBlockJsonWithRawId (source p) p.1, p.1) := by
    conv => lhs; rhs; rw [← List.zipIdx_map_fst 0 blocks]
    exact List.zip_map'
  have hagain : (rendered.zip blocks).mapM (fun p => cursorHistoricalRenderBlock p.1 p.2) =
      some rendered := by
    rw [hpairs, List.mapM_map]
    exact mapM_eq_some_map fun p _ => cursorHistoricalRenderBlock_json (source p) p.1
  unfold cursorHistoricalCanonicalPayload?
  simp only [hraw, Option.bind_eq_bind, Option.bind_some]
  refine guard_bind_eq_some_iff.mpr ⟨beq_iff_eq.mpr hlength, ?_⟩
  exact Option.bind_eq_some_iff.mpr ⟨rendered, hagain, rfl⟩

theorem ordered_cursorHistoricalAssistantMsgJson (h : OrderedPayload (.assistantMsg blocks)) :
    (cursorHistoricalAssistantMsgJson source blocks).Ordered := by
  have hblocks : (Json.arr (blocks.zipIdx.map fun p =>
      cursorHistoricalAssistantBlockJsonWithRawId (source p) p.1)).Ordered := by
    refine Json.ordered_arr_map fun p hp => ?_
    exact ordered_cursorHistoricalAssistantBlockJson _ (h p.1 (List.fst_mem_of_mem_zipIdx hp))
  exact Json.ordered_mkObj (by simpa using hblocks)

end AssistantMsg

/-! ### Archive records -/

/-- The spelling of a block's id in the record the entry was read from. -/
def sourceRawId? (e : Entry) (p : AssistantBlock × Nat) : Option CursorHistoricalRawId :=
  match p.1 with
  | .toolCall name args rawId => cursorAgentSourceRawToolId? e p.2 name args rawId
  | _ => none

/-- The payload of an entry, as it is archived. -/
theorem cursorHistoricalEntryPayloadJson_cases (e : Entry) :
    (∃ source blocks, e.payload = .assistantMsg blocks ∧
      cursorHistoricalEntryPayloadJson e = cursorHistoricalAssistantMsgJson source blocks) ∨
    ((∀ blocks, e.payload ≠ .assistantMsg blocks) ∧
      cursorHistoricalEntryPayloadJson e = cursorHistoricalPayloadJson e.payload) := by
  by_cases hassistant : ∃ blocks, e.payload = .assistantMsg blocks
  · obtain ⟨blocks, hpayload⟩ := hassistant
    refine Or.inl ⟨sourceRawId? e, blocks, hpayload, ?_⟩
    unfold cursorHistoricalEntryPayloadJson
    rw [hpayload]
    rfl
  · have hother := not_exists.mp hassistant
    refine Or.inr ⟨hother, ?_⟩
    unfold cursorHistoricalEntryPayloadJson
    split
    next blocks hpayload => exact absurd hpayload (hother blocks)
    next => rfl

/-- An archived payload has its keys in order when its raw values have. -/
theorem ordered_cursorHistoricalEntryPayloadJson {e : Entry} (h : OrderedPayload e.payload) :
    (cursorHistoricalEntryPayloadJson e).Ordered := by
  rcases cursorHistoricalEntryPayloadJson_cases e with
    ⟨source, blocks, hpayload, hjson⟩ | ⟨_, hjson⟩
  · rw [hjson]
    exact ordered_cursorHistoricalAssistantMsgJson source blocks (hpayload ▸ h)
  · rw [hjson]
    exact ordered_cursorHistoricalPayloadJson h

/-- **An archived payload passes the comparison with its own rendering.** -/
theorem cursorHistoricalStrictPayload?_entry {e : Entry} (h : OrderedPayload e.payload) :
    cursorHistoricalStrictPayload? (cursorHistoricalEntryPayloadJson e) = some e.payload := by
  have hself : (cursorHistoricalEntryPayloadJson e == cursorHistoricalEntryPayloadJson e) = true :=
    Json.beq_self (ordered_cursorHistoricalEntryPayloadJson h)
  unfold cursorHistoricalStrictPayload?
  rcases cursorHistoricalEntryPayloadJson_cases e with
    ⟨source, blocks, hpayload, hjson⟩ | ⟨hother, hjson⟩
  · rw [hjson] at hself ⊢
    simp [cursorHistoricalPayload?_assistantMsg, cursorHistoricalCanonicalPayload?_assistantMsg,
      hself, hpayload]
  · have hcanonical : cursorHistoricalCanonicalPayload? (cursorHistoricalPayloadJson e.payload)
        e.payload = some (cursorHistoricalPayloadJson e.payload) := by
      unfold cursorHistoricalCanonicalPayload?
      split
      next blocks hpayload => exact absurd hpayload (hother blocks)
      next => rfl
    rw [hjson] at hself ⊢
    simp [cursorHistoricalPayload?_json hother, hcanonical, hself]

/-- The record an entry was read from is ordered. -/
theorem ordered_of_cursorAgentRawRecord {e : Entry} (he : OrderedEntry e) {raw : Json}
    (hraw : cursorAgentRawRecord e = some raw) : raw.Ordered := by
  unfold cursorAgentRawRecord at hraw
  split at hraw
  · obtain ⟨extras, hextras, hraw⟩ := Option.bind_eq_some_iff.mp hraw
    exact (he.extras extras hextras).oobj hraw
  · cases hraw

/-- The source record of an archive record is an object. -/
theorem cursorAgentHistoricalSourceRawRecord?_obj {e : Entry} {source : Json}
    (h : cursorAgentHistoricalSourceRawRecord? e = some source) (he : OrderedEntry e) :
    (∃ kvs, source = .obj kvs) ∧ source.Ordered := by
  obtain ⟨raw, hraw, h⟩ := Option.bind_eq_some_iff.mp h
  have hordered := ordered_of_cursorAgentRawRecord he hraw
  split at h
  · split at h
    next kvs hmember =>
      cases h
      refine ⟨⟨kvs, rfl⟩, hordered.oobj (k := cursorAgentHistoricalSourceRawRecordKey) ?_⟩
      unfold oobj
      rw [hmember]
      rfl
    next => cases h
  · split at h
    · cases h
      exact ⟨⟨_, rfl⟩, hordered⟩
    · cases h

/-- The archive record of a payload, with the source record if there is one. -/
def cursorAgentHistoricalRecordJson (payload : Json) (source : Option Json) : Json :=
  Json.mkObj ([("type", .str cursorAgentHistoricalRecordType),
    ("protocol", .str cursorAgentHistoricalProtocol), ("payload", payload)] ++
    source.toList.map fun source => (cursorAgentHistoricalSourceRawRecordKey, source))

section HistoricalRecord

variable (payload : Json) (source : Option Json)

/-- The members of an archive record, apart from the source record. -/
theorem oobj_cursorAgentHistoricalRecordJson {k : String}
    (hk : k ≠ cursorAgentHistoricalSourceRawRecordKey) :
    oobj (cursorAgentHistoricalRecordJson payload source) k =
      [("payload", payload), ("protocol", .str cursorAgentHistoricalProtocol),
        ("type", .str cursorAgentHistoricalRecordType)].lookup k := by
  have hne : (k == cursorAgentHistoricalSourceRawRecordKey) = false := beq_eq_false_iff_ne.mpr hk
  have hsource : (source.toList.map fun source =>
      (cursorAgentHistoricalSourceRawRecordKey, source)).reverse.lookup k = none := by
    cases source with
    | none => rfl
    | some source => simp [List.lookup_cons, hne]
  unfold cursorAgentHistoricalRecordJson
  rw [oobj_mkObj, List.reverse_append, List.lookup_append, hsource, Option.none_or]
  rfl

/-- The record an entry was read from is read back. -/
theorem cursorHistoricalSourceRawRecord?_json (h : ∀ s ∈ source, ∃ kvs, s = Json.obj kvs) :
    cursorHistoricalSourceRawRecord? (cursorAgentHistoricalRecordJson payload source) =
      some source := by
  have hmember : oobj (cursorAgentHistoricalRecordJson payload source)
      cursorAgentHistoricalSourceRawRecordKey = source := by
    unfold cursorAgentHistoricalRecordJson
    rw [oobj_mkObj]
    cases source with
    | none => rfl
    | some source => simp
  unfold oobj at hmember
  unfold cursorHistoricalSourceRawRecord?
  split
  next hget =>
    rw [hget] at hmember
    rw [← hmember]
    rfl
  next kvs hget =>
    rw [hget] at hmember
    rw [← hmember]
    rfl
  next value hvalue hget =>
    rw [hget] at hmember
    obtain ⟨kvs, rfl⟩ := h value (hmember ▸ rfl)
    exact absurd rfl (hvalue kvs)

/-- A whole archive record has its keys in order. -/
theorem ordered_cursorAgentHistoricalRecordJson (hpayload : payload.Ordered)
    (hsource : ∀ s ∈ source, s.Ordered) :
    (cursorAgentHistoricalRecordJson payload source).Ordered := by
  refine Json.ordered_mkObj fun member hmember => ?_
  rcases List.mem_append.mp hmember with hfixed | hraw
  · simp only [List.mem_cons, List.not_mem_nil, or_false] at hfixed
    rcases hfixed with rfl | rfl | rfl
    · trivial
    · trivial
    · exact hpayload
  · obtain ⟨s, hs, rfl⟩ := List.mem_map.mp hraw
    exact hsource s (Option.mem_toList.mp hs)

end HistoricalRecord

/-- **An archive record is read back as the payload of its entry.** -/
theorem cursorAgentHistoricalEntryPayload?_carrier {e : Entry} (he : OrderedEntry e) :
    cursorAgentHistoricalEntryPayload? (cursorAgentHistoricalEntryCarrier e) =
      some e.payload := by
  let payload := cursorHistoricalEntryPayloadJson e
  let source := cursorAgentHistoricalSourceRawRecord? e
  have hsource : ∀ s ∈ source, (∃ kvs, s = Json.obj kvs) ∧ s.Ordered := fun s hs =>
    cursorAgentHistoricalSourceRawRecord?_obj hs he
  have hcarrier : cursorAgentHistoricalEntryCarrier e =
      cursorAgentHistoricalRecordJson payload source := rfl
  have hmember := fun k => @oobj_cursorAgentHistoricalRecordJson payload source k
  have hraw := cursorHistoricalSourceRawRecord?_json payload source fun s hs => (hsource s hs).1
  have hself : (cursorAgentHistoricalRecordJson payload source ==
      cursorAgentHistoricalRecordJson payload source) = true :=
    Json.beq_self (ordered_cursorAgentHistoricalRecordJson payload source
      (ordered_cursorHistoricalEntryPayloadJson he.payload) fun s hs => (hsource s hs).2)
  have hstrict : cursorHistoricalStrictPayload? payload = some e.payload :=
    cursorHistoricalStrictPayload?_entry he.payload
  unfold cursorAgentHistoricalEntryPayload?
  rw [hcarrier, ostr_eq_bind _ "type", ostr_eq_bind _ "protocol", hmember "type" (by decide),
    hmember "protocol" (by decide), hmember "payload" (by decide)]
  simp only [List.lookup_cons, hraw, Option.bind_eq_bind]
  simp only [String.reduceBEq, Option.bind_some, Json.getStr?_str, beq_self_eq_true, guard_true,
    hstrict, Option.pure_def]
  -- The record the reader renders is the carrier.
  change ((guard ((cursorAgentHistoricalRecordJson payload source ==
    cursorAgentHistoricalRecordJson payload source) = true) : Option Unit).bind
      fun _ => some e.payload) = some e.payload
  rw [hself]
  rfl

end AgentConvert.CursorAgent
