import AgentConvert.CursorAgent.Archive
import Mathlib.Data.List.Nodup

/-!
# Exported records are read back

The importer reads what the exporter writes.  An entry that is archived comes back with its
payload unchanged; a message that is written in native syntax comes back with the tools of its
calls interpreted (`exportCursorAgentEntries_reread`).  Nothing unverified becomes native on the
way, and no tool id is read twice from native syntax.

The proof goes over the two loops in step: the authorities the exporter has used up contain the
tool ids the importer has met.
-/

namespace AgentConvert.CursorAgent

/-! ### The member checks of the importer -/

/-- What a required string is. -/
theorem requireString_ok_iff {ctx : String} {j : Json} {k s : String} :
    requireString ctx j k = .ok s ↔ oobj j k = some (.str s) := by
  unfold requireString oobj
  cases j.getObjVal? k with
  | error e => simp [Except.toOption]
  | ok value => cases value <;> simp [Except.toOption]

/-- What a required object is. -/
theorem requireObject_ok_iff {ctx : String} {j v : Json} {k : String} :
    requireObject ctx j k = .ok v ↔ oobj j k = some v ∧ ∃ kvs, v = .obj kvs := by
  unfold requireObject oobj
  cases j.getObjVal? k with
  | error e => simp [Except.toOption]
  | ok value =>
    cases value <;> simp [Except.toOption] <;> rintro rfl <;> simp

/-- What a required array is. -/
theorem requireArray_ok_iff {ctx : String} {j : Json} {k : String} {elems : List Json} :
    requireArray ctx j k = .ok elems ↔ oobj j k = some (.arr elems) := by
  unfold requireArray oobj
  cases j.getObjVal? k with
  | error e => simp [Except.toOption]
  | ok value => cases value <;> simp [Except.toOption]

/-- What a required field is. -/
theorem requireField_ok_iff {ctx : String} {j v : Json} {k : String} :
    requireField ctx j k = .ok v ↔ oobj j k = some v := by
  unfold requireField oobj
  cases j.getObjVal? k with
  | error e => simp [Except.toOption]
  | ok value => simp [Except.toOption]

/-- What an optional string is. -/
theorem optionalString_ok_iff {ctx : String} {j : Json} {k : String} {value : Option String} :
    optionalString ctx j k = .ok value ↔
      (oobj j k = none ∨ oobj j k = some .null) ∧ value = none ∨
        ∃ s, oobj j k = some (.str s) ∧ value = some s := by
  unfold optionalString oobj
  cases j.getObjVal? k with
  | error e => simp [Except.toOption, eq_comm]
  | ok v => cases v <;> simp [Except.toOption, eq_comm]

/-- What a message record is made of. -/
structure MessageRecord (j : Json) (role : String) (content : List Json) : Prop where
  isObj : ∃ kvs, j = .obj kvs
  noType : hasKey j "type" = false
  noUuid : hasKey j "uuid" = false
  noParent : hasKey j "parentUuid" = false
  noSession : hasKey j "sessionId" = false
  hasRole : oobj j "role" = some (.str role)
  hasMessage : ∃ kvs, oobj j "message" = some (.obj kvs) ∧
    oobj (.obj kvs) "content" = some (.arr content)
  known : role = "user" ∨ role = "assistant"

/-- A record that is classified as a message has the form of one. -/
theorem messageRecord_of_classify {line : Nat} {j : Json} {role : String} {content : List Json}
    (h : classifyCursorAgentRecord line j = .ok (.message role content)) :
    MessageRecord j role content := by
  unfold classifyCursorAgentRecord at h
  split at h
  · split at h
    · -- a record with a discriminator is never a message
      split at h
      · cases h
      · obtain ⟨status, _, h⟩ := bind_ok_iff.mp h
        split at h
        · cases h
        · obtain ⟨error, _, h⟩ := bind_ok_iff.mp h
          split at h
          · cases h
          · cases h
      · cases h
      · cases h
      · cases h
    next htype =>
      split at h
      · cases h
      next hforeign =>
        split at h
        · obtain ⟨role', hrole, h⟩ := bind_ok_iff.mp h
          obtain ⟨message, hmessage, h⟩ := bind_ok_iff.mp h
          obtain ⟨content', hcontent, h⟩ := bind_ok_iff.mp h
          split at h
          next hknown =>
            cases h
            obtain ⟨hmember, kvs, rfl⟩ := requireObject_ok_iff.mp hmessage
            simp only [Bool.or_eq_true, not_or, Bool.not_eq_true] at hforeign
            exact {
              isObj := ⟨_, rfl⟩
              noType := Bool.not_eq_true _ ▸ htype
              noUuid := hforeign.1.1
              noParent := hforeign.1.2
              noSession := hforeign.2
              hasRole := requireString_ok_iff.mp hrole
              hasMessage := ⟨kvs, hmember, requireArray_ok_iff.mp hcontent⟩
              known := by simpa using hknown }
          next => cases h
        · cases h
  · cases h

/-- **The records that are classified as messages.**  The line number is for errors only. -/
theorem classifyCursorAgentRecord_message_iff {line : Nat} {j : Json} {role : String}
    {content : List Json} :
    classifyCursorAgentRecord line j = .ok (.message role content) ↔
      MessageRecord j role content := by
  refine ⟨messageRecord_of_classify, ?_⟩
  rintro ⟨⟨kvs, rfl⟩, htype, huuid, hparent, hsession, hrole, ⟨m, hmessage, hcontent⟩, hknown⟩
  have hkey : hasKey (.obj kvs) "role" = true := by
    unfold hasKey
    rw [hrole]
    rfl
  have hknown' : (role == "user" || role == "assistant") = true := by simpa using hknown
  unfold classifyCursorAgentRecord
  simp only [htype, huuid, hparent, hsession, hkey, Bool.false_eq_true, if_false, Bool.or_self,
    Bool.true_or, if_true]
  refine bind_ok_iff.mpr ⟨role, requireString_ok_iff.mpr hrole, ?_⟩
  refine bind_ok_iff.mpr ⟨.obj m, requireObject_ok_iff.mpr ⟨hmessage, m, rfl⟩, ?_⟩
  refine bind_ok_iff.mpr ⟨content, requireArray_ok_iff.mpr hcontent, ?_⟩
  rw [if_pos hknown']
  rfl

/-- An archive record is classified as one. -/
theorem classifyCursorAgentRecord_historical {line : Nat} {j : Json} (hobj : ∃ kvs, j = .obj kvs)
    (htype : oobj j "type" = some (.str cursorAgentHistoricalRecordType)) :
    classifyCursorAgentRecord line j = .ok .historical := by
  obtain ⟨kvs, rfl⟩ := hobj
  have hkey : hasKey (.obj kvs) "type" = true := by
    unfold hasKey
    rw [htype]
    rfl
  have hget : (Json.obj kvs).getObjVal? "type" = .ok (.str cursorAgentHistoricalRecordType) :=
    ok_of_toOption_eq_some htype
  unfold classifyCursorAgentRecord
  simp only [hkey, if_true, hget]
  rfl

/-! ### Overlays -/

/-- An overlay has the given members; of the raw value it keeps those it does not model. -/
theorem oobj_overlayJsonFields (raw : Json) (modeledKeys : List String)
    (fields : List (String × Json)) (k : String) :
    oobj (overlayJsonFields raw modeledKeys fields) k =
      (fields.reverse.lookup k).or (if k ∈ modeledKeys then none else oobj raw k) := by
  have hother : ∀ raw : Json, oobj raw k = none → oobj (Json.mkObj fields) k =
      (fields.reverse.lookup k).or (if k ∈ modeledKeys then none else oobj raw k) := by
    intro raw hraw
    rw [hraw, ite_self, Option.or_none, oobj_mkObj]
  unfold overlayJsonFields
  cases raw with
  | obj kvs =>
    rw [oobj_obj, oobj_obj, ← Json.lookup_foldl_eraseMember]
    exact Json.lookup_foldl_insertMember k fields _
  | null => exact hother _ rfl
  | bool _ => exact hother _ rfl
  | num _ => exact hother _ rfl
  | str _ => exact hother _ rfl
  | arr _ => exact hother _ rfl

/-- An overlay is an object. -/
theorem overlayJsonFields_isObj (raw : Json) (modeledKeys : List String)
    (fields : List (String × Json)) :
    ∃ kvs, overlayJsonFields raw modeledKeys fields = .obj kvs := by
  cases raw <;> exact ⟨_, rfl⟩

/-- A text block, whatever else the raw block has. -/
theorem overlayCursorAgentBlock_text (raw : Option Json) (s : String) :
    let j := overlayCursorAgentBlock raw "text" ["type", "text"]
      [("type", .str "text"), ("text", .str s)]
    oobj j "type" = some (.str "text") ∧ oobj j "text" = some (.str s) := by
  unfold overlayCursorAgentBlock
  cases raw with
  | none => exact ⟨by simp [List.lookup_cons], by simp⟩
  | some source =>
    dsimp only
    split
    · constructor
      · rw [oobj_overlayJsonFields]
        rfl
      · rw [oobj_overlayJsonFields]
        rfl
    · exact ⟨by simp [List.lookup_cons], by simp⟩

/-! ### The record an entry was read from -/

/-- The record an entry was read from, if there is one, is a message of the role. -/
def RawMessage (rawRecord : Option Json) (role : String) : Prop :=
  ∀ raw ∈ rawRecord, ∃ content, MessageRecord raw role content

/-- A record that authorizes a role is a message of that role. -/
theorem rawMessage_of_authorizesRole {e : Entry} {role : String}
    (h : cursorAgentRawRecordAuthorizesRole e role = true) :
    RawMessage (cursorAgentRawRecord e) role := by
  intro raw hraw
  unfold cursorAgentRawRecordAuthorizesRole at h
  split at h
  next hforeign =>
    -- an entry of another format has no record
    unfold cursorAgentRawRecord at hraw
    rw [if_neg (by simpa using hforeign)] at hraw
    cases hraw
  next =>
    rw [hraw] at h
    dsimp only at h
    split at h
    next sourceRole content hclass =>
      cases beq_iff_eq.mp h
      exact ⟨content, messageRecord_of_classify hclass⟩
    next => cases h

/-- **A message is written as a message**: of the record the entry was read from only the role
and the content are replaced. -/
theorem exportCursorAgentMessage_record {rawRecord : Option Json} {role : String}
    (hraw : RawMessage rawRecord role) (content : List Json)
    (hknown : role = "user" ∨ role = "assistant") :
    MessageRecord (exportCursorAgentMessage rawRecord role content) role content := by
  cases rawRecord with
  | none =>
    have hcontent : oobj (Json.mkObj [("content", .arr content)]) "content" =
        some (.arr content) := by simp
    exact {
      isObj := ⟨_, rfl⟩
      noType := by simp [exportCursorAgentMessage, hasKey, List.lookup_cons]
      noUuid := by simp [exportCursorAgentMessage, hasKey, List.lookup_cons]
      noParent := by simp [exportCursorAgentMessage, hasKey, List.lookup_cons]
      noSession := by simp [exportCursorAgentMessage, hasKey, List.lookup_cons]
      hasRole := by simp [exportCursorAgentMessage, List.lookup_cons]
      hasMessage := ⟨_, by simp [exportCursorAgentMessage]; rfl, hcontent⟩
      known := hknown }
  | some raw =>
    obtain ⟨_, hrecord⟩ := hraw raw rfl
    obtain ⟨m, hmessage, _⟩ := hrecord.hasMessage
    have hexport : exportCursorAgentMessage (some raw) role content =
        overlayJsonFields raw ["role", "message"] [("role", .str role),
          ("message", overlayJsonFields (.obj m) ["content"] [("content", .arr content)])] := by
      unfold exportCursorAgentMessage
      simp only [Option.bind_some, hmessage]
    rw [hexport]
    obtain ⟨kvs, hkvs⟩ := overlayJsonFields_isObj (.obj m) ["content"] [("content", .arr content)]
    have hkey : ∀ k, k ≠ "role" → k ≠ "message" →
        hasKey (overlayJsonFields raw ["role", "message"] [("role", .str role),
          ("message", overlayJsonFields (.obj m) ["content"] [("content", .arr content)])]) k =
            hasKey raw k := by
      intro k hrole hmessage
      have hrole' : (k == "role") = false := beq_eq_false_iff_ne.mpr hrole
      have hmessage' : (k == "message") = false := beq_eq_false_iff_ne.mpr hmessage
      unfold hasKey
      rw [oobj_overlayJsonFields]
      simp [List.lookup_cons, hrole, hrole', hmessage, hmessage']
    exact {
      isObj := overlayJsonFields_isObj _ _ _
      noType := (hkey "type" (by decide) (by decide)).trans hrecord.noType
      noUuid := (hkey "uuid" (by decide) (by decide)).trans hrecord.noUuid
      noParent := (hkey "parentUuid" (by decide) (by decide)).trans hrecord.noParent
      noSession := (hkey "sessionId" (by decide) (by decide)).trans hrecord.noSession
      hasRole := by
        rw [oobj_overlayJsonFields]
        rfl
      hasMessage := by
        refine ⟨kvs, ?_, ?_⟩
        · rw [oobj_overlayJsonFields, ← hkvs]
          rfl
        · rw [← hkvs, oobj_overlayJsonFields]
          rfl
      known := hknown }

/-! ### Native tool calls -/

/-- The native block says what the call says, and leaves its tool to be derived. -/
structure NativeToolBlock (raw : Json) (name : ToolName) (args : Json) (rawId : Option String) :
    Prop where
  hasType : oobj raw "type" = some (.str "tool_use")
  hasName : oobj raw "name" = some (.str name.raw)
  input : oobj raw "input" = some args
  hasId : ∀ ctx, optionalString ctx raw "id" = .ok rawId
  canonical : name.canonical = none ∨ name.canonical = cursorCanonicalTool (some name.raw)

/-- The content of a message record is ordered. -/
theorem MessageRecord.ordered_content {j : Json} {role : String} {content : List Json}
    (h : MessageRecord j role content) (hj : j.Ordered) : (Json.arr content).Ordered := by
  obtain ⟨kvs, hmessage, hcontent⟩ := h.hasMessage
  exact (hj.oobj hmessage).oobj hcontent

/-- The block a call was read from still says what the call says. -/
theorem nativeToolBlock_of_exact {e : Entry} {blockIdx : Nat} {name : ToolName} {args : Json}
    {rawId : Option String} {raw : Json} (he : OrderedEntry e) (hargs : args.Ordered)
    (h : cursorAgentExactImportedToolBlock? e blockIdx name args rawId = some raw) :
    NativeToolBlock raw name args rawId ∧ e.disposition = .native ∧
      e.origin.format = .cursorAgent := by
  unfold cursorAgentExactImportedToolBlock? at h
  obtain ⟨hnative, h⟩ := guard_bind_eq_some_iff.mp h
  obtain ⟨hformat, h⟩ := guard_bind_eq_some_iff.mp h
  obtain ⟨record, hrecord, h⟩ := Option.bind_eq_some_iff.mp h
  obtain ⟨content, hmessage, h⟩ : ∃ content, MessageRecord record "assistant" content ∧
      (do
        let raw ← content[blockIdx]?
        guard (ostr raw "type" == some "tool_use")
        let rawName ← ostr raw "name"
        guard (rawName == name.raw)
        guard (name.canonical == cursorCanonicalTool (some rawName))
        guard (oobj raw "input" == some args)
        let sourceId ← (optionalString "cursor-agent raw tool block" raw "id").toOption
        guard (sourceId == rawId)
        guard (cursorAgentNativeToolInput name args)
        pure raw) = some raw := by
    dsimp only at h
    split at h
    next content hclass => exact ⟨content, messageRecord_of_classify hclass, h⟩
    next => cases h
  obtain ⟨block, hblock, h⟩ := Option.bind_eq_some_iff.mp h
  obtain ⟨htype, h⟩ := guard_bind_eq_some_iff.mp h
  obtain ⟨rawName, hname, h⟩ := Option.bind_eq_some_iff.mp h
  obtain ⟨hsame, h⟩ := guard_bind_eq_some_iff.mp h
  obtain ⟨hcanonical, h⟩ := guard_bind_eq_some_iff.mp h
  obtain ⟨hinput, h⟩ := guard_bind_eq_some_iff.mp h
  obtain ⟨sourceId, hid, h⟩ := Option.bind_eq_some_iff.mp h
  obtain ⟨hsameId, h⟩ := guard_bind_eq_some_iff.mp h
  obtain ⟨_, h⟩ := guard_bind_eq_some_iff.mp h
  cases h
  cases beq_iff_eq.mp hsame
  cases beq_iff_eq.mp hsameId
  have hordered : raw.Ordered :=
    Json.orderedElems_iff.mp
      (hmessage.ordered_content (ordered_of_cursorAgentRawRecord he hrecord)) raw
      (List.mem_of_getElem? hblock)
  refine ⟨{
    hasType := oobj_of_ostr (beq_iff_eq.mp htype)
    hasName := oobj_of_ostr hname
    input := ?_
    hasId := ?_
    canonical := Or.inr (beq_iff_eq.mp hcanonical) }, beq_iff_eq.mp hnative,
    beq_iff_eq.mp hformat⟩
  · cases hmember : oobj raw "input" with
    | none =>
      rw [hmember] at hinput
      cases hinput
    | some value =>
      rw [hmember] at hinput
      rw [Json.eq_of_beq (hordered.oobj hmember) hargs hinput]
  · intro ctx
    have hread := ok_of_toOption_eq_some hid
    exact optionalString_ok_iff.mpr (optionalString_ok_iff.mp hread)

/-- A new native block for a call of another format. -/
theorem nativeToolBlock_of_representable {name : ToolName} {args : Json} {rawId : Option String}
    (h : cursorAgentToolCallIsNativeRepresentable name args rawId = true) :
    NativeToolBlock (cursorAgentNativeToolBlock name args rawId) name args rawId ∧
      name.raw ≠ "" ∧ rawId ≠ some "" := by
  unfold cursorAgentToolCallIsNativeRepresentable at h
  simp only [Bool.and_eq_true, Bool.or_eq_true, Bool.not_eq_true', String.isEmpty_eq_false_iff,
    Option.isNone_iff_eq_none, beq_iff_eq] at h
  obtain ⟨⟨⟨hname, hcanonical⟩, _⟩, hid⟩ := h
  refine ⟨{ hasType := ?_, hasName := ?_, input := ?_, hasId := ?_, canonical := hcanonical },
    hname, ?_⟩
  · cases rawId <;> simp [cursorAgentNativeToolBlock, List.lookup_cons]
  · cases rawId <;> simp [cursorAgentNativeToolBlock, List.lookup_cons]
  · cases rawId <;> simp [cursorAgentNativeToolBlock, List.lookup_cons]
  · intro ctx
    refine optionalString_ok_iff.mpr ?_
    cases rawId with
    | none => exact Or.inl ⟨Or.inl (by simp [cursorAgentNativeToolBlock, List.lookup_cons]), rfl⟩
    | some id => exact Or.inr ⟨id, by simp [cursorAgentNativeToolBlock], rfl⟩
  · rintro rfl
    simp at hid

/-- The native block for a call says what the call says.  Only a native entry has one. -/
theorem nativeToolBlock_of_blockFor {e : Entry} {blockIdx : Nat} {name : ToolName} {args : Json}
    {rawId : Option String} {raw : Json} (he : OrderedEntry e) (hargs : args.Ordered)
    (h : cursorAgentNativeToolBlockFor? e blockIdx name args rawId = some raw) :
    NativeToolBlock raw name args rawId ∧ e.disposition = .native ∧
      (e.origin.format = .cursorAgent ∨ name.raw ≠ "" ∧ rawId ≠ some "") := by
  unfold cursorAgentNativeToolBlockFor? at h
  split at h
  next raw' hexact =>
    cases h
    obtain ⟨hblock, hnative, hformat⟩ := nativeToolBlock_of_exact he hargs hexact
    exact ⟨hblock, hnative, Or.inl hformat⟩
  next =>
    split at h
    · cases h
    · split at h
      · cases h
      next hnative =>
        split at h
        next hrepresentable =>
          cases h
          obtain ⟨hblock, hnamed⟩ := nativeToolBlock_of_representable hrepresentable
          exact ⟨hblock, by simpa using hnative, Or.inr hnamed⟩
        next => cases h

/-! ### Entries that can be read back -/

/-- What the exporter relies on.  Values are ordered, as parsed values are; a call that the
importer read from native syntax has a name, and no empty id. -/
structure Exportable (e : Entry) : Prop where
  ordered : OrderedEntry e
  named : e.origin.format = .cursorAgent → e.disposition = .native → ∀ blocks,
    e.payload = .assistantMsg blocks → ∀ name args rawId,
      AssistantBlock.toolCall name args rawId ∈ blocks → name.raw ≠ "" ∧ rawId ≠ some ""

/-- The tool that the importer derives, where the call does not say which tool it is. -/
def fillTool (name : ToolName) : ToolName :=
  { name with canonical := name.canonical <|> cursorCanonicalTool (some name.raw) }

/-- A tool call has its canonical name filled in. -/
def fillToolBlock : AssistantBlock → AssistantBlock
  | .toolCall name args rawId => .toolCall (fillTool name) args rawId
  | block => block

/-- The payload with every tool interpreted. -/
def fillTools : Payload → Payload
  | .assistantMsg blocks => .assistantMsg (blocks.map fillToolBlock)
  | payload => payload

/-- How an entry comes back: with its payload, and native only if it was native. -/
structure Reread (e e' : Entry) : Prop where
  payload : e'.payload = e.payload ∨ e'.disposition = .native ∧ e'.payload = fillTools e.payload
  disposition : e'.disposition = .native → e.disposition = .native

/-- The value is a native block for the block. -/
def NativeBlock (j : Json) : AssistantBlock → Prop
  | .text s => oobj j "type" = some (.str "text") ∧ oobj j "text" = some (.str s)
  | .toolCall name args rawId =>
    NativeToolBlock j name args rawId ∧ name.raw ≠ "" ∧ rawId ≠ some ""
  | .thinking _ _ | .media _ _ | .unmodeled _ _ => False

/-! ### Authorities and ids -/

/-- The id of a call that has one. -/
def explicitId? : AssistantBlock → Option String
  | .toolCall _ _ rawId => rawId
  | .text _ | .thinking _ _ | .media _ _ | .unmodeled _ _ => none

/-- Keys are fresh when none is used, and none stands among them twice. -/
theorem cursorAgentToolAuthorityKeysFresh_iff {used keys : List CursorAgentToolAuthorityKey} :
    cursorAgentToolAuthorityKeysFresh used keys = true ↔
      keys.Nodup ∧ ∀ key ∈ keys, key ∉ used := by
  induction keys generalizing used with
  | nil => simp [cursorAgentToolAuthorityKeysFresh]
  | cons key keys ih =>
    unfold cursorAgentToolAuthorityKeysFresh
    by_cases hused : key ∈ used
    · rw [if_pos (by simpa using hused)]
      simp [hused]
    · rw [if_neg (by simpa using hused), ih]
      simp only [List.nodup_cons, List.mem_cons, forall_eq_or_imp, not_or]
      constructor
      · rintro ⟨hnodup, hfresh⟩
        exact ⟨⟨fun hmem => (hfresh key hmem).1 rfl, hnodup⟩, hused,
          fun other hother => (hfresh other hother).2⟩
      · rintro ⟨⟨hkey, hnodup⟩, _, hfresh⟩
        refine ⟨hnodup, fun other hother => ⟨?_, hfresh other hother⟩⟩
        rintro rfl
        exact hkey hother

/-- Each id of a call that is written in native syntax is an authority of its entry, in the
same order. -/
theorem explicitIds_sublist {e : Entry} (blocks : List AssistantBlock) (n : Nat)
    (h : ∀ p ∈ blocks.zipIdx n, ∀ name args rawId, p.1 = .toolCall name args rawId →
      (cursorAgentNativeToolBlockFor? e p.2 name args rawId).isSome ∧ rawId ≠ some "") :
    ((blocks.filterMap explicitId?).map CursorAgentToolAuthorityKey.explicitId).Sublist
      ((blocks.zipIdx n).filterMap fun p =>
        match p.1 with
        | .toolCall name args rawId => cursorAgentToolAuthorityKey? e p.2 name args rawId
        | _ => none) := by
  induction blocks generalizing n with
  | nil => exact List.Sublist.slnil
  | cons block blocks ih =>
    rw [List.zipIdx_cons] at h ⊢
    obtain ⟨hfirst, hrest⟩ := List.forall_mem_cons.mp h
    have htail := ih (n + 1) hrest
    cases block with
    | toolCall name args rawId =>
      obtain ⟨hsome, hid⟩ := hfirst name args rawId rfl
      obtain ⟨raw, hraw⟩ := Option.isSome_iff_exists.mp hsome
      cases rawId with
      | none =>
        -- A call without an id has an authority all the same: the block itself.
        have hkey : cursorAgentToolAuthorityKey? e n name args none =
            some (.anonymousBlock raw.compress) := by
          unfold cursorAgentToolAuthorityKey?
          rw [hraw]
          rfl
        rw [List.filterMap_cons_none (by rfl), List.filterMap_cons_some (by exact hkey)]
        exact htail.cons _
      | some id =>
        have hne : id ≠ "" := fun hempty => hid (congrArg some hempty)
        have hkey : cursorAgentToolAuthorityKey? e n name args (some id) =
            some (.explicitId id) := by
          unfold cursorAgentToolAuthorityKey?
          rw [hraw]
          simp [hne]
        rw [List.filterMap_cons_some (by rfl), List.filterMap_cons_some (by exact hkey),
          List.map_cons]
        exact htail.cons_cons _
    | text s =>
      rw [List.filterMap_cons_none (by rfl), List.filterMap_cons_none (by rfl)]
      exact htail
    | thinking s signature =>
      rw [List.filterMap_cons_none (by rfl), List.filterMap_cons_none (by rfl)]
      exact htail
    | media mimeType data =>
      rw [List.filterMap_cons_none (by rfl), List.filterMap_cons_none (by rfl)]
      exact htail
    | unmodeled label raw =>
      rw [List.filterMap_cons_none (by rfl), List.filterMap_cons_none (by rfl)]
      exact htail

/-! ### Reading native content -/

/-- The kind of the note about a tool id that was read before from native syntax. -/
def duplicateToolId : AssumptionKind := .other "cursorAgentDuplicateToolCallId"

/-- The later notes report no tool id that was read before. -/
def NoNewDuplicate (notes notes' : List ImportNote) : Prop :=
  ∀ note ∈ notes', note ∈ notes ∨ note.kind ≠ duplicateToolId

theorem NoNewDuplicate.refl (notes : List ImportNote) : NoNewDuplicate notes notes :=
  fun _ h => Or.inl h

theorem NoNewDuplicate.trans {notes notes' notes'' : List ImportNote}
    (h : NoNewDuplicate notes notes') (h' : NoNewDuplicate notes' notes'') :
    NoNewDuplicate notes notes'' := by
  intro note hnote
  rcases h' note hnote with hold | hnew
  · exact h note hold
  · exact Or.inr hnew

/-- Notes about something else add no duplicate. -/
theorem NoNewDuplicate.append {notes added : List ImportNote}
    (h : ∀ note ∈ added, note.kind ≠ duplicateToolId) :
    NoNewDuplicate notes (notes ++ added) := by
  intro note hnote
  rcases List.mem_append.mp hnote with hold | hnew
  · exact Or.inl hold
  · exact Or.inr (h note hnew)

/-- A text block of the user is read as its text. -/
theorem userContentBlock_text {ctx s : String} {j : Json}
    (htype : oobj j "type" = some (.str "text")) (htext : oobj j "text" = some (.str s)) :
    userContentBlock ctx j = .ok (.text s) := by
  have hget : j.getObjVal? "type" = .ok (.str "text") := ok_of_toOption_eq_some htype
  unfold userContentBlock
  rw [hget]
  exact bind_ok_iff.mpr ⟨s, requireString_ok_iff.mpr htext, rfl⟩

/-- What reading one more block of an assistant message does. -/
structure ReadsBlock (acc acc' : AssistantContent) (block : AssistantBlock) : Prop where
  blocks : acc'.blocks = acc.blocks ++ [fillToolBlock block]
  disposition : acc'.disposition = acc.disposition
  usedToolIds : acc'.usedToolIds = (explicitId? block).toList ++ acc.usedToolIds
  notes : NoNewDuplicate acc.notes acc'.notes

/-- What noting an id does. -/
structure NotesId (acc acc' : AssistantContent) (sourceId? : Option String) : Prop where
  blocks : acc'.blocks = acc.blocks
  disposition : acc'.disposition = acc.disposition
  usedToolIds : acc'.usedToolIds = sourceId?.toList ++ acc.usedToolIds
  notes : NoNewDuplicate acc.notes acc'.notes

/-- An id that was not met before is not noted as a duplicate. -/
theorem noteToolCallId_fresh (duplicateKind missingKind ctx duplicateDetail missingDetail : String)
    {sourceId? : Option String} {acc : AssistantContent}
    (hkind : AssumptionKind.other missingKind ≠ duplicateToolId)
    (hfresh : ∀ id ∈ sourceId?, id ∉ acc.usedToolIds) :
    NotesId acc (noteToolCallId duplicateKind missingKind ctx duplicateDetail missingDetail
      sourceId? acc) sourceId? := by
  unfold noteToolCallId
  cases sourceId? with
  | some id =>
    have hcontains : acc.usedToolIds.contains id = false := by simpa using hfresh id rfl
    dsimp only
    rw [hcontains]
    exact ⟨rfl, rfl, rfl, .refl _⟩
  | none =>
    refine ⟨rfl, rfl, rfl, .append fun note hnote => ?_⟩
    rw [List.mem_singleton.mp hnote]
    exact hkind

/-- The canonical name that is filled in is the one that is derived. -/
theorem fillTool_of_derived {name : ToolName}
    (h : name.canonical = none ∨ name.canonical = cursorCanonicalTool (some name.raw)) :
    fillTool name = { raw := name.raw, canonical := cursorCanonicalTool (some name.raw) } := by
  unfold fillTool
  rcases h with h | h
  · rw [h]
    rfl
  · rw [h]
    cases cursorCanonicalTool (some name.raw) with
    | none => rfl
    | some _ => rfl

/-- A native block is read as its block. -/
theorem assistantContentBlock_native {sourceRef : String} {acc : AssistantContent} {j : Json}
    {blockIdx : Nat} {block : AssistantBlock} (h : NativeBlock j block)
    (hfresh : ∀ id ∈ explicitId? block, id ∉ acc.usedToolIds) :
    ∃ acc', assistantContentBlock sourceRef acc j blockIdx = .ok acc' ∧
      ReadsBlock acc acc' block := by
  cases block with
  | text s =>
    obtain ⟨htype, htext⟩ := h
    have hget : j.getObjVal? "type" = .ok (.str "text") := ok_of_toOption_eq_some htype
    refine ⟨{ acc with blocks := acc.blocks ++ [.text s] }, ?_, rfl, rfl, rfl, .refl _⟩
    unfold assistantContentBlock
    simp only [hget]
    exact bind_ok_iff.mpr ⟨s, requireString_ok_iff.mpr htext, rfl⟩
  | toolCall name args rawId =>
    obtain ⟨hblock, hname, hid⟩ := h
    have hget : j.getObjVal? "type" = .ok (.str "tool_use") :=
      ok_of_toOption_eq_some hblock.hasType
    have hname' : ¬ name.raw.isEmpty = true := by simpa using hname
    have hid' : ¬ (rawId == some "") = true := by simpa using hid
    unfold assistantContentBlock
    simp only [hget]
    refine ⟨?acc, bind_ok_iff.mpr ⟨name.raw, requireString_ok_iff.mpr hblock.hasName, ?read⟩,
      ?reads⟩
    case read =>
      rw [if_neg hname']
      refine bind_ok_iff.mpr ⟨args, requireField_ok_iff.mpr hblock.input, ?_⟩
      refine bind_ok_iff.mpr ⟨rawId, hblock.hasId _, ?_⟩
      rw [if_neg hid']
      rfl
    case reads =>
      have hkind : AssumptionKind.other "cursorAgentMissingToolCallId" ≠ duplicateToolId := by
        decide
      have hfresh' : ∀ id ∈ rawId, id ∉ acc.usedToolIds := hfresh
      have hnoted := fun duplicateKind ctx duplicateDetail missingDetail =>
        noteToolCallId_fresh duplicateKind "cursorAgentMissingToolCallId" ctx duplicateDetail
          missingDetail hkind hfresh'
      refine ⟨?_, (hnoted _ _ _ _).disposition, (hnoted _ _ _ _).usedToolIds, ?_⟩
      · dsimp only
        rw [(hnoted _ _ _ _).blocks, fillToolBlock, fillTool_of_derived hblock.canonical]
      · dsimp only
        split
        · -- the note about the interpretation of the name
          refine (hnoted _ _ _ _).notes.trans (.append fun note hnote => ?_)
          rw [List.mem_singleton.mp hnote]
          simp [duplicateToolId]
        · exact (hnoted _ _ _ _).notes
  | thinking s signature => exact h.elim
  | media mimeType data => exact h.elim
  | unmodeled label raw => exact h.elim

/-- What reading native blocks does: their ids are the ones that are now met as well. -/
structure ReadsBlocks (acc acc' : AssistantContent) (read : List AssistantBlock) : Prop where
  blocks : acc'.blocks = acc.blocks ++ read.map fillToolBlock
  disposition : acc'.disposition = acc.disposition
  usedToolIds : ∀ id ∈ acc'.usedToolIds, id ∈ read.filterMap explicitId? ∨ id ∈ acc.usedToolIds
  notes : NoNewDuplicate acc.notes acc'.notes

/-- Native blocks with fresh ids are read one after the other. -/
theorem foldlM_assistantContentBlock (sourceRef : String) {content : List Json}
    {blocks : List AssistantBlock} (h : List.Forall₂ NativeBlock content blocks) :
    ∀ (n : Nat) (acc : AssistantContent), (blocks.filterMap explicitId?).Nodup →
      (∀ id ∈ blocks.filterMap explicitId?, id ∉ acc.usedToolIds) →
        ∃ acc', (content.zipIdx n).foldlM
          (fun acc p => assistantContentBlock sourceRef acc p.1 p.2) acc = .ok acc' ∧
            ReadsBlocks acc acc' blocks := by
  induction h with
  | nil =>
    intro n acc _ _
    exact ⟨acc, rfl, by simp, rfl, fun id hid => Or.inr hid, .refl _⟩
  | @cons j block content blocks hblock _ ih =>
    intro n acc hnodup hfresh
    have hids : (block :: blocks).filterMap explicitId? =
        (explicitId? block).toList ++ blocks.filterMap explicitId? := by
      rw [List.filterMap_cons]
      cases explicitId? block <;> rfl
    rw [hids] at hnodup hfresh
    obtain ⟨_, hnodup, hdisjoint⟩ := List.nodup_append.mp hnodup
    obtain ⟨acc₁, hread, hreads⟩ : ∃ acc₁,
        assistantContentBlock sourceRef acc j n = .ok acc₁ ∧ ReadsBlock acc acc₁ block :=
      assistantContentBlock_native hblock fun id hid =>
        hfresh id (List.mem_append_left _ (Option.mem_toList.mpr hid))
    have hfresh₁ : ∀ id ∈ blocks.filterMap explicitId?, id ∉ acc₁.usedToolIds := by
      intro id hid hused
      rw [hreads.usedToolIds] at hused
      rcases List.mem_append.mp hused with hnow | hbefore
      · exact hdisjoint id hnow id hid rfl
      · exact hfresh id (List.mem_append_right _ hid) hbefore
    obtain ⟨acc', hrest, hreads'⟩ := ih (n + 1) acc₁ hnodup hfresh₁
    refine ⟨acc', ?_, ?_, ?_, ?_, ?_⟩
    · rw [List.zipIdx_cons, List.foldlM_cons]
      exact bind_ok_iff.mpr ⟨acc₁, hread, hrest⟩
    · rw [hreads'.blocks, hreads.blocks, List.map_cons, List.append_assoc, List.singleton_append]
    · rw [hreads'.disposition, hreads.disposition]
    · intro id hid
      rw [hids]
      rcases hreads'.usedToolIds id hid with hlater | hbefore
      · exact Or.inl (List.mem_append_right _ hlater)
      · rw [hreads.usedToolIds] at hbefore
        rcases List.mem_append.mp hbefore with hnow | hold
        · exact Or.inl (List.mem_append_left _ hnow)
        · exact Or.inr hold
    · exact hreads.notes.trans hreads'.notes

/-! ### One record -/

/-- What reading the record of an entry does. -/
structure ReadsEntry (state state' : ImportState) (e : Entry)
    (keys : List CursorAgentToolAuthorityKey) : Prop where
  entries : ∃ e', state'.entries = state.entries ++ [e'] ∧ Reread e e'
  usedToolIds : ∀ id ∈ state'.usedToolIds,
    CursorAgentToolAuthorityKey.explicitId id ∈ keys ∨ id ∈ state.usedToolIds
  notes : NoNewDuplicate state.notes state'.notes

/-- One pass of the loop, from what the record is read as. -/
theorem importStep_of_recordPayload {state state₁ : ImportState} {j : Json} {line : Nat}
    {record : CursorAgentRecord} {payload : Payload} {disposition : EntryDisposition} {e : Entry}
    {keys : List CursorAgentToolAuthorityKey}
    (hclass : classifyCursorAgentRecord line j = .ok record)
    (hread : recordPayload state s!"line{line}" j record = .ok (payload, disposition, state₁))
    (hpayload : payload = e.payload ∨ disposition = .native ∧ payload = fillTools e.payload)
    (hdisposition : disposition = .native → e.disposition = .native)
    (hused : ∀ id ∈ state₁.usedToolIds,
      CursorAgentToolAuthorityKey.explicitId id ∈ keys ∨ id ∈ state.usedToolIds)
    (hnotes : NoNewDuplicate state.notes state₁.notes) :
    ∃ state', importStep state (j, line) = .ok state' ∧ ReadsEntry state state' e keys := by
  have hentries := recordPayload_entries hread
  refine ⟨?state, ?step, ?reads⟩
  case step =>
    refine bind_ok_iff.mpr ⟨record, hclass, ?_⟩
    refine bind_ok_iff.mpr ⟨(payload, disposition, state₁), hread, ?_⟩
    rfl
  case reads =>
    refine ⟨⟨_, by rw [hentries], hpayload, hdisposition⟩, hused, ?_⟩
    have hadded : ∀ note ∈ (if disposition == .historicalUnverified then [{
        kind := .other "unverifiedAgentConvertCarrier", loc := some s!"line{line}"
        detail := "exact in-band agent-convert carrier decoded as historical, unverified data" }]
        else [] : List ImportNote), note.kind ≠ duplicateToolId := by
      intro note hnote
      split at hnote
      · rw [List.mem_singleton.mp hnote]
        simp [duplicateToolId]
      · cases hnote
    refine (hnotes.trans (.append hadded)).trans (.append fun note hnote => ?_)
    rw [List.mem_singleton.mp hnote]
    simp [duplicateToolId]

/-- **An archived entry comes back unverified**, and no id with it. -/
theorem importStep_carrier {state : ImportState} {e : Entry} (he : OrderedEntry e) (line : Nat)
    (keys : List CursorAgentToolAuthorityKey) :
    ∃ state', importStep state (cursorAgentHistoricalEntryCarrier e, line) = .ok state' ∧
      ReadsEntry state state' e keys := by
  have htype : oobj (cursorAgentHistoricalEntryCarrier e) "type" =
      some (.str cursorAgentHistoricalRecordType) :=
    oobj_cursorAgentHistoricalRecordJson _ _ (by decide)
  have hread : recordPayload state s!"line{line}" (cursorAgentHistoricalEntryCarrier e)
      .historical = .ok (e.payload, .historicalUnverified, state) := by
    unfold recordPayload
    rw [cursorAgentHistoricalEntryPayload?_carrier he]
  exact importStep_of_recordPayload (classifyCursorAgentRecord_historical ⟨_, rfl⟩ htype) hread
    (Or.inl rfl) (fun h => by cases h) (fun id hid => Or.inr hid) (.refl _)

/-- The value is a text block of a user message. -/
def NativeUserBlock (j : Json) (b : UserBlock) : Prop :=
  ∃ s, b = .text s ∧ oobj j "type" = some (.str "text") ∧ oobj j "text" = some (.str s)

/-- Native blocks of the user are read one by one. -/
theorem mapM_userContentBlock (ctx : Nat → String) {content : List Json} {blocks : List UserBlock}
    (h : List.Forall₂ NativeUserBlock content blocks) : ∀ n : Nat,
      (content.zipIdx n).mapM (fun p => userContentBlock (ctx p.2) p.1) = .ok blocks := by
  induction h with
  | nil => exact fun n => rfl
  | cons hblock _ ih =>
    intro n
    obtain ⟨s, rfl, htype, htext⟩ := hblock
    rw [List.zipIdx_cons, List.mapM_cons]
    refine bind_ok_iff.mpr ⟨_, userContentBlock_text htype htext, ?_⟩
    exact bind_ok_iff.mpr ⟨_, ih (n + 1), rfl⟩

/-- **A user message that is written in native syntax comes back unchanged.** -/
theorem importStep_userMessage {state : ImportState} {e : Entry} {blocks : List UserBlock}
    {content : List Json} (hpayload : e.payload = .userMsg blocks)
    (hnative : e.disposition = .native) (hraw : RawMessage (cursorAgentRawRecord e) "user")
    (hcontent : List.Forall₂ NativeUserBlock content blocks) (line : Nat)
    (keys : List CursorAgentToolAuthorityKey) :
    ∃ state', importStep state
      (exportCursorAgentMessage (cursorAgentRawRecord e) "user" content, line) = .ok state' ∧
        ReadsEntry state state' e keys := by
  have hclass := exportCursorAgentMessage_record hraw content (Or.inl rfl)
  have hread : ∀ ctx : String, recordPayload state ctx
      (exportCursorAgentMessage (cursorAgentRawRecord e) "user" content)
      (.message "user" content) = .ok (.userMsg blocks, .native, state) := by
    intro ctx
    refine bind_ok_iff.mpr ⟨blocks, ?_, rfl⟩
    exact mapM_userContentBlock (fun i => s!"{ctx}.message.content[{i}]") hcontent 0
  exact importStep_of_recordPayload (classifyCursorAgentRecord_message_iff.mpr hclass) (hread _)
    (Or.inl hpayload.symm) (fun _ => hnative) (fun id hid => Or.inr hid) (.refl _)

/-- **An assistant message that is written in native syntax comes back with its tools
interpreted.**  None of its ids was met before, so none is reported. -/
theorem importStep_assistantMessage {state : ImportState} {e : Entry}
    {blocks : List AssistantBlock} {content : List Json}
    {keys : List CursorAgentToolAuthorityKey} (hpayload : e.payload = .assistantMsg blocks)
    (hnative : e.disposition = .native) (hraw : RawMessage (cursorAgentRawRecord e) "assistant")
    (hcontent : List.Forall₂ NativeBlock content blocks)
    (hnodup : (blocks.filterMap explicitId?).Nodup)
    (hfresh : ∀ id ∈ blocks.filterMap explicitId?, id ∉ state.usedToolIds)
    (hkeys : ∀ id ∈ blocks.filterMap explicitId?,
      CursorAgentToolAuthorityKey.explicitId id ∈ keys) (line : Nat) :
    ∃ state', importStep state
      (exportCursorAgentMessage (cursorAgentRawRecord e) "assistant" content, line) = .ok state' ∧
        ReadsEntry state state' e keys := by
  have hclass := exportCursorAgentMessage_record hraw content (Or.inr rfl)
  obtain ⟨final, hfinal, hreads⟩ := foldlM_assistantContentBlock s!"line{line}" hcontent 0
    { blocks := [], notes := state.notes, usedToolIds := state.usedToolIds
      disposition := .native } hnodup hfresh
  have hread : recordPayload state s!"line{line}"
      (exportCursorAgentMessage (cursorAgentRawRecord e) "assistant" content)
      (.message "assistant" content) = .ok (.assistantMsg final.blocks, final.disposition,
        { state with notes := final.notes, usedToolIds := final.usedToolIds }) :=
    bind_ok_iff.mpr ⟨final, hfinal, rfl⟩
  refine importStep_of_recordPayload (classifyCursorAgentRecord_message_iff.mpr hclass) hread
    (Or.inr ⟨hreads.disposition, ?_⟩) (fun _ => hnative) ?_ hreads.notes
  · rw [hpayload, hreads.blocks]
    rfl
  · intro id hid
    exact (hreads.usedToolIds id hid).imp_left (hkeys id)

/-! ### What is exported -/

/-- The blocks of a message that need no archive are written as native blocks. -/
theorem forall₂_of_zipIdx {α β : Type} {R : β → α → Prop} {as : List α} {bs : List β}
    (h : List.Forall₂ (fun b p => R b p.1) bs as.zipIdx) : List.Forall₂ R bs as := by
  rw [← List.zipIdx_map_fst 0 as]
  exact List.forall₂_map_right_iff.mpr h

/-- An entry that is not archived is native. -/
theorem native_of_needsCarrier {e : Entry} (h : cursorAgentEntryNeedsHistoricalCarrier e = false) :
    e.disposition = .native := by
  unfold cursorAgentEntryNeedsHistoricalCarrier at h
  rw [Bool.or_eq_false_iff] at h
  cases hdisposition : e.disposition with
  | native => rfl
  | historicalUnverified =>
    rw [hdisposition] at h
    cases h.1

/-- Only messages of users and assistants can do without an archive. -/
theorem payload_of_needsCarrier {e : Entry}
    (h : cursorAgentEntryNeedsHistoricalCarrier e = false) :
    (∃ blocks, e.payload = .userMsg blocks) ∨ ∃ blocks, e.payload = .assistantMsg blocks := by
  unfold cursorAgentEntryNeedsHistoricalCarrier at h
  rw [Bool.or_eq_false_iff] at h
  cases hpayload : e.payload with
  | userMsg blocks => exact Or.inl ⟨blocks, rfl⟩
  | assistantMsg blocks => exact Or.inr ⟨blocks, rfl⟩
  | envMsg _ | otherMsg _ _ | compaction _ _ _ | event _ =>
    rw [hpayload] at h
    cases h.2

/-- A message of the user that is not archived is written with native blocks. -/
theorem exportEntry_userMsg {e : Entry} {blocks : List UserBlock}
    (h : cursorAgentEntryNeedsHistoricalCarrier e = false)
    (hpayload : e.payload = .userMsg blocks) :
    RawMessage (cursorAgentRawRecord e) "user" ∧ ∃ content,
      List.Forall₂ NativeUserBlock content blocks ∧
        exportEntry e =
          some (exportCursorAgentMessage (cursorAgentRawRecord e) "user" content) := by
  have hneeds := h
  unfold cursorAgentEntryNeedsHistoricalCarrier at h
  rw [hpayload] at h
  simp only [Bool.or_eq_false_iff, Bool.not_eq_false', List.any_eq_false] at h
  obtain ⟨_, hauthorized, htext⟩ := h
  have hblock : ∀ p ∈ blocks.zipIdx, ∃ j,
      exportUserBlockPreserving (cursorAgentRawBlock (cursorAgentRawRecord e) p.2) p.1 = some j ∧
        NativeUserBlock j p.1 := by
    rintro ⟨block, idx⟩ hmem
    have hblock := htext block (List.fst_mem_of_mem_zipIdx hmem)
    cases block with
    | text s => exact ⟨_, rfl, s, rfl, overlayCursorAgentBlock_text _ s⟩
    | media mimeType data => exact absurd rfl hblock
    | unmodeled label raw => exact absurd rfl hblock
  obtain ⟨content, hcontent, hblocks⟩ := exists_mapM_eq_some hblock
  refine ⟨rawMessage_of_authorizesRole hauthorized, content, forall₂_of_zipIdx hblocks, ?_⟩
  unfold exportEntry
  rw [if_neg (by rw [hneeds]; exact Bool.false_ne_true), hpayload]
  dsimp only
  split
  next content' hcontent' =>
    cases hcontent'.symm.trans hcontent
    rfl
  next hnone => cases hnone.symm.trans hcontent

/-- So is a message of the assistant, and the ids in it are among what its calls are known by. -/
theorem exportEntry_assistantMsg {e : Entry} {blocks : List AssistantBlock} (he : Exportable e)
    (h : cursorAgentEntryNeedsHistoricalCarrier e = false)
    (hpayload : e.payload = .assistantMsg blocks) :
    RawMessage (cursorAgentRawRecord e) "assistant" ∧
      ((blocks.filterMap explicitId?).map CursorAgentToolAuthorityKey.explicitId).Sublist
        (cursorAgentEntryToolAuthorityKeys e) ∧
      ∃ content, List.Forall₂ NativeBlock content blocks ∧
        exportEntry e =
          some (exportCursorAgentMessage (cursorAgentRawRecord e) "assistant" content) := by
  have hneeds := h
  have hnative := native_of_needsCarrier h
  unfold cursorAgentEntryNeedsHistoricalCarrier at h
  rw [hpayload] at h
  simp only [Bool.or_eq_false_iff, Bool.not_eq_false', List.any_eq_false] at h
  obtain ⟨_, ⟨hauthorized, hrepresentable⟩, _⟩ := h
  have hordered : OrderedPayload (.assistantMsg blocks) := hpayload ▸ he.ordered.payload
  -- Every block is a text or a call with a native block.
  have hcall : ∀ p ∈ blocks.zipIdx, ∀ name args rawId, p.1 = .toolCall name args rawId →
      ∃ raw, cursorAgentNativeToolBlockFor? e p.2 name args rawId = some raw ∧
        NativeBlock raw p.1 := by
    rintro ⟨block, idx⟩ hmem name args rawId rfl
    have hmem' := List.fst_mem_of_mem_zipIdx hmem
    have hsome := hrepresentable _ hmem
    simp only [Bool.not_eq_true, Option.isNone_eq_false_iff, Option.isSome_iff_exists] at hsome
    obtain ⟨raw, hraw⟩ := hsome
    obtain ⟨hblock, _, hnamed⟩ := nativeToolBlock_of_blockFor he.ordered (hordered _ hmem') hraw
    refine ⟨raw, hraw, hblock, ?_⟩
    rcases hnamed with hformat | hnamed
    · exact he.named hformat hnative blocks hpayload name args rawId hmem'
    · exact hnamed
  have hblock : ∀ p ∈ blocks.zipIdx, ∃ j, exportAssistantBlockPreserving e
      (cursorAgentRawBlock (cursorAgentRawRecord e) p.2) p.2 p.1 = some j ∧ NativeBlock j p.1 := by
    rintro ⟨block, idx⟩ hmem
    cases block with
    | text s => exact ⟨_, rfl, overlayCursorAgentBlock_text _ s⟩
    | toolCall name args rawId =>
      obtain ⟨raw, hraw, hnativeBlock⟩ := hcall _ hmem name args rawId rfl
      refine ⟨raw, ?_, hnativeBlock⟩
      unfold exportAssistantBlockPreserving
      simp only [hraw]
    | thinking s signature => exact absurd rfl (hrepresentable _ hmem)
    | media mimeType data => exact absurd rfl (hrepresentable _ hmem)
    | unmodeled label raw => exact absurd rfl (hrepresentable _ hmem)
  obtain ⟨content, hcontent, hblocks⟩ := exists_mapM_eq_some hblock
  refine ⟨rawMessage_of_authorizesRole hauthorized, ?_, content, forall₂_of_zipIdx hblocks, ?_⟩
  · unfold cursorAgentEntryToolAuthorityKeys
    rw [hpayload]
    refine explicitIds_sublist blocks 0 fun p hp name args rawId hp' => ?_
    obtain ⟨raw, hraw, hnativeBlock⟩ := hcall p hp name args rawId hp'
    rw [hp'] at hnativeBlock
    exact ⟨Option.isSome_iff_exists.mpr ⟨raw, hraw⟩, hnativeBlock.2.2⟩
  · unfold exportEntry
    rw [if_neg (by rw [hneeds]; exact Bool.false_ne_true), hpayload]
    dsimp only
    split
    next content' hcontent' =>
      cases hcontent'.symm.trans hcontent
      rfl
    next hnone => cases hnone.symm.trans hcontent

/-- **What the export loop writes for an entry is read as the entry**, when the ids the importer
has met are authorities the exporter has used up. -/
theorem importStep_exportRecord {e : Entry} (he : Exportable e)
    {used : List CursorAgentToolAuthorityKey} {state : ImportState}
    (hused : ∀ id ∈ state.usedToolIds, CursorAgentToolAuthorityKey.explicitId id ∈ used)
    (line : Nat) :
    ∃ record, exportRecord used e = some record ∧
      ∃ state', importStep state (record, line) = .ok state' ∧
        ReadsEntry state state' e (cursorAgentEntryToolAuthorityKeys e) := by
  unfold exportRecord
  by_cases harchive : cursorAgentEntryNeedsHistoricalCarrier e = true ∨
      cursorAgentEntryReusesToolAuthority used e = true
  · rw [if_pos (by simpa using harchive)]
    exact ⟨_, rfl, importStep_carrier he.ordered line _⟩
  · obtain ⟨hneeds, hreuses⟩ := not_or.mp harchive
    rw [Bool.not_eq_true] at hneeds hreuses
    have hnative := native_of_needsCarrier hneeds
    rw [if_neg (by rw [hneeds, hreuses]; exact Bool.false_ne_true)]
    have hfreshKeys : (cursorAgentEntryToolAuthorityKeys e).Nodup ∧
        ∀ key ∈ cursorAgentEntryToolAuthorityKeys e, key ∉ used := by
      unfold cursorAgentEntryReusesToolAuthority at hreuses
      exact cursorAgentToolAuthorityKeysFresh_iff.mp (by simpa using hreuses)
    rcases payload_of_needsCarrier hneeds with ⟨blocks, hpayload⟩ | ⟨blocks, hpayload⟩
    · obtain ⟨hraw, content, hcontent, hexport⟩ := exportEntry_userMsg hneeds hpayload
      exact ⟨_, hexport, importStep_userMessage hpayload hnative hraw hcontent line _⟩
    · obtain ⟨hraw, hkeys, content, hcontent, hexport⟩ :=
        exportEntry_assistantMsg he hneeds hpayload
      have hmem : ∀ id ∈ blocks.filterMap explicitId?,
          CursorAgentToolAuthorityKey.explicitId id ∈ cursorAgentEntryToolAuthorityKeys e :=
        fun id hid => hkeys.subset (List.mem_map_of_mem hid)
      have hnodup : (blocks.filterMap explicitId?).Nodup :=
        List.Nodup.of_map _ (hfreshKeys.1.sublist hkeys)
      have hfresh : ∀ id ∈ blocks.filterMap explicitId?, id ∉ state.usedToolIds :=
        fun id hid hmet => hfreshKeys.2 _ (hmem id hid) (hused id hmet)
      exact ⟨_, hexport, importStep_assistantMessage hpayload hnative hraw hcontent hnodup hfresh
        hmem line⟩

/-! ### The whole run -/

/-- The two loops in step: the induction is on the entries, and what carries it is that every id
the importer has met is an authority the exporter has used up. -/
theorem foldlM_exportFrom {entries : List Entry} (he : ∀ e ∈ entries, Exportable e) :
    ∀ (used : List CursorAgentToolAuthorityKey) (state : ImportState) (records : List (Json × Nat)),
      records.map Prod.fst = exportFrom used entries →
      (∀ id ∈ state.usedToolIds, CursorAgentToolAuthorityKey.explicitId id ∈ used) →
        ∃ state', records.foldlM importStep state = .ok state' ∧
          (∃ added, state'.entries = state.entries ++ added ∧ List.Forall₂ Reread entries added) ∧
            NoNewDuplicate state.notes state'.notes := by
  induction entries with
  | nil =>
    intro used state records hrecords _
    rw [List.map_eq_nil_iff.mp hrecords]
    exact ⟨state, rfl, ⟨[], (List.append_nil _).symm, .nil⟩, .refl _⟩
  | cons e entries ih =>
    intro used state records hrecords hused
    obtain ⟨hfirst, hrest⟩ := List.forall_mem_cons.mp he
    unfold exportFrom at hrecords
    obtain ⟨record, hrecord, _⟩ := importStep_exportRecord hfirst hused 0
    rw [hrecord, Option.toList_some, List.singleton_append] at hrecords
    obtain ⟨⟨j, line⟩, later, rfl, rfl, hlater⟩ := List.map_eq_cons_iff.mp hrecords
    obtain ⟨record, hrecord', state₁, hstep, hreads⟩ := importStep_exportRecord hfirst hused line
    cases hrecord'.symm.trans hrecord
    obtain ⟨e', hentries, hreread⟩ := hreads.entries
    obtain ⟨state', hloop, ⟨added, hadded, hrereads⟩, hnotes⟩ :=
      ih hrest (cursorAgentEntryToolAuthorityKeys e ++ used) state₁ later hlater fun id hid =>
        List.mem_append.mpr ((hreads.usedToolIds id hid).imp_right (hused id))
    refine ⟨state', ?_, ⟨e' :: added, ?_, .cons hreread hrereads⟩, hreads.notes.trans hnotes⟩
    · rw [List.foldlM_cons]
      exact bind_ok_iff.mpr ⟨state₁, hstep, hloop⟩
    · rw [hadded, hentries, List.append_assoc, List.singleton_append]

/-- **The importer reads what the exporter writes.**  The records may stand on any lines.  Every
entry comes back with its payload, in the same order, and native only if it was native; and no
tool id is reported as read before. -/
theorem exportCursorAgentEntries_reread {entries : List Entry}
    (he : ∀ e ∈ entries, Exportable e) {records : List (Json × Nat)}
    (hrecords : records.map Prod.fst = exportCursorAgentEntries entries) :
    ∃ state, records.foldlM importStep
        { entries := [], notes := [], entryCounter := 0, usedToolIds := [] } = .ok state ∧
      List.Forall₂ Reread entries state.entries ∧
      ∀ note ∈ state.notes, note.kind ≠ duplicateToolId := by
  obtain ⟨state, hloop, ⟨added, hadded, hreread⟩, hnotes⟩ := foldlM_exportFrom he []
    { entries := [], notes := [], entryCounter := 0, usedToolIds := [] } records hrecords
    (by simp)
  refine ⟨state, hloop, ?_, fun note hnote => ?_⟩
  · rw [hadded]
    exact hreread
  · rcases hnotes note hnote with hold | hnew
    · cases hold
    · exact hnew

end AgentConvert.CursorAgent
