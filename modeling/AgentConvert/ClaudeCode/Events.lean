import AgentConvert.ClaudeCode.Schema

/-!
# Event batches

Events that stand outside Claude's conversation graph are stored once, in a batch inside the
session's header, and are put back among the records when the session is read.  A batch names
records by UUID and by position, and it says which parent links and which resume pointers were
moved to a physical record when the events were taken out.

Where events are put back depends on the records before a position only, so expanding a first
part of the records gives a sublist of the expansion (`cExpandWith_sublist`).
-/

namespace AgentConvert.ClaudeCode

/-! ### Members of a batch -/

/-- The events of a batch, in the order in which they are put back. -/
def cBatchEvents (batch : Json) : List Json := (oarr batch "events").getD []

/-- The events that become records of the session. -/
def cBatchEntries (batch : Json) : List Json :=
  (cBatchEvents batch).filter fun event => ostr event "kind" == some "entry"

/-- The records that are put back. -/
def cBatchRawEntries (batch : Json) : List Json :=
  (cBatchEntries batch).filterMap fun event => oobj event "record"

/-- The identities of the records that are put back. -/
def cBatchIds (batch : Json) : List String :=
  (cBatchRawEntries batch).filterMap fun record => ostr record "uuid"

/-- The parents that physical records had among the events. -/
def cBatchLinks (batch : Json) : List Json := (oarr batch "parentLinks").getD []

/-- The event that was the leaf of the session, if an event was. -/
def cBatchLeaf? (batch : Json) : Option Json := cNonNull (oobj batch "leaf")

/-! ### The shape of a batch -/

/-- The record of an event has the form of its kind: an entry is an inert event, an annotation
names the record it belongs to. -/
def cEventRecordValid? (event record : Json) : Option Unit := do
  match ← ostr event "kind" with
  | "entry" =>
    match ← cParseInertPayloadCarrier? record with
    | .event _ => pure ()
    | _ => none
  | "annotation" =>
    guard ((ostr event "originKey").any fun key =>
      key == "codex_item_completed" || key == "codex_command_completions")
    let _ ← ostr event "entryUuid"
    match oobj event "sourceIndex" with
    | some .null => some ()
    | some value => value.getNat?.toOption.map fun _ => ()
    | none => none
    match record with
    | .obj _ => pure ()
    | _ => none
  | _ => none

/-- An event has a position, and a record of its kind. -/
def cValidateEvent? (event : Json) : Option Unit := do
  let _ ← onat event "beforeEntry"
  let record ← oobj event "record"
  cEventRecordValid? event record

/-- A parent link names a child and its parent. -/
def cValidateLink? (link : Json) : Option Unit := do
  let _ ← ostr link "uuid"
  let _ ← ostr link "parentUuid"
  pure ()

/-- A leaf names the event, the record behind it and the session, or is null. -/
def cValidateLeaf? (leaf? : Option Json) : Option Unit :=
  match leaf? with
  | some .null => pure ()
  | some leaf => do
    let _ ← ostr leaf "eventUuid"
    let _ ← cParseNullableStringField? leaf "physicalUuid"
    let _ ← ostr leaf "sessionId"
    pure ()
  | none => none

/-- The batch has all its parts, and each is of its form. -/
def cValidateEventBatch? (batch : Json) : Option Unit := do
  guard (ostr batch "carrier" == some "agent-convert.claude-events.v1")
  let events ← oarr batch "events"
  events.forM cValidateEvent?
  let links ← oarr batch "parentLinks"
  links.forM cValidateLink?
  cValidateLeaf? (oobj batch "leaf")
  let controls ← oarr batch "controls"
  controls.forM fun control => (cParseArchivedControlJson? control).map fun _ => ()
  let records ← oarr batch "records"
  records.forM fun record => (cParseArchivedRecordJson? record).map fun _ => ()

/-! ### A batch against the records -/

/-- Records with an identity.  Positions in a batch count these. -/
def cHasUuid (record : Json) : Bool := (ostr record "uuid").isSome

/-- The records with an identity. -/
def cPhysicalRecords (records : List Json) : List Json := records.filter cHasUuid

/-- The nearest identity above an event that is not an event of the batch itself. -/
def cEventAncestor : Nat → List Json → Option String → Option String
  | 0, _, uuid => uuid
  | _ + 1, _, none => none
  | n + 1, events, some id =>
    match events.find? fun record => ostr record "uuid" == some id with
    | none => some id
    | some record => cEventAncestor n events (ostr record "parentUuid")

/-- The nearest identity above an event that is a physical one. -/
def cBatchAncestor (batch : Json) (uuid : Option String) : Option String :=
  cEventAncestor ((cBatchIds batch).length + 1) (cBatchRawEntries batch) uuid

/-- Stop with the message if something is wrong. -/
def refuseIf (bad : Bool) (message : String) : Except String Unit :=
  if bad then .error message else pure ()

/-- A refusal that does not happen. -/
theorem refuseIf_ok_iff {bad : Bool} {message : String} {u : Unit} :
    refuseIf bad message = .ok u ↔ bad = false := by
  cases bad with
  | false => simp [refuseIf, pure, Except.pure]
  | true => simp [refuseIf]

/-- Only a record with the environment of the source has a batch. -/
def cCheckBatchOwner (record : Json) : Except String Unit :=
  refuseIf ((cEventBatch? record).isSome && !cIsSourceEnvCarrier record)
    "malformed Claude event batch: batch must belong to the source-environment header"

/-- An annotation belongs to the physical record at its position. -/
def cCheckAnnotationEvent (physical : List Json) (event : Json) : Except String Unit :=
  refuseIf (ostr event "kind" == some "annotation" &&
      !(physical.zipIdx.any fun (record, i) =>
        ostr record "uuid" == ostr event "entryUuid" && onat event "beforeEntry" == some i))
    "malformed Claude event batch: annotation has no matching physical entry position"

/-- The child of a link is a physical record, and its parent is what remains of the link without
the events. -/
def cCheckParentLink (physical : List Json) (batch link : Json) : Except String Unit :=
  match physical.find? fun record => ostr record "uuid" == ostr link "uuid" with
  | none => .error "malformed Claude event batch: parent link has no physical child"
  | some child =>
    refuseIf (!((ostr link "parentUuid").any (cBatchIds batch).contains) ||
        ostr child "parentUuid" != cBatchAncestor batch (ostr link "parentUuid"))
      "malformed Claude event batch: parent link disagrees with physical ancestry"

/-- The leaf of a batch is one of its events, and what it names is what remains of it. -/
def cCheckBatchLeaf (physical : List Json) (batch : Json) : Except String Unit :=
  match cBatchLeaf? batch with
  | none => pure ()
  | some leaf => do
    refuseIf (!((ostr leaf "eventUuid").any (cBatchIds batch).contains))
      "malformed Claude event batch: selected event is missing"
    refuseIf (ostr leaf "physicalUuid" != cBatchAncestor batch (ostr leaf "eventUuid"))
      "malformed Claude event batch: selected event disagrees with physical ancestry"
    refuseIf (oobj leaf "physicalUuid" == some .null && !physical.isEmpty)
      "malformed Claude event batch: empty physical graph has records"

/-- The batch fits the physical records. -/
def cCheckEventBatch (physical : List Json) (batch : Json) : Except String Unit := do
  refuseIf (cValidateEventBatch? batch).isNone "malformed Claude event batch"
  refuseIf ((cBatchEntries batch).any fun event =>
      decide (physical.length < (onat event "beforeEntry").getD 0))
    "malformed Claude event batch: beforeEntry is out of range"
  refuseIf ((cBatchIds batch).length != (cBatchRawEntries batch).length ||
      (cBatchIds batch).eraseDups.length != (cBatchIds batch).length ||
      physical.any fun record => (ostr record "uuid").any (cBatchIds batch).contains)
    "malformed Claude event batch: duplicate or missing event identity"
  (cBatchEvents batch).forM (cCheckAnnotationEvent physical)
  let linkIds := (cBatchLinks batch).filterMap fun link => ostr link "uuid"
  refuseIf (linkIds.eraseDups.length != linkIds.length)
    "malformed Claude event batch: duplicate parent link"
  (cBatchLinks batch).forM (cCheckParentLink physical batch)
  cCheckBatchLeaf physical batch

/-- There is at most one batch, at its place, and it fits the records. -/
def cCheckEventBatches (records : List Json) : Except String Unit := do
  records.forM cCheckBatchOwner
  let batches := records.filterMap cEventBatch?
  refuseIf (decide (1 < batches.length))
    "malformed Claude event batch: multiple batches are ambiguous"
  match batches with
  | [] => pure ()
  | batch :: _ => cCheckEventBatch (cPhysicalRecords records) batch

/-! ### Putting the events back -/

/-- The members of the second object, and those of the first one that it does not have. -/
def cOverlayJsonObject (base overlay : Json) : Json :=
  match base, overlay with
  | .obj baseFields, .obj overlayFields =>
    .obj (overlayFields.foldl (fun fields (key, value) => Json.insertMember key value fields)
      baseFields)
  | _, .obj _ => overlay
  | .obj _, _ => base
  | _, _ => overlay

/-- The record with one member replaced. -/
def cOverlayMember (record : Json) (key : String) (value : Option Json) : Json :=
  cOverlayJsonObject record (Json.mkObj [(key, value.getD .null)])

/-- The events that stood before the record at a position. -/
def cEventsAt (batch : Json) (position : Nat) : List Json :=
  (cBatchEntries batch).filterMap fun event =>
    if onat event "beforeEntry" == some position then oobj event "record" else none

/-- A child of an event points to the event again. -/
def cRelinkParent (batch record : Json) : Json :=
  match (cBatchLinks batch).find? fun link => ostr link "uuid" == ostr record "uuid" with
  | some link => cOverlayMember record "parentUuid" (oobj link "parentUuid")
  | none => record

/-- The position of the event that was the leaf. -/
def cLeafPosition? (batch leaf : Json) : Option Nat :=
  (cBatchEntries batch).findSome? fun event => do
    let raw ← oobj event "record"
    guard (ostr raw "uuid" == ostr leaf "eventUuid")
    onat event "beforeEntry"

/-- A turn that was added behind a trailing event continues from that event. -/
def cReattachTurn (batch : Json) (position : Nat) (record : Json) : Json :=
  match cBatchLeaf? batch with
  | some leaf =>
    if cHasUuid record &&
        (cLeafPosition? batch leaf).any (fun index => decide (index < position)) &&
        ostr record "parentUuid" == ostr leaf "physicalUuid" then
      cOverlayMember record "parentUuid" (oobj leaf "eventUuid")
    else record
  | none => record

/-- A resume pointer that named the physical record names the event again. -/
def cRepointPrompt (batch record : Json) : Json :=
  match oobj batch "leaf" with
  | some leaf =>
    if ostr record "type" == some "last-prompt" &&
        ostr record "leafUuid" == ostr leaf "physicalUuid" &&
        ostr record "sessionId" == ostr leaf "sessionId" then
      cOverlayMember record "leafUuid" (oobj leaf "eventUuid")
    else record
  | none => record

/-- A record with its links restored.  `position` counts the records with an identity up to and
including this one. -/
def cRestoreRecord (batch : Json) (position : Nat) (record : Json) : Json :=
  cRepointPrompt batch (cReattachTurn batch position (cRelinkParent batch record))

/-- The records with the events put back, from a position on. -/
def cExpandFrom (batch : Json) : Nat → List Json → List Json
  | position, [] => cEventsAt batch position
  | position, record :: rest =>
    if cHasUuid record then
      cEventsAt batch position ++
        cRestoreRecord batch (position + 1) record :: cExpandFrom batch (position + 1) rest
    else
      cRestoreRecord batch position record :: cExpandFrom batch position rest

/-- The resume pointer of a batch whose events are the whole session. -/
def cBatchPrompt (batch : Json) : List Json :=
  match cBatchLeaf? batch with
  | some leaf =>
    if oobj leaf "physicalUuid" == some .null then
      [Json.mkObj [
        ("type", .str "last-prompt"),
        ("sessionId", (oobj leaf "sessionId").getD .null),
        ("leafUuid", (oobj leaf "eventUuid").getD .null)]]
    else []
  | none => []

/-- The records with the events of a batch put back. -/
def cExpandWith (batch : Json) (records : List Json) : List Json :=
  cExpandFrom batch 0 records ++ cBatchPrompt batch

/-- The records with the events of their batch put back, if they have one. -/
def cExpandedRecords (records : List Json) : List Json :=
  match records.filterMap cEventBatch? with
  | [] => records
  | batch :: _ => cExpandWith batch records

/-- The records with the events put back, once the batch is checked. -/
def cExpandEventBatch (records : List Json) : Except String (List Json) := do
  cCheckEventBatches records
  pure (cExpandedRecords records)

/-! ### Expanding a first part -/

/-- The events at the end of a first part stand somewhere in the rest of the expansion. -/
theorem cEventsAt_sublist (batch : Json) (position : Nat) (records : List Json) :
    (cEventsAt batch position).Sublist (cExpandFrom batch position records) := by
  induction records with
  | nil => exact List.Sublist.refl _
  | cons record rest ih =>
    unfold cExpandFrom
    split
    · exact List.sublist_append_left _ _
    · exact ih.cons _

/-- The records of a first part, with the events put back, stand among the records of the session.
-/
theorem cExpandFrom_sublist (batch : Json) (position : Nat) {short full : List Json}
    (hcut : short <+: full) :
    (cExpandFrom batch position short).Sublist (cExpandFrom batch position full) := by
  obtain ⟨rest, rfl⟩ := hcut
  induction short generalizing position with
  | nil => exact cEventsAt_sublist batch position rest
  | cons record short ih =>
    simp only [List.cons_append, cExpandFrom]
    split
    · exact ((ih (position + 1)).cons_cons _).append_left _
    · exact (ih position).cons_cons _

/-- **Expanding a first part gives a sublist of the expansion.** -/
theorem cExpandWith_sublist (batch : Json) {short full : List Json} (hcut : short <+: full) :
    (cExpandWith batch short).Sublist (cExpandWith batch full) :=
  (cExpandFrom_sublist batch 0 hcut).append (List.Sublist.refl _)

/-! ### Restored records -/

/-- The members that restoring a record can change. -/
def cLinkMembers : List String := ["parentUuid", "leafUuid"]

/-- Setting a link changes no other member. -/
theorem cOverlayMember_agreesOff {record : Json} (hobj : ∃ kvs, record = .obj kvs) {key : String}
    (hkey : key ∈ cLinkMembers) (value : Option Json) :
    AgreesOff cLinkMembers record (cOverlayMember record key value) ∧
      ∃ kvs, cOverlayMember record key value = .obj kvs := by
  obtain ⟨kvs, rfl⟩ := hobj
  exact ⟨agreesOff_insertMember hkey kvs _, _, rfl⟩

/-- Restoring a parent changes no other member. -/
theorem cRelinkParent_agreesOff (batch : Json) {record : Json} (hobj : ∃ kvs, record = .obj kvs) :
    AgreesOff cLinkMembers record (cRelinkParent batch record) ∧
      ∃ kvs, cRelinkParent batch record = .obj kvs := by
  unfold cRelinkParent
  split
  · exact cOverlayMember_agreesOff hobj (by decide) _
  · exact ⟨AgreesOff.refl _ _, hobj⟩

/-- Reattaching a turn changes no other member than its parent. -/
theorem cReattachTurn_agreesOff (batch : Json) (position : Nat) {record : Json}
    (hobj : ∃ kvs, record = .obj kvs) :
    AgreesOff cLinkMembers record (cReattachTurn batch position record) ∧
      ∃ kvs, cReattachTurn batch position record = .obj kvs := by
  unfold cReattachTurn
  split
  · split
    · exact cOverlayMember_agreesOff hobj (by decide) _
    · exact ⟨AgreesOff.refl _ _, hobj⟩
  · exact ⟨AgreesOff.refl _ _, hobj⟩

/-- Repointing a resume pointer changes no other member. -/
theorem cRepointPrompt_agreesOff (batch : Json) {record : Json}
    (hobj : ∃ kvs, record = .obj kvs) :
    AgreesOff cLinkMembers record (cRepointPrompt batch record) ∧
      ∃ kvs, cRepointPrompt batch record = .obj kvs := by
  unfold cRepointPrompt
  split
  · split
    · exact cOverlayMember_agreesOff hobj (by decide) _
    · exact ⟨AgreesOff.refl _ _, hobj⟩
  · exact ⟨AgreesOff.refl _ _, hobj⟩

/-- Restoring a record changes its links only. -/
theorem cRestoreRecord_agreesOff (batch : Json) (position : Nat) {record : Json}
    (hobj : ∃ kvs, record = .obj kvs) :
    AgreesOff cLinkMembers record (cRestoreRecord batch position record) := by
  obtain ⟨hrelink, hobj₁⟩ := cRelinkParent_agreesOff batch hobj
  obtain ⟨hreattach, hobj₂⟩ := cReattachTurn_agreesOff batch position hobj₁
  exact (hrelink.trans hreattach).trans (cRepointPrompt_agreesOff batch hobj₂).1

/-- Every record is in the expansion, with its links restored. -/
theorem exists_restored_mem_cExpandFrom (batch : Json) {records : List Json} {record : Json}
    (hmem : record ∈ records) (position : Nat) :
    ∃ n, cRestoreRecord batch n record ∈ cExpandFrom batch position records := by
  induction records generalizing position with
  | nil => cases hmem
  | cons head rest ih =>
    unfold cExpandFrom
    rcases List.mem_cons.mp hmem with rfl | hmem
    · split
      · exact ⟨position + 1, by simp⟩
      · exact ⟨position, by simp⟩
    · split
      · obtain ⟨n, hn⟩ := ih hmem (position + 1)
        exact ⟨n, List.mem_append_right _ (List.mem_cons_of_mem _ hn)⟩
      · obtain ⟨n, hn⟩ := ih hmem position
        exact ⟨n, List.mem_cons_of_mem _ hn⟩

/-- Every record has a record in the expansion that differs from it in its links at most. -/
theorem exists_agreesOff_mem_cExpandedRecords {records : List Json}
    (hobj : ∀ record ∈ records, ∃ kvs, record = .obj kvs) {record : Json}
    (hmem : record ∈ records) :
    ∃ restored ∈ cExpandedRecords records, AgreesOff cLinkMembers record restored := by
  unfold cExpandedRecords
  split
  · exact ⟨record, hmem, AgreesOff.refl _ _⟩
  next batch _ _ =>
    obtain ⟨n, hn⟩ := exists_restored_mem_cExpandFrom batch hmem 0
    exact ⟨_, List.mem_append_left _ hn, cRestoreRecord_agreesOff batch n (hobj record hmem)⟩

end AgentConvert.ClaudeCode
