import AgentConvert.ClaudeCode.Events
import AgentConvert.Lib.AncestorWalk

/-!
# The conversation graph of a Claude session

Records are linked by UUID.  The importer resolves the last resume pointer, or guesses a leaf when
there is none, and follows the parent links from the leaf to a root.  Only this path is checked:
records beside it may have ambiguous UUIDs or dangling links.

The walk to the root is an `AncestorWalk` over the indexed records.  `RootedPath` says over the data
of the records, without the checks of the importer, when the path from a record ends at a root.

## Main statements

* `cPathParent_ok_iff` — which record comes next on the path
* `cValidateSelectedPath_accepts_iff` — the walk is accepted exactly when the path ends at a root:
  its fuel always suffices, since a path does not meet a record twice
-/

namespace AgentConvert.ClaudeCode

/-! ### Compaction summaries -/

/-- A boundary on the line before a summary belongs to the summary even when no link says so. -/
def cAdjacentCompactionBoundary? (records : List (Json × Nat)) (summaryIndex : Nat) :
    Option (Json × Nat) :=
  records.find? fun (candidate, index) =>
    index + 1 == summaryIndex && cCompactionBoundary candidate &&
      ostr candidate "sessionId" ==
        ((records.find? fun (_, i) => i == summaryIndex) >>= fun (summary, _) =>
          ostr summary "sessionId")

/-- The record is the summary of a compaction. -/
def cIsCompactSummary (record : Json) : Bool := (obool record "isCompactSummary").getD false

/-- The records of that identity, of any type. -/
def cRecordsWithUuid (records : List (Json × Nat)) (uuid : String) : List (Json × Nat) :=
  records.filter fun (candidate, _) => ostr candidate "uuid" == some uuid

/-- Those of the candidates that belong to the session of the record. -/
def cSameSession (candidates : List (Json × Nat)) (record : Json) : List (Json × Nat) :=
  candidates.filter fun (candidate, _) => ostr candidate "sessionId" == ostr record "sessionId"

/-- The parent of a compaction summary is one record of the same session. -/
def cValidateCompactionLink (records : List (Json × Nat)) (item : Json × Nat) :
    Except String Unit :=
  let (record, index) := item
  let line := index + 1
  if cIsCompactSummary record then
    match oobj record "parentUuid" with
    | some (.str parent) =>
      let candidates := cRecordsWithUuid records parent
      match cSameSession candidates record with
      | [_] => pure ()
      | [] =>
        if candidates.isEmpty then
          cSchemaError line "parentUuid" s!"references missing record UUID '{parent}'"
        else
          cSchemaError line "parentUuid" s!"references record '{parent}' in a different session"
      | _ => cSchemaError line "parentUuid" s!"references ambiguous UUID '{parent}'"
    | _ =>
      cSchemaError line "parentUuid"
        "must reference an existing record when isCompactSummary is true"
  else pure ()

/-- The parent of every compaction summary is one record of its session. -/
def cValidateCompactionLinks (records : List (Json × Nat)) : Except String Unit :=
  records.forM (cValidateCompactionLink records)

/-- Every record passes the checks of its type, at most one has the environment of the source, and
the compaction summaries are linked. -/
def cValidateClaudeRecords (records : List Json) : Except String Unit := do
  records.zipIdx.forM fun (record, index) => cValidateRecord record index
  refuseIf (decide (1 < cTranscriptSourceEnvCount records))
    ("malformed Claude session: more than one source-environment carrier is ambiguous and " ++
      "refused")
  cValidateCompactionLinks records.zipIdx

/-! ### Candidates for a UUID -/

/-- Among addressable records the semantic ones count, if there are any. -/
def cPreferSemantic (addressable : List (Json × Nat)) : List (Json × Nat) :=
  let semantic := addressable.filter fun (record, _) => cSemanticGraphRecord record
  if semantic.isEmpty then addressable else semantic

/-- The records of a session that a UUID names. -/
def cGraphCandidates (records : List (Json × Nat)) (uuid sessionId : String) :
    List (Json × Nat) :=
  cPreferSemantic (records.filter fun (record, _) =>
    cGraphRecord record && ostr record "uuid" == some uuid &&
      ostr record "sessionId" == some sessionId)

/-- The records of any session that a UUID names. -/
def cAllGraphCandidates (records : List (Json × Nat)) (uuid : String) : List (Json × Nat) :=
  cPreferSemantic (records.filter fun (record, _) =>
    cGraphRecord record && ostr record "uuid" == some uuid)

/-- The record was copied from another session, and its parent stayed there. -/
def cHasExternalLineage (record : Json) : Bool :=
  match oobj record "forkedFrom" with
  | some (.obj kvs) =>
    ostr (.obj kvs) "messageUuid" == ostr record "uuid" &&
      ostr (.obj kvs) "sessionId" != ostr record "sessionId"
  | _ => false

/-! ### The path to the root -/

/-- The identity and the session of a record on the path. -/
def cPathIdentity (current : Json × Nat) : Except String (String × String) := do
  let uuid ← atLine (current.2 + 1) (cRequireNonemptyString "" "uuid" current.1)
  let sessionId ← atLine (current.2 + 1) (cRequireNonemptyString "" "sessionId" current.1)
  pure (uuid, sessionId)

/-- The parent a UUID names, when no boundary stands in between. -/
def cNamedParent (records : List (Json × Nat)) (current : Json × Nat)
    (uuid sessionId parentUuid : String) :
    Except String (Option (Json × Nat) × List ImportNote) :=
  let line := current.2 + 1
  match cGraphCandidates records parentUuid sessionId with
  | [parent] => pure (some parent, [])
  | [] =>
    if cHasExternalLineage current.1 then
      pure (none, [{
        kind := .other "externalLineage"
        loc := some uuid
        detail := s!"parentUuid '{parentUuid}' is external to this file/session; " ++
          "forkedFrom retained verbatim and no local edge was invented" }])
    else
      match cAllGraphCandidates records parentUuid with
      | foreign :: _ =>
        let foreignSession := (ostr foreign.1 "sessionId").getD "<missing>"
        cSchemaError line "parentUuid" (s!"references UUID '{parentUuid}' in session " ++
          s!"'{foreignSession}', expected '{sessionId}'")
      | [] =>
        -- A parent that is nowhere in the file makes the record a root.
        pure (none, [{
          kind := .other "danglingParent"
          loc := some uuid
          detail := s!"parentUuid '{parentUuid}' is not present in this file; " ++
            "treated as a thread root and no local edge was invented" }])
  | _ =>
    cSchemaError line "parentUuid"
      s!"references ambiguous UUID '{parentUuid}' in session '{sessionId}'"

/-- The next record of the path, and the notes about how it was found. -/
def cPathParent (records : List (Json × Nat)) (current : Json × Nat)
    (identity : String × String) : Except String (Option (Json × Nat) × List ImportNote) :=
  let (uuid, sessionId) := identity
  let line := current.2 + 1
  let selfCandidates := cGraphCandidates records uuid sessionId
  if selfCandidates.length != 1 then
    cSchemaError line "uuid" (s!"is ambiguous in the selected graph: found " ++
      s!"{selfCandidates.length} occurrences of '{uuid}'")
  else
    let adjacentBoundary? :=
      if cIsCompactSummary current.1 then cAdjacentCompactionBoundary? records current.2
      else none
    match oobj current.1 "parentUuid", adjacentBoundary? with
    | some .null, some boundary =>
      pure (some boundary, [{
        kind := .other "adjacentCompactionBoundary"
        loc := some uuid
        detail := "isCompactSummary paired with the immediately preceding compact_boundary " ++
          "(Claude 2.1.220+ soft cut); parentUuid was null" }])
    | some .null, none => pure (none, [])
    | some (.str parentUuid), adjacent =>
      let parentIsBoundary := (cGraphCandidates records parentUuid sessionId).any
        fun (candidate, _) => cCompactionBoundary candidate
      match adjacent, parentIsBoundary with
      | some boundary, false =>
        pure (some boundary, [{
          kind := .other "adjacentCompactionBoundary"
          loc := some uuid
          detail := "isCompactSummary paired with the immediately preceding " ++
            s!"compact_boundary (Claude 2.1.220+ soft cut); parentUuid '{parentUuid}' names " ++
            "the prior conversational node" }])
      | _, _ => cNamedParent records current uuid sessionId parentUuid
    | _, _ => cSchemaError line "parentUuid" "must be a string or null"

/-- The walk from a record to the root of its thread. -/
def cSelectedPathWalk (records : List (Json × Nat)) :
    AncestorWalk String (Json × Nat) (String × String) String ImportNote where
  identify := cPathIdentity
  mark := Prod.fst
  parent := cPathParent records
  tooDeep current :=
    s!"malformed Claude record at line {current.2 + 1}: parentUuid " ++
      "exceeded graph depth while validating ancestry"
  cycle current uuid :=
    s!"malformed Claude record at line {current.2 + 1}: parentUuid " ++
      s!"closes a cycle at UUID '{uuid}'"

/-- The records from the leaf to the root, with notes about how they were found. -/
def cValidateSelectedPath (records : List (Json × Nat)) (fuel : Nat) (current : Json × Nat)
    (seen : List String) : Except String (List (Json × Nat) × List ImportNote) :=
  (cSelectedPathWalk records).run fuel current seen

/-! ### The leaf -/

/-- The time of a record as a text.  Texts of one form are ordered like the times. -/
def clTs (j : Json) : String := (ostr j "timestamp").getD ""

/-- The newer of two records.  Of two records with one time the first one counts. -/
def cNewestIndexedLine (best : Option (Json × Nat)) (cand : Json × Nat) :
    Option (Json × Nat) :=
  match best with
  | none => some cand
  | some prior => if clTs prior.1 < clTs cand.1 then some cand else some prior

/-- The last resume pointer. -/
def cLastPrompt? (records : List (Json × Nat)) : Option (Json × Nat) :=
  (records.filter fun (record, _) => ostr record "type" == some "last-prompt").getLast?

/-- The last resume pointer and the record it names. -/
def cValidateLastPromptTarget (records : List (Json × Nat)) :
    Except String (Option ((Json × Nat) × (Json × Nat))) :=
  match cLastPrompt? records with
  | none => pure none
  | some (record, index) => do
    let line := index + 1
    let leafUuid ← atLine line (cRequireNonemptyString "" "leafUuid" record)
    let pointerSession ← atLine line (cRequireNonemptyString "" "sessionId" record)
    match cGraphCandidates records leafUuid pointerSession with
    | [target] => pure (some ((record, index), target))
    | [] =>
      match cAllGraphCandidates records leafUuid with
      | foreign :: _ =>
        let targetSession := (ostr foreign.1 "sessionId").getD "<missing>"
        cSchemaError line "leafUuid"
          s!"references record in session '{targetSession}', expected '{pointerSession}'"
      | [] => cSchemaError line "leafUuid" s!"references missing UUID '{leafUuid}'"
    | _ => cSchemaError line "leafUuid" s!"references ambiguous UUID '{leafUuid}'"

/-- Some semantic record of the session has the record as its parent. -/
def cHasSameSessionChild (indexed : List (Json × Nat)) (record : Json) : Bool :=
  match ostr record "uuid", ostr record "sessionId" with
  | some uuid, some sessionId => indexed.any fun (child, _) =>
    cSemanticGraphRecord child && ostr child "parentUuid" == some uuid &&
      ostr child "sessionId" == some sessionId
  | _, _ => false

/-- The records a session can be resumed from. -/
def cChatLines (indexed : List (Json × Nat)) : List (Json × Nat) :=
  indexed.filter fun (record, _) => cResumableRecord record

/-- The chat lines that no record continues. -/
def cLeaves (indexed : List (Json × Nat)) : List (Json × Nat) :=
  (cChatLines indexed).filter fun (record, _) => !cHasSameSessionChild indexed record

/-- The newest leaf outside sidechains, else the newest leaf, else the last chat line. -/
def cGuessedLeaf? (indexed : List (Json × Nat)) : Option (Json × Nat) :=
  let nonSide := (cLeaves indexed).filter fun (record, _) =>
    !(obool record "isSidechain").getD false
  ((nonSide.foldl cNewestIndexedLine none).orElse
    fun _ => (cLeaves indexed).foldl cNewestIndexedLine none).orElse
    fun _ => (cChatLines indexed).getLast?

/-- The record that the last resume pointer names, or else the guessed leaf. -/
def cSelectedLeaf? (lastPrompt : Option ((Json × Nat) × (Json × Nat)))
    (indexed : List (Json × Nat)) : Option (Json × Nat) :=
  (lastPrompt.map fun pair => pair.2).orElse fun _ => cGuessedLeaf? indexed

/-! ### Records that stand in the graph -/

/-- The record stands among the candidates for its own identity, in the given session. -/
structure InGraph (records : List (Json × Nat)) (session : Option String)
    (node : Json × Nat) : Prop where
  mem : node ∈ records
  session_eq : ostr node.1 "sessionId" = session
  candidate : ∀ uuid sessionId, ostr node.1 "uuid" = some uuid →
    ostr node.1 "sessionId" = some sessionId → node ∈ cGraphCandidates records uuid sessionId

/-- A preferred record is one of the records. -/
theorem mem_of_mem_cPreferSemantic {addressable : List (Json × Nat)} {node : Json × Nat}
    (h : node ∈ cPreferSemantic addressable) : node ∈ addressable := by
  unfold cPreferSemantic at h
  dsimp only at h
  split at h
  · exact h
  · exact List.mem_of_mem_filter h

/-- A candidate has the identity it was looked up by. -/
theorem cGraphCandidates_spec {records : List (Json × Nat)} {uuid sessionId : String}
    {node : Json × Nat} (h : node ∈ cGraphCandidates records uuid sessionId) :
    node ∈ records ∧ ostr node.1 "uuid" = some uuid ∧
      ostr node.1 "sessionId" = some sessionId := by
  have hmem := mem_of_mem_cPreferSemantic h
  simp only [List.mem_filter, Bool.and_eq_true, beq_iff_eq] at hmem
  exact ⟨hmem.1, hmem.2.1.2, hmem.2.2⟩

/-- A candidate stands in the graph. -/
theorem inGraph_of_mem_cGraphCandidates {records : List (Json × Nat)} {uuid sessionId : String}
    {node : Json × Nat} (h : node ∈ cGraphCandidates records uuid sessionId) :
    InGraph records (some sessionId) node := by
  obtain ⟨hmem, huuid, hsession⟩ := cGraphCandidates_spec h
  refine ⟨hmem, hsession, fun uuid' sessionId' huuid' hsession' => ?_⟩
  cases huuid.symm.trans huuid'
  cases hsession.symm.trans hsession'
  exact h

/-- A semantic record is a candidate for its own identity. -/
theorem inGraph_of_semantic {records : List (Json × Nat)} {node : Json × Nat}
    (hmem : node ∈ records) (hgraph : cGraphRecord node.1 = true)
    (hsemantic : cSemanticGraphRecord node.1 = true) :
    InGraph records (ostr node.1 "sessionId") node := by
  refine ⟨hmem, rfl, fun uuid sessionId huuid hsession => ?_⟩
  have haddressable : node ∈ records.filter fun (record, _) =>
      cGraphRecord record && ostr record "uuid" == some uuid &&
        ostr record "sessionId" == some sessionId := by
    simp [hmem, hgraph, huuid, hsession]
  unfold cGraphCandidates cPreferSemantic
  dsimp only
  split
  · exact haddressable
  · rw [List.mem_filter]
    exact ⟨haddressable, hsemantic⟩

/-- A compaction boundary is a semantic record of the graph. -/
theorem cCompactionBoundary_semantic {record : Json} (h : cCompactionBoundary record = true) :
    cGraphRecord record = true ∧ cSemanticGraphRecord record = true := by
  have htype : ostr record "type" = some "system" := by
    simp only [cCompactionBoundary, Bool.and_eq_true, beq_iff_eq] at h
    exact h.1
  constructor
  · simp [cGraphRecord, cPathRecord, htype]
  · simp [cSemanticGraphRecord, h]

/-- A record of the conversation is a user or an assistant record. -/
theorem ostr_type_of_cConversationKind {record : Json}
    (h : (cConversationKind? record).isSome = true) :
    ostr record "type" = some "user" ∨ ostr record "type" = some "assistant" := by
  unfold cConversationKind? at h
  dsimp only at h
  split at h
  next htype => exact Or.inl htype
  next htype => exact Or.inr htype
  next => cases h

theorem ostr_type_of_cParseCompactionCarrier {record : Json}
    (h : (cParseCompactionCarrier? record).isSome = true) :
    ostr record "type" = some "system" := by
  unfold cParseCompactionCarrier? at h
  simpa using of_guard_bind h

theorem ostr_type_of_cParseInertPayloadCarrier {record : Json}
    (h : (cParseInertPayloadCarrier? record).isSome = true) :
    ostr record "type" = some "system" := by
  unfold cParseInertPayloadCarrier? at h
  simpa using of_guard_bind h

/-- So is a record that a session can be resumed from. -/
theorem cResumableRecord_semantic {record : Json} (h : cResumableRecord record = true) :
    cGraphRecord record = true ∧ cSemanticGraphRecord record = true := by
  unfold cResumableRecord at h
  simp only [Bool.or_eq_true] at h
  obtain (hkind | hcompaction) | hinert := h
  · refine ⟨?_, by simp [cSemanticGraphRecord, hkind]⟩
    rcases ostr_type_of_cConversationKind hkind with htype | htype
    · simp [cGraphRecord, cPathRecord, htype]
    · simp [cGraphRecord, cPathRecord, htype]
  · exact ⟨by simp [cGraphRecord, cPathRecord, ostr_type_of_cParseCompactionCarrier hcompaction],
      by simp [cSemanticGraphRecord, hcompaction]⟩
  · exact ⟨by simp [cGraphRecord, cPathRecord, ostr_type_of_cParseInertPayloadCarrier hinert],
      by simp [cSemanticGraphRecord, hinert]⟩

/-! ### The path over record data -/

/-- The boundary on the line before a compaction summary. -/
def cSoftBoundary? (records : List (Json × Nat)) (current : Json × Nat) : Option (Json × Nat) :=
  if cIsCompactSummary current.1 then cAdjacentCompactionBoundary? records current.2 else none

/-- In the session, the UUID names a compaction boundary. -/
def cNamesBoundary (records : List (Json × Nat)) (uuid sessionId : String) : Bool :=
  (cGraphCandidates records uuid sessionId).any fun (candidate, _) => cCompactionBoundary candidate

/-- What comes behind a record on the way to the root: the record the path goes on with, or nothing
when the record is a root. -/
inductive NextOnPath (records : List (Json × Nat)) (current : Json × Nat) (sessionId : String) :
    Option (Json × Nat) → Prop
  /-- A record without a parent is a root. -/
  | parentless (hparent : oobj current.1 "parentUuid" = some .null)
      (hboundary : cSoftBoundary? records current = none) :
      NextOnPath records current sessionId none
  /-- A summary without a parent goes on with the boundary before it. -/
  | cut {boundary : Json × Nat} (hparent : oobj current.1 "parentUuid" = some .null)
      (hboundary : cSoftBoundary? records current = some boundary) :
      NextOnPath records current sessionId (some boundary)
  /-- So does a summary whose parent is no boundary itself. -/
  | softCut {boundary : Json × Nat} {parentUuid : String}
      (hparent : ostr current.1 "parentUuid" = some parentUuid)
      (hboundary : cSoftBoundary? records current = some boundary)
      (hnamed : cNamesBoundary records parentUuid sessionId = false) :
      NextOnPath records current sessionId (some boundary)
  /-- Any other record goes on with the one record of its session that it names. -/
  | named {parent : Json × Nat} {parentUuid : String}
      (hparent : ostr current.1 "parentUuid" = some parentUuid)
      (hnamed : cSoftBoundary? records current = none ∨
        cNamesBoundary records parentUuid sessionId = true)
      (honly : cGraphCandidates records parentUuid sessionId = [parent]) :
      NextOnPath records current sessionId (some parent)
  /-- A copied record whose parent stayed in the other session is a root. -/
  | forked {parentUuid : String} (hparent : ostr current.1 "parentUuid" = some parentUuid)
      (hboundary : cSoftBoundary? records current = none)
      (hnone : cGraphCandidates records parentUuid sessionId = [])
      (hfork : cHasExternalLineage current.1 = true) : NextOnPath records current sessionId none
  /-- A record whose parent is none of the records, in any session, is a root. -/
  | dangling {parentUuid : String} (hparent : ostr current.1 "parentUuid" = some parentUuid)
      (hboundary : cSoftBoundary? records current = none)
      (hnone : cAllGraphCandidates records parentUuid = []) :
      NextOnPath records current sessionId none

/-- The record has an identity that no other record of the graph has. -/
structure Identified (records : List (Json × Nat)) (current : Json × Nat)
    (uuid sessionId : String) : Prop where
  named : ostr current.1 "uuid" = some uuid ∧ uuid.isEmpty = false
  session : ostr current.1 "sessionId" = some sessionId ∧ sessionId.isEmpty = false
  unique : (cGraphCandidates records uuid sessionId).length = 1

/-- The path from the record ends at a root. -/
inductive RootedPath (records : List (Json × Nat)) : Json × Nat → Prop
  /-- The record is a root. -/
  | root {current : Json × Nat} {uuid sessionId : String}
      (hidentity : Identified records current uuid sessionId)
      (hnext : NextOnPath records current sessionId none) : RootedPath records current
  /-- The path from the next record ends at a root. -/
  | child {current next : Json × Nat} {uuid sessionId : String}
      (hidentity : Identified records current uuid sessionId)
      (hnext : NextOnPath records current sessionId (some next))
      (hrest : RootedPath records next) : RootedPath records current

/-- What the identity of a record on the path is. -/
theorem cPathIdentity_ok_iff {current : Json × Nat} {uuid sessionId : String} :
    cPathIdentity current = .ok (uuid, sessionId) ↔
      (ostr current.1 "uuid" = some uuid ∧ uuid.isEmpty = false) ∧
        (ostr current.1 "sessionId" = some sessionId ∧ sessionId.isEmpty = false) := by
  unfold cPathIdentity
  constructor
  · intro h
    obtain ⟨uuid', huuid, h⟩ := bind_ok_iff.mp h
    obtain ⟨sessionId', hsession, h⟩ := bind_ok_iff.mp h
    cases h
    exact ⟨cRequireNonemptyString_ok_iff.mp (atLine_ok_iff.mp huuid),
      cRequireNonemptyString_ok_iff.mp (atLine_ok_iff.mp hsession)⟩
  · rintro ⟨huuid, hsession⟩
    refine bind_ok_iff.mpr ⟨uuid, atLine_ok_iff.mpr (cRequireNonemptyString_ok_iff.mpr huuid), ?_⟩
    exact bind_ok_iff.mpr
      ⟨sessionId, atLine_ok_iff.mpr (cRequireNonemptyString_ok_iff.mpr hsession), rfl⟩

/-- Among no records of any session there is none of the session. -/
theorem cGraphCandidates_eq_nil {records : List (Json × Nat)} {uuid : String}
    (h : cAllGraphCandidates records uuid = []) (sessionId : String) :
    cGraphCandidates records uuid sessionId = [] := by
  rw [List.eq_nil_iff_forall_not_mem]
  intro node hnode
  have hmem := mem_of_mem_cPreferSemantic hnode
  rw [List.mem_filter, Bool.and_eq_true] at hmem
  obtain ⟨hmem, htest, _⟩ := hmem
  have haddressable : node ∈ records.filter fun (record, _) =>
      cGraphRecord record && ostr record "uuid" == some uuid := List.mem_filter.mpr ⟨hmem, htest⟩
  unfold cAllGraphCandidates cPreferSemantic at h
  dsimp only at h
  split at h
  · rw [h] at haddressable
    cases haddressable
  next hsemantic =>
    rw [h] at hsemantic
    exact hsemantic rfl

/-- What a UUID names when no boundary stands in between. -/
theorem cNamedParent_ok_iff {records : List (Json × Nat)} {current : Json × Nat}
    {uuid sessionId parentUuid : String} {next : Option (Json × Nat)} :
    (∃ notes, cNamedParent records current uuid sessionId parentUuid = .ok (next, notes)) ↔
      (∃ parent, cGraphCandidates records parentUuid sessionId = [parent] ∧ next = some parent) ∨
      (cGraphCandidates records parentUuid sessionId = [] ∧ next = none ∧
        (cHasExternalLineage current.1 = true ∨ cAllGraphCandidates records parentUuid = [])) := by
  unfold cNamedParent
  dsimp only
  constructor
  · rintro ⟨notes, h⟩
    split at h
    next parent honly =>
      cases h
      exact Or.inl ⟨parent, honly, rfl⟩
    next hnone =>
      split at h
      next hfork =>
        cases h
        exact Or.inr ⟨hnone, rfl, Or.inl hfork⟩
      · split at h
        · cases h
        next hall =>
          cases h
          exact Or.inr ⟨hnone, rfl, Or.inr hall⟩
    · cases h
  · rintro (⟨parent, honly, rfl⟩ | ⟨hnone, rfl, hroot⟩)
    · rw [honly]
      exact ⟨_, rfl⟩
    · rw [hnone]
      dsimp only
      split
      · exact ⟨_, rfl⟩
      next hfork =>
        rw [hroot.resolve_left hfork]
        exact ⟨_, rfl⟩

/-- Where no boundary comes in, the next record is the one the parent link names. -/
theorem cPathParent_of_named {records : List (Json × Nat)} {current : Json × Nat}
    {uuid sessionId parentUuid : String}
    (hself : (cGraphCandidates records uuid sessionId).length = 1)
    (hparent : ostr current.1 "parentUuid" = some parentUuid)
    (hnamed : cSoftBoundary? records current = none ∨
      cNamesBoundary records parentUuid sessionId = true) :
    cPathParent records current (uuid, sessionId) =
      cNamedParent records current uuid sessionId parentUuid := by
  unfold cSoftBoundary? cNamesBoundary at hnamed
  unfold cPathParent
  dsimp only
  rw [hself, oobj_of_ostr hparent]
  dsimp only
  rw [if_neg (by decide)]
  rcases hnamed with hboundary | hnames
  · rw [hboundary]
  · rw [hnames]
    -- a parent that is a boundary comes before the boundary on the line above
    cases (if cIsCompactSummary current.1 then cAdjacentCompactionBoundary? records current.2
      else none) <;> rfl

/-- The importer goes on with the next record of the path. -/
theorem nextOnPath_of_cPathParent {records : List (Json × Nat)} {current : Json × Nat}
    {uuid sessionId : String} {next : Option (Json × Nat)} {notes : List ImportNote}
    (h : cPathParent records current (uuid, sessionId) = .ok (next, notes)) :
    NextOnPath records current sessionId next := by
  unfold cPathParent at h
  dsimp only at h
  split at h
  · cases h
  · split at h
    next boundary hparent hboundary =>
      cases h
      exact .cut hparent hboundary
    next hparent hboundary =>
      cases h
      exact .parentless hparent hboundary
    next parentUuid hparent =>
      have hparent := ostr_of_oobj hparent
      split at h
      next boundary hboundary hnamed =>
        cases h
        exact .softCut hparent hboundary hnamed
      next hsoft =>
        -- no boundary stands before the record, or the parent is the boundary
        have hnamed : cSoftBoundary? records current = none ∨
            cNamesBoundary records parentUuid sessionId = true := by
          cases hboundary : cSoftBoundary? records current with
          | none => exact Or.inl rfl
          | some boundary =>
            cases hnames : cNamesBoundary records parentUuid sessionId with
            | true => exact Or.inr rfl
            | false => exact (hsoft boundary hboundary hnames).elim
        rcases cNamedParent_ok_iff.mp ⟨notes, h⟩ with
          ⟨parent, honly, rfl⟩ | ⟨hnone, rfl, hroot⟩
        · exact .named hparent hnamed honly
        · have hboundary : cSoftBoundary? records current = none := by
            refine hnamed.resolve_right fun hnames => ?_
            unfold cNamesBoundary at hnames
            rw [hnone] at hnames
            cases hnames
          rcases hroot with hfork | hall
          · exact .forked hparent hboundary hnone hfork
          · exact .dangling hparent hboundary hall
    · cases h

/-- The next record of the path is found, if the record is the only candidate for its own
identity. -/
theorem cPathParent_of_nextOnPath {records : List (Json × Nat)} {current : Json × Nat}
    {uuid sessionId : String} {next : Option (Json × Nat)}
    (hself : (cGraphCandidates records uuid sessionId).length = 1)
    (h : NextOnPath records current sessionId next) :
    ∃ notes, cPathParent records current (uuid, sessionId) = .ok (next, notes) := by
  have hguard : ¬((cGraphCandidates records uuid sessionId).length != 1) = true := by
    rw [hself]
    decide
  cases h with
  | parentless hparent hboundary =>
    unfold cSoftBoundary? at hboundary
    unfold cPathParent
    dsimp only
    rw [if_neg hguard, hparent, hboundary]
    exact ⟨_, rfl⟩
  | cut hparent hboundary =>
    unfold cSoftBoundary? at hboundary
    unfold cPathParent
    dsimp only
    rw [if_neg hguard, hparent, hboundary]
    exact ⟨_, rfl⟩
  | softCut hparent hboundary hnamed =>
    unfold cSoftBoundary? at hboundary
    unfold cNamesBoundary at hnamed
    unfold cPathParent
    dsimp only
    rw [if_neg hguard, oobj_of_ostr hparent, hboundary]
    dsimp only
    rw [hnamed]
    exact ⟨_, rfl⟩
  | named hparent hnamed honly =>
    rw [cPathParent_of_named hself hparent hnamed]
    exact cNamedParent_ok_iff.mpr (Or.inl ⟨_, honly, rfl⟩)
  | forked hparent hboundary hnone hfork =>
    rw [cPathParent_of_named hself hparent (Or.inl hboundary)]
    exact cNamedParent_ok_iff.mpr (Or.inr ⟨hnone, rfl, Or.inl hfork⟩)
  | dangling hparent hboundary hnone =>
    rw [cPathParent_of_named hself hparent (Or.inl hboundary)]
    exact cNamedParent_ok_iff.mpr
      (Or.inr ⟨cGraphCandidates_eq_nil hnone sessionId, rfl, Or.inr hnone⟩)

/-- A record on the path is the only candidate for its identity. -/
theorem cPathParent_self {records : List (Json × Nat)} {current : Json × Nat}
    {identity : String × String} {found : Option (Json × Nat) × List ImportNote}
    (h : cPathParent records current identity = .ok found) :
    (cGraphCandidates records identity.1 identity.2).length = 1 := by
  unfold cPathParent at h
  dsimp only at h
  split at h
  · cases h
  next hself => simpa using hself

/-- **The importer finds the next record of the path exactly where the records have it**, if the
record is the only candidate for its own identity. -/
theorem cPathParent_ok_iff {records : List (Json × Nat)} {current : Json × Nat}
    {uuid sessionId : String} {next : Option (Json × Nat)} :
    (∃ notes, cPathParent records current (uuid, sessionId) = .ok (next, notes)) ↔
      (cGraphCandidates records uuid sessionId).length = 1 ∧
        NextOnPath records current sessionId next := by
  constructor
  · rintro ⟨notes, h⟩
    exact ⟨cPathParent_self h, nextOnPath_of_cPathParent h⟩
  · rintro ⟨hself, h⟩
    exact cPathParent_of_nextOnPath hself h

/-- **The importer's walk finds its way to a root exactly when the records have a path to one.** -/
theorem cSelectedPathWalk_rooted_iff {records : List (Json × Nat)} {current : Json × Nat} :
    (cSelectedPathWalk records).Rooted current ↔ RootedPath records current := by
  constructor
  · rintro ⟨ancestors, hchain⟩
    -- the induction is on the chain: one record of the path at a time
    induction hchain with
    | @root current identity notes hidentity hparent =>
      obtain ⟨uuid, sessionId⟩ := identity
      obtain ⟨hnamed, hsession⟩ := cPathIdentity_ok_iff.mp hidentity
      obtain ⟨hunique, hnext⟩ := cPathParent_ok_iff.mp ⟨notes, hparent⟩
      exact .root ⟨hnamed, hsession, hunique⟩ hnext
    | @child current next identity notes ancestors hidentity hparent _ ih =>
      obtain ⟨uuid, sessionId⟩ := identity
      obtain ⟨hnamed, hsession⟩ := cPathIdentity_ok_iff.mp hidentity
      obtain ⟨hunique, hnext⟩ := cPathParent_ok_iff.mp ⟨notes, hparent⟩
      exact .child ⟨hnamed, hsession, hunique⟩ hnext ih
  · intro h
    induction h with
    | root hidentity hnext =>
      obtain ⟨hnamed, hsession, hunique⟩ := hidentity
      obtain ⟨notes, hparent⟩ := cPathParent_ok_iff.mpr ⟨hunique, hnext⟩
      exact ⟨_, .root (cPathIdentity_ok_iff.mpr ⟨hnamed, hsession⟩) hparent⟩
    | child hidentity hnext _ ih =>
      obtain ⟨hnamed, hsession, hunique⟩ := hidentity
      obtain ⟨notes, hparent⟩ := cPathParent_ok_iff.mpr ⟨hunique, hnext⟩
      obtain ⟨ancestors, hchain⟩ := ih
      exact ⟨_, .child (cPathIdentity_ok_iff.mpr ⟨hnamed, hsession⟩) hparent hchain⟩

/-! ### Walking the path -/

/-- The boundary before a summary is a record of the graph, in the session of the summary. -/
theorem cAdjacentCompactionBoundary_inGraph {records : List Json} {summary boundary : Json × Nat}
    (hsummary : summary ∈ records.zipIdx)
    (h : cAdjacentCompactionBoundary? records.zipIdx summary.2 = some boundary) :
    InGraph records.zipIdx (ostr summary.1 "sessionId") boundary := by
  have hmem := List.mem_of_find?_eq_some h
  have htest := List.find?_some h
  simp only [Bool.and_eq_true, beq_iff_eq] at htest
  obtain ⟨⟨_, hboundary⟩, hsession⟩ := htest
  obtain ⟨hgraph, hsemantic⟩ := cCompactionBoundary_semantic hboundary
  have hin := inGraph_of_semantic hmem hgraph hsemantic
  have hfound : (records.zipIdx.find? fun (_, i) => i == summary.2) = some summary := by
    have hsome : (records.zipIdx.find? fun (_, i) => i == summary.2).isSome := by
      rw [List.find?_isSome]
      exact ⟨summary, hsummary, beq_self_eq_true summary.2⟩
    obtain ⟨found, hfind⟩ := Option.isSome_iff_exists.mp hsome
    have hindex : found.2 = summary.2 := by simpa using List.find?_some hfind
    have hleft := List.mem_zipIdx_iff_getElem?.mp (List.mem_of_find?_eq_some hfind)
    have hright := List.mem_zipIdx_iff_getElem?.mp hsummary
    rw [hindex, hright] at hleft
    have hrecord : found.1 = summary.1 := (Option.some.inj hleft).symm
    rw [hfind, Prod.ext hrecord hindex]
  rw [hfound] at hsession
  have heq : ostr boundary.1 "sessionId" = ostr summary.1 "sessionId" := by simpa using hsession
  rw [← heq]
  exact hin

/-- Every step of the path stays in the graph and in the session. -/
theorem NextOnPath.inGraph {records : List Json} {current next : Json × Nat} {sessionId : String}
    (hcurrent : InGraph records.zipIdx (some sessionId) current)
    (h : NextOnPath records.zipIdx current sessionId (some next)) :
    InGraph records.zipIdx (some sessionId) next := by
  have hboundary : cSoftBoundary? records.zipIdx current = some next →
      InGraph records.zipIdx (some sessionId) next := by
    intro hsoft
    unfold cSoftBoundary? at hsoft
    split at hsoft
    · rw [← hcurrent.session_eq]
      exact cAdjacentCompactionBoundary_inGraph hcurrent.mem hsoft
    · cases hsoft
  cases h with
  | cut _ hsoft => exact hboundary hsoft
  | softCut _ hsoft _ => exact hboundary hsoft
  | named _ _ honly =>
    exact inGraph_of_mem_cGraphCandidates (honly ▸ List.mem_singleton.mpr rfl)

/-- **The path of a record of the graph is accepted exactly when it ends at a root.** -/
theorem cValidateSelectedPath_accepts_iff {records : List Json} {session : Option String}
    {leaf : Json × Nat} (hleaf : InGraph records.zipIdx session leaf) :
    Accepts (cValidateSelectedPath records.zipIdx records.length leaf []) ↔
      RootedPath records.zipIdx leaf := by
  have hlength : records.length = records.zipIdx.length := by simp
  unfold cValidateSelectedPath
  rw [hlength, ← cSelectedPathWalk_rooted_iff]
  refine AncestorWalk.run_accepts_iff (InGraph records.zipIdx session) ?_ ?_ ?_ hleaf
  · rintro a ⟨uuid, sessionId⟩ b notes ha hidentity hparent
    obtain ⟨_, hsession, _⟩ := cPathIdentity_ok_iff.mp hidentity
    have hsame : session = some sessionId := ha.session_eq.symm.trans hsession
    subst hsame
    exact (nextOnPath_of_cPathParent hparent).inGraph ha
  · exact fun a ha => ha.mem
  · -- Equal UUIDs in one session: both nodes are the one candidate for their identity.
    intro a b i j found found' ha hb hi hj hfound _ hmark
    obtain ⟨uuid, sessionId⟩ := i
    obtain ⟨uuid', sessionId'⟩ := j
    obtain ⟨⟨hauuid, _⟩, hasession, _⟩ := cPathIdentity_ok_iff.mp hi
    obtain ⟨⟨hbuuid, _⟩, hbsession, _⟩ := cPathIdentity_ok_iff.mp hj
    cases hmark
    cases (hasession.symm.trans (ha.session_eq.trans hb.session_eq.symm)).trans hbsession
    have hself : cPathParent records.zipIdx a (uuid, sessionId) = .ok found := hfound
    obtain ⟨only, honly⟩ := List.length_eq_one_iff.mp (cPathParent_self hself)
    have hmema := ha.candidate uuid sessionId hauuid hasession
    have hmemb := hb.candidate uuid sessionId hbuuid hbsession
    rw [honly, List.mem_singleton] at hmema hmemb
    rw [hmema, hmemb]

end AgentConvert.ClaudeCode
