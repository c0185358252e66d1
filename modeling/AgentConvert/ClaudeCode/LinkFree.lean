import AgentConvert.ClaudeCode.Graph

/-!
# What a record says apart from its links

Restoring the links of a record changes its parent link or its resume pointer.  Everything else
that is read from a record stays the same: its kind, its carriers and its message.  So a record
whose restored form passes the checks passes them by itself as soon as its own links are spelled
correctly (`cCheckRecord_of_agreesOff`).
-/

namespace AgentConvert.ClaudeCode

section Congruence

variable {j j' : Json} (h : AgreesOff cLinkMembers j j')

include h

/-! ### Carriers -/

/-- The marker of the converter is not a link. -/
theorem cCarrierMarker?_congr : cCarrierMarker? j = cCarrierMarker? j' := by
  simp only [cCarrierMarker?, h.oobj claudeCarrierMarkerKey (by decide)]

theorem cCarrierTimeProvenance?_congr :
    cCarrierTimeProvenance? j = cCarrierTimeProvenance? j' := by
  simp only [cCarrierTimeProvenance?, cCarrierMarker?_congr h]

/-- Nor does a carried compaction speak of links. -/
theorem cParseCompactionCarrier?_congr :
    cParseCompactionCarrier? j = cParseCompactionCarrier? j' := by
  simp only [cParseCompactionCarrier?, cCarrierMarker?_congr h, h.ostr "type" (by decide),
    h.ostr "subtype" (by decide)]

/-- A compaction is read without the link members. -/
theorem cParseContextCompaction?_congr :
    cParseContextCompaction? j = cParseContextCompaction? j' := by
  simp only [cParseContextCompaction?, cCarrierMarker?_congr h, h.ostr "type" (by decide),
    h.oobj "message" (by decide), h.obool "isCompactSummary" (by decide)]

/-- An inert carrier is read without the link members. -/
theorem cParseInertPayloadCarrier?_congr :
    cParseInertPayloadCarrier? j = cParseInertPayloadCarrier? j' := by
  simp only [cParseInertPayloadCarrier?, cCarrierMarker?_congr h, h.ostr "type" (by decide),
    h.ostr "subtype" (by decide)]

theorem cMarkerItems?_congr {α : Type} (key : String) (parse : Json → Option α) :
    cMarkerItems? key parse j = cMarkerItems? key parse j' := by
  simp only [cMarkerItems?, cCarrierMarker?_congr h]

theorem cCarrierRawEnvelope?_congr : cCarrierRawEnvelope? j = cCarrierRawEnvelope? j' := by
  simp only [cCarrierRawEnvelope?, cCarrierMarker?_congr h]

theorem cCarrierIdentityProvenance?_congr :
    cCarrierIdentityProvenance? j = cCarrierIdentityProvenance? j' := by
  simp only [cCarrierIdentityProvenance?, cCarrierMarker?_congr h]

/-- The provenance of the transcript is read without the link members. -/
theorem cTranscriptProvenancePayload?_congr :
    cTranscriptProvenancePayload? j = cTranscriptProvenancePayload? j' := by
  simp only [cTranscriptProvenancePayload?, cCarrierMarker?_congr h, h.ostr "type" (by decide)]

/-- What is read from two session carriers differs in the copy of the record at most. -/
theorem cParseTranscriptProvenanceCarrier?_congr :
    (cParseTranscriptProvenanceCarrier? j).isSome = (cParseTranscriptProvenanceCarrier? j').isSome ∧
      cIsSourceEnvCarrier j = cIsSourceEnvCarrier j' := by
  unfold cIsSourceEnvCarrier cParseTranscriptProvenanceCarrier?
  rw [cTranscriptProvenancePayload?_congr h]
  cases cTranscriptProvenancePayload? j' with
  | none => exact ⟨rfl, rfl⟩
  | some pair =>
    obtain ⟨kind, payload⟩ := pair
    simp only [Option.bind_eq_bind, Option.bind_some]
    split
    · exact ⟨rfl, rfl⟩
    · exact ⟨rfl, rfl⟩
    · cases cDecodeSourceEnv? payload with
      | none => exact ⟨rfl, rfl⟩
      | some env => exact ⟨rfl, rfl⟩
    · exact ⟨rfl, rfl⟩

/-! ### Kinds -/

/-- Whether a record is a message does not depend on its links. -/
theorem cConversationKind?_congr : cConversationKind? j = cConversationKind? j' := by
  simp only [cConversationKind?, h.ostr "type" (by decide), h.oobj "message" (by decide)]

theorem cCompactionBoundary_congr : cCompactionBoundary j = cCompactionBoundary j' := by
  simp only [cCompactionBoundary, h.ostr "type" (by decide), h.ostr "subtype" (by decide)]

/-! ### Checks -/

/-- The checks of the marker do not look at links. -/
theorem cValidateCarrierProtocol_congr :
    cValidateCarrierProtocol j = cValidateCarrierProtocol j' := by
  simp only [cValidateCarrierProtocol, h.oobj claudeCarrierMarkerKey (by decide)]

theorem cValidateCarrierTimeProvenance_congr :
    cValidateCarrierTimeProvenance j = cValidateCarrierTimeProvenance j' := by
  simp only [cValidateCarrierTimeProvenance, h.oobj claudeCarrierMarkerKey (by decide),
    cCarrierTimeProvenance?_congr h]

/-- Nor do the checks of what the marker says about a message. -/
theorem cValidateConversationCarrierMarker_congr (kind role : String) (content : Json) :
    cValidateConversationCarrierMarker kind role content j =
      cValidateConversationCarrierMarker kind role content j' := by
  simp only [cValidateConversationCarrierMarker, h.oobj claudeCarrierMarkerKey (by decide),
    cParseContextCompaction?_congr h, cCarrierRawEnvelope?_congr h,
    cCarrierIdentityProvenance?_congr h, cValidateToolCanonical, cValidateToolTranslation,
    cValidateToolResultErrors, cValidateReasoning, cValidateUnavailableOutput,
    cCarrierToolCanonical?, cCarrierToolTranslation?, cCarrierToolErrors?, cCarrierReasoning?,
    cCarrierUnavailableOutput?, cMarkerItems?_congr h]

/-- A member that is not a link is required in both or in none. -/
theorem cRequireString_congr (path key : String) (hkey : key ∉ cLinkMembers) :
    cRequireString path key j = cRequireString path key j' := by
  simp only [cRequireString, h.oobj key hkey]

/-- A required string is read the same off the link members. -/
theorem cRequireNonemptyString_congr (path key : String) (hkey : key ∉ cLinkMembers) :
    cRequireNonemptyString path key j = cRequireNonemptyString path key j' := by
  simp only [cRequireNonemptyString, cRequireString_congr h path key hkey]

theorem cRequireUuidString_congr (path key : String) (hkey : key ∉ cLinkMembers) :
    cRequireUuidString path key j = cRequireUuidString path key j' := by
  simp only [cRequireUuidString, cRequireNonemptyString_congr h path key hkey]

theorem cRequireObject_congr (path key : String) (hkey : key ∉ cLinkMembers) :
    cRequireObject path key j = cRequireObject path key j' := by
  simp only [cRequireObject, h.oobj key hkey]

/-- The checks of a message do not look at links. -/
theorem cValidateConversationRecord_congr (kind : String) :
    cValidateConversationRecord kind j = cValidateConversationRecord kind j' := by
  simp only [cValidateConversationRecord, cRequireObject_congr h "" "message" (by decide),
    cCompactSummaryFlag, h.oobj "isCompactSummary" (by decide),
    cValidateConversationCarrierMarker_congr h]

/-- The origin of a fork is checked without the link members. -/
theorem cValidateForkedFrom_congr : cValidateForkedFrom j = cValidateForkedFrom j' := by
  simp only [cValidateForkedFrom, h.oobj "forkedFrom" (by decide)]

end Congruence

/-! ### Records -/

/-- Records that have a place in the graph and are checked for it. -/
def cHasGraphIdentity (record : Json) : Bool :=
  match ostr record "type" with
  | some "user" | some "assistant" | some "attachment" => true
  | some "system" => cCompactionBoundary record ||
      ostr record "subtype" == some "agent_convert_compaction" ||
      ostr record "subtype" == some "agent_convert_inert"
  | _ => false

/-- The links of the record are spelled correctly: the parent of a graph record is null or a
UUID, and a resume pointer is a UUID. -/
structure LinksSpelled (record : Json) : Prop where
  parent : cHasGraphIdentity record = true →
    oobj record "parentUuid" = some .null ∨
      ∃ uuid, ostr record "parentUuid" = some uuid ∧ claudeUuidValid uuid = true
  pointer : ostr record "type" = some "last-prompt" →
    ∃ uuid, ostr record "leafUuid" = some uuid ∧ uuid.isEmpty = false ∧
      claudeUuidValid uuid = true

/-- What a parent may be. -/
theorem accepts_cValidateParentUuid_iff {record : Json} :
    Accepts (cValidateParentUuid record) ↔
      oobj record "parentUuid" = some .null ∨
        ∃ uuid, ostr record "parentUuid" = some uuid ∧ claudeUuidValid uuid = true := by
  unfold cValidateParentUuid
  constructor
  · intro h
    split at h
    · exact absurd h (not_accepts_error _)
    next hnull => exact Or.inl hnull
    next uuid huuid =>
      exact Or.inr ⟨uuid, ostr_of_oobj huuid, accepts_require_iff.mp h⟩
    · exact absurd h (not_accepts_error _)
  · rintro (hnull | ⟨uuid, huuid, hvalid⟩)
    · rw [hnull]
      exact accepts_pure _
    · rw [oobj_of_ostr huuid]
      exact accepts_require_iff.mpr hvalid

/-- The checks of an identity are those of its members. -/
theorem accepts_cValidateGraphIdentity_iff {record : Json} :
    Accepts (cValidateGraphIdentity record) ↔
      Accepts (cRequireUuidString "" "uuid" record) ∧
      Accepts (cRequireUuidString "" "sessionId" record) ∧
      Accepts (cValidateParentUuid record) ∧ Accepts (cValidateForkedFrom record) := by
  unfold cValidateGraphIdentity
  simp only [accepts_seq_iff]

/-- A record is accepted when its carriers are and it has a type whose check it passes. -/
theorem accepts_cCheckRecord_iff {record : Json} :
    Accepts (cCheckRecord record) ↔
      Accepts (cValidateCarrierProtocol record) ∧
      Accepts (cValidateCarrierTimeProvenance record) ∧
      ∃ kind, cRequireNonemptyString "" "type" record = .ok kind ∧
        Accepts (cValidateRecordOfType kind record) := by
  unfold cCheckRecord
  rw [accepts_seq_iff, accepts_seq_iff, accepts_bind_iff]

section Transfer

variable {j j' : Json} (h : AgreesOff cLinkMembers j j')

include h

/-- With its parent spelled correctly, a record with other links has an accepted identity. -/
theorem cValidateGraphIdentity_of_agreesOff (hparent : Accepts (cValidateParentUuid j))
    (hok : Accepts (cValidateGraphIdentity j')) : Accepts (cValidateGraphIdentity j) := by
  rw [accepts_cValidateGraphIdentity_iff] at hok ⊢
  rw [cRequireUuidString_congr h "" "uuid" (by decide),
    cRequireUuidString_congr h "" "sessionId" (by decide), cValidateForkedFrom_congr h]
  exact ⟨hok.1, hok.2.1, hparent, hok.2.2.2⟩

/-- The same of a system record. -/
theorem cValidateSystemRecord_of_agreesOff
    (hparent : cHasGraphIdentity j = true → Accepts (cValidateParentUuid j))
    (htype : ostr j "type" = some "system") (hok : Accepts (cValidateSystemRecord j')) :
    Accepts (cValidateSystemRecord j) := by
  unfold cValidateSystemRecord at hok ⊢
  simp only [← cCompactionBoundary_congr h, ← h.ostr "subtype" (by decide),
    ← cParseCompactionCarrier?_congr h, ← cParseInertPayloadCarrier?_congr h] at hok
  split at hok
  next hboundary =>
    rw [if_pos hboundary]
    unfold cValidateCompactionBoundary at hok ⊢
    rw [accepts_seq_iff] at hok ⊢
    rw [cRequireString_congr h "" "content" (by decide),
      cRequireObject_congr h "" "compactMetadata" (by decide),
      cRequireUuidString_congr h "" "logicalParentUuid" (by decide)]
    refine ⟨cValidateGraphIdentity_of_agreesOff h (hparent ?_) hok.1, hok.2⟩
    simp [cHasGraphIdentity, htype, hboundary]
  next hboundary =>
    rw [if_neg hboundary]
    split at hok
    next hsubtype =>
      rw [if_pos hsubtype]
      rw [accepts_seq_iff] at hok ⊢
      refine ⟨hok.1, cValidateGraphIdentity_of_agreesOff h (hparent ?_) hok.2⟩
      simp [cHasGraphIdentity, htype, hsubtype]
    next hsubtype =>
      rw [if_neg hsubtype]
      split at hok
      next hinert =>
        rw [if_pos hinert]
        rw [accepts_seq_iff] at hok ⊢
        refine ⟨hok.1, cValidateGraphIdentity_of_agreesOff h (hparent ?_) hok.2⟩
        simp [cHasGraphIdentity, htype, hinert]
      next hinert =>
        rw [if_neg hinert]
        exact accepts_pure _

/-- The same of a record of any type. -/
theorem cValidateRecordOfType_of_agreesOff (hspelled : LinksSpelled j) {kind : String}
    (htype : ostr j "type" = some kind) (hok : Accepts (cValidateRecordOfType kind j')) :
    Accepts (cValidateRecordOfType kind j) := by
  have hparent : cHasGraphIdentity j = true → Accepts (cValidateParentUuid j) := fun hgraph =>
    accepts_cValidateParentUuid_iff.mpr (hspelled.parent hgraph)
  unfold cValidateRecordOfType at hok ⊢
  split at hok
  · -- user
    rw [accepts_seq_iff, ← cValidateConversationRecord_congr h] at hok
    rw [accepts_seq_iff]
    refine ⟨cValidateGraphIdentity_of_agreesOff h (hparent ?_) hok.1, hok.2⟩
    simp [cHasGraphIdentity, htype]
  · -- assistant
    rw [accepts_seq_iff, ← cValidateConversationRecord_congr h] at hok
    rw [accepts_seq_iff]
    refine ⟨cValidateGraphIdentity_of_agreesOff h (hparent ?_) hok.1, hok.2⟩
    simp [cHasGraphIdentity, htype]
  · exact cValidateSystemRecord_of_agreesOff h hparent htype hok
  · -- attachment
    refine cValidateGraphIdentity_of_agreesOff h (hparent ?_) hok
    simp [cHasGraphIdentity, htype]
  · -- last-prompt
    unfold cValidateLastPromptRecord at hok ⊢
    simp only [accepts_seq_iff] at hok ⊢
    obtain ⟨uuid, huuid, hnonempty, hvalid⟩ := hspelled.pointer htype
    refine ⟨⟨uuid, cRequireUuidString_ok_iff.mpr ⟨⟨huuid, hnonempty⟩, hvalid⟩⟩, ?_⟩
    rw [cRequireUuidString_congr h "" "sessionId" (by decide)]
    simp only [cOptionalMember, h.oobj "lastPrompt" (by decide)]
    exact hok.2
  · rw [(cParseTranscriptProvenanceCarrier?_congr h).1]
    exact hok
  · exact accepts_pure _

/-- **A record whose restored form is accepted is accepted when its own links are spelled
correctly.** -/
theorem cCheckRecord_of_agreesOff (hspelled : LinksSpelled j) (hok : Accepts (cCheckRecord j')) :
    Accepts (cCheckRecord j) := by
  rw [accepts_cCheckRecord_iff] at hok ⊢
  obtain ⟨hprotocol, htime, kind, hkind, hrecord⟩ := hok
  rw [← cRequireNonemptyString_congr h "" "type" (by decide)] at hkind
  rw [cValidateCarrierProtocol_congr h, cValidateCarrierTimeProvenance_congr h]
  refine ⟨hprotocol, htime, kind, hkind, ?_⟩
  exact cValidateRecordOfType_of_agreesOff h hspelled
    (cRequireNonemptyString_ok_iff.mp hkind).1 hrecord

end Transfer

/-- An accepted record has its links spelled correctly. -/
theorem linksSpelled_of_accepts {record : Json} (hok : Accepts (cCheckRecord record)) :
    LinksSpelled record := by
  obtain ⟨_, _, kind, hkind, hrecord⟩ := accepts_cCheckRecord_iff.mp hok
  have htype := (cRequireNonemptyString_ok_iff.mp hkind).1
  have hidentity : Accepts (cValidateGraphIdentity record) →
      oobj record "parentUuid" = some .null ∨
        ∃ uuid, ostr record "parentUuid" = some uuid ∧ claudeUuidValid uuid = true :=
    fun hgraph => accepts_cValidateParentUuid_iff.mp
      (accepts_cValidateGraphIdentity_iff.mp hgraph).2.2.1
  unfold cValidateRecordOfType at hrecord
  constructor
  · intro hgraph
    apply hidentity
    unfold cHasGraphIdentity at hgraph
    rw [htype] at hgraph
    split at hrecord
    · exact (accepts_seq_iff.mp hrecord).1
    · exact (accepts_seq_iff.mp hrecord).1
    · simp only [Bool.or_eq_true] at hgraph
      unfold cValidateSystemRecord at hrecord
      split at hrecord
      · exact (accepts_seq_iff.mp hrecord).1
      next hboundary =>
        split at hrecord
        · exact (accepts_seq_iff.mp hrecord).2
        next hsubtype =>
          split at hrecord
          · exact (accepts_seq_iff.mp hrecord).2
          next hinert => exact absurd hgraph (by simp [hboundary, hsubtype, hinert])
    · exact hrecord
    · cases hgraph
    · cases hgraph
    next huser hassistant hsystem hattachment _ _ =>
      split at hgraph
      next heq => exact absurd (Option.some.inj heq) huser
      next heq => exact absurd (Option.some.inj heq) hassistant
      next heq => exact absurd (Option.some.inj heq) hattachment
      next heq => exact absurd (Option.some.inj heq) hsystem
      next => cases hgraph
  · intro hpointer
    cases htype.symm.trans hpointer
    obtain ⟨uuid, huuid⟩ := (accepts_seq_iff.mp hrecord).1
    obtain ⟨⟨hmember, hnonempty⟩, hvalid⟩ := cRequireUuidString_ok_iff.mp huuid
    exact ⟨uuid, hmember, hnonempty, hvalid⟩

end AgentConvert.ClaudeCode
