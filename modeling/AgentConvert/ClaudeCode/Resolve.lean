import AgentConvert.ClaudeCode.Import
import AgentConvert.ClaudeCode.LinkFree

/-!
# When the records of a session are accepted

The records of a session are accepted when each of them passes the checks of its type, at most
one has the environment of the source, and the records name each other where they have to:
compaction summaries their parents, the last resume pointer its leaf, and the records between the
leaf and the root their parents (`accepts_cResolveSession_iff`).
-/

namespace AgentConvert.ClaudeCode

/-! ### Resolved links -/

/-- The parent of a compaction summary is exactly one record of its session. -/
def SummaryLinked (records : List Json) (record : Json) : Prop :=
  ∃ parent, ostr record "parentUuid" = some parent ∧
    (cSameSession (cRecordsWithUuid records.zipIdx parent) record).length = 1

/-- A resume pointer names exactly one record of its session. -/
def PointerResolved (records : List Json) (pointer : Json) : Prop :=
  ∃ leafUuid sessionId, ostr pointer "leafUuid" = some leafUuid ∧
    ostr pointer "sessionId" = some sessionId ∧
    (cGraphCandidates records.zipIdx leafUuid sessionId).length = 1

/-- The session goes on from the record: the last resume pointer names it, or there is no resume
pointer and it is the guessed leaf. -/
def ResumesAt (records : List Json) (leaf : Json × Nat) : Prop :=
  match cLastPrompt? records.zipIdx with
  | some pointer => ∃ leafUuid sessionId, ostr pointer.1 "leafUuid" = some leafUuid ∧
      ostr pointer.1 "sessionId" = some sessionId ∧
      leaf ∈ cGraphCandidates records.zipIdx leafUuid sessionId
  | none => cGuessedLeaf? records.zipIdx = some leaf

/-- The path from the record a session goes on from ends at a root. -/
def LeafRooted (records : List Json) : Prop :=
  ∀ leaf, ResumesAt records leaf → RootedPath records.zipIdx leaf

/-- The expanded records name each other where they have to. -/
structure LinksResolved (records : List Json) : Prop where
  summaries : ∀ record ∈ records, cIsCompactSummary record = true → SummaryLinked records record
  pointer : ∀ pointer, cLastPrompt? records.zipIdx = some pointer →
    PointerResolved records pointer.1
  leaf : LeafRooted records

/-! ### Compaction summaries -/

/-- When the link of a compaction summary is accepted. -/
theorem accepts_cValidateCompactionLink_iff {records : List Json} {item : Json × Nat} :
    Accepts (cValidateCompactionLink records.zipIdx item) ↔
      (cIsCompactSummary item.1 = true → SummaryLinked records item.1) := by
  obtain ⟨record, index⟩ := item
  unfold cValidateCompactionLink SummaryLinked
  dsimp only
  cases hsummary : cIsCompactSummary record with
  | false => simp
  | true =>
    rw [if_pos rfl]
    constructor
    · intro h _
      split at h
      next parent hparent =>
        refine ⟨parent, ostr_of_oobj hparent, ?_⟩
        split at h
        next only honly =>
          rw [honly]
          rfl
        · split at h
          · exact absurd h (not_accepts_error _)
          · exact absurd h (not_accepts_error _)
        · exact absurd h (not_accepts_error _)
      · exact absurd h (not_accepts_error _)
    · intro h
      obtain ⟨parent, hparent, hlength⟩ := h rfl
      obtain ⟨only, honly⟩ := List.length_eq_one_iff.mp hlength
      rw [oobj_of_ostr hparent]
      dsimp only
      rw [honly]
      exact accepts_pure _

/-- When the records are accepted before their path is looked at. -/
theorem accepts_cValidateClaudeRecords_iff {records : List Json} :
    Accepts (cValidateClaudeRecords records) ↔
      (∀ record ∈ records, Accepts (cCheckRecord record)) ∧
      cTranscriptSourceEnvCount records ≤ 1 ∧
      ∀ record ∈ records, cIsCompactSummary record = true → SummaryLinked records record := by
  have hrecords : ∀ P : Json → Prop,
      (∀ item ∈ records.zipIdx, P item.1) ↔ ∀ record ∈ records, P record := by
    intro P
    constructor
    · intro h record hrecord
      obtain ⟨i, hi⟩ := List.mem_iff_getElem?.mp hrecord
      exact h (record, i) (List.mem_zipIdx_iff_getElem?.mpr hi)
    · exact fun h item hitem => h item.1 (List.fst_mem_of_mem_zipIdx hitem)
  unfold cValidateClaudeRecords cValidateCompactionLinks cValidateRecord
  simp only [accepts_seq_iff, accepts_forM_iff, accepts_atLine_iff,
    accepts_cValidateCompactionLink_iff]
  rw [hrecords fun record => Accepts (cCheckRecord record), hrecords fun record =>
    cIsCompactSummary record = true → SummaryLinked records record]
  simp [Accepts, refuseIf_ok_iff]

/-! ### The resume pointer -/

/-- The last resume pointer is one of the records. -/
theorem cLastPrompt_spec {records : List Json} {pointer : Json × Nat}
    (h : cLastPrompt? records.zipIdx = some pointer) :
    pointer.1 ∈ records ∧ ostr pointer.1 "type" = some "last-prompt" := by
  have hmem := List.mem_of_getLast? h
  rw [List.mem_filter] at hmem
  exact ⟨List.fst_mem_of_mem_zipIdx hmem.1, by simpa using hmem.2⟩

/-- A checked resume pointer names a leaf and a session. -/
theorem cLastPrompt_identity {records : List Json}
    (hchecked : ∀ record ∈ records, Accepts (cCheckRecord record)) {pointer : Json × Nat}
    (h : cLastPrompt? records.zipIdx = some pointer) :
    ∃ leafUuid sessionId,
      cRequireNonemptyString "" "leafUuid" pointer.1 = .ok leafUuid ∧
      cRequireNonemptyString "" "sessionId" pointer.1 = .ok sessionId := by
  obtain ⟨hmem, htype⟩ := cLastPrompt_spec h
  obtain ⟨_, _, kind, hkind, hrecord⟩ := accepts_cCheckRecord_iff.mp (hchecked _ hmem)
  cases (cRequireNonemptyString_ok_iff.mp hkind).1.symm.trans htype
  have hprompt : Accepts (cValidateLastPromptRecord pointer.1) := hrecord
  unfold cValidateLastPromptRecord at hprompt
  obtain ⟨⟨leafUuid, hleaf⟩, hprompt⟩ := accepts_seq_iff.mp hprompt
  obtain ⟨⟨sessionId, hsession⟩, _⟩ := accepts_seq_iff.mp hprompt
  exact ⟨leafUuid, sessionId,
    cRequireNonemptyString_ok_iff.mpr (cRequireUuidString_ok_iff.mp hleaf).1,
    cRequireNonemptyString_ok_iff.mpr (cRequireUuidString_ok_iff.mp hsession).1⟩

/-- When the last resume pointer is accepted. -/
theorem accepts_cValidateLastPromptTarget_iff {records : List Json}
    (hchecked : ∀ record ∈ records, Accepts (cCheckRecord record)) :
    Accepts (cValidateLastPromptTarget records.zipIdx) ↔
      ∀ pointer, cLastPrompt? records.zipIdx = some pointer →
        PointerResolved records pointer.1 := by
  unfold cValidateLastPromptTarget
  cases hprompt : cLastPrompt? records.zipIdx with
  | none => simp
  | some pointer =>
    obtain ⟨record, index⟩ := pointer
    obtain ⟨leafUuid, sessionId, hleaf, hsession⟩ := cLastPrompt_identity hchecked hprompt
    dsimp only at hleaf hsession ⊢
    rw [atLine_ok_iff.mpr hleaf, atLine_ok_iff.mpr hsession]
    have hresolved : PointerResolved records record ↔
        (cGraphCandidates records.zipIdx leafUuid sessionId).length = 1 := by
      unfold PointerResolved
      rw [(cRequireNonemptyString_ok_iff.mp hleaf).1, (cRequireNonemptyString_ok_iff.mp hsession).1]
      simp
    simp only [Option.some.injEq, forall_eq', hresolved]
    simp only [bind, Except.bind]
    constructor
    · intro h
      split at h
      next target htarget =>
        rw [htarget]
        rfl
      · split at h
        · exact absurd h (not_accepts_error _)
        · exact absurd h (not_accepts_error _)
      · exact absurd h (not_accepts_error _)
    · intro h
      obtain ⟨target, htarget⟩ := List.length_eq_one_iff.mp h
      rw [htarget]
      exact accepts_pure _

/-- The selected leaf is the record the session goes on from. -/
theorem cSelectedLeaf_eq_some_iff {records : List Json}
    {lastPrompt : Option ((Json × Nat) × (Json × Nat))}
    (h : cValidateLastPromptTarget records.zipIdx = .ok lastPrompt) {leaf : Json × Nat} :
    cSelectedLeaf? lastPrompt records.zipIdx = some leaf ↔ ResumesAt records leaf := by
  unfold cValidateLastPromptTarget at h
  unfold ResumesAt
  cases hprompt : cLastPrompt? records.zipIdx with
  | none =>
    rw [hprompt] at h
    cases h
    simp [cSelectedLeaf?]
  | some pointer =>
    rw [hprompt] at h
    obtain ⟨leafUuid, hleaf, h⟩ := bind_ok_iff.mp h
    obtain ⟨sessionId, hsession, h⟩ := bind_ok_iff.mp h
    have huuid := (cRequireNonemptyString_ok_iff.mp (atLine_ok_iff.mp hleaf)).1
    have hid := (cRequireNonemptyString_ok_iff.mp (atLine_ok_iff.mp hsession)).1
    split at h
    next target htarget =>
      cases h
      simp [cSelectedLeaf?, huuid, hid, htarget, eq_comm]
    · split at h
      · cases h
      · cases h
    · cases h

/-! ### The leaf -/

/-- The newest record of a list is one of its records. -/
theorem mem_of_foldl_cNewestIndexedLine {lines : List (Json × Nat)} {newest : Json × Nat}
    (h : lines.foldl cNewestIndexedLine none = some newest) : newest ∈ lines := by
  have hstep : ∀ best : Option (Json × Nat),
      lines.foldl cNewestIndexedLine best = some newest → best = some newest ∨ newest ∈ lines := by
    clear h
    induction lines with
    | nil => exact fun best h => Or.inl h
    | cons line lines ih =>
      intro best h
      rcases ih _ h with hbest | hmem
      · unfold cNewestIndexedLine at hbest
        split at hbest
        · cases hbest
          exact Or.inr List.mem_cons_self
        · split at hbest
          · cases hbest
            exact Or.inr List.mem_cons_self
          · exact Or.inl hbest
      · exact Or.inr (List.mem_cons_of_mem _ hmem)
  rcases hstep none h with hnone | hmem
  · cases hnone
  · exact hmem

/-- The guessed leaf is a record that a session can be resumed from. -/
theorem cGuessedLeaf_mem {indexed : List (Json × Nat)} {leaf : Json × Nat}
    (h : cGuessedLeaf? indexed = some leaf) : leaf ∈ cChatLines indexed := by
  unfold cGuessedLeaf? at h
  dsimp only at h
  rw [Option.orElse_eq_or, Option.orElse_eq_or, Option.or_eq_some_iff, Option.or_eq_some_iff] at h
  obtain (hnonSide | ⟨_, hleaf⟩) | ⟨_, hlast⟩ := h
  · exact List.mem_of_mem_filter
      (List.mem_of_mem_filter (mem_of_foldl_cNewestIndexedLine hnonSide))
  · exact List.mem_of_mem_filter (mem_of_foldl_cNewestIndexedLine hleaf)
  · exact List.mem_of_getLast? hlast

/-- A session with a message has a leaf. -/
theorem exists_cSelectedLeaf {records : List Json}
    (hmessage : ∃ record ∈ records, (cConversationKind? record).isSome = true)
    (lastPrompt : Option ((Json × Nat) × (Json × Nat))) :
    ∃ leaf, cSelectedLeaf? lastPrompt records.zipIdx = some leaf := by
  obtain ⟨record, hrecord, hkind⟩ := hmessage
  obtain ⟨i, hi⟩ := List.mem_iff_getElem?.mp hrecord
  have hchat : (record, i) ∈ cChatLines records.zipIdx :=
    List.mem_filter.mpr ⟨List.mem_zipIdx_iff_getElem?.mpr hi, by simp [cResumableRecord, hkind]⟩
  have hlast : (cChatLines records.zipIdx).getLast?.isSome = true := by
    rw [List.getLast?_isSome]
    exact List.ne_nil_of_mem hchat
  rw [← Option.isSome_iff_exists]
  unfold cSelectedLeaf? cGuessedLeaf?
  simp only [Option.orElse_eq_or, Option.isSome_or, hlast, Bool.or_true]

/-- The record a session goes on from is a record of the graph. -/
theorem ResumesAt.inGraph {records : List Json} {leaf : Json × Nat} (h : ResumesAt records leaf) :
    InGraph records.zipIdx (ostr leaf.1 "sessionId") leaf := by
  unfold ResumesAt at h
  split at h
  · obtain ⟨leafUuid, sessionId, _, _, hmem⟩ := h
    rw [(cGraphCandidates_spec hmem).2.2]
    exact inGraph_of_mem_cGraphCandidates hmem
  · have hmem := cGuessedLeaf_mem h
    rw [cChatLines, List.mem_filter] at hmem
    obtain ⟨hgraph, hsemantic⟩ := cResumableRecord_semantic hmem.2
    exact inGraph_of_semantic hmem.1 hgraph hsemantic

/-! ### Sessions -/

/-- **Records with a message are accepted when each is valid, at most one is a source-environment
header, and the links are resolved.** -/
theorem accepts_cResolveSession_iff {physical records : List Json}
    (hmessage : ∃ record ∈ records, (cConversationKind? record).isSome = true) :
    Accepts (cResolveSession physical records) ↔
      (∀ record ∈ records, Accepts (cCheckRecord record)) ∧
      cTranscriptSourceEnvCount records ≤ 1 ∧ LinksResolved records := by
  have hpath : ∀ leaf, ResumesAt records leaf →
      (Accepts (cValidateSelectedPath records.zipIdx records.length leaf []) ↔
        RootedPath records.zipIdx leaf) := fun _ hleaf =>
    cValidateSelectedPath_accepts_iff hleaf.inGraph
  have hnonempty : records ≠ [] := by
    obtain ⟨record, hrecord, _⟩ := hmessage
    exact List.ne_nil_of_mem hrecord
  unfold cResolveSession
  rw [accepts_seq_iff, accepts_cValidateClaudeRecords_iff]
  split
  · exact absurd rfl hnonempty
  constructor
  · rintro ⟨⟨hchecked, hcount, hsummaries⟩, h⟩
    obtain ⟨lastPrompt, hprompt, h⟩ := accepts_bind_iff.mp h
    refine ⟨hchecked, hcount, hsummaries,
      (accepts_cValidateLastPromptTarget_iff hchecked).mp ⟨lastPrompt, hprompt⟩, ?_⟩
    intro leaf hresumes
    obtain ⟨leaf', hleaf', h⟩ := accepts_bind_iff.mp h
    unfold cSelectLeaf at hleaf'
    rw [(cSelectedLeaf_eq_some_iff hprompt).mpr hresumes] at hleaf'
    cases hleaf'
    obtain ⟨path, hwalk, _⟩ := accepts_bind_iff.mp h
    exact (hpath leaf hresumes).mp ⟨path, hwalk⟩
  · rintro ⟨hchecked, hcount, hresolved⟩
    refine ⟨⟨hchecked, hcount, hresolved.summaries⟩, ?_⟩
    obtain ⟨lastPrompt, hprompt⟩ :=
      (accepts_cValidateLastPromptTarget_iff hchecked).mpr hresolved.pointer
    obtain ⟨leaf, hleaf⟩ := exists_cSelectedLeaf hmessage lastPrompt
    have hresumes := (cSelectedLeaf_eq_some_iff hprompt).mp hleaf
    obtain ⟨path, hwalk⟩ := (hpath leaf hresumes).mpr (hresolved.leaf leaf hresumes)
    refine accepts_bind_iff.mpr ⟨lastPrompt, hprompt, accepts_bind_iff.mpr ⟨leaf, ?_, ?_⟩⟩
    · unfold cSelectLeaf
      rw [hleaf]
      rfl
    · exact accepts_bind_iff.mpr ⟨path, hwalk, accepts_pure _⟩

end AgentConvert.ClaudeCode
