import AgentConvert.CursorAgent.RoundTrip

/-!
# Imported sessions can be exported

What the cursor-agent importer produces meets what the exporter relies on: its values are parsed
values, and it has refused calls without a name or with an empty id.  So a session that is read,
written and read again comes back with the same payloads (`importCursorAgent_reexport`).
-/

namespace AgentConvert.CursorAgent

/-! ### Archived payloads -/

/-- A block that is read from an ordered value keeps ordered values. -/
theorem orderedUserBlock_of_historical {j : Json} {b : UserBlock} (hj : j.Ordered)
    (h : cursorHistoricalUserBlock? j = some b) : OrderedUserBlock b := by
  obtain ⟨kind, _, h⟩ := Option.bind_eq_some_iff.mp h
  split at h
  · obtain ⟨s, _, h⟩ := Option.bind_eq_some_iff.mp h
    cases h
    trivial
  · obtain ⟨mimeType, _, h⟩ := Option.bind_eq_some_iff.mp h
    obtain ⟨data, _, h⟩ := Option.bind_eq_some_iff.mp h
    cases h
    trivial
  · obtain ⟨label, _, h⟩ := Option.bind_eq_some_iff.mp h
    obtain ⟨raw, hraw, h⟩ := Option.bind_eq_some_iff.mp h
    cases h
    exact hj.oobj hraw
  · cases h

/-- The same of a block of the assistant. -/
theorem orderedAssistantBlock_of_historical {j : Json} {b : AssistantBlock} (hj : j.Ordered)
    (h : cursorHistoricalAssistantBlock? j = some b) : OrderedAssistantBlock b := by
  obtain ⟨kind, _, h⟩ := Option.bind_eq_some_iff.mp h
  split at h
  · obtain ⟨s, _, h⟩ := Option.bind_eq_some_iff.mp h
    cases h
    trivial
  · obtain ⟨s, _, h⟩ := Option.bind_eq_some_iff.mp h
    obtain ⟨signature, _, h⟩ := Option.bind_eq_some_iff.mp h
    cases h
    trivial
  · obtain ⟨canonical, _, h⟩ := Option.bind_eq_some_iff.mp h
    obtain ⟨rawId, _, h⟩ := Option.bind_eq_some_iff.mp h
    obtain ⟨name, _, h⟩ := Option.bind_eq_some_iff.mp h
    obtain ⟨args, hargs, h⟩ := Option.bind_eq_some_iff.mp h
    cases h
    exact hj.oobj hargs
  · obtain ⟨mimeType, _, h⟩ := Option.bind_eq_some_iff.mp h
    obtain ⟨data, _, h⟩ := Option.bind_eq_some_iff.mp h
    cases h
    trivial
  · obtain ⟨label, _, h⟩ := Option.bind_eq_some_iff.mp h
    obtain ⟨raw, hraw, h⟩ := Option.bind_eq_some_iff.mp h
    cases h
    exact hj.oobj hraw
  · cases h

/-- The elements of a member are ordered. -/
theorem ordered_of_oarr {j : Json} {k : String} {elems : List Json} (hj : j.Ordered)
    (h : oarr j k = some elems) : ∀ v ∈ elems, v.Ordered := by
  rw [oarr_eq_bind] at h
  obtain ⟨v, hv, hget⟩ := Option.bind_eq_some_iff.mp h
  cases v with
  | arr elems' =>
    cases hget
    exact Json.orderedElems_iff.mp (hj.oobj hv)
  | null | bool _ | num _ | str _ | obj _ => cases hget

theorem orderedUserBlocks_of_historical {elems : List Json} {blocks : List UserBlock}
    (helems : ∀ v ∈ elems, v.Ordered) (h : elems.mapM cursorHistoricalUserBlock? = some blocks) :
    ∀ b ∈ blocks, OrderedUserBlock b := by
  intro b hb
  obtain ⟨v, hv, hread⟩ := exists_of_mem_mapM_eq_some h b hb
  exact orderedUserBlock_of_historical (helems v hv) hread

/-- The same of a block of the environment. -/
theorem orderedEnvBlock_of_historical {j : Json} {b : EnvBlock} (hj : j.Ordered)
    (h : cursorHistoricalEnvBlock? j = some b) : OrderedEnvBlock b := by
  obtain ⟨kind, _, h⟩ := Option.bind_eq_some_iff.mp h
  split at h
  · obtain ⟨elems, helems, h⟩ := Option.bind_eq_some_iff.mp h
    obtain ⟨call, _, h⟩ := Option.bind_eq_some_iff.mp h
    obtain ⟨content, hcontent, h⟩ := Option.bind_eq_some_iff.mp h
    obtain ⟨error, _, h⟩ := Option.bind_eq_some_iff.mp h
    cases h
    exact orderedUserBlocks_of_historical (ordered_of_oarr hj helems) hcontent
  · obtain ⟨label, _, h⟩ := Option.bind_eq_some_iff.mp h
    obtain ⟨raw, hraw, h⟩ := Option.bind_eq_some_iff.mp h
    cases h
    exact hj.oobj hraw
  · cases h

/-- The same of an event. -/
theorem orderedMetaEvent_of_historical {j : Json} {event : MetaEvent} (hj : j.Ordered)
    (h : cursorHistoricalMetaEvent? j = some event) : OrderedMetaEvent event := by
  obtain ⟨kind, _, h⟩ := Option.bind_eq_some_iff.mp h
  split at h
  · obtain ⟨previous, _, h⟩ := Option.bind_eq_some_iff.mp h
    obtain ⟨next, _, h⟩ := Option.bind_eq_some_iff.mp h
    cases h
    trivial
  · obtain ⟨previous, _, h⟩ := Option.bind_eq_some_iff.mp h
    obtain ⟨next, _, h⟩ := Option.bind_eq_some_iff.mp h
    cases h
    trivial
  · obtain ⟨mode, _, h⟩ := Option.bind_eq_some_iff.mp h
    cases h
    trivial
  · obtain ⟨summary, _, h⟩ := Option.bind_eq_some_iff.mp h
    cases h
    trivial
  · obtain ⟨label, _, h⟩ := Option.bind_eq_some_iff.mp h
    obtain ⟨raw, hraw, h⟩ := Option.bind_eq_some_iff.mp h
    cases h
    exact hj.oobj hraw
  · cases h

/-- **The values inside an archived payload are ordered.** -/
theorem orderedPayload_of_historical {j : Json} {payload : Payload} (hj : j.Ordered)
    (h : cursorHistoricalPayload? j = some payload) : OrderedPayload payload := by
  obtain ⟨kind, _, h⟩ := Option.bind_eq_some_iff.mp h
  split at h
  · obtain ⟨elems, helems, h⟩ := Option.bind_eq_some_iff.mp h
    obtain ⟨blocks, hblocks, h⟩ := Option.bind_eq_some_iff.mp h
    cases h
    exact orderedUserBlocks_of_historical (ordered_of_oarr hj helems) hblocks
  · obtain ⟨elems, helems, h⟩ := Option.bind_eq_some_iff.mp h
    obtain ⟨blocks, hblocks, h⟩ := Option.bind_eq_some_iff.mp h
    cases h
    intro b hb
    obtain ⟨v, hv, hread⟩ := exists_of_mem_mapM_eq_some hblocks b hb
    exact orderedAssistantBlock_of_historical (ordered_of_oarr hj helems v hv) hread
  · obtain ⟨elems, helems, h⟩ := Option.bind_eq_some_iff.mp h
    obtain ⟨blocks, hblocks, h⟩ := Option.bind_eq_some_iff.mp h
    cases h
    intro b hb
    obtain ⟨v, hv, hread⟩ := exists_of_mem_mapM_eq_some hblocks b hb
    exact orderedEnvBlock_of_historical (ordered_of_oarr hj helems v hv) hread
  · obtain ⟨elems, helems, h⟩ := Option.bind_eq_some_iff.mp h
    obtain ⟨role, _, h⟩ := Option.bind_eq_some_iff.mp h
    obtain ⟨blocks, hblocks, h⟩ := Option.bind_eq_some_iff.mp h
    cases h
    exact orderedUserBlocks_of_historical (ordered_of_oarr hj helems) hblocks
  · obtain ⟨tokensBefore, _, h⟩ := Option.bind_eq_some_iff.mp h
    obtain ⟨summary, _, h⟩ := Option.bind_eq_some_iff.mp h
    obtain ⟨coverage, _, h⟩ := Option.bind_eq_some_iff.mp h
    cases h
    trivial
  · obtain ⟨event, hevent, h⟩ := Option.bind_eq_some_iff.mp h
    obtain ⟨v, hv, hread⟩ := Option.bind_eq_some_iff.mp hevent
    cases h
    exact orderedMetaEvent_of_historical (hj.oobj hv) hread
  · cases h

/-! ### Native content -/

theorem orderedUserBlock_of_read {ctx : String} {j : Json} {b : UserBlock} (hj : j.Ordered)
    (h : userContentBlock ctx j = .ok b) : OrderedUserBlock b := by
  unfold userContentBlock at h
  split at h
  · cases h
    exact hj
  · obtain ⟨s, _, hpure⟩ := bind_ok_iff.mp h
    cases hpure
    trivial
  · cases h
  · cases h
    exact hj
  · cases h

/-- What the blocks read so far from an assistant message are like.  Unless the message has been
found to hold archived calls, all its calls have names and no empty ids. -/
structure ContentRead (acc : AssistantContent) : Prop where
  ordered : ∀ b ∈ acc.blocks, OrderedAssistantBlock b
  filled : ∀ b ∈ acc.blocks, fillToolBlock b = b
  named : acc.disposition = .native → ∀ name args rawId,
    AssistantBlock.toolCall name args rawId ∈ acc.blocks → name.raw ≠ "" ∧ rawId ≠ some ""

/-- A note about an id leaves the blocks as they are. -/
theorem noteToolCallId_blocks (duplicateKind missingKind ctx duplicateDetail missingDetail : String)
    (sourceId? : Option String) (acc : AssistantContent) :
    (noteToolCallId duplicateKind missingKind ctx duplicateDetail missingDetail sourceId?
      acc).blocks = acc.blocks ∧
    (noteToolCallId duplicateKind missingKind ctx duplicateDetail missingDetail sourceId?
      acc).disposition = acc.disposition := by
  unfold noteToolCallId
  cases sourceId? with
  | some _ => exact ⟨rfl, rfl⟩
  | none => exact ⟨rfl, rfl⟩

/-- One more block. -/
theorem ContentRead.concat {acc acc' : AssistantContent} {b : AssistantBlock} (h : ContentRead acc)
    (hblocks : acc'.blocks = acc.blocks ++ [b])
    (hdisposition : acc'.disposition = .native → acc.disposition = .native)
    (hordered : OrderedAssistantBlock b) (hfilled : fillToolBlock b = b)
    (hnamed : acc'.disposition = .native → ∀ name args rawId, b = .toolCall name args rawId →
      name.raw ≠ "" ∧ rawId ≠ some "") : ContentRead acc' := by
  refine ⟨?_, ?_, ?_⟩
  · rw [hblocks]
    exact List.forall_mem_append.mpr ⟨h.ordered, by simpa using hordered⟩
  · rw [hblocks]
    exact List.forall_mem_append.mpr ⟨h.filled, by simpa using hfilled⟩
  · intro hnative name args rawId hmem
    rw [hblocks] at hmem
    rcases List.mem_append.mp hmem with hold | hnew
    · exact h.named (hdisposition hnative) name args rawId hold
    · exact hnamed hnative name args rawId (List.mem_singleton.mp hnew).symm

/-- A derived tool is not derived again. -/
theorem fillToolBlock_derived (raw : String) (args : Json) (rawId : Option String) :
    fillToolBlock (.toolCall { raw, canonical := cursorCanonicalTool (some raw) } args rawId) =
      .toolCall { raw, canonical := cursorCanonicalTool (some raw) } args rawId := by
  rw [fillToolBlock, fillTool_of_derived (Or.inr rfl)]

/-- One block of the assistant keeps what was read in order. -/
theorem assistantContentBlock_read {sourceRef : String} {acc acc' : AssistantContent} {j : Json}
    {blockIdx : Nat} (hj : j.Ordered) (hacc : ContentRead acc)
    (h : assistantContentBlock sourceRef acc j blockIdx = .ok acc') : ContentRead acc' := by
  unfold assistantContentBlock at h
  dsimp only at h
  split at h
  · cases h
    exact hacc.concat rfl id hj rfl fun _ _ _ _ hb => by cases hb
  · obtain ⟨s, _, hpure⟩ := bind_ok_iff.mp h
    cases hpure
    exact hacc.concat rfl id trivial rfl fun _ _ _ _ hb => by cases hb
  · -- a native call
    obtain ⟨srcRaw, _, h⟩ := bind_ok_iff.mp h
    split at h
    · cases h
    next hname =>
      obtain ⟨args, hargs, h⟩ := bind_ok_iff.mp h
      obtain ⟨sourceId, _, h⟩ := bind_ok_iff.mp h
      split at h
      · cases h
      next hid =>
        cases h
        have hnoted := noteToolCallId_blocks
        refine hacc.concat (congrArg (· ++ [_]) (hnoted _ _ _ _ _ _ _).1)
          (fun hnative => (hnoted _ _ _ _ _ _ _).2.symm.trans hnative)
          (hj.oobj (requireField_ok_iff.mp hargs)) (fillToolBlock_derived _ _ _) ?_
        intro _ name args' rawId hb
        cases hb
        exact ⟨by simpa using hname, by simpa using hid⟩
  · -- an archived call makes the message unverified
    obtain ⟨srcRaw, _, h⟩ := bind_ok_iff.mp h
    split at h
    · cases h
    · obtain ⟨args, hargs, h⟩ := bind_ok_iff.mp h
      obtain ⟨sourceId, _, h⟩ := bind_ok_iff.mp h
      cases h
      have hnoted := noteToolCallId_blocks
      exact hacc.concat (congrArg (· ++ [_]) (hnoted _ _ _ _ _ _ _).1)
        (fun hnative => by cases hnative) (hj.oobj (requireField_ok_iff.mp hargs))
        (fillToolBlock_derived _ _ _) fun hnative => by cases hnative
  · cases h
    exact hacc.concat rfl id hj rfl fun _ _ _ _ hb => by cases hb
  · cases h

/-! ### Entries -/

/-- What an entry of an imported session is like.  Its calls are interpreted already, unless they
are archived. -/
structure ImportedEntry (e : Entry) : Prop where
  exportable : Exportable e
  filled : e.disposition = .native → fillTools e.payload = e.payload

/-- What the payload of a record is like. -/
structure PayloadRead (payload : Payload) (disposition : EntryDisposition) : Prop where
  ordered : OrderedPayload payload
  named : disposition = .native → ∀ blocks, payload = .assistantMsg blocks →
    ∀ name args rawId, AssistantBlock.toolCall name args rawId ∈ blocks →
      name.raw ≠ "" ∧ rawId ≠ some ""
  filled : disposition = .native → fillTools payload = payload

/-- A payload without calls. -/
theorem PayloadRead.of_other {payload : Payload} {disposition : EntryDisposition}
    (hordered : OrderedPayload payload) (hother : ∀ blocks, payload ≠ .assistantMsg blocks) :
    PayloadRead payload disposition where
  ordered := hordered
  named _ blocks hpayload := absurd hpayload (hother blocks)
  filled _ := by
    unfold fillTools
    split
    next blocks => exact absurd rfl (hother blocks)
    next => rfl

/-- The payload of a record is in order. -/
theorem recordPayload_read {state state' : ImportState} {sourceRef : String} {j : Json}
    {record : CursorAgentRecord} {line : Nat} {payload : Payload}
    {disposition : EntryDisposition} (hj : j.Ordered)
    (hclass : classifyCursorAgentRecord line j = .ok record)
    (h : recordPayload state sourceRef j record = .ok (payload, disposition, state')) :
    PayloadRead payload disposition := by
  unfold recordPayload at h
  split at h
  · -- an archived payload is unverified
    split at h
    next payload' hpayload =>
      cases h
      obtain ⟨_, h⟩ := guard_bind_eq_some_iff.mp hpayload
      obtain ⟨_, h⟩ := guard_bind_eq_some_iff.mp h
      obtain ⟨rawPayload, hraw, h⟩ := Option.bind_eq_some_iff.mp h
      obtain ⟨strict, hstrict, h⟩ := Option.bind_eq_some_iff.mp h
      obtain ⟨source, _, h⟩ := Option.bind_eq_some_iff.mp h
      obtain ⟨_, h⟩ := guard_bind_eq_some_iff.mp h
      cases h
      obtain ⟨read, hread, h⟩ := Option.bind_eq_some_iff.mp hstrict
      obtain ⟨canonical, _, h⟩ := Option.bind_eq_some_iff.mp h
      obtain ⟨_, h⟩ := guard_bind_eq_some_iff.mp h
      cases h
      have hordered := orderedPayload_of_historical (hj.oobj hraw) hread
      exact ⟨hordered, fun hnative => (by cases hnative), fun hnative => (by cases hnative)⟩
    next => cases h
  · cases h
    exact .of_other hj fun _ hb => by cases hb
  · cases h
    exact .of_other hj fun _ hb => by cases hb
  next content =>
    obtain ⟨blocks, hblocks, hpure⟩ := bind_ok_iff.mp h
    cases hpure
    have hcontent := (messageRecord_of_classify hclass).ordered_content hj
    refine .of_other (fun b hb => ?_) fun _ hb => by cases hb
    obtain ⟨p, hp, hread⟩ := exists_of_mem_mapM_ok hblocks hb
    exact orderedUserBlock_of_read
      (Json.orderedElems_iff.mp hcontent p.1 (List.fst_mem_of_mem_zipIdx hp)) hread
  next content =>
    obtain ⟨final, hfinal, hpure⟩ := bind_ok_iff.mp h
    cases hpure
    have hcontent := (messageRecord_of_classify hclass).ordered_content hj
    have hread : ContentRead final := by
      refine foldlM_ok_invariant (fun _ acc => ContentRead acc) ?_ ⟨by simp, by simp, by simp⟩
        hfinal
      intro done acc p acc' hcut hacc hstep
      have hp : p ∈ content.zipIdx := hcut.subset (by simp)
      exact assistantContentBlock_read
        (Json.orderedElems_iff.mp hcontent p.1 (List.fst_mem_of_mem_zipIdx hp)) hacc hstep
    refine ⟨hread.ordered, fun hnative blocks hb => ?_, fun _ => ?_⟩
    · cases hb
      exact hread.named hnative
    · rw [fillTools, List.map_congr_left hread.filled, List.map_id']
  · cases h

/-- One record of the import loop keeps the entries in order. -/
theorem importStep_imported {state state' : ImportState} {record : Json × Nat}
    (hj : record.1.Ordered) (hentries : ∀ e ∈ state.entries, ImportedEntry e)
    (h : importStep state record = .ok state') : ∀ e ∈ state'.entries, ImportedEntry e := by
  obtain ⟨kind, hclass, h⟩ := bind_ok_iff.mp h
  obtain ⟨⟨payload, disposition, read⟩, hread, hpure⟩ := bind_ok_iff.mp h
  have hpayload := recordPayload_read hj hclass hread
  have hsame := recordPayload_entries hread
  cases hpure
  intro e he
  rcases List.mem_append.mp he with hold | hnew
  · exact hentries e (hsame ▸ hold)
  · cases List.mem_singleton.mp hnew
    refine ⟨⟨⟨hpayload.ordered, ?_⟩, fun _ => hpayload.named⟩, hpayload.filled⟩
    intro extras hextras
    cases hextras
    exact Json.ordered_mkObj (by simpa using hj)

/-- Every record is ordered. -/
theorem ordered_of_mem_cursorAgentRecords {text : String} {jsons : List (Json × Nat)}
    (h : cursorAgentRecords text = .ok jsons) : ∀ record ∈ jsons, record.1.Ordered := by
  intro record hrecord
  obtain ⟨line, _, hread⟩ := exists_of_mem_mapM_ok h hrecord
  obtain ⟨j, hj, hpure⟩ := bind_ok_iff.mp hread
  cases hpure
  unfold cursorAgentParseJsonLine at hj
  split at hj
  · cases hj
  · cases hj
  · split at hj
    next hparse =>
      cases hj
      exact Json.parse_ordered hparse
    next => cases hj

/-- **Every entry of an imported session can be exported.** -/
theorem importCursorAgent_imported {text : String} {t : Transcript}
    (h : importCursorAgent text = .ok t) : ∀ e ∈ t.entries, ImportedEntry e := by
  obtain ⟨jsons, hjsons, h⟩ := bind_ok_iff.mp h
  obtain ⟨state, hloop, hpure⟩ := bind_ok_iff.mp h
  cases hpure
  unfold cursorAgentTranscript
  rw [reviewSourceVersion_entries]
  refine foldlM_ok_invariant
    (fun _ (state : ImportState) => ∀ e ∈ state.entries, ImportedEntry e) ?_ (by simp) hloop
  intro done state record state' hcut hentries hstep
  exact importStep_imported
    (ordered_of_mem_cursorAgentRecords hjsons record (hcut.subset (by simp))) hentries hstep

/-- **A session that is read, written and read again is the same session**: every entry has its
payload, in the same order, and nothing unverified has become native. -/
theorem importCursorAgent_reexport {text : String} {t : Transcript}
    (h : importCursorAgent text = .ok t) {records : List (Json × Nat)}
    (hrecords : records.map Prod.fst = exportCursorAgentEntries t.entries) :
    ∃ state, records.foldlM importStep
        { entries := [], notes := [], entryCounter := 0, usedToolIds := [] } = .ok state ∧
      List.Forall₂ (fun e e' => e'.payload = e.payload ∧
        (e'.disposition = .native → e.disposition = .native)) t.entries state.entries ∧
      ∀ note ∈ state.notes, note.kind ≠ duplicateToolId := by
  have himported := importCursorAgent_imported h
  obtain ⟨state, hloop, hreread, hnotes⟩ :=
    exportCursorAgentEntries_reread (fun e he => (himported e he).exportable) hrecords
  refine ⟨state, hloop, ?_, hnotes⟩
  refine ((List.forall₂_and_left _ _).mpr ⟨himported, hreread⟩).imp ?_
  rintro e e' ⟨himport, hreads⟩
  refine ⟨?_, hreads.disposition⟩
  rcases hreads.payload with hsame | ⟨hnative, hfilled⟩
  · exact hsame
  · rw [hfilled, himport.filled (hreads.disposition hnative)]

end AgentConvert.CursorAgent
