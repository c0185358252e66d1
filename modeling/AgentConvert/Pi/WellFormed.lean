import Mathlib.Data.List.Nodup
import AgentConvert.Pi.Prefix

/-!
# Well-formedness of Pi transcripts

A native record refers to others by name: a tool result by the id of its call, a compaction by
the id of the first entry it kept.  The importer replaces names by places.  Every place it puts
into a transcript is right (`importPi_linked`): a result is linked to an earlier tool call on its
path, and no call is linked to two results (`nodup_resolvedTargets_piResultRefs`).
-/

namespace AgentConvert.Pi

/-! ### Links -/

/-- The entries of a session that are native refer to other entries by name only. -/
theorem namesOnly_of_mem_piRawEntries {lines : List String} {raws : List RawEntry}
    (h : piRawEntries lines = .ok raws) {r : RawEntry} (hr : r ∈ raws)
    (hnative : r.disposition = .native) : NamesOnly r := by
  obtain ⟨item, _, hread⟩ := exists_of_mem_mapM_ok h hr
  obtain ⟨_, _, hread⟩ := bind_ok_iff.mp hread
  obtain ⟨_, _, hfrom⟩ := parseEntry_readFrom r hread
  exact hfrom.1 hnative

theorem exists_of_mem_piEntryCalls {raw : RawEntry} {entryIdx : Nat} {call : PiCallOccurrence}
    (h : call ∈ piEntryCalls raw entryIdx) :
    ∃ blocks name args, raw.payload = .assistantMsg blocks ∧
      blocks[call.block]? = some (.toolCall name args (some call.rawId)) := by
  unfold piEntryCalls at h
  split at h
  next blocks hpayload =>
    obtain ⟨⟨block, blockIdx⟩, hmem, hcall⟩ := List.mem_filterMap.mp h
    dsimp only at hcall
    split at hcall
    next name args rawId =>
      cases hcall
      exact ⟨blocks, name, args, hpayload, List.mem_zipIdx_iff_getElem?.mp hmem⟩
    · cases hcall
  · cases h

/-- An occurrence is a tool call with an id. -/
theorem exists_of_mem_piCallOccurrences {raws : List RawEntry} {call : PiCallOccurrence}
    (h : call ∈ piCallOccurrences raws) :
    ∃ raw blocks name args, raws[call.entry]? = some raw ∧ raw.payload = .assistantMsg blocks ∧
      blocks[call.block]? = some (.toolCall name args (some call.rawId)) := by
  obtain ⟨⟨raw, entryIdx⟩, hmem, hcall⟩ := List.mem_flatMap.mp h
  have hentry : call.entry = entryIdx := entry_of_mem_piEntryCalls hcall
  obtain ⟨blocks, name, args, hpayload, hblock⟩ := exists_of_mem_piEntryCalls hcall
  subst hentry
  exact ⟨raw, blocks, name, args, List.mem_zipIdx_iff_getElem?.mp hmem, hpayload, hblock⟩

/-- The entry may be linked to the call in the block: it is earlier and on the path to the root. -/
structure LinksTo (raws : List RawEntry) (parents : List (Option Nat))
    (entryIdx entry block : Nat) : Prop where
  call : ∃ call ∈ piCallOccurrences raws, call.entry = entry ∧ call.block = block
  earlier : entry < entryIdx
  ancestor : piIsAncestor parents entry entryIdx = true

/-- A free call is one the result may link to, and not yet used. -/
theorem linksTo_of_piCallIsFree {raws : List RawEntry} {parents : List (Option Nat)}
    {used : List (Nat × Nat)} {entryIdx : Nat} {call : PiCallOccurrence}
    (hcall : call ∈ piCallOccurrences raws)
    (hfree : piCallIsFree parents used entryIdx call = true) :
    LinksTo raws parents entryIdx call.entry call.block ∧ (call.entry, call.block) ∉ used := by
  unfold piCallIsFree at hfree
  simp only [Bool.and_eq_true, decide_eq_true_eq, Bool.not_eq_true', List.contains_eq_mem,
    decide_eq_false_iff_not] at hfree
  obtain ⟨⟨hearlier, hancestor⟩, hfresh⟩ := hfree
  exact ⟨⟨⟨call, hcall, rfl, rfl⟩, hearlier, hancestor⟩, hfresh⟩

theorem linksTo_of_mem_piCandidates {raws : List RawEntry} {parents : List (Option Nat)}
    {used : List (Nat × Nat)} {entryIdx : Nat} {rawId : String} {call : PiCallOccurrence}
    (h : call ∈ piCandidates raws parents used entryIdx rawId) :
    LinksTo raws parents entryIdx call.entry call.block ∧ (call.entry, call.block) ∉ used := by
  obtain ⟨hcall, hkeep⟩ := List.mem_filter.mp h
  exact linksTo_of_piCallIsFree hcall (Bool.and_eq_true_iff.mp hkeep).2

theorem linksTo_of_mem_piHistoricalCandidates {raws : List RawEntry}
    {parents : List (Option Nat)} {used : List (Nat × Nat)} {raw : RawEntry}
    {entryIdx sourceEntry sourceBlock : Nat} {call : PiCallOccurrence}
    (h : call ∈ piHistoricalCandidates raws parents used raw entryIdx sourceEntry sourceBlock) :
    LinksTo raws parents entryIdx call.entry call.block ∧ (call.entry, call.block) ∉ used := by
  obtain ⟨⟨candidate, candidateIdx⟩, _, hfound⟩ := List.mem_filterMap.mp h
  dsimp only at hfound
  unfold piHistoricalCandidate at hfound
  split at hfound
  · cases hfound
  · split at hfound
    · have hcall := List.mem_of_find?_eq_some hfound
      have hkeep := List.find?_some hfound
      exact linksTo_of_piCallIsFree hcall (Bool.and_eq_true_iff.mp hkeep).2
    · cases hfound

/-- A resolved link goes to a free call, which is taken from then on. -/
theorem piResultLink_resolved {raws : List RawEntry} {parents : List (Option Nat)}
    {used : List (Nat × Nat)} {raw : RawEntry} {entryIdx entry block : Nat} {link : PiLink}
    (h : piResultLink raws parents used raw entryIdx = some link)
    (href : link.ref = .resolved entry block) :
    (LinksTo raws parents entryIdx entry block ∧ (entry, block) ∉ used) ∧
      link.used = some (entry, block) := by
  unfold piResultLink at h
  split at h
  · split at h
    · cases h
    · split at h
      · cases h
        cases href
      · split at h
        next sourceEntry sourceBlock _ =>
          split at h
          next call hcandidates =>
            have hcall : call ∈ piHistoricalCandidates raws parents used raw entryIdx sourceEntry
                sourceBlock := by
              rw [hcandidates]
              exact List.mem_singleton_self call
            cases h
            cases href
            exact ⟨linksTo_of_mem_piHistoricalCandidates hcall, rfl⟩
          · cases h
            cases href
        · split at h
          · cases h
            cases href
          next rawId _ =>
            split at h
            next call hcandidates =>
              have hcall : call ∈ piCandidates raws parents used entryIdx rawId := by
                rw [hcandidates]
                exact List.mem_singleton_self call
              cases h
              cases href
              exact ⟨linksTo_of_mem_piCandidates hcall, rfl⟩
            · cases h
              cases href
            · cases h
              cases href
  · cases h

/-- The calls that links were resolved to. -/
def resolvedTargets (refs : List (Nat × CallRef)) : List (Nat × Nat) :=
  refs.filterMap fun pair =>
    match pair.2 with
    | .resolved entry block => some (entry, block)
    | .unresolved _ _ => none

/-- What the loop that links tool results keeps: its links go to earlier calls on the path, every
linked call is taken, and none is linked twice. -/
structure PiLinkInv (raws : List RawEntry) (parents : List (Option Nat)) (state : PiLinkState) :
    Prop where
  resolved : ∀ i entry block, (i, CallRef.resolved entry block) ∈ state.refs →
    LinksTo raws parents i entry block
  used : ∀ target ∈ resolvedTargets state.refs, target ∈ state.used
  nodup : (resolvedTargets state.refs).Nodup

/-- One step keeps the invariant. -/
theorem piResultStep_inv {raws : List RawEntry} {parents : List (Option Nat)}
    {state : PiLinkState} (hinv : PiLinkInv raws parents state) (item : RawEntry × Nat) :
    PiLinkInv raws parents (piResultStep raws parents state item) := by
  unfold piResultStep
  cases hlink : piResultLink raws parents state.used item.1 item.2 with
  | none => exact hinv
  | some link =>
    dsimp only
    cases href : link.ref with
    | unresolved rawId note =>
      have htargets : resolvedTargets (state.refs ++ [(item.2, .unresolved rawId note)]) =
          resolvedTargets state.refs := by
        unfold resolvedTargets
        rw [List.filterMap_append]
        exact List.append_nil _
      refine ⟨fun i entry block hmem => ?_, fun target htarget => ?_, ?_⟩
      · rcases List.mem_append.mp hmem with hmem | hmem
        · exact hinv.resolved i entry block hmem
        · cases List.mem_singleton.mp hmem
      · rw [htargets] at htarget
        exact List.mem_append_right _ (hinv.used target htarget)
      · rw [htargets]
        exact hinv.nodup
    | resolved entry block =>
      obtain ⟨⟨hlinks, hfresh⟩, hused⟩ := piResultLink_resolved hlink href
      have htargets : resolvedTargets (state.refs ++ [(item.2, .resolved entry block)]) =
          resolvedTargets state.refs ++ [(entry, block)] := by
        unfold resolvedTargets
        rw [List.filterMap_append]
        rfl
      rw [hused]
      refine ⟨fun i entry' block' hmem => ?_, fun target htarget => ?_, ?_⟩
      · rcases List.mem_append.mp hmem with hmem | hmem
        · exact hinv.resolved i entry' block' hmem
        · cases List.mem_singleton.mp hmem
          exact hlinks
      · rw [htargets] at htarget
        rcases List.mem_append.mp htarget with htarget | htarget
        · exact List.mem_append_right _ (hinv.used target htarget)
        · exact List.mem_append_left _ htarget
      · rw [htargets]
        refine List.nodup_append.mpr ⟨hinv.nodup, List.nodup_singleton _, ?_⟩
        intro target htarget other hother heq
        rw [List.mem_singleton.mp hother] at heq
        subst heq
        exact hfresh (hinv.used _ htarget)

/-- All steps keep the invariant, by induction on the entries. -/
theorem piResultRefs_inv (raws : List RawEntry) (parents : List (Option Nat)) :
    PiLinkInv raws parents (raws.zipIdx.foldl (piResultStep raws parents)
      { refs := [], used := [], notes := [] }) := by
  refine List.foldlRecOn raws.zipIdx _ ?_ fun state hinv item _ => piResultStep_inv hinv item
  exact ⟨by simp, by simp [resolvedTargets], by simp [resolvedTargets]⟩

/-- A resolved link goes to an earlier call on the path to the root. -/
theorem linksTo_of_mem_piResultRefs {raws : List RawEntry} {parents : List (Option Nat)}
    {i entry block : Nat} (h : (i, CallRef.resolved entry block) ∈ (piResultRefs raws parents).1) :
    LinksTo raws parents i entry block :=
  (piResultRefs_inv raws parents).resolved i entry block h

/-- **No call is linked to two results.** -/
theorem nodup_resolvedTargets_piResultRefs (raws : List RawEntry) (parents : List (Option Nat)) :
    (resolvedTargets (piResultRefs raws parents).1).Nodup :=
  (piResultRefs_inv raws parents).nodup

/-! ### Entries -/

/-- A lookup finds an entry there is. -/
theorem lt_of_piEntryLookup {raws : List RawEntry} {k : String} {i : Nat}
    (h : piEntryLookup raws k = some i) : i < raws.length := by
  obtain ⟨pair, hpair, rfl⟩ := Option.map_eq_some_iff.mp h
  obtain ⟨item, hitem, rfl⟩ := List.mem_map.mp (List.mem_of_find?_eq_some hpair)
  simpa using List.snd_lt_of_mem_zipIdx hitem

/-- What resolving the references of an entry makes of its payload. -/
theorem piResolvePayload_cases {lookup : String → Option Nat} {refs : List (Nat × CallRef)}
    {i : Nat} {r : RawEntry} {payload : Payload}
    (h : piResolvePayload lookup refs i r = .ok payload) :
    payload = r.payload ∨
      (∃ call content error, (i, call) ∈ refs ∧
        payload = .envMsg [.toolResult call content error]) ∨
      (∃ summary tokensBefore, payload = .compaction summary .unknownPrefix tokensBefore) ∨
      ∃ summary tokensBefore k firstKept, lookup k = some firstKept ∧
        payload = .compaction summary (.knownPrefix firstKept) tokensBefore := by
  unfold piResolvePayload at h
  split at h
  next hpayload =>
    split at h
    · cases h
      exact Or.inl hpayload.symm
    · split at h
      next call hcall =>
        cases h
        obtain ⟨pair, hpair, rfl⟩ := Option.map_eq_some_iff.mp hcall
        have hidx : pair.1 = i := by simpa using List.find?_some hpair
        refine Or.inr (Or.inl ⟨pair.2, _, _, ?_, rfl⟩)
        rw [← hidx]
        exact List.mem_of_find?_eq_some hpair
      · cases h
  next summary coverage tokensBefore hpayload =>
    split at h
    · cases h
      exact Or.inl hpayload.symm
    · split at h
      · cases h
        exact Or.inr (Or.inr (Or.inl ⟨summary, tokensBefore, rfl⟩))
      next k _ =>
        split at h
        next firstKept hlookup =>
          cases h
          exact Or.inr (Or.inr (Or.inr ⟨summary, tokensBefore, k, firstKept, hlookup, rfl⟩))
        · cases h
  · cases h
    exact Or.inl rfl

/-- Only tool results and compactions are changed when references are resolved. -/
theorem piResolvePayload_assistantMsg {lookup : String → Option Nat}
    {refs : List (Nat × CallRef)} {i : Nat} {r : RawEntry} {payload : Payload}
    {blocks : List AssistantBlock} (hr : r.payload = .assistantMsg blocks)
    (h : piResolvePayload lookup refs i r = .ok payload) : payload = .assistantMsg blocks := by
  unfold piResolvePayload at h
  rw [hr] at h
  exact (Except.ok.inj h).symm

section Entries

variable {raws : List RawEntry} {entries : List Entry} {notes : List ImportNote}
  (h : piLinkedEntries raws = .ok (entries, notes))

include h

/-- Every raw entry becomes one entry. -/
theorem length_piLinkedEntries : entries.length = raws.length := by
  obtain ⟨parents, hparents, hentries⟩ := piLinkedEntries_ok h
  rw [← (mapM_ok_iff.mp hentries).length_eq, List.length_zipIdx, List.length_zip,
    length_piParentIndices hparents, Nat.min_self]

/-- An entry comes from the record at its place. -/
theorem exists_of_getElem?_piLinkedEntries {i : Nat} {e : Entry} (he : entries[i]? = some e) :
    ∃ parents r, piParentIndices raws = .ok parents ∧ raws[i]? = some r ∧
      parents[i]? = some e.parent ∧ e.thread = 0 ∧ e.disposition = r.disposition ∧
      piResolvePayload (piEntryLookup raws) (piResultRefs raws parents).1 i r =
        .ok e.payload := by
  obtain ⟨parents, hparents, hentries⟩ := piLinkedEntries_ok h
  obtain ⟨⟨⟨r, parent⟩, idx⟩, hitem, hentry⟩ := exists_getElem?_of_mapM_ok hentries he
  obtain ⟨payload, hpayload, hpure⟩ := bind_ok_iff.mp hentry
  cases hpure
  rw [List.getElem?_zipIdx] at hitem
  obtain ⟨pair, hpair, heq⟩ := Option.map_eq_some_iff.mp hitem
  cases heq
  obtain ⟨hr, hparent⟩ := List.getElem?_zip_eq_some.mp hpair
  refine ⟨parents, r, hparents, hr, hparent, rfl, rfl, ?_⟩
  simpa using hpayload

/-- A call that a result may be linked to is a call of the transcript. -/
theorem callAt_of_linksTo {parents : List (Option Nat)} {i entry block : Nat}
    (hlinks : LinksTo raws parents i entry block) {t : Transcript} (ht : t.entries = entries) :
    CallAt t entry block := by
  obtain ⟨⟨call, hcall, rfl, rfl⟩, _, _⟩ := hlinks
  obtain ⟨r, blocks, name, args, hr, hblocks, hblock⟩ := exists_of_mem_piCallOccurrences hcall
  have hlt : call.entry < entries.length := by
    rw [length_piLinkedEntries h]
    exact (List.getElem?_eq_some_iff.mp hr).1
  have he : entries[call.entry]? = some entries[call.entry] := List.getElem?_eq_getElem hlt
  obtain ⟨_, r', _, hr', _, _, _, hpayload⟩ := exists_of_getElem?_piLinkedEntries h he
  cases hr.symm.trans hr'
  refine ⟨entries[call.entry], blocks, name, args, some call.rawId, ?_, ?_, hblock⟩
  · rw [ht]
    exact he
  · exact piResolvePayload_assistantMsg hblocks hpayload

/-- Resolving the names of an entry links it to entries of the transcript. -/
theorem payloadLinked_of_namesOnly {t : Transcript} (ht : t.entries = entries) {i : Nat}
    {r : RawEntry} {parents : List (Option Nat)} {payload : Payload} (hnames : NamesOnly r)
    (hpayload : piResolvePayload (piEntryLookup raws) (piResultRefs raws parents).1 i r =
      .ok payload) : PayloadLinked t i payload := by
  rcases piResolvePayload_cases hpayload with rfl | ⟨call, content, error, hmem, rfl⟩ |
    ⟨summary, tokensBefore, rfl⟩ | ⟨summary, tokensBefore, k, firstKept, hlookup, rfl⟩
  · exact (payloadCoherent_of_refersNowhere hnames.1).linked
  · intro b hb
    rw [List.mem_singleton.mp hb]
    cases call with
    | unresolved rawId note => trivial
    | resolved entry block =>
      have hlinks : LinksTo raws parents i entry block := linksTo_of_mem_piResultRefs hmem
      exact ⟨hlinks.earlier, callAt_of_linksTo h hlinks ht⟩
  · trivial
  · show firstKept < t.entries.length
    rw [ht, length_piLinkedEntries h]
    exact lt_of_piEntryLookup hlookup

end Entries

/-- **A Pi transcript is well formed outside archived payloads, up to tool results that were left
unresolved.** -/
theorem importPi_linked {text : String} {t : Transcript} (h : importPi text = .ok t) :
    Linked t := by
  have hlines : piLines text ≠ [] := by
    intro hnil
    unfold importPi at h
    rw [hnil] at h
    cases h
  obtain ⟨header, rest, hlines⟩ := List.exists_cons_of_ne_nil hlines
  obtain ⟨hj, parsedHeader, raws, entries, notes, _, _, hraws, hlinked, rfl⟩ :=
    (importPi_ok_iff hlines).mp h
  refine Linked.of_single_thread (by simp [piTranscript]) (by simp [piTranscript]) ?_ ?_ ?_
  · intro i e he p hp
    rw [piTranscript_entries] at he
    obtain ⟨parents, r, hparents, _, hparent, _⟩ := exists_of_getElem?_piLinkedEntries hlinked he
    rw [hp] at hparent
    exact piParentIndices_decrease hparents i p hparent
  · intro e he
    rw [piTranscript_entries] at he
    obtain ⟨i, hi, rfl⟩ := List.mem_iff_getElem.mp he
    obtain ⟨_, _, _, _, _, hthread, _⟩ :=
      exists_of_getElem?_piLinkedEntries hlinked (List.getElem?_eq_getElem hi)
    exact hthread
  · intro i e he hnative
    rw [piTranscript_entries] at he
    obtain ⟨parents, r, _, hr, _, _, hdisposition, hpayload⟩ :=
      exists_of_getElem?_piLinkedEntries hlinked he
    have hnames : NamesOnly r := by
      refine namesOnly_of_mem_piRawEntries hraws (List.mem_of_getElem? hr) ?_
      rw [← hdisposition]
      exact hnative
    exact payloadLinked_of_namesOnly hlinked (piTranscript_entries ..) hnames hpayload

end AgentConvert.Pi
