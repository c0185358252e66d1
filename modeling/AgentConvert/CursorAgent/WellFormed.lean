import AgentConvert.CursorAgent.Import
import AgentConvert.Loom.WellFormed

/-!
# Well-formedness of cursor-agent transcripts

The entries of a cursor-agent session are a chain: the parent of each is the one before it.
Native records have no references, so nothing is wrong with the transcript outside archived
payloads (`importCursorAgent_linked`).
-/

namespace AgentConvert.CursorAgent

/-- The entry has the one before it as its parent, and refers to nothing else unless it is
archived. -/
structure ChainEntry (i : Nat) (e : Entry) : Prop where
  parent : e.parent = if i == 0 then none else some (i - 1)
  thread : e.thread = 0
  payload : e.disposition = .native → RefersNowhere e.payload

/-- A native record refers to no other one. -/
theorem recordPayload_native {state state' : ImportState} {sourceRef : String} {j : Json}
    {record : CursorAgentRecord} {payload : Payload} {disposition : EntryDisposition}
    (h : recordPayload state sourceRef j record = .ok (payload, disposition, state'))
    (hnative : disposition = .native) : RefersNowhere payload := by
  unfold recordPayload at h
  split at h
  · -- an archived payload is marked as such
    split at h
    · cases h
      cases hnative
    · cases h
  · cases h
    trivial
  · cases h
    trivial
  · obtain ⟨_, _, hpure⟩ := bind_ok_iff.mp h
    cases hpure
    trivial
  · obtain ⟨_, _, hpure⟩ := bind_ok_iff.mp h
    cases hpure
    trivial
  · cases h

/-- One pass of the loop puts one link at the end of the chain. -/
theorem importStep_chain {state state' : ImportState} {record : Json × Nat}
    (hchain : ∀ i e, state.entries[i]? = some e → ChainEntry i e)
    (h : importStep state record = .ok state') :
    ∀ i e, state'.entries[i]? = some e → ChainEntry i e := by
  obtain ⟨_, _, h⟩ := bind_ok_iff.mp h
  obtain ⟨⟨payload, disposition, read⟩, hread, hpure⟩ := bind_ok_iff.mp h
  have hentries : read.entries = state.entries := recordPayload_entries hread
  have hnative := recordPayload_native hread
  cases hpure
  intro i e he
  rcases Nat.lt_trichotomy i read.entries.length with hlt | rfl | hgt
  · rw [List.getElem?_append_left hlt, hentries] at he
    exact hchain i e he
  · rw [List.getElem?_concat_length] at he
    cases he
    exact ⟨rfl, rfl, hnative⟩
  · rw [List.getElem?_eq_none (by simp; omega)] at he
    cases he

/-- The entries of a session are a chain. -/
theorem importCursorAgent_chain {text : String} {t : Transcript}
    (h : importCursorAgent text = .ok t) :
    ∀ (i : Nat) (e : Entry), t.entries[i]? = some e → ChainEntry i e := by
  obtain ⟨jsons, _, h⟩ := bind_ok_iff.mp h
  obtain ⟨state, hloop, hpure⟩ := bind_ok_iff.mp h
  cases hpure
  unfold cursorAgentTranscript
  rw [reviewSourceVersion_entries]
  refine foldlM_ok_invariant
    (fun _ (state : ImportState) => ∀ i e, state.entries[i]? = some e → ChainEntry i e)
    ?_ ?_ hloop
  · exact fun _ _ _ _ _ => importStep_chain
  · intro i e he
    cases he

/-- **A cursor-agent transcript is well formed outside archived payloads.** -/
theorem importCursorAgent_linked {text : String} {t : Transcript}
    (h : importCursorAgent text = .ok t) : Linked t := by
  have hchain := importCursorAgent_chain h
  obtain ⟨jsons, _, h⟩ := bind_ok_iff.mp h
  obtain ⟨state, hloop, hpure⟩ := bind_ok_iff.mp h
  cases hpure
  refine Linked.of_single_thread (by simp [cursorAgentTranscript])
    (by simp [cursorAgentTranscript]) ?_ ?_ ?_
  · intro i e he p hp
    rw [(hchain i e he).parent] at hp
    split at hp
    · cases hp
    next hpos =>
      cases hp
      have hne : i ≠ 0 := fun hzero => hpos (beq_iff_eq.mpr hzero)
      omega
  · intro e he
    obtain ⟨i, hi, rfl⟩ := List.mem_iff_getElem.mp he
    exact (hchain i _ (List.getElem?_eq_getElem hi)).thread
  · intro i e he hnative
    have hnowhere := (hchain i e he).payload hnative
    exact (payloadCoherent_of_refersNowhere hnowhere).linked

/-- A cursor-agent transcript without archived payloads is well formed. -/
theorem importCursorAgent_wellFormed {text : String} {t : Transcript}
    (h : importCursorAgent text = .ok t) (hnative : ∀ e ∈ t.entries, e.disposition = .native) :
    WellFormed t := by
  refine wellFormed_iff_coherent.mpr ((importCursorAgent_linked h).coherent fun i e he => ?_)
  refine payloadCoherent_of_refersNowhere ((importCursorAgent_chain h i e he).payload ?_)
  exact hnative e (List.mem_of_getElem? he)

end AgentConvert.CursorAgent
