import AgentConvert.Pi.Import

/-!
# Links in a first part of a Pi session

A parent stands on an earlier line than its child, and a tool result is linked to a call on the
path above it.  Entries behind a cut change none of these links: the parents of a first part are
the first parents of the session (`piParentIndices_of_isPrefix`), and its links are the first
links (`piResultRefs_append`).

The parents of an accepted session decrease (`piParentIndices_decrease`), which is why the walk
to an ancestor does not depend on how much fuel a longer session gives it.
-/

namespace AgentConvert.Pi

/-! ### Parents -/

/-- The list of all entries only selects the error text. -/
theorem piParentIndex_ok {raws raws' : List RawEntry} {seen : List (String × Nat)}
    {raw : RawEntry} {parent : Option Nat} (h : piParentIndex raws seen raw = .ok parent) :
    piParentIndex raws' seen raw = .ok parent := by
  unfold piParentIndex at h ⊢
  split at h
  · exact h
  · split at h
    · exact h
    · split at h
      · cases h
      · cases h

/-- A step looks at the entries seen so far and not at those that follow. -/
theorem piParentStep_ok {raws raws' : List RawEntry}
    {state state' : List (String × Nat) × List (Option Nat)} {item : RawEntry × Nat}
    (h : piParentStep raws state item = .ok state') :
    piParentStep raws' state item = .ok state' := by
  obtain ⟨parent, hparent, hpure⟩ := bind_ok_iff.mp h
  exact bind_ok_iff.mpr ⟨parent, piParentIndex_ok hparent, hpure⟩

/-- Every parent index is smaller than the index of its child. -/
def ParentsDecrease (parents : List (Option Nat)) : Prop :=
  ∀ child parent : Nat, parents[child]? = some (some parent) → parent < child

/-- What the loop over the entries keeps: it has seen the ids of the entries it is done with, and
their indices are before the next entry. -/
structure PiParentInv (done : List (RawEntry × Nat))
    (state : List (String × Nat) × List (Option Nat)) : Prop where
  names : ∀ id, id ∈ state.1.map Prod.fst ↔ id ∈ done.map fun item => item.1.id
  seen : ∀ pair ∈ state.1, pair.2 < done.length
  length : state.2.length = done.length
  decrease : ParentsDecrease state.2

/-- A parent that was found is among the entries seen before. -/
theorem piParentIndex_mem {raws : List RawEntry} {seen : List (String × Nat)} {raw : RawEntry}
    {parent : Nat} (h : piParentIndex raws seen raw = .ok (some parent)) :
    ∃ pair ∈ seen, pair.2 = parent := by
  unfold piParentIndex at h
  split at h
  · cases h
  · split at h
    next pair hpair =>
      cases h
      exact ⟨pair, List.mem_of_find?_eq_some hpair, rfl⟩
    · split at h
      · cases h
      · cases h

/-- The position of an item of a numbered list is the number of items before it. -/
theorem snd_of_append_singleton_isPrefix_zipIdx {α : Type} {xs : List α}
    {done : List (α × Nat)} {item : α × Nat} (h : done ++ [item] <+: xs.zipIdx) :
    item.2 = done.length := by
  have hget : xs.zipIdx[done.length]? = some item := by
    obtain ⟨rest, hrest⟩ := h
    rw [← hrest]
    simp
  rw [List.getElem?_zipIdx] at hget
  obtain ⟨x, _, rfl⟩ := Option.map_eq_some_iff.mp hget
  simp

/-- One step keeps the invariant. -/
theorem piParentStep_inv {raws : List RawEntry} {done : List (RawEntry × Nat)}
    {state state' : List (String × Nat) × List (Option Nat)} {item : RawEntry × Nat}
    (hitem : item.2 = done.length) (hinv : PiParentInv done state)
    (h : piParentStep raws state item = .ok state') : PiParentInv (done ++ [item]) state' := by
  obtain ⟨parent, hparent, hpure⟩ := bind_ok_iff.mp h
  cases hpure
  refine ⟨?_, ?_, by simp [hinv.length], ?_⟩
  · intro id
    simp only [List.map_cons, List.mem_cons, hinv.names, List.map_append, List.map_nil,
      List.mem_append, List.not_mem_nil, or_false]
    exact or_comm
  · intro pair hpair
    rw [List.length_append, List.length_singleton]
    rcases List.mem_cons.mp hpair with rfl | hpair
    · simp [hitem]
    · exact Nat.lt_succ_of_lt (hinv.seen pair hpair)
  · intro child index hchild
    rcases Nat.lt_trichotomy child state.2.length with hlt | rfl | hgt
    · rw [List.getElem?_append_left hlt] at hchild
      exact hinv.decrease child index hchild
    · rw [List.getElem?_concat_length] at hchild
      cases hchild
      obtain ⟨pair, hpair, rfl⟩ := piParentIndex_mem hparent
      rw [hinv.length]
      exact hinv.seen pair hpair
    · rw [List.getElem?_eq_none (by simp; omega)] at hchild
      cases hchild

/-- The loop over the entries keeps the invariant. -/
theorem piParentLoop_inv {raws entries : List RawEntry}
    {state : List (String × Nat) × List (Option Nat)}
    (h : entries.zipIdx.foldlM (piParentStep raws) ([], []) = .ok state) :
    PiParentInv entries.zipIdx state := by
  have hstart : PiParentInv [] ([], []) := ⟨by simp, by simp, rfl, by simp [ParentsDecrease]⟩
  refine foldlM_ok_invariant PiParentInv ?_ hstart h
  intro done state item state' hcut hinv hstep
  exact piParentStep_inv (snd_of_append_singleton_isPrefix_zipIdx hcut) hinv hstep

/-- The parents are those of a fold over the entries. -/
theorem piParentIndices_ok_iff {raws : List RawEntry} {parents : List (Option Nat)} :
    piParentIndices raws = .ok parents ↔
      ∃ seen, raws.zipIdx.foldlM (piParentStep raws) ([], []) = .ok (seen, parents) := by
  unfold piParentIndices
  rw [bind_ok_iff]
  constructor
  · rintro ⟨⟨seen, all⟩, hloop, hpure⟩
    cases hpure
    exact ⟨seen, hloop⟩
  · rintro ⟨seen, hloop⟩
    exact ⟨(seen, parents), hloop, rfl⟩

/-- There is one parent index for every entry. -/
theorem length_piParentIndices {raws : List RawEntry} {parents : List (Option Nat)}
    (h : piParentIndices raws = .ok parents) : parents.length = raws.length := by
  obtain ⟨seen, hloop⟩ := piParentIndices_ok_iff.mp h
  rw [(piParentLoop_inv hloop).length, List.length_zipIdx]

/-- The parents of accepted entries stand before their children. -/
theorem piParentIndices_decrease {raws : List RawEntry} {parents : List (Option Nat)}
    (h : piParentIndices raws = .ok parents) : ParentsDecrease parents := by
  obtain ⟨seen, hloop⟩ := piParentIndices_ok_iff.mp h
  exact (piParentLoop_inv hloop).decrease

/-- The parents of a first part are a first part of the parents. -/
theorem piParentIndices_of_isPrefix {short full : List RawEntry}
    {parents : List (Option Nat)} (hcut : short <+: full)
    (h : piParentIndices full = .ok parents) :
    ∃ parents', piParentIndices short = .ok parents' ∧ parents' <+: parents := by
  obtain ⟨seen, hloop⟩ := piParentIndices_ok_iff.mp h
  have hzip : short.zipIdx <+: full.zipIdx := by
    obtain ⟨rest, rfl⟩ := hcut
    rw [List.zipIdx_append]
    exact List.prefix_append _ _
  obtain ⟨reached, hreached, rest, hrest⟩ := foldlM_ok_of_isPrefix hzip hloop
  have hsame : short.zipIdx.foldlM (piParentStep short) ([], []) = .ok reached :=
    foldlM_ok_mono (fun _ _ _ => piParentStep_ok) hreached
  refine ⟨reached.2, piParentIndices_ok_iff.mpr ⟨reached.1, hsame⟩, ?_⟩
  refine foldlM_ok_grows Prod.snd ?_ hrest
  intro state item state' hstep
  obtain ⟨parent, _, hpure⟩ := bind_ok_iff.mp hstep
  cases hpure
  exact List.prefix_append _ _

/-! ### Ancestors -/

/-- Below a cut the walk to an ancestor sees the same parents, and has fuel enough in both
sessions: every step goes down. -/
theorem piIsAncestorAux_of_isPrefix {parents' parents : List (Option Nat)}
    (hcut : parents' <+: parents) (hdecrease : ParentsDecrease parents) (ancestor : Nat)
    {current fuel fuel' : Nat} (hcurrent : current < parents'.length) (hfuel : current < fuel)
    (hfuel' : current < fuel') :
    piIsAncestorAux parents' ancestor current fuel' =
      piIsAncestorAux parents ancestor current fuel := by
  induction current using Nat.strongRecOn generalizing fuel fuel' with
  | ind current ih =>
    obtain ⟨fuel, rfl⟩ := Nat.exists_eq_succ_of_ne_zero (Nat.ne_zero_of_lt hfuel)
    obtain ⟨fuel', rfl⟩ := Nat.exists_eq_succ_of_ne_zero (Nat.ne_zero_of_lt hfuel')
    have hget : parents'[current]? = parents[current]? := by
      obtain ⟨rest, rfl⟩ := hcut
      rw [List.getElem?_append_left hcurrent]
    unfold piIsAncestorAux
    rw [hget]
    cases hparent : parents[current]? with
    | none => rfl
    | some parent? =>
      cases parent? with
      | none => rfl
      | some parent =>
        have hlt := hdecrease current parent hparent
        have habove : piIsAncestorAux parents' ancestor parent fuel' =
            piIsAncestorAux parents ancestor parent fuel :=
          ih parent hlt (by omega) (by omega) (by omega)
        dsimp only
        rw [habove]

/-- Ancestry within a part does not depend on what follows. -/
theorem piIsAncestor_of_isPrefix {parents' parents : List (Option Nat)}
    (hcut : parents' <+: parents) (hdecrease : ParentsDecrease parents) (ancestor : Nat)
    {descendant : Nat} (hdescendant : descendant < parents'.length) :
    piIsAncestor parents' ancestor descendant = piIsAncestor parents ancestor descendant := by
  have hlength := hcut.length_le
  have hwalk : piIsAncestorAux parents' ancestor descendant (parents'.length + 1) =
      piIsAncestorAux parents ancestor descendant (parents.length + 1) :=
    piIsAncestorAux_of_isPrefix hcut hdecrease ancestor hdescendant (by omega) (by omega)
  unfold piIsAncestor
  rw [hwalk]

/-! ### Calls -/

theorem entry_of_mem_piEntryCalls {raw : RawEntry} {entryIdx : Nat} {call : PiCallOccurrence}
    (h : call ∈ piEntryCalls raw entryIdx) : call.entry = entryIdx := by
  unfold piEntryCalls at h
  split at h
  · obtain ⟨⟨block, blockIdx⟩, _, hcall⟩ := List.mem_filterMap.mp h
    dsimp only at hcall
    split at hcall
    · cases hcall
      rfl
    · cases hcall
  · cases h

/-- The entries behind a cut add calls that stand behind it. -/
theorem piCallOccurrences_append (short rest : List RawEntry) :
    ∃ later, piCallOccurrences (short ++ rest) = piCallOccurrences short ++ later ∧
      ∀ call ∈ later, short.length ≤ call.entry := by
  refine ⟨(rest.zipIdx short.length).flatMap fun item => piEntryCalls item.1 item.2, ?_, ?_⟩
  · unfold piCallOccurrences
    rw [List.zipIdx_append, List.flatMap_append, Nat.zero_add]
  · intro call hcall
    obtain ⟨item, hitem, hcall⟩ := List.mem_flatMap.mp hcall
    rw [entry_of_mem_piEntryCalls hcall]
    exact List.le_snd_of_mem_zipIdx hitem

section Cut

variable {short : List RawEntry} (rest : List RawEntry) {parents' parents : List (Option Nat)}
  (hcut : parents' <+: parents) (hdecrease : ParentsDecrease parents)
  (hlength : parents'.length = short.length)

include hcut hdecrease in
/-- Whether a call is free does not depend on what follows. -/
theorem piCallIsFree_of_isPrefix (used : List (Nat × Nat)) {entryIdx : Nat}
    (hentry : entryIdx < parents'.length) (call : PiCallOccurrence) :
    piCallIsFree parents' used entryIdx call = piCallIsFree parents used entryIdx call := by
  unfold piCallIsFree
  rw [piIsAncestor_of_isPrefix hcut hdecrease call.entry hentry]

/-- A call behind an entry is not free for it. -/
theorem piCallIsFree_of_le {used : List (Nat × Nat)} {entryIdx : Nat} {call : PiCallOccurrence}
    (h : entryIdx ≤ call.entry) : piCallIsFree parents used entryIdx call = false := by
  unfold piCallIsFree
  rw [decide_eq_false (Nat.not_lt.mpr h)]
  rfl

include hcut hdecrease hlength in
/-- A result before the cut has the same candidates in both sessions. -/
theorem piCandidates_of_isPrefix (used : List (Nat × Nat)) {entryIdx : Nat}
    (hentry : entryIdx < short.length) (rawId : String) :
    piCandidates short parents' used entryIdx rawId =
      piCandidates (short ++ rest) parents used entryIdx rawId := by
  obtain ⟨later, hcalls, hlater⟩ := piCallOccurrences_append short rest
  have hnone : later.filter (fun call =>
      call.rawId == rawId && piCallIsFree parents used entryIdx call) = [] := by
    rw [List.filter_eq_nil_iff]
    intro call hcall
    have hbehind := hlater call hcall
    simp [piCallIsFree_of_le (show entryIdx ≤ call.entry by omega)]
  unfold piCandidates
  rw [hcalls, List.filter_append, hnone, List.append_nil]
  refine List.filter_congr fun call _ => ?_
  rw [piCallIsFree_of_isPrefix hcut hdecrease used (by omega) call]

include hcut hdecrease hlength in
theorem piHistoricalCandidate_of_isPrefix (used : List (Nat × Nat)) (raw : RawEntry)
    {entryIdx : Nat} (hentry : entryIdx < short.length) (sourceEntry sourceBlock : Nat)
    (candidate : RawEntry) (candidateIdx : Nat) :
    piHistoricalCandidate short parents' used raw entryIdx sourceEntry sourceBlock candidate
        candidateIdx =
      piHistoricalCandidate (short ++ rest) parents used raw entryIdx sourceEntry sourceBlock
        candidate candidateIdx := by
  obtain ⟨later, hcalls, hlater⟩ := piCallOccurrences_append short rest
  unfold piHistoricalCandidate
  split
  · rfl
  · split
    next mappedBlock _ =>
      have hnone : later.find? (fun call =>
          call.entry == candidateIdx && call.block == mappedBlock &&
            raw.toolResultId == some call.rawId &&
            piCallIsFree parents used entryIdx call) = none := by
        rw [List.find?_eq_none]
        intro call hcall
        have hbehind := hlater call hcall
        simp [piCallIsFree_of_le (show entryIdx ≤ call.entry by omega)]
      rw [hcalls, List.find?_append, hnone, Option.or_none]
      simp only [piCallIsFree_of_isPrefix hcut hdecrease used (hlength.symm ▸ hentry)]
    · rfl

/-- An archived entry behind the result has no call for it. -/
theorem piHistoricalCandidate_of_le {raws : List RawEntry} {used : List (Nat × Nat)}
    {raw candidate : RawEntry} {entryIdx candidateIdx sourceEntry sourceBlock : Nat}
    (h : entryIdx ≤ candidateIdx) :
    piHistoricalCandidate raws parents used raw entryIdx sourceEntry sourceBlock candidate
      candidateIdx = none := by
  unfold piHistoricalCandidate
  split
  · rfl
  · split
    · rw [List.find?_eq_none]
      intro call _ hcall
      simp only [Bool.and_eq_true, beq_iff_eq] at hcall
      obtain ⟨⟨⟨hentry, _⟩, _⟩, hfree⟩ := hcall
      rw [piCallIsFree_of_le (by omega)] at hfree
      cases hfree
    · rfl

include hcut hdecrease hlength in
/-- The candidates of an archived result do not depend on what follows. -/
theorem piHistoricalCandidates_of_isPrefix (used : List (Nat × Nat)) (raw : RawEntry)
    {entryIdx : Nat} (hentry : entryIdx < short.length) (sourceEntry sourceBlock : Nat) :
    piHistoricalCandidates short parents' used raw entryIdx sourceEntry sourceBlock =
      piHistoricalCandidates (short ++ rest) parents used raw entryIdx sourceEntry
        sourceBlock := by
  unfold piHistoricalCandidates
  rw [List.zipIdx_append, List.filterMap_append]
  have hbehind : (rest.zipIdx (0 + short.length)).filterMap (fun item =>
      piHistoricalCandidate (short ++ rest) parents used raw entryIdx sourceEntry sourceBlock
        item.1 item.2) = [] := by
    rw [List.filterMap_eq_nil_iff]
    intro item hitem
    have hle := List.le_snd_of_mem_zipIdx hitem
    exact piHistoricalCandidate_of_le (by omega)
  rw [hbehind, List.append_nil]
  refine List.filterMap_congr fun item _ => ?_
  exact piHistoricalCandidate_of_isPrefix rest hcut hdecrease hlength used raw hentry sourceEntry
    sourceBlock item.1 item.2

include hcut hdecrease hlength in
/-- A result before the cut is linked in the same way in both sessions. -/
theorem piResultLink_of_isPrefix (used : List (Nat × Nat)) (raw : RawEntry) {entryIdx : Nat}
    (hentry : entryIdx < short.length) :
    piResultLink short parents' used raw entryIdx =
      piResultLink (short ++ rest) parents used raw entryIdx := by
  unfold piResultLink
  simp only [piCandidates_of_isPrefix rest hcut hdecrease hlength used hentry,
    piHistoricalCandidates_of_isPrefix rest hcut hdecrease hlength used raw hentry]

end Cut

/-! ### Tool results -/

/-- An entry that holds a tool result. -/
def RawEntry.IsToolResult (raw : RawEntry) : Prop :=
  raw.payload = .envMsg [] ∧ raw.toolResultId.isSome

/-- A tool result always gets a link, resolved or not. -/
theorem piResultLink_isSome {raws : List RawEntry} {parents : List (Option Nat)}
    {used : List (Nat × Nat)} {raw : RawEntry} {entryIdx : Nat} (h : raw.IsToolResult) :
    (piResultLink raws parents used raw entryIdx).isSome := by
  obtain ⟨hpayload, hid⟩ := h
  unfold piResultLink
  rw [hpayload]
  obtain ⟨rawId, hrawId⟩ := Option.isSome_iff_exists.mp hid
  simp only [hrawId, Option.isNone_some, Bool.false_and, Bool.false_eq_true, if_false]
  split
  · rfl
  · split
    · split <;> rfl
    · split <;> rfl

/-- One pass of the loop keeps every link, and adds none but for its entry: one for a tool
result. -/
theorem piResultStep_refs (raws : List RawEntry) (parents : List (Option Nat))
    (state : PiLinkState) (item : RawEntry × Nat) :
    ∃ added, (piResultStep raws parents state item).refs = state.refs ++ added ∧
      (∀ pair ∈ added, pair.1 = item.2) ∧
      (item.1.IsToolResult → ∃ ref, (item.2, ref) ∈ added) := by
  unfold piResultStep
  cases hlink : piResultLink raws parents state.used item.1 item.2 with
  | none =>
    refine ⟨[], by simp, by simp, fun hresult => ?_⟩
    have hsome : (piResultLink raws parents state.used item.1 item.2).isSome :=
      piResultLink_isSome hresult
    rw [hlink] at hsome
    cases hsome
  | some link => exact ⟨[(item.2, link.ref)], rfl, by simp, fun _ => ⟨link.ref, by simp⟩⟩

/-- The whole loop keeps every link, and adds one for every tool result among its entries. -/
theorem foldl_piResultStep_refs (raws : List RawEntry) (parents : List (Option Nat))
    (items : List (RawEntry × Nat)) (start : PiLinkState) :
    ∃ added, (items.foldl (piResultStep raws parents) start).refs = start.refs ++ added ∧
      (∀ pair ∈ added, ∃ item ∈ items, pair.1 = item.2) ∧
      ∀ item ∈ items, item.1.IsToolResult → ∃ ref, (item.2, ref) ∈ added := by
  induction items generalizing start with
  | nil => exact ⟨[], by simp, by simp, by simp⟩
  | cons item items ih =>
    obtain ⟨first, hfirst, hown, hlinked⟩ := piResultStep_refs raws parents start item
    obtain ⟨later, hlater, hothers, hlinkedLater⟩ := ih (piResultStep raws parents start item)
    refine ⟨first ++ later, ?_, fun pair hpair => ?_, fun other hother hresult => ?_⟩
    · rw [List.foldl_cons, hlater, hfirst, List.append_assoc]
    · rcases List.mem_append.mp hpair with hpair | hpair
      · exact ⟨item, List.mem_cons_self, hown pair hpair⟩
      · obtain ⟨other, hother, heq⟩ := hothers pair hpair
        exact ⟨other, List.mem_cons_of_mem _ hother, heq⟩
    · rcases List.mem_cons.mp hother with rfl | hother
      · obtain ⟨ref, href⟩ := hlinked hresult
        exact ⟨ref, List.mem_append_left _ href⟩
      · obtain ⟨ref, href⟩ := hlinkedLater other hother hresult
        exact ⟨ref, List.mem_append_right _ href⟩

/-- After the loop every tool result has a link. -/
theorem piResultRefs_of_isToolResult {raws : List RawEntry} {parents : List (Option Nat)}
    {raw : RawEntry} {i : Nat} (hmem : (raw, i) ∈ raws.zipIdx) (hresult : raw.IsToolResult) :
    ∃ ref, (i, ref) ∈ (piResultRefs raws parents).1 := by
  obtain ⟨added, hrefs, _, hlinked⟩ :=
    foldl_piResultStep_refs raws parents raws.zipIdx { refs := [], used := [], notes := [] }
  obtain ⟨ref, href⟩ := hlinked (raw, i) hmem hresult
  refine ⟨ref, ?_⟩
  unfold piResultRefs
  dsimp only
  rw [hrefs]
  exact List.mem_append_right _ href

/-- **The links of a first part are the first links of the session.** -/
theorem piResultRefs_append {short : List RawEntry} (rest : List RawEntry)
    {parents' parents : List (Option Nat)} (hcut : parents' <+: parents)
    (hdecrease : ParentsDecrease parents) (hlength : parents'.length = short.length) :
    ∃ later, (piResultRefs (short ++ rest) parents).1 =
        (piResultRefs short parents').1 ++ later ∧
      ∀ pair ∈ later, short.length ≤ pair.1 := by
  have hstep : ∀ state, ∀ item ∈ short.zipIdx,
      piResultStep short parents' state item = piResultStep (short ++ rest) parents state item := by
    intro state item hitem
    have hentry : item.2 < short.length := by
      simpa using List.snd_lt_of_mem_zipIdx hitem
    unfold piResultStep
    rw [piResultLink_of_isPrefix rest hcut hdecrease hlength state.used item.1 hentry]
  obtain ⟨later, hlater, hbehind, _⟩ := foldl_piResultStep_refs (short ++ rest) parents
    (rest.zipIdx short.length)
    (short.zipIdx.foldl (piResultStep (short ++ rest) parents)
      { refs := [], used := [], notes := [] })
  refine ⟨later, ?_, fun pair hpair => ?_⟩
  · unfold piResultRefs
    dsimp only
    rw [List.zipIdx_append, List.foldl_append, Nat.zero_add, hlater,
      List.foldl_ext _ _ _ hstep]
  · obtain ⟨item, hitem, heq⟩ := hbehind pair hpair
    rw [heq]
    exact List.le_snd_of_mem_zipIdx hitem

/-- The link of an entry of a first part is its link in the session. -/
theorem find?_piResultRefs_of_isPrefix {short : List RawEntry} (rest : List RawEntry)
    {parents' parents : List (Option Nat)} (hcut : parents' <+: parents)
    (hdecrease : ParentsDecrease parents) (hlength : parents'.length = short.length)
    {entryIdx : Nat} (hentry : entryIdx < short.length) :
    (piResultRefs (short ++ rest) parents).1.find? (fun pair => pair.1 == entryIdx) =
      (piResultRefs short parents').1.find? fun pair => pair.1 == entryIdx := by
  obtain ⟨later, hlater, hbehind⟩ := piResultRefs_append rest hcut hdecrease hlength
  have hnone : later.find? (fun pair => pair.1 == entryIdx) = none := by
    rw [List.find?_eq_none]
    intro pair hpair
    have hle := hbehind pair hpair
    rw [beq_iff_eq]
    omega
  rw [hlater, List.find?_append, hnone, Option.or_none]

end AgentConvert.Pi
