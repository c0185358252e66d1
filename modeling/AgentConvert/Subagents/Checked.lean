import Mathlib.Data.List.Nodup
import AgentConvert.Lib.Fallible
import AgentConvert.Subagents.WellFormed

/-!
# What the checked stitch accepts

The id of a spawning call is evidence for an anchor only when it identifies one call
(`findAnchor_eq_some_iff`).  Given coherent transcripts, the checked stitch accepts exactly the
children whose metadata do not contradict the main session (`stitchSubagentsChecked_ok_iff`).

## Main statements

* `findAnchor_eq_some_iff` — an anchor that is found is the only call with the id
* `validateSubagentChild_ok_iff` — what is asked of one child
* `stitchSubagentsChecked_ok_iff` — what the checked stitch accepts, and what it returns
-/

namespace AgentConvert.Subagents

variable {main : Transcript} {c : SubagentChild}

/-! ### Calls with an id -/

/-- The block is a tool call with the id. -/
def CallNamed (t : Transcript) (entry block : Nat) (id : String) : Prop :=
  ∃ e blocks name args, t.entries[entry]? = some e ∧ e.payload = .assistantMsg blocks ∧
    blocks[block]? = some (.toolCall name args (some id))

/-- A named call is a call. -/
theorem CallNamed.callAt {t : Transcript} {entry block : Nat} {id : String}
    (h : CallNamed t entry block id) : CallAt t entry block := by
  obtain ⟨e, blocks, name, args, he, hpayload, hcall⟩ := h
  exact ⟨e, blocks, name, args, some id, he, hpayload, hcall⟩

/-- A block is an anchor when it is the call of that identifier. -/
theorem anchorOfBlock?_eq_some_iff {toolUseId : String} {ei : Nat} {item : AssistantBlock × Nat}
    {anchor : Nat × Nat} : anchorOfBlock? toolUseId ei item = some anchor ↔
      anchor = (ei, item.2) ∧ ∃ name args, item.1 = .toolCall name args (some toolUseId) := by
  unfold anchorOfBlock?
  constructor
  · intro h
    split at h
    next name args rid hblock =>
      split at h
      next hid =>
        rw [beq_iff_eq] at hid
        subst hid
        exact ⟨(Option.some.inj h).symm, name, args, hblock⟩
      · cases h
    · cases h
  · rintro ⟨rfl, name, args, hblock⟩
    simp [hblock]

/-- The anchors of an entry are its calls of that identifier. -/
theorem mem_anchorsOfEntry {toolUseId : String} {item : Entry × Nat} {anchor : Nat × Nat} :
    anchor ∈ anchorsOfEntry toolUseId item ↔ anchor.1 = item.2 ∧
      ∃ blocks name args, item.1.payload = .assistantMsg blocks ∧
        blocks[anchor.2]? = some (.toolCall name args (some toolUseId)) := by
  unfold anchorsOfEntry
  constructor
  · intro h
    split at h
    next blocks hpayload =>
      obtain ⟨⟨b, bi⟩, hb, hanchor⟩ := List.mem_filterMap.mp h
      obtain ⟨rfl, name, args, rfl⟩ := anchorOfBlock?_eq_some_iff.mp hanchor
      exact ⟨rfl, blocks, name, args, hpayload, List.mem_zipIdx_iff_getElem?.mp hb⟩
    · cases h
  · rintro ⟨hentry, blocks, name, args, hpayload, hcall⟩
    simp only [hpayload]
    refine List.mem_filterMap.mpr ⟨(.toolCall name args (some toolUseId), anchor.2),
      List.mem_zipIdx_iff_getElem?.mpr hcall, ?_⟩
    exact anchorOfBlock?_eq_some_iff.mpr ⟨Prod.ext hentry rfl, name, args, rfl⟩

/-- The anchors of a transcript are its calls of that identifier. -/
theorem mem_findAnchors {toolUseId : String} {anchor : Nat × Nat} :
    anchor ∈ findAnchors main toolUseId ↔ CallNamed main anchor.1 anchor.2 toolUseId := by
  unfold findAnchors CallNamed
  rw [List.mem_flatMap]
  constructor
  · rintro ⟨⟨e, ei⟩, he, hanchor⟩
    obtain ⟨hentry, blocks, name, args, hpayload, hcall⟩ := mem_anchorsOfEntry.mp hanchor
    have hget : main.entries[anchor.1]? = some e := by
      rw [hentry]
      exact List.mem_zipIdx_iff_getElem?.mp he
    exact ⟨e, blocks, name, args, hget, hpayload, hcall⟩
  · rintro ⟨e, blocks, name, args, he, hpayload, hcall⟩
    exact ⟨(e, anchor.1), List.mem_zipIdx_iff_getElem?.mpr he,
      mem_anchorsOfEntry.mpr ⟨rfl, blocks, name, args, hpayload, hcall⟩⟩

theorem pairwise_zipIdx {α : Type} (xs : List α) :
    xs.zipIdx.Pairwise fun p q => p.2 < q.2 := by
  rw [← List.pairwise_map (f := Prod.snd), List.zipIdx_map_snd]
  exact List.pairwise_lt_range'

/-- A call is listed once. -/
theorem nodup_findAnchors (main : Transcript) (toolUseId : String) :
    (findAnchors main toolUseId).Nodup := by
  unfold findAnchors
  rw [List.nodup_flatMap]
  constructor
  · rintro ⟨e, ei⟩ -
    unfold anchorsOfEntry
    split
    next blocks _ =>
      refine List.Pairwise.filterMap _ (fun p q hlt a ha b hb => ?_) (pairwise_zipIdx blocks)
      obtain ⟨rfl, -⟩ := anchorOfBlock?_eq_some_iff.mp ha
      obtain ⟨rfl, -⟩ := anchorOfBlock?_eq_some_iff.mp hb
      exact fun hsame => Nat.ne_of_lt hlt (Prod.ext_iff.mp hsame).2
    · exact List.nodup_nil
  · refine (pairwise_zipIdx main.entries).imp fun {p q} hlt anchor hp hq => ?_
    have hfirst := (mem_anchorsOfEntry.mp hp).1
    have hsecond := (mem_anchorsOfEntry.mp hq).1
    omega

/-- A list without repetition that has one element is that element. -/
theorem eq_singleton_iff_of_nodup {α : Type} {xs : List α} (h : xs.Nodup) {a : α} :
    xs = [a] ↔ ∀ b, b ∈ xs ↔ b = a := by
  constructor
  · rintro rfl b
    exact List.mem_singleton
  · intro hmem
    exact (List.perm_singleton.mp ((List.perm_ext_iff_of_nodup h (List.nodup_singleton a)).mpr
      fun b => (hmem b).trans List.mem_singleton.symm))

/-- **An anchor that is found is the only call with the id**, and the only call with the id is
found. -/
theorem findAnchor_eq_some_iff {toolUseId : String} {anchor : Nat × Nat} :
    findAnchor main toolUseId = some anchor ↔
      ∀ entry block, CallNamed main entry block toolUseId ↔ (entry, block) = anchor := by
  have hsingle : findAnchor main toolUseId = some anchor ↔
      findAnchors main toolUseId = [anchor] := by
    unfold findAnchor
    split
    next found hfound => rw [hfound]; simp
    next hfound =>
      simp only [reduceCtorEq, false_iff]
      exact hfound anchor
  rw [hsingle, eq_singleton_iff_of_nodup (nodup_findAnchors main toolUseId)]
  constructor
  · intro h entry block
    exact mem_findAnchors.symm.trans (h (entry, block))
  · intro h found
    exact mem_findAnchors.trans (h found.1 found.2)

/-! ### What is asked of a child -/

/-- The call of the anchor has the id that the child names, if it names one. -/
def AnchorNamed (main : Transcript) (entry block : Nat) (toolUseId : Option String) : Prop :=
  ∀ id, toolUseId = some id → CallNamed main entry block id

/-- The metadata of a child do not contradict the main session. -/
structure ChildAccepted (main : Transcript) (c : SubagentChild) : Prop where
  fits : ThreadFits main c
  leaf : c.globalActive = true → c.transcript.activeLeaf.isSome = true
  named : ∀ entry block, c.threadKindOverride = some (.sidechain (.resolved entry block)) →
    AnchorNamed main entry block c.toolUseId
  detached : ∀ note, c.threadKindOverride = some (.detached note) → c.toolUseId = none

/-- There is one main thread, and it is the one that the checks of a transcript look for. -/
theorem mainThreadIndices_of_count (h : mainThreadCount main = 1) :
    ∃ m, mainThreadIndices main = [m] ∧ mainThreadIndex? main = some m := by
  have hindices : mainThreadIndices main =
      (main.threads.zipIdx.filter fun p => p.1.kind == ThreadKind.main).map Prod.snd := by
    unfold mainThreadIndices
    rw [← List.filterMap_eq_map, List.filterMap_filter]
    rfl
  have hlength : (main.threads.zipIdx.filter fun p => p.1.kind == ThreadKind.main).length = 1 := by
    rw [← List.countP_eq_length_filter, ← h]
    unfold mainThreadCount
    conv_rhs => rw [← List.zipIdx_map_fst 0 main.threads, List.countP_map]
    rfl
  obtain ⟨p, hp⟩ := List.length_eq_one_iff.mp hlength
  refine ⟨p.2, ?_, ?_⟩
  · rw [hindices, hp]
    rfl
  · unfold mainThreadIndex?
    rw [← List.head?_filter, hp]
    rfl

/-- **An exact anchor is accepted when it is a call of the main thread with the named id.** -/
theorem validateExactSidechainAnchor_ok_iff (hmain : mainThreadCount main = 1)
    {agentId : String} {toolUseId : Option String} {entry block : Nat} :
    validateExactSidechainAnchor main agentId toolUseId entry block = .ok () ↔
      AnchorCoherent main (.sidechain (.resolved entry block)) ∧
        AnchorNamed main entry block toolUseId := by
  obtain ⟨m, hindices, hindex⟩ := mainThreadIndices_of_count hmain
  unfold validateExactSidechainAnchor
  rw [hindices]
  simp only [pure_bind, AnchorCoherent, hindex, Option.some.injEq]
  constructor
  · intro h
    split at h
    next e he =>
      split at h
      · cases h
      next hthread =>
        have hthread : e.thread = m := by simpa using hthread
        split at h
        next blocks hpayload =>
          split at h
          next name args rawId hcall =>
            refine ⟨⟨⟨e, blocks, name, args, rawId, he, hpayload, hcall⟩, ?_⟩, fun id hid => ?_⟩
            · rintro e' main' he' rfl
              cases he.symm.trans he'
              exact hthread
            · subst hid
              dsimp only at h
              split at h
              next actual =>
                split at h
                next hactual =>
                  rw [beq_iff_eq] at hactual
                  subst hactual
                  exact ⟨e, blocks, name, args, he, hpayload, hcall⟩
                · cases h
              · cases h
          · cases h
          · cases h
        · cases h
    · cases h
  · rintro ⟨⟨⟨e, blocks, name, args, rawId, he, hpayload, hcall⟩, hthread⟩, hnamed⟩
    have hsame : e.thread = m := hthread e m he rfl
    simp only [he, hsame, bne_self_eq_false, Bool.false_eq_true, if_false, hpayload,
      hcall]
    cases toolUseId with
    | none => rfl
    | some expected =>
      obtain ⟨e', blocks', name', args', he', hpayload', hcall'⟩ := hnamed expected rfl
      cases he.symm.trans he'
      cases hpayload.symm.trans hpayload'
      cases hcall.symm.trans hcall'
      simp [pure, Except.pure]

/-- **What is asked of one child.** -/
theorem validateSubagentChild_ok_iff (hmain : mainThreadCount main = 1) :
    validateSubagentChild main c = .ok () ↔
      (c.globalActive = true → c.transcript.activeLeaf.isSome = true) ∧
      (∀ kind, c.threadKindOverride = some kind → kind ≠ .main ∧ AnchorCoherent main kind) ∧
      (∀ entry block, c.threadKindOverride = some (.sidechain (.resolved entry block)) →
        AnchorNamed main entry block c.toolUseId) ∧
      (∀ note, c.threadKindOverride = some (.detached note) → c.toolUseId = none) := by
  unfold validateSubagentChild
  dsimp only
  by_cases hleaf : c.globalActive = true → c.transcript.activeLeaf.isSome = true
  · have hguard : (c.globalActive && c.transcript.activeLeaf.isNone) = false := by
      cases hactive : c.globalActive with
      | false => rfl
      | true => simpa using hleaf hactive
    rw [hguard, if_neg Bool.false_ne_true]
    rw [and_iff_right hleaf]
    cases hkind : c.threadKindOverride with
    | none => simp [pure, Except.pure]
    | some kind =>
      cases kind with
      | main => simp
      | sidechain anchor =>
        cases anchor with
        | unresolved rawId note => simp [AnchorCoherent]
        | resolved entry block =>
          refine (validateExactSidechainAnchor_ok_iff hmain).trans ?_
          simp
      | detached note =>
        cases hid : c.toolUseId with
        | none => simp [AnchorCoherent, pure, Except.pure]
        | some id => simp
  · have hguard : (c.globalActive && c.transcript.activeLeaf.isNone) = true := by
      simpa using hleaf
    rw [hguard, if_pos rfl]
    simp only [reduceCtorEq, false_iff]
    exact fun h => hleaf h.1

/-! ### The checked stitch -/

/-- No child is inferred to be the main thread. -/
theorem inferredKind_ne_main (main : Transcript) (toolUseId : Option String) :
    inferredKind main toolUseId ≠ .main := by
  unfold inferredKind
  split
  · exact fun h => by cases h
  · split
    · exact fun h => by cases h
    · exact fun h => by cases h
    · exact fun h => by cases h

/-- An anchor that was inferred is a call with the id of the child. -/
theorem callNamed_of_inferredKind {toolUseId : Option String} {entry block : Nat}
    (h : inferredKind main toolUseId = .sidechain (.resolved entry block)) :
    ∃ id, toolUseId = some id ∧ CallNamed main entry block id := by
  unfold inferredKind at h
  split at h
  · cases h
  next id =>
    split at h
    next hanchors =>
      cases h
      have hmem : (entry, block) ∈ findAnchors main id := by
        rw [hanchors]
        exact List.mem_singleton_self _
      exact ⟨id, rfl, mem_findAnchors.mp hmem⟩
    · cases h
    · cases h

theorem inferredKind_ne_unresolved (main : Transcript) (toolUseId rawId : Option String)
    (note : String) : inferredKind main toolUseId ≠ .sidechain (.unresolved rawId note) := by
  unfold inferredKind
  split
  · exact fun h => by cases h
  · split
    · exact fun h => by cases h
    · exact fun h => by cases h
    · exact fun h => by cases h

/-- An inferred thread fits when its anchor is in order in the combined transcript: the anchor is
an entry of the main session, where nothing was changed. -/
theorem threadFits_of_inferred (hcount : mainThreadCount main = 1) {t : Transcript}
    (hthreads : main.threads <+: t.threads) (hentries : main.entries <+: t.entries)
    (hkind : c.threadKindOverride = none) (h : AnchorCoherent t (childKind main c)) :
    ThreadFits main c := by
  have hchild : childKind main c = inferredKind main c.toolUseId := by
    unfold childKind
    rw [hkind]
    rfl
  rw [hchild] at h
  refine ⟨by rw [hchild]; exact inferredKind_ne_main _ _, ?_⟩
  rw [hchild]
  cases hinferred : inferredKind main c.toolUseId with
  | main => trivial
  | detached note => trivial
  | sidechain anchor =>
    cases anchor with
    | unresolved rawId note => exact absurd hinferred (inferredKind_ne_unresolved _ _ _ _)
    | resolved entry block =>
      obtain ⟨id, _, hcall⟩ := callNamed_of_inferredKind hinferred
      have hindex := mainThreadIndex?_extend hthreads (by omega)
      rw [hinferred] at h
      exact (anchorCoherent_extend_iff hentries hindex (lt_of_callAt hcall.callAt)).mp h

/-- Two claims on the active leaf are refused; otherwise every child is validated, and the result
is checked. -/
theorem stitchSubagentsChecked_eq_ok_iff {children : List SubagentChild} {t : Transcript} :
    stitchSubagentsChecked main children = .ok t ↔
      (children.countP fun c => c.globalActive) ≤ 1 ∧
      (∀ c ∈ children, validateSubagentChild main c = .ok ()) ∧
      WellFormed (stitchSubagents main children) ∧ t = stitchSubagents main children := by
  unfold stitchSubagentsChecked
  dsimp only
  rw [← List.countP_eq_length_filter]
  split
  next hmany => simp [Nat.not_le.mpr hmany]
  next hfew =>
    rw [bind_ok_iff]
    simp only [forM_ok_iff, Nat.not_lt.mp hfew, true_and]
    unfold WellFormed
    constructor
    · rintro ⟨_, hvalid, h⟩
      split at h
      next hempty =>
        cases h
        exact ⟨hvalid, List.isEmpty_iff.mp hempty, rfl⟩
      · cases h
    · rintro ⟨hvalid, hempty, rfl⟩
      refine ⟨(), hvalid, ?_⟩
      rw [hempty]
      rfl

/-- **Given coherent transcripts, the checked stitch refuses contradictory metadata and nothing
else**: its check of the result never fires. -/
theorem stitchSubagentsChecked_ok_iff (hmain : Coherent main) {children : List SubagentChild}
    (hchildren : ∀ c ∈ children, Coherent c.transcript) {t : Transcript} :
    stitchSubagentsChecked main children = .ok t ↔
      (children.countP fun c => c.globalActive) ≤ 1 ∧ (∀ c ∈ children, ChildAccepted main c) ∧
        t = stitchSubagents main children := by
  rw [stitchSubagentsChecked_eq_ok_iff]
  simp only [validateSubagentChild_ok_iff hmain.mainThread]
  constructor
  · rintro ⟨hfew, hvalid, hwell, rfl⟩
    refine ⟨hfew, fun c hc => ?_, rfl⟩
    obtain ⟨hleaf, hkind, hnamed, hdetached⟩ := hvalid c hc
    refine ⟨?_, hleaf, hnamed, hdetached⟩
    cases hoverride : c.threadKindOverride with
    | none =>
      have hprefix := @main_isPrefix_stitchSubagents main children
      refine threadFits_of_inferred hmain.mainThread hprefix.1 hprefix.2 hoverride ?_
      obtain ⟨before, after, rfl⟩ := List.append_of_mem hc
      have hthread := (@stitchSubagents_region main before after c).1
      exact (wellFormed_iff_coherent.mp hwell).anchor _ (List.mem_of_getElem? hthread)
    | some kind =>
      have hchild : childKind main c = kind := by
        unfold childKind
        rw [hoverride]
        rfl
      obtain ⟨hne, hanchor⟩ := hkind kind hoverride
      exact ⟨by rw [hchild]; exact hne, by rw [hchild]; exact hanchor⟩
  · rintro ⟨hfew, haccepted, rfl⟩
    refine ⟨hfew, fun c hc => ?_, ?_, rfl⟩
    · have hc := haccepted c hc
      refine ⟨hc.leaf, fun kind hoverride => ?_, hc.named, hc.detached⟩
      have hchild : childKind main c = kind := by
        unfold childKind
        rw [hoverride]
        rfl
      exact ⟨hchild ▸ hc.fits.kind, hchild ▸ hc.fits.anchor⟩
    · refine wellFormed_iff_coherent.mpr (sound_entryCoherent_iff.mp ?_)
      refine (sound_entryCoherent_iff.mpr hmain).stitchSubagents movable_entryCoherent ?_ ?_
      · exact fun c hc => sound_entryCoherent_iff.mpr (hchildren c hc)
      · exact fun c hc => (haccepted c hc).fits

end AgentConvert.Subagents
