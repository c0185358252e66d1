import Mathlib.Data.List.Basic
import Mathlib.Logic.Relation
import AgentConvert.Loom.Core

/-!
# Well-formedness

What can be structurally wrong with a transcript, as the list of its violations.  The checks are
local: each looks at one entry, one thread or the active leaf, and follows at most one reference.

`Coherent` says what the checks are for, in terms of the references alone.

## Main statements

* `wellFormed_iff_coherent` — a transcript without violations is a coherent one, and conversely
* `Coherent.exists_root` — in a coherent transcript every entry descends from a root
-/

namespace AgentConvert

/-- Everything that can be structurally wrong with a transcript. -/
inductive Violation where
  | mainThreadCount (count : Nat)
  | parentNotEarlier (entry parent : Nat)
  | parentThreadMismatch (entry parent entryThread parentThread : Nat)
  | threadOutOfRange (entry thread : Nat)
  | callRefNotEarlier (entry refEntry : Nat)
  | unresolvedCallRef (entry : Nat) (note : String)
  | callRefBlockOutOfRange (entry refEntry refBlock : Nat)
  | callRefNotToolCall (entry refEntry refBlock : Nat)
  | unresolvedSidechainAnchor (thread : Nat) (note : String)
  | sidechainAnchorEntryOutOfRange (thread refEntry : Nat)
  | sidechainAnchorBlockOutOfRange (thread refEntry refBlock : Nat)
  | sidechainAnchorNotToolCall (thread refEntry refBlock : Nat)
  | sidechainAnchorNotMain (thread refEntry refThread : Nat)
  | activeLeafOutOfRange (leaf : Nat)
  | activeLeafHasChild (leaf : Nat)
  | compactionKeptOutOfRange (entry firstKept : Nat)
  deriving Repr, DecidableEq

/-! ### The checks -/

/-- What is wrong with the place that a tool result names as its call. -/
def callTargetViolations (t : Transcript) (idx refEntry refBlock : Nat) : List Violation :=
  match t.entries[refEntry]? with
  | none => [.callRefNotEarlier idx refEntry]
  | some e =>
    match e.payload with
    | .assistantMsg blocks =>
      match blocks[refBlock]? with
      | none => [.callRefBlockOutOfRange idx refEntry refBlock]
      | some (.toolCall _ _ _) => []
      | some _ => [.callRefNotToolCall idx refEntry refBlock]
    | _ => [.callRefNotToolCall idx refEntry refBlock]

/-- What is wrong with the call of a tool result.  A result without a call is a violation too. -/
def envBlockViolations (t : Transcript) (idx : Nat) (b : EnvBlock) : List Violation :=
  match b with
  | .toolResult (.resolved refEntry refBlock) _ _ =>
    if refEntry ≥ idx then [.callRefNotEarlier idx refEntry]
    else callTargetViolations t idx refEntry refBlock
  | .toolResult (.unresolved _ note) _ _ => [.unresolvedCallRef idx note]
  | _ => []

/-- The number of main threads. -/
def mainThreadCount (t : Transcript) : Nat :=
  t.threads.countP fun th => th.kind == ThreadKind.main

/-- The place of the first main thread. -/
def mainThreadIndex? (t : Transcript) : Option Nat :=
  (t.threads.zipIdx.find? fun p => p.1.kind == ThreadKind.main).map (·.2)

/-- What is wrong with the call that a sidechain is anchored at. -/
def sidechainAnchorViolations (t : Transcript) (mainIdx : Option Nat) (threadIdx : Nat)
    (anchor : CallRef) : List Violation :=
  match anchor with
  | .unresolved _ note => [.unresolvedSidechainAnchor threadIdx note]
  | .resolved refEntry refBlock =>
    match t.entries[refEntry]? with
    | none => [.sidechainAnchorEntryOutOfRange threadIdx refEntry]
    | some e =>
      let mainViolation :=
        match mainIdx with
        | some m =>
          if e.thread == m then [] else [.sidechainAnchorNotMain threadIdx refEntry e.thread]
        | none => []
      let targetViolation :=
        match e.payload with
        | .assistantMsg blocks =>
          match blocks[refBlock]? with
          | none => [.sidechainAnchorBlockOutOfRange threadIdx refEntry refBlock]
          | some (.toolCall _ _ _) => []
          | some _ => [.sidechainAnchorNotToolCall threadIdx refEntry refBlock]
        | _ => [.sidechainAnchorNotToolCall threadIdx refEntry refBlock]
      mainViolation ++ targetViolation

/-- The check of the parent of one entry. -/
def parentViolations (t : Transcript) (i : Nat) (e : Entry) : List Violation :=
  match e.parent with
  | none => []
  | some p =>
    if p ≥ i then [.parentNotEarlier i p]
    else
      match t.entries[p]? with
      | some pe =>
        if pe.thread != e.thread then [.parentThreadMismatch i p e.thread pe.thread] else []
      | none => []

/-- The check of the thread of one entry. -/
def threadViolations (t : Transcript) (i : Nat) (e : Entry) : List Violation :=
  if e.thread ≥ t.threads.length then [.threadOutOfRange i e.thread] else []

/-- The check of the references in the payload of one entry. -/
def payloadViolations (t : Transcript) (i : Nat) (e : Entry) : List Violation :=
  match e.payload with
  | .envMsg blocks => blocks.flatMap (envBlockViolations t i)
  | .compaction _ (.knownPrefix k) _ =>
    if k ≥ t.entries.length then [.compactionKeptOutOfRange i k] else []
  | _ => []

/-- One pass of the loop over the entries. -/
def entryViolations (t : Transcript) (item : Entry × Nat) : List Violation :=
  parentViolations t item.2 item.1 ++ threadViolations t item.2 item.1 ++
    payloadViolations t item.2 item.1

/-- One pass of the loop over the threads. -/
def anchorViolations (t : Transcript) (item : Thread × Nat) : List Violation :=
  match item.1.kind with
  | .sidechain anchor => sidechainAnchorViolations t (mainThreadIndex? t) item.2 anchor
  | _ => []

/-- The active leaf, if there is one, is an entry that no entry continues. -/
def activeLeafViolations (t : Transcript) : List Violation :=
  match t.activeLeaf with
  | none => []
  | some l =>
    if l ≥ t.entries.length then [.activeLeafOutOfRange l]
    else if t.entries.any (fun e => e.parent == some l) then [.activeLeafHasChild l]
    else []

/-- There is exactly one main thread. -/
def mainThreadViolations (t : Transcript) : List Violation :=
  if mainThreadCount t != 1 then [.mainThreadCount (mainThreadCount t)] else []

/-- All structural violations, in entry order. -/
def violations (t : Transcript) : List Violation :=
  mainThreadViolations t ++ t.entries.zipIdx.flatMap (entryViolations t) ++
    t.threads.zipIdx.flatMap (anchorViolations t) ++ activeLeafViolations t

/-- The check of the program finds nothing. -/
def WellFormed (t : Transcript) : Prop := violations t = []

instance (t : Transcript) : Decidable (WellFormed t) :=
  inferInstanceAs (Decidable (violations t = []))

/-- A transcript that has passed the structural checks. -/
abbrev Checked := { t : Transcript // WellFormed t }

/-! ### What the checks are for -/

/-- The block is a tool call. -/
def CallAt (t : Transcript) (entry block : Nat) : Prop :=
  ∃ e blocks name args rawId, t.entries[entry]? = some e ∧ e.payload = .assistantMsg blocks ∧
    blocks[block]? = some (.toolCall name args rawId)

/-- The parent is an earlier entry of the same thread. -/
def ParentCoherent (t : Transcript) (i : Nat) (e : Entry) : Prop :=
  ∀ p, e.parent = some p → p < i ∧ ∀ pe, t.entries[p]? = some pe → pe.thread = e.thread

/-- A tool result answers an earlier tool call. -/
def EnvBlockCoherent (t : Transcript) (i : Nat) : EnvBlock → Prop
  | .toolResult (.resolved entry block) _ _ => entry < i ∧ CallAt t entry block
  | .toolResult (.unresolved _ _) _ _ => False
  | .unmodeled _ _ => True

/-- The references of the payload have their targets. -/
def PayloadCoherent (t : Transcript) (i : Nat) : Payload → Prop
  | .envMsg blocks => ∀ b ∈ blocks, EnvBlockCoherent t i b
  | .compaction _ (.knownPrefix firstKept) _ => firstKept < t.entries.length
  | _ => True

/-- The references of an entry have their targets. -/
structure EntryCoherent (t : Transcript) (i : Nat) (e : Entry) : Prop where
  parent : ParentCoherent t i e
  thread : e.thread < t.threads.length
  payload : PayloadCoherent t i e.payload

/-- A sidechain was spawned by a tool call of the main thread. -/
def AnchorCoherent (t : Transcript) : ThreadKind → Prop
  | .sidechain (.resolved entry block) => CallAt t entry block ∧
      ∀ e main, t.entries[entry]? = some e → mainThreadIndex? t = some main → e.thread = main
  | .sidechain (.unresolved _ _) => False
  | .main | .detached _ => True

/-- Nothing descends from the active leaf. -/
def LeafCoherent (t : Transcript) : Prop :=
  ∀ leaf, t.activeLeaf = some leaf →
    leaf < t.entries.length ∧ ∀ e ∈ t.entries, e.parent ≠ some leaf

/-- Every reference of the transcript has the target it should have. -/
structure Coherent (t : Transcript) : Prop where
  mainThread : mainThreadCount t = 1
  entry : ∀ i e, t.entries[i]? = some e → EntryCoherent t i e
  anchor : ∀ th ∈ t.threads, AnchorCoherent t th.kind
  leaf : LeafCoherent t

/-! ### The checks find what they are for -/

variable {t : Transcript}

/-- The target check passes exactly the references to a tool call. -/
theorem callTargetViolations_eq_nil_iff {idx refEntry refBlock : Nat} :
    callTargetViolations t idx refEntry refBlock = [] ↔ CallAt t refEntry refBlock := by
  unfold callTargetViolations CallAt
  constructor
  · intro h
    split at h
    · cases h
    next e he =>
      split at h
      next blocks hblocks =>
        split at h
        · cases h
        next name args rawId hcall => exact ⟨e, blocks, name, args, rawId, he, hblocks, hcall⟩
        · cases h
      · cases h
  · rintro ⟨e, blocks, name, args, rawId, he, hblocks, hcall⟩
    simp only [he, hblocks, hcall]

/-- The parent check passes exactly an earlier parent. -/
theorem parentViolations_eq_nil_iff {i : Nat} {e : Entry} :
    parentViolations t i e = [] ↔ ParentCoherent t i e := by
  unfold parentViolations ParentCoherent
  cases hparent : e.parent with
  | none => simp
  | some p =>
    simp only [Option.some.injEq, forall_eq']
    by_cases hlt : p < i
    · rw [if_neg (Nat.not_le.mpr hlt)]
      cases hentry : t.entries[p]? with
      | none => simp [hlt]
      | some pe => simp [hlt]
    · rw [if_pos (Nat.not_lt.mp hlt)]
      simp [hlt]

/-- The block check passes exactly the coherent blocks. -/
theorem envBlockViolations_eq_nil_iff {i : Nat} {b : EnvBlock} :
    envBlockViolations t i b = [] ↔ EnvBlockCoherent t i b := by
  unfold envBlockViolations EnvBlockCoherent
  cases b with
  | unmodeled label raw => simp
  | toolResult call content error =>
    cases call with
    | unresolved rawId note => simp
    | resolved entry block =>
      by_cases hlt : entry < i
      · simp only [if_neg (Nat.not_le.mpr hlt), hlt, true_and]
        exact callTargetViolations_eq_nil_iff
      · simp [hlt, Nat.not_lt.mp hlt]

/-- The payload check passes exactly the coherent payloads. -/
theorem payloadViolations_eq_nil_iff {i : Nat} {e : Entry} :
    payloadViolations t i e = [] ↔ PayloadCoherent t i e.payload := by
  unfold payloadViolations PayloadCoherent
  cases e.payload with
  | envMsg blocks =>
    simp only [List.flatMap_eq_nil_iff, envBlockViolations_eq_nil_iff]
  | compaction summary coverage tokensBefore =>
    cases coverage with
    | unknownPrefix => simp
    | knownPrefix firstKept => simp
  | userMsg blocks => simp
  | assistantMsg blocks => simp
  | otherMsg role blocks => simp
  | event e => simp

/-- The thread check passes exactly the threads there are. -/
theorem threadViolations_eq_nil_iff {i : Nat} {e : Entry} :
    threadViolations t i e = [] ↔ e.thread < t.threads.length := by
  unfold threadViolations
  simp

/-- The checks of an entry together pass exactly the coherent entries. -/
theorem entryViolations_eq_nil_iff {i : Nat} {e : Entry} :
    entryViolations t (e, i) = [] ↔ EntryCoherent t i e := by
  unfold entryViolations
  rw [List.append_eq_nil_iff, List.append_eq_nil_iff, parentViolations_eq_nil_iff,
    threadViolations_eq_nil_iff, payloadViolations_eq_nil_iff]
  constructor
  · rintro ⟨⟨hparent, hthread⟩, hpayload⟩
    exact ⟨hparent, hthread, hpayload⟩
  · rintro ⟨hparent, hthread, hpayload⟩
    exact ⟨⟨hparent, hthread⟩, hpayload⟩

theorem sidechainAnchorViolations_eq_nil_iff {mainIdx : Option Nat}
    {threadIdx entry block : Nat} :
    sidechainAnchorViolations t mainIdx threadIdx (.resolved entry block) = [] ↔
      CallAt t entry block ∧
        ∀ e main, t.entries[entry]? = some e → mainIdx = some main → e.thread = main := by
  unfold sidechainAnchorViolations
  dsimp only
  cases hentry : t.entries[entry]? with
  | none => simp [CallAt, hentry]
  | some e =>
    dsimp only
    rw [List.append_eq_nil_iff, and_comm]
    refine and_congr ?_ ?_
    · -- the target check is the one of a tool result, under other names
      rw [← @callTargetViolations_eq_nil_iff t threadIdx]
      unfold callTargetViolations
      rw [hentry]
      dsimp only
      split
      · split
        · simp
        · simp
        · simp
      · simp
    · cases mainIdx with
      | none => simp
      | some main => simp

/-- The anchor check passes exactly the coherent threads. -/
theorem anchorViolations_eq_nil_iff {item : Thread × Nat} :
    anchorViolations t item = [] ↔ AnchorCoherent t item.1.kind := by
  unfold anchorViolations AnchorCoherent
  cases item.1.kind with
  | main => simp
  | detached note => simp
  | sidechain anchor =>
    cases anchor with
    | unresolved rawId note => simp [sidechainAnchorViolations]
    | resolved entry block => exact sidechainAnchorViolations_eq_nil_iff

/-- The leaf check passes exactly a leaf that is an entry. -/
theorem activeLeafViolations_eq_nil_iff :
    activeLeafViolations t = [] ↔ LeafCoherent t := by
  unfold activeLeafViolations LeafCoherent
  cases hleaf : t.activeLeaf with
  | none => simp
  | some leaf =>
    simp only [Option.some.injEq, forall_eq']
    by_cases hlt : leaf < t.entries.length
    · simp [hlt, Nat.not_le.mpr hlt]
    · simp [hlt, Nat.not_lt.mp hlt]

/-- The main thread check passes exactly one main thread. -/
theorem mainThreadViolations_eq_nil_iff :
    mainThreadViolations t = [] ↔ mainThreadCount t = 1 := by
  unfold mainThreadViolations
  simp

/-- The loop over the threads finds nothing when every anchor is coherent. -/
theorem flatMap_anchorViolations_eq_nil_iff :
    t.threads.zipIdx.flatMap (anchorViolations t) = [] ↔
      ∀ th ∈ t.threads, AnchorCoherent t th.kind := by
  rw [List.flatMap_eq_nil_iff]
  simp only [anchorViolations_eq_nil_iff]
  constructor
  · intro h th hth
    obtain ⟨i, hi, rfl⟩ := List.mem_iff_getElem.mp hth
    exact h (t.threads[i], i) (List.mem_zipIdx_iff_getElem?.mpr (by simp))
  · intro h item hitem
    exact h item.1 (List.fst_mem_of_mem_zipIdx hitem)

/-- **A transcript without violations is a coherent one, and conversely.** -/
theorem wellFormed_iff_coherent : WellFormed t ↔ Coherent t := by
  have hentries : t.entries.zipIdx.flatMap (entryViolations t) = [] ↔
      ∀ i e, t.entries[i]? = some e → EntryCoherent t i e := by
    rw [List.flatMap_eq_nil_iff]
    constructor
    · intro h i e he
      exact entryViolations_eq_nil_iff.mp (h (e, i) (List.mem_zipIdx_iff_getElem?.mpr he))
    · rintro h ⟨e, i⟩ hitem
      exact entryViolations_eq_nil_iff.mpr (h i e (List.mem_zipIdx_iff_getElem?.mp hitem))
  unfold WellFormed violations
  rw [List.append_eq_nil_iff, List.append_eq_nil_iff, List.append_eq_nil_iff,
    mainThreadViolations_eq_nil_iff, hentries, flatMap_anchorViolations_eq_nil_iff,
    activeLeafViolations_eq_nil_iff]
  constructor
  · rintro ⟨⟨⟨hmain, hentry⟩, hanchor⟩, hleaf⟩
    exact ⟨hmain, hentry, hanchor, hleaf⟩
  · rintro ⟨hmain, hentry, hanchor, hleaf⟩
    exact ⟨⟨⟨hmain, hentry⟩, hanchor⟩, hleaf⟩

/-! ### Coherent transcripts -/

/-- The entry at `p` is the parent of the entry at `i`. -/
def IsParent (t : Transcript) (p i : Nat) : Prop :=
  ∃ e, t.entries[i]? = some e ∧ e.parent = some p

namespace Coherent

/-- In a coherent transcript a parent stands before its child. -/
theorem lt_of_isParent (h : Coherent t) {p i : Nat} (hparent : IsParent t p i) : p < i := by
  obtain ⟨e, he, hp⟩ := hparent
  exact ((h.entry i e he).parent p hp).1

/-- No entry descends from itself, so a walk to the root needs no guard against cycles. -/
theorem acyclic (h : Coherent t) (i : Nat) : ¬ Relation.TransGen (IsParent t) i i := by
  have hlt : ∀ p j, Relation.TransGen (IsParent t) p j → p < j := by
    intro p j hpath
    induction hpath with
    | single hparent => exact h.lt_of_isParent hparent
    | tail _ hparent ih => exact Nat.lt_trans ih (h.lt_of_isParent hparent)
  exact fun hcycle => Nat.lt_irrefl i (hlt i i hcycle)

/-- **Every entry of a coherent transcript descends from a root of its thread.** -/
theorem exists_root (h : Coherent t) {i : Nat} {e : Entry} (he : t.entries[i]? = some e) :
    ∃ r root, Relation.ReflTransGen (IsParent t) r i ∧ t.entries[r]? = some root ∧
      root.parent = none ∧ root.thread = e.thread := by
  induction i using Nat.strongRecOn generalizing e with
  | ind i ih =>
    cases hparent : e.parent with
    | none => exact ⟨i, e, Relation.ReflTransGen.refl, he, hparent, rfl⟩
    | some p =>
      obtain ⟨hlt, hthread⟩ := (h.entry i e he).parent p hparent
      have hbound : p < t.entries.length :=
        Nat.lt_trans hlt (List.getElem?_eq_some_iff.mp he).1
      have hp : t.entries[p]? = some t.entries[p] := List.getElem?_eq_getElem hbound
      obtain ⟨r, root, hpath, hroot, hnone, hsame⟩ := ih p hlt hp
      refine ⟨r, root, hpath.tail ⟨e, he, hparent⟩, hroot, hnone, ?_⟩
      exact hsame.trans (hthread _ hp)

end Coherent

/-! ### Imported transcripts

An importer may leave a tool result unresolved, and it hands on archived payloads as they were
written.  Everything else about its transcript is coherent. -/

/-- A tool result answers an earlier tool call if it answers one at all. -/
def EnvBlockLinked (t : Transcript) (i : Nat) : EnvBlock → Prop
  | .toolResult (.resolved entry block) _ _ => entry < i ∧ CallAt t entry block
  | .toolResult (.unresolved _ _) _ _ | .unmodeled _ _ => True

/-- The references of a payload that were resolved have their targets. -/
def PayloadLinked (t : Transcript) (i : Nat) : Payload → Prop
  | .envMsg blocks => ∀ b ∈ blocks, EnvBlockLinked t i b
  | payload => PayloadCoherent t i payload

/-- The payload refers to no entry. -/
def RefersNowhere : Payload → Prop
  | .userMsg _ | .assistantMsg _ | .otherMsg _ _ | .event _ => True
  | .envMsg blocks => blocks = []
  | .compaction _ coverage _ => coverage = .unknownPrefix

/-- The references of an entry that were resolved have their targets, if the entry is native. -/
structure EntryLinked (t : Transcript) (i : Nat) (e : Entry) : Prop where
  parent : ParentCoherent t i e
  thread : e.thread < t.threads.length
  payload : e.disposition = .native → PayloadLinked t i e.payload

/-- Every reference that the importer made has its target. -/
structure Linked (t : Transcript) : Prop where
  mainThread : mainThreadCount t = 1
  entry : ∀ i e, t.entries[i]? = some e → EntryLinked t i e
  anchor : ∀ th ∈ t.threads, AnchorCoherent t th.kind
  leaf : LeafCoherent t

/-- The violation is an unresolved tool result or lies in an archived payload. -/
def LeftOpen (t : Transcript) (v : Violation) : Prop :=
  (∃ i note, v = .unresolvedCallRef i note) ∨
    ∃ i e, t.entries[i]? = some e ∧ e.disposition = .historicalUnverified ∧
      v ∈ payloadViolations t i e

/-- A coherent payload is linked. -/
theorem PayloadCoherent.linked {i : Nat} {payload : Payload} (h : PayloadCoherent t i payload) :
    PayloadLinked t i payload := by
  cases payload with
  | envMsg blocks =>
    intro b hb
    have hblock : EnvBlockCoherent t i b := h b hb
    cases b with
    | unmodeled label raw => trivial
    | toolResult call content error =>
      cases call with
      | unresolved rawId note => trivial
      | resolved entry block => exact hblock
  | _ => exact h

/-- A payload without references has none that could go wrong. -/
theorem payloadCoherent_of_refersNowhere {i : Nat} {payload : Payload}
    (h : RefersNowhere payload) : PayloadCoherent t i payload := by
  cases payload with
  | envMsg blocks =>
    obtain rfl : blocks = [] := h
    exact fun b hb => absurd hb List.not_mem_nil
  | compaction summary coverage tokensBefore =>
    obtain rfl : coverage = .unknownPrefix := h
    trivial
  | _ => trivial

/-- Payloads are all that an imported transcript needs to be coherent. -/
theorem Linked.coherent (h : Linked t)
    (hpayload : ∀ (i : Nat) (e : Entry), t.entries[i]? = some e →
      PayloadCoherent t i e.payload) : Coherent t where
  mainThread := h.mainThread
  entry := by
    intro i e he
    have hentry := h.entry i e he
    exact ⟨hentry.parent, hentry.thread, hpayload i e he⟩
  anchor := h.anchor
  leaf := h.leaf

theorem eq_unresolvedCallRef_of_envBlockLinked {i : Nat} {b : EnvBlock} {v : Violation}
    (h : EnvBlockLinked t i b) (hv : v ∈ envBlockViolations t i b) :
    ∃ note, v = .unresolvedCallRef i note := by
  cases b with
  | unmodeled label raw => cases hv
  | toolResult call content error =>
    cases call with
    | unresolved rawId note => exact ⟨note, List.mem_singleton.mp hv⟩
    | resolved entry block =>
      have hcoherent : EnvBlockCoherent t i (.toolResult (.resolved entry block) content error) := h
      rw [envBlockViolations_eq_nil_iff.mpr hcoherent] at hv
      cases hv

/-- All that can still be wrong with a linked payload is an unresolved call. -/
theorem eq_unresolvedCallRef_of_payloadLinked {i : Nat} {e : Entry} {v : Violation}
    (h : PayloadLinked t i e.payload) (hv : v ∈ payloadViolations t i e) :
    ∃ note, v = .unresolvedCallRef i note := by
  by_cases henv : ∃ blocks, e.payload = .envMsg blocks
  · obtain ⟨blocks, hpayload⟩ := henv
    unfold payloadViolations at hv
    rw [hpayload] at h hv
    obtain ⟨b, hb, hv⟩ := List.mem_flatMap.mp hv
    exact eq_unresolvedCallRef_of_envBlockLinked (h b hb) hv
  · have hcoherent : PayloadCoherent t i e.payload := by
      cases hpayload : e.payload with
      | envMsg blocks => exact absurd ⟨blocks, hpayload⟩ henv
      | _ =>
        rw [hpayload] at h
        exact h
    rw [payloadViolations_eq_nil_iff.mpr hcoherent] at hv
    cases hv

/-- **What is wrong with an imported transcript is what its source left open.** -/
theorem Linked.leftOpen (h : Linked t) {v : Violation} (hv : v ∈ violations t) :
    LeftOpen t v := by
  unfold violations at hv
  rw [mainThreadViolations_eq_nil_iff.mpr h.mainThread,
    flatMap_anchorViolations_eq_nil_iff.mpr h.anchor,
    activeLeafViolations_eq_nil_iff.mpr h.leaf, List.nil_append, List.append_nil,
    List.append_nil] at hv
  obtain ⟨⟨e, i⟩, hitem, hv⟩ := List.mem_flatMap.mp hv
  have he : t.entries[i]? = some e := List.mem_zipIdx_iff_getElem?.mp hitem
  have hentry := h.entry i e he
  unfold entryViolations at hv
  rw [parentViolations_eq_nil_iff.mpr hentry.parent,
    threadViolations_eq_nil_iff.mpr hentry.thread, List.nil_append, List.nil_append] at hv
  cases hdisposition : e.disposition with
  | native =>
    obtain ⟨note, rfl⟩ := eq_unresolvedCallRef_of_payloadLinked (hentry.payload hdisposition) hv
    exact Or.inl ⟨i, note, rfl⟩
  | historicalUnverified => exact Or.inr ⟨i, e, he, hdisposition, hv⟩

/-- A transcript with one thread that goes on from its last entry is linked when parents are
earlier and native payloads are linked. -/
theorem Linked.of_single_thread (hthreads : t.threads = [{ kind := .main }])
    (hleaf : t.activeLeaf = if t.entries.isEmpty then none else some (t.entries.length - 1))
    (hparent : ∀ (i : Nat) (e : Entry), t.entries[i]? = some e → ∀ p, e.parent = some p → p < i)
    (hthread : ∀ e ∈ t.entries, e.thread = 0)
    (hpayload : ∀ (i : Nat) (e : Entry), t.entries[i]? = some e → e.disposition = .native →
      PayloadLinked t i e.payload) : Linked t where
  mainThread := by
    unfold mainThreadCount
    rw [hthreads]
    decide
  entry := by
    intro i e he
    refine ⟨fun p hp => ⟨hparent i e he p hp, fun pe hpe => ?_⟩, ?_, hpayload i e he⟩
    · rw [hthread e (List.mem_of_getElem? he), hthread pe (List.mem_of_getElem? hpe)]
    · rw [hthreads, hthread e (List.mem_of_getElem? he)]
      decide
  anchor := by
    intro th hth
    rw [hthreads, List.mem_singleton] at hth
    rw [hth]
    trivial
  leaf := by
    intro leaf hactive
    rw [hleaf] at hactive
    split at hactive
    · cases hactive
    next hnonempty =>
      cases hactive
      have hpos : 0 < t.entries.length := by
        rw [List.isEmpty_iff] at hnonempty
        exact List.length_pos_iff.mpr hnonempty
      refine ⟨by omega, fun e he hchild => ?_⟩
      -- a child of the last entry would stand behind it
      obtain ⟨i, hi, rfl⟩ := List.mem_iff_getElem.mp he
      have hlt := hparent i _ (List.getElem?_eq_getElem hi) _ hchild
      omega

end AgentConvert
