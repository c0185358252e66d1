import AgentConvert.Subagents.Stitch

/-!
# Well-formedness of stitched transcripts

The references of a child are shifted with its entries, so they have the targets they had in the
child's own file.  Stitching coherent children behind a coherent main session gives a coherent
transcript, and the structural check of the checked stitch never fires on such input: what it
refuses is contradictory metadata, and nothing else.

## Main statements

* `Movable` — the conditions on entries that stitching preserves
* `Sound.stitchSubagents` — stitching preserves coherence, for every such condition
* `linked_stitchSubagents` — in particular, it keeps the links of the entries right
-/

namespace AgentConvert.Subagents

variable {main t t' : Transcript} {c : SubagentChild} {offset threadIdx i : Nat} {e : Entry}

/-! ### References in a longer transcript -/

theorem getElem?_of_isPrefix {α : Type} {xs ys : List α} {a : α} (h : xs <+: ys) {i : Nat}
    (ha : xs[i]? = some a) : ys[i]? = some a := by
  obtain ⟨rest, rfl⟩ := h
  rw [List.getElem?_append_left (List.getElem?_eq_some_iff.mp ha).1]
  exact ha

/-- A parent stays an earlier entry when entries are added behind. -/
theorem parentCoherent_extend (hentries : main.entries <+: t.entries)
    (he : main.entries[i]? = some e) (h : ParentCoherent main i e) : ParentCoherent t i e := by
  intro p hp
  obtain ⟨hlt, hthread⟩ := h p hp
  refine ⟨hlt, fun pe hpe => ?_⟩
  have hbound : p < main.entries.length :=
    Nat.lt_trans hlt (List.getElem?_eq_some_iff.mp he).1
  have hsame := getElem?_of_isPrefix hentries (List.getElem?_eq_getElem hbound)
  cases hsame.symm.trans hpe
  exact hthread _ (List.getElem?_eq_getElem hbound)

/-- A call stays where it is when entries are added behind. -/
theorem callAt_extend (hentries : main.entries <+: t.entries) {entry block : Nat}
    (h : CallAt main entry block) : CallAt t entry block := by
  obtain ⟨e, blocks, name, args, rawId, he, hpayload, hcall⟩ := h
  exact ⟨e, blocks, name, args, rawId, getElem?_of_isPrefix hentries he, hpayload, hcall⟩

theorem envBlockLinked_extend (hentries : main.entries <+: t.entries) {b : EnvBlock}
    (h : EnvBlockLinked main i b) : EnvBlockLinked t i b := by
  cases b with
  | unmodeled label raw => trivial
  | toolResult call content error =>
    cases call with
    | unresolved rawId note => trivial
    | resolved entry block =>
      obtain ⟨hlt, hcall⟩ := h
      exact ⟨hlt, callAt_extend hentries hcall⟩

/-- A linked payload stays linked when entries are added behind. -/
theorem payloadLinked_extend (hentries : main.entries <+: t.entries) {payload : Payload}
    (h : PayloadLinked main i payload) : PayloadLinked t i payload := by
  cases payload with
  | envMsg blocks => exact fun b hb => envBlockLinked_extend hentries (h b hb)
  | compaction summary coverage tokensBefore =>
    cases coverage with
    | unknownPrefix => trivial
    | knownPrefix firstKept =>
      have hkept : firstKept < main.entries.length := h
      exact Nat.lt_of_lt_of_le hkept hentries.length_le
  | _ => trivial

/-! ### References of a child -/

/-- The child's own entries stand where the shifted references look for them. -/
theorem parentCoherent_rebase (hholds : Holds t offset threadIdx c)
    (he : c.transcript.entries[i]? = some e) (h : ParentCoherent c.transcript i e) :
    ParentCoherent t (offset + i) (rebaseEntry offset threadIdx c.agentId e) := by
  intro p hp
  obtain ⟨q, hq, rfl⟩ := Option.map_eq_some_iff.mp hp
  obtain ⟨hlt, -⟩ := h q hq
  have hbound : q < c.transcript.entries.length :=
    Nat.lt_trans hlt (List.getElem?_eq_some_iff.mp he).1
  refine ⟨by omega, fun pe hpe => ?_⟩
  have hparent := hholds q _ (List.getElem?_eq_getElem hbound)
  rw [Nat.add_comm] at hparent
  cases hparent.symm.trans hpe
  rfl

/-- A call of the child is found where the child was put. -/
theorem callAt_rebase (hholds : Holds t offset threadIdx c) {entry block : Nat}
    (h : CallAt c.transcript entry block) : CallAt t (entry + offset) block := by
  obtain ⟨e, blocks, name, args, rawId, he, hpayload, hcall⟩ := h
  refine ⟨rebaseEntry offset threadIdx c.agentId e, blocks, name, args, rawId, ?_, ?_, hcall⟩
  · rw [Nat.add_comm]
    exact hholds entry e he
  · show shiftPayload offset e.payload = _
    rw [hpayload]
    rfl

/-- A linked block of the child is linked where the child was put. -/
theorem envBlockLinked_rebase (hholds : Holds t offset threadIdx c) {b : EnvBlock}
    (h : EnvBlockLinked c.transcript i b) :
    EnvBlockLinked t (offset + i) (shiftEnvBlock offset b) := by
  cases b with
  | unmodeled label raw => trivial
  | toolResult call content error =>
    cases call with
    | unresolved rawId note => trivial
    | resolved entry block =>
      obtain ⟨hlt, hcall⟩ := h
      exact ⟨by omega, callAt_rebase hholds hcall⟩

/-- A linked payload of the child is linked where the child was put. -/
theorem payloadLinked_rebase (hholds : Holds t offset threadIdx c)
    (hroom : c.transcript.entries.length ≤ t.entries.length) {payload : Payload}
    (h : PayloadLinked c.transcript i payload) :
    PayloadLinked t (offset + i) (shiftPayload offset payload) := by
  cases payload with
  | envMsg blocks =>
    intro b hb
    obtain ⟨b', hb', rfl⟩ := List.mem_map.mp hb
    exact envBlockLinked_rebase hholds (h b' hb')
  | compaction summary coverage tokensBefore =>
    cases coverage with
    | unknownPrefix => trivial
    | knownPrefix firstKept =>
      -- the coverage is not shifted: it is still an index, but one of the child's own file
      have hkept : firstKept < c.transcript.entries.length := h
      exact Nat.lt_of_lt_of_le hkept hroom
  | _ => trivial

/-! ### Unresolved links -/

/-- The block is not a tool result without its call. -/
def EnvBlockResolved : EnvBlock → Prop
  | .toolResult (.unresolved _ _) _ _ => False
  | _ => True

/-- No result of the payload names an unresolved call. -/
def PayloadResolved : Payload → Prop
  | .envMsg blocks => ∀ b ∈ blocks, EnvBlockResolved b
  | _ => True

/-- A block is coherent when it is linked and resolved. -/
theorem envBlockCoherent_iff {b : EnvBlock} :
    EnvBlockCoherent t i b ↔ EnvBlockLinked t i b ∧ EnvBlockResolved b := by
  cases b with
  | unmodeled label raw => simp [EnvBlockCoherent, EnvBlockLinked, EnvBlockResolved]
  | toolResult call content error =>
    cases call with
    | unresolved rawId note => simp [EnvBlockCoherent, EnvBlockResolved]
    | resolved entry block => simp [EnvBlockCoherent, EnvBlockLinked, EnvBlockResolved]

/-- A payload is coherent when what it links to is there and it leaves nothing open. -/
theorem payloadCoherent_iff {payload : Payload} :
    PayloadCoherent t i payload ↔ PayloadLinked t i payload ∧ PayloadResolved payload := by
  cases payload with
  | envMsg blocks =>
    simp only [PayloadCoherent, PayloadLinked, PayloadResolved, envBlockCoherent_iff]
    exact ⟨fun h => ⟨fun b hb => (h b hb).1, fun b hb => (h b hb).2⟩,
      fun h b hb => ⟨h.1 b hb, h.2 b hb⟩⟩
  | _ => simp [PayloadLinked, PayloadResolved]

/-- Moving a payload resolves or unresolves no call. -/
theorem PayloadResolved.shift {payload : Payload} (h : PayloadResolved payload) :
    PayloadResolved (shiftPayload offset payload) := by
  cases payload with
  | envMsg blocks =>
    intro b hb
    obtain ⟨b', hb', rfl⟩ := List.mem_map.mp hb
    have hresolved := h b' hb'
    cases b' with
    | unmodeled label raw => trivial
    | toolResult call content error =>
      cases call with
      | unresolved rawId note => exact hresolved
      | resolved entry block => trivial
  | _ => trivial

/-! ### Conditions on entries that stitching preserves -/

/-- A condition on an entry of a transcript that still holds when more entries are put behind the
transcript, and when the transcript is put behind others. -/
structure Movable (P : Transcript → Nat → Entry → Prop) : Prop where
  parent : ∀ {t i e}, P t i e → ParentCoherent t i e
  extend : ∀ {main t i e}, main.threads <+: t.threads → main.entries <+: t.entries →
    main.entries[i]? = some e → P main i e → P t i e
  rebase : ∀ {t c offset threadIdx i e}, Holds t offset threadIdx c →
    threadIdx < t.threads.length → c.transcript.entries.length ≤ t.entries.length →
    c.transcript.entries[i]? = some e → P c.transcript i e →
      P t (offset + i) (rebaseEntry offset threadIdx c.agentId e)

/-- **Links of native entries can be moved.** -/
theorem movable_entryLinked : Movable EntryLinked where
  parent := EntryLinked.parent
  extend := fun hthreads hentries he h =>
    ⟨parentCoherent_extend hentries he h.parent,
      Nat.lt_of_lt_of_le h.thread hthreads.length_le,
      fun hnative => payloadLinked_extend hentries (h.payload hnative)⟩
  rebase := fun hholds hthread hroom he h =>
    ⟨parentCoherent_rebase hholds he h.parent, hthread,
      fun hnative => payloadLinked_rebase hholds hroom (h.payload hnative)⟩

/-- **Links without loose ends can be moved.** -/
theorem movable_entryCoherent : Movable EntryCoherent where
  parent := EntryCoherent.parent
  extend := by
    intro main t i e hthreads hentries he h
    obtain ⟨hlinked, hresolved⟩ := payloadCoherent_iff.mp h.payload
    exact ⟨parentCoherent_extend hentries he h.parent,
      Nat.lt_of_lt_of_le h.thread hthreads.length_le,
      payloadCoherent_iff.mpr ⟨payloadLinked_extend hentries hlinked, hresolved⟩⟩
  rebase := by
    intro t c offset threadIdx i e hholds hthread hroom he h
    obtain ⟨hlinked, hresolved⟩ := payloadCoherent_iff.mp h.payload
    exact ⟨parentCoherent_rebase hholds he h.parent, hthread,
      payloadCoherent_iff.mpr ⟨payloadLinked_rebase hholds hroom hlinked, hresolved.shift⟩⟩

/-- A transcript whose entries satisfy the condition, and whose threads and leaf are in order. -/
structure Sound (P : Transcript → Nat → Entry → Prop) (t : Transcript) : Prop where
  mainThread : mainThreadCount t = 1
  entry : ∀ i e, t.entries[i]? = some e → P t i e
  anchor : ∀ th ∈ t.threads, AnchorCoherent t th.kind
  leaf : LeafCoherent t

/-- Soundness for linked entries is being linked. -/
theorem sound_entryLinked_iff : Sound EntryLinked t ↔ Linked t :=
  ⟨fun h => ⟨h.mainThread, h.entry, h.anchor, h.leaf⟩,
    fun h => ⟨h.mainThread, h.entry, h.anchor, h.leaf⟩⟩

/-- Soundness for coherent entries is being coherent. -/
theorem sound_entryCoherent_iff : Sound EntryCoherent t ↔ Coherent t :=
  ⟨fun h => ⟨h.mainThread, h.entry, h.anchor, h.leaf⟩,
    fun h => ⟨h.mainThread, h.entry, h.anchor, h.leaf⟩⟩

/-! ### Stitching one child -/

/-- Nothing descends from the entry. -/
def Tip (t : Transcript) (leaf : Nat) : Prop :=
  leaf < t.entries.length ∧ ∀ e ∈ t.entries, e.parent ≠ some leaf

/-- The second transcript is the first with the child behind it. -/
structure Stitches (main t t' : Transcript) (c : SubagentChild) : Prop where
  threads : t'.threads = t.threads ++ [childThread main c]
  entries : t'.entries = t.entries ++
    c.transcript.entries.map (rebaseEntry t.entries.length t.threads.length c.agentId)

namespace Stitches

variable {P : Transcript → Nat → Entry → Prop}

/-- A stitched child holds behind the entries there were. -/
theorem holds (h : Stitches main t t' c) : Holds t' t.entries.length t.threads.length c := by
  have happend := h.entries.symm
  rw [← List.append_nil (t.entries ++ _)] at happend
  exact holds_of_append happend

theorem length_entries (h : Stitches main t t' c) :
    t'.entries.length = t.entries.length + c.transcript.entries.length := by
  rw [h.entries, List.length_append, List.length_map]

/-- An entry behind the child's stitch stood there before or is one of the child's. -/
theorem entry_cases (h : Stitches main t t' c) (he : t'.entries[i]? = some e) :
    t.entries[i]? = some e ∨ ∃ j e', i = t.entries.length + j ∧
      c.transcript.entries[j]? = some e' ∧
        e = rebaseEntry t.entries.length t.threads.length c.agentId e' := by
  rw [h.entries] at he
  by_cases hi : i < t.entries.length
  · rw [List.getElem?_append_left hi] at he
    exact Or.inl he
  · rw [List.getElem?_append_right (Nat.not_lt.mp hi), List.getElem?_map] at he
    obtain ⟨e', he', rfl⟩ := Option.map_eq_some_iff.mp he
    exact Or.inr ⟨i - t.entries.length, e', by omega, he', rfl⟩

/-- **The condition holds of the entries of both.** -/
theorem forall_entry (h : Stitches main t t' c) (hP : Movable P)
    (ht : ∀ i e, t.entries[i]? = some e → P t i e)
    (hc : ∀ i e, c.transcript.entries[i]? = some e → P c.transcript i e) :
    ∀ i e, t'.entries[i]? = some e → P t' i e := by
  intro i e he
  rcases h.entry_cases he with hold | ⟨j, e', rfl, he', rfl⟩
  · refine hP.extend ?_ ?_ hold (ht i e hold)
    · rw [h.threads]
      exact List.prefix_append _ _
    · rw [h.entries]
      exact List.prefix_append _ _
  · refine hP.rebase h.holds ?_ ?_ he' (hc j e' he')
    · rw [h.threads, List.length_append, List.length_singleton]
      exact Nat.lt_succ_self _
    · rw [h.length_entries]
      exact Nat.le_add_left _ _

/-- The parents of the child are its own entries, so no tip gets a descendant. -/
theorem tip (h : Stitches main t t' c) {leaf : Nat} (hleaf : Tip t leaf) : Tip t' leaf := by
  refine ⟨by rw [h.length_entries]; exact Nat.lt_add_right _ hleaf.1, fun e he hparent => ?_⟩
  rw [h.entries] at he
  rcases List.mem_append.mp he with he | he
  · exact hleaf.2 e he hparent
  · obtain ⟨e', he', rfl⟩ := List.mem_map.mp he
    obtain ⟨p, _, hp⟩ := Option.map_eq_some_iff.mp hparent
    have hbound := hleaf.1
    omega

/-- The tip of a child is a tip of the combined transcript. -/
theorem tip_child (h : Stitches main t t' c) (hP : Movable P)
    (ht : ∀ i e, t.entries[i]? = some e → P t i e) {leaf : Nat} (hleaf : Tip c.transcript leaf) :
    Tip t' (leaf + t.entries.length) := by
  refine ⟨by rw [h.length_entries, Nat.add_comm]; exact Nat.add_lt_add_left hleaf.1 _,
    fun e he hparent => ?_⟩
  rw [h.entries] at he
  rcases List.mem_append.mp he with he | he
  · -- the parents in front of the child are in front of it as well
    obtain ⟨i, hi, rfl⟩ := List.mem_iff_getElem.mp he
    have hlt := (hP.parent (ht i _ (List.getElem?_eq_getElem hi)) _ hparent).1
    omega
  · obtain ⟨e', he', rfl⟩ := List.mem_map.mp he
    obtain ⟨p, hp, hsame⟩ := Option.map_eq_some_iff.mp hparent
    exact hleaf.2 e' he' (by rw [hp, Nat.add_right_cancel hsame])

end Stitches

/-! ### Threads -/

/-- Threads of other kinds add no main thread. -/
theorem mainThreadCount_append {threads : List Thread} (h : t'.threads = t.threads ++ threads)
    (hkind : ∀ th ∈ threads, th.kind ≠ .main) : mainThreadCount t' = mainThreadCount t := by
  unfold mainThreadCount
  rw [h, List.countP_append, Nat.add_eq_left, List.countP_eq_zero]
  intro th hth hmain
  exact hkind th hth (beq_iff_eq.mp hmain)

/-- The first main thread is found at the same index in a longer list. -/
theorem mainThreadIndex?_extend (hthreads : main.threads <+: t.threads)
    (hmain : mainThreadCount main ≠ 0) : mainThreadIndex? t = mainThreadIndex? main := by
  obtain ⟨rest, hrest⟩ := hthreads
  unfold mainThreadIndex?
  rw [← hrest, List.zipIdx_append, List.find?_append]
  have hsome : (main.threads.zipIdx.find? fun p => p.1.kind == ThreadKind.main).isSome = true := by
    rw [List.find?_isSome]
    have hpos : 0 < main.threads.countP fun th => th.kind == ThreadKind.main :=
      Nat.pos_of_ne_zero hmain
    obtain ⟨th, hth, hkind⟩ := List.countP_pos_iff.mp hpos
    obtain ⟨i, hi, rfl⟩ := List.mem_iff_getElem.mp hth
    exact ⟨(main.threads[i], i), List.mem_zipIdx_iff_getElem?.mpr (List.getElem?_eq_getElem hi),
      hkind⟩
  obtain ⟨p, hp⟩ := Option.isSome_iff_exists.mp hsome
  rw [hp]
  rfl

/-- An anchor of the main session is an anchor of the combined transcript, and conversely. -/
theorem anchorCoherent_extend_iff (hentries : main.entries <+: t.entries)
    (hindex : mainThreadIndex? t = mainThreadIndex? main) {entry block : Nat}
    (hbound : entry < main.entries.length) :
    AnchorCoherent t (.sidechain (.resolved entry block)) ↔
      AnchorCoherent main (.sidechain (.resolved entry block)) := by
  have hsame : t.entries[entry]? = main.entries[entry]? := by
    rw [List.getElem?_eq_getElem hbound]
    exact getElem?_of_isPrefix hentries (List.getElem?_eq_getElem hbound)
  simp only [AnchorCoherent, CallAt, hsame, hindex]

theorem lt_of_callAt {entry block : Nat} (h : CallAt t entry block) : entry < t.entries.length := by
  obtain ⟨e, _, _, _, _, he, _⟩ := h
  exact (List.getElem?_eq_some_iff.mp he).1

/-- An anchor stays coherent when entries are added behind. -/
theorem anchorCoherent_extend (hentries : main.entries <+: t.entries)
    (hindex : mainThreadIndex? t = mainThreadIndex? main) {kind : ThreadKind}
    (h : AnchorCoherent main kind) : AnchorCoherent t kind := by
  cases kind with
  | main => trivial
  | detached note => trivial
  | sidechain anchor =>
    cases anchor with
    | unresolved rawId note => exact h
    | resolved entry block =>
      exact (anchorCoherent_extend_iff hentries hindex (lt_of_callAt h.1)).mpr h

/-! ### Stitching all children -/

/-- What a child needs so that its thread is in order: it is no second main thread, and it was
spawned by a call of the main thread if it says so. -/
structure ThreadFits (main : Transcript) (c : SubagentChild) : Prop where
  kind : childKind main c ≠ .main
  anchor : AnchorCoherent main (childKind main c)

/-- What the loop over the children keeps. -/
structure StitchInv (P : Transcript → Nat → Entry → Prop) (main t : Transcript)
    (childActiveLeaf : Option Nat) : Prop where
  threads : main.threads <+: t.threads
  entries : main.entries <+: t.entries
  mainThread : mainThreadCount t = 1
  entry : ∀ i e, t.entries[i]? = some e → P t i e
  anchor : ∀ th ∈ t.threads, AnchorCoherent t th.kind
  mainLeaf : ∀ leaf, main.activeLeaf = some leaf → Tip t leaf
  childLeaf : ∀ leaf, childActiveLeaf = some leaf → Tip t leaf

/-- One pass of the loop. -/
theorem StitchInv.step {P : Transcript → Nat → Entry → Prop} (hP : Movable P)
    (hmain : mainThreadCount main = 1) {childActiveLeaf : Option Nat}
    (h : StitchInv P main t childActiveLeaf) (hstitch : Stitches main t t' c)
    (hchild : ∀ i e, c.transcript.entries[i]? = some e → P c.transcript i e)
    (hleaf : LeafCoherent c.transcript) (hfits : ThreadFits main c) :
    StitchInv P main t' (if c.globalActive then
      c.transcript.activeLeaf.map (· + t.entries.length) else childActiveLeaf) := by
  have hthreads : main.threads <+: t'.threads := by
    rw [hstitch.threads]
    exact h.threads.trans (List.prefix_append _ _)
  have hentries : t.entries <+: t'.entries := by
    rw [hstitch.entries]
    exact List.prefix_append _ _
  have hindex := mainThreadIndex?_extend (t := t') hthreads (by omega)
  refine ⟨hthreads, h.entries.trans hentries, ?_, hstitch.forall_entry hP h.entry hchild, ?_,
    fun leaf hactive => hstitch.tip (h.mainLeaf leaf hactive), ?_⟩
  · rw [mainThreadCount_append hstitch.threads, h.mainThread]
    intro th hth
    rw [List.mem_singleton.mp hth]
    exact hfits.kind
  · intro th hth
    rw [hstitch.threads] at hth
    rcases List.mem_append.mp hth with hth | hth
    · have hsame := mainThreadIndex?_extend (t := t) h.threads (by omega)
      exact anchorCoherent_extend hentries (hindex.trans hsame.symm) (h.anchor th hth)
    · rw [List.mem_singleton.mp hth]
      exact anchorCoherent_extend (h.entries.trans hentries) hindex hfits.anchor
  · intro leaf hactive
    split at hactive
    · obtain ⟨leaf', hleaf', rfl⟩ := Option.map_eq_some_iff.mp hactive
      exact hstitch.tip_child hP h.entry (hleaf leaf' hleaf')
    · exact hstitch.tip (h.childLeaf leaf hactive)

/-- The loop adds the child to what it has. -/
theorem stitches_stitchState (before : List SubagentChild) (c : SubagentChild) :
    Stitches main ((stitchState main before).transcript main)
      ((stitchState main (before ++ [c])).transcript main) c := by
  rw [stitchState_concat]
  exact ⟨rfl, rfl⟩

/-- The invariant holds after all children, by induction on them. -/
theorem stitchInv_stitchState {P : Transcript → Nat → Entry → Prop} (hP : Movable P)
    (hmain : Sound P main) {children : List SubagentChild}
    (hchildren : ∀ c ∈ children, Sound P c.transcript)
    (hfits : ∀ c ∈ children, ThreadFits main c) :
    StitchInv P main ((stitchState main children).transcript main)
      (stitchState main children).childActiveLeaf := by
  induction children using List.reverseRecOn with
  | nil =>
    have hsame : (stitchState main []).transcript main = main := rfl
    rw [hsame]
    exact ⟨List.prefix_rfl, List.prefix_rfl, hmain.mainThread, hmain.entry, hmain.anchor,
      hmain.leaf, fun leaf hactive => by cases hactive⟩
  | append_singleton before c ih =>
    have hbefore := ih (fun c' hc' => hchildren c' (List.mem_append_left _ hc'))
      (fun c' hc' => hfits c' (List.mem_append_left _ hc'))
    have hmem : c ∈ before ++ [c] := List.mem_append_right _ (List.mem_singleton_self c)
    have hstep := hbefore.step hP hmain.mainThread (stitches_stitchState before c)
      (hchildren c hmem).entry (hchildren c hmem).leaf (hfits c hmem)
    rw [stitchState_concat] at hstep ⊢
    exact hstep

/-- **Stitching preserves coherence.** -/
theorem Sound.stitchSubagents {P : Transcript → Nat → Entry → Prop} (hP : Movable P)
    (hmain : Sound P main) {children : List SubagentChild}
    (hchildren : ∀ c ∈ children, Sound P c.transcript)
    (hfits : ∀ c ∈ children, ThreadFits main c) :
    Sound P (stitchSubagents main children) := by
  have hinv := stitchInv_stitchState hP hmain hchildren hfits
  refine ⟨hinv.mainThread, hinv.entry, hinv.anchor, fun leaf hactive => ?_⟩
  unfold AgentConvert.Subagents.stitchSubagents StitchState.transcript at hactive
  dsimp only at hactive
  split at hactive
  next leaf' hchild =>
    cases hactive
    exact hinv.childLeaf _ hchild
  · exact hinv.mainLeaf leaf hactive

/-- **The links of stitched transcripts stay right**, whatever results they leave without a call. -/
theorem linked_stitchSubagents (hmain : Linked main) {children : List SubagentChild}
    (hchildren : ∀ c ∈ children, Linked c.transcript)
    (hfits : ∀ c ∈ children, ThreadFits main c) : Linked (stitchSubagents main children) := by
  refine sound_entryLinked_iff.mp ?_
  refine (sound_entryLinked_iff.mpr hmain).stitchSubagents movable_entryLinked ?_ hfits
  exact fun c hc => sound_entryLinked_iff.mpr (hchildren c hc)

end AgentConvert.Subagents
