import Mathlib.Data.List.Induction
import AgentConvert.Loom.WellFormed

/-!
# Stitching subagents

A harness writes the transcript of each subagent to a file of its own.  The children are imported
by the importer of the main session and put behind it as further threads: their parents and links
are indices, so they are shifted by the number of entries in front of them.

## Main statements

* `main_isPrefix_stitchSubagents` — the main session stands first, unchanged
* `stitchSubagents_region` — where the entries of a child stand, and what its thread says
-/

namespace AgentConvert.Subagents

/-! ### Anchors -/

/-- The place of a block that is a call with the id. -/
def anchorOfBlock? (toolUseId : String) (ei : Nat) (item : AssistantBlock × Nat) :
    Option (Nat × Nat) :=
  match item.1 with
  | .toolCall _ _ (some rid) => if rid == toolUseId then some (ei, item.2) else none
  | _ => none

/-- The calls with the id in one entry. -/
def anchorsOfEntry (toolUseId : String) (item : Entry × Nat) : List (Nat × Nat) :=
  match item.1.payload with
  | .assistantMsg blocks => blocks.zipIdx.filterMap (anchorOfBlock? toolUseId item.2)
  | _ => []

/-- The calls with the id, in document order.  An id that was used twice has two of them. -/
def findAnchors (main : Transcript) (toolUseId : String) : List (Nat × Nat) :=
  main.entries.zipIdx.flatMap (anchorsOfEntry toolUseId)

/-- The call with the id, if there is exactly one. -/
def findAnchor (main : Transcript) (toolUseId : String) : Option (Nat × Nat) :=
  match findAnchors main toolUseId with
  | [anchor] => some anchor
  | _ => none

/-! ### Rebasing a child -/

/-- A resolved reference moves with the entries. -/
def shiftCallRef (offset : Nat) : CallRef → CallRef
  | .resolved e b => .resolved (e + offset) b
  | other => other

/-- A result moves with the call it answers. -/
def shiftEnvBlock (offset : Nat) : EnvBlock → EnvBlock
  | .toolResult call content err => .toolResult (shiftCallRef offset call) content err
  | other => other

/-- The links of a payload, shifted.  The coverage of a compaction is left alone. -/
def shiftPayload (offset : Nat) : Payload → Payload
  | .envMsg blocks => .envMsg (blocks.map (shiftEnvBlock offset))
  | payload => payload

/-- An entry of a child as it stands in the combined transcript. -/
def rebaseEntry (offset threadIdx : Nat) (agentId : String) (e : Entry) : Entry :=
  { e with
    parent := e.parent.map (· + offset)
    thread := threadIdx
    payload := shiftPayload offset e.payload
    origin := { e.origin with sourceRef := s!"subagent:{agentId}:{e.origin.sourceRef}" } }

/-- A note of a child says which child it is of. -/
def qualifyChildNote (agentId : String) (note : ImportNote) : ImportNote :=
  { note with
    loc := some (match note.loc with
      | some loc => s!"subagent:{agentId}:{loc}"
      | none => s!"subagent:{agentId}") }

/-! ### The stitch -/

/-- One imported child.  Converter-written files record the thread of the child exactly; the files
of a harness at most name the call that spawned it. -/
structure SubagentChild where
  agentId : String
  toolUseId : Option String
  transcript : Transcript
  threadKindOverride : Option ThreadKind := none
  /-- `some none` is an explicit absence of a label. -/
  threadLabelOverride : Option (Option String) := none
  /-- The child contained the active leaf. -/
  globalActive : Bool := false

/-- The thread kind that follows from the id of the spawning call. -/
def inferredKind (main : Transcript) (toolUseId : Option String) : ThreadKind :=
  match toolUseId with
  | none => .detached "no meta.json toolUseId"
  | some tid =>
    match findAnchors main tid with
    | [(ae, ab)] => .sidechain (.resolved ae ab)
    | [] => .detached s!"toolUseId={tid} unmatched"
    | many =>
      let count := many.length
      .detached s!"toolUseId={tid} ambiguous ({count} matching calls)"

/-- The kind of the child's thread: the one that is given, or the one inferred. -/
def childKind (main : Transcript) (c : SubagentChild) : ThreadKind :=
  c.threadKindOverride.getD (inferredKind main c.toolUseId)

/-- The thread of a child. -/
def childThread (main : Transcript) (c : SubagentChild) : Thread :=
  { kind := childKind main c, label := c.threadLabelOverride.getD (some c.agentId) }

/-- What stitching a child puts on record. -/
def stitchNote (main : Transcript) (c : SubagentChild) : ImportNote :=
  let count := c.transcript.entries.length
  let anchorWord := match childKind main c with
    | .sidechain _ => "anchored"
    | _ => "detached"
  { kind := .other "subagentStitched", loc := some c.agentId
    detail := s!"{count} entries; {anchorWord}" }

/-- The variables of the loop over the children. -/
structure StitchState where
  threads : List Thread
  entries : List Entry
  notes : List ImportNote
  childActiveLeaf : Option Nat

/-- One pass of the loop. -/
def stitchStep (main : Transcript) (state : StitchState) (c : SubagentChild) : StitchState :=
  let offset := state.entries.length
  let threadIdx := state.threads.length
  { threads := state.threads ++ [childThread main c]
    entries := state.entries ++
      c.transcript.entries.map (rebaseEntry offset threadIdx c.agentId)
    notes := state.notes ++ c.transcript.importNotes.map (qualifyChildNote c.agentId) ++
      [stitchNote main c]
    childActiveLeaf :=
      if c.globalActive then c.transcript.activeLeaf.map (· + offset) else state.childActiveLeaf }

/-- Before any child the transcript is the main one. -/
def stitchStart (main : Transcript) : StitchState :=
  { threads := main.threads, entries := main.entries, notes := main.importNotes
    childActiveLeaf := none }

/-- The loop over the children. -/
def stitchState (main : Transcript) (children : List SubagentChild) : StitchState :=
  children.foldl (stitchStep main) (stitchStart main)

/-- What the loop leaves, as a transcript. -/
def StitchState.transcript (main : Transcript) (state : StitchState) : Transcript :=
  { main with
    threads := state.threads
    entries := state.entries
    importNotes := state.notes
    activeLeaf := match state.childActiveLeaf with
      | some leaf => some leaf
      | none => main.activeLeaf }

/-- The main transcript with its children behind it. -/
def stitchSubagents (main : Transcript) (children : List SubagentChild) : Transcript :=
  (stitchState main children).transcript main

/-! ### The checked stitch -/

/-- The indices of the main threads. -/
def mainThreadIndices (main : Transcript) : List Nat :=
  main.threads.zipIdx.filterMap fun p => if p.1.kind == ThreadKind.main then some p.2 else none

/-- An exact anchor must be a call of the main thread, and the call must have the id that the
child names, if it names one. -/
def validateExactSidechainAnchor (main : Transcript) (agentId : String)
    (toolUseId : Option String) (refEntry refBlock : Nat) : Except String Unit := do
  let mainIdx ← match mainThreadIndices main with
    | [index] => pure index
    | indexes =>
      let count := indexes.length
      .error s!"{agentId}: exact sidecar anchor requires one main thread; found {count}"
  let entry ← match main.entries[refEntry]? with
    | some value => pure value
    | none => .error s!"{agentId}: exact sidecar anchor entry {refEntry} is out of range"
  if entry.thread != mainIdx then
    let thread := entry.thread
    .error (s!"{agentId}: exact sidecar anchor entry {refEntry} belongs to thread {thread}, " ++
      s!"not main thread {mainIdx}")
  else
  match entry.payload with
  | .assistantMsg blocks =>
    match blocks[refBlock]? with
    | some (.toolCall _ _ rawId) =>
      match toolUseId with
      | none => pure ()
      | some expected =>
        match rawId with
        | some actual =>
          if actual == expected then pure ()
          else .error (s!"{agentId}: exact sidecar anchor tool id '{actual}' does not match " ++
            s!"metadata toolUseId '{expected}'")
        | none =>
          .error s!"{agentId}: exact sidecar anchor has no tool id but metadata names '{expected}'"
    | some _ => .error s!"{agentId}: exact sidecar anchor {refEntry}:{refBlock} is not a tool call"
    | none =>
      .error s!"{agentId}: exact sidecar anchor block {refEntry}:{refBlock} is out of range"
  | _ => .error s!"{agentId}: exact sidecar anchor entry {refEntry} is not an assistant message"

/-- What is checked of a child before it is stitched. -/
def validateSubagentChild (main : Transcript) (child : SubagentChild) : Except String Unit :=
  let agentId := child.agentId
  if child.globalActive && child.transcript.activeLeaf.isNone then
    .error s!"{agentId}: active sidecar has no active leaf"
  else
  match child.threadKindOverride with
  | none => pure ()
  | some .main => .error s!"{agentId}: converter sidecar cannot declare another main thread"
  | some (.sidechain (.unresolved _ note)) =>
    .error s!"{agentId}: converter sidecar cannot declare unresolved sidechain anchor '{note}'"
  | some (.sidechain (.resolved entry block)) =>
    validateExactSidechainAnchor main agentId child.toolUseId entry block
  | some (.detached _) =>
    if child.toolUseId.isSome then
      .error s!"{agentId}: detached converter sidecar cannot also declare toolUseId"
    else pure ()

/-- The stitch that refuses contradictory metadata, two claims on the active leaf, and every
structural defect of the result. -/
def stitchSubagentsChecked (main : Transcript) (children : List SubagentChild) :
    Except String Transcript := do
  let activeClaims := children.filter fun child => child.globalActive
  if activeClaims.length > 1 then
    let ids := String.intercalate ", " (activeClaims.map fun child => child.agentId)
    .error s!"multiple subagent sidecars claim the combined active leaf: {ids}"
  else
  children.forM (validateSubagentChild main)
  let stitched := stitchSubagents main children
  let structural := violations stitched
  let count := structural.length
  if structural.isEmpty then pure stitched
  else .error s!"stitched subagent transcript is structurally invalid ({count} violation(s))"

/-! ### Where a child stands -/

variable {main : Transcript}

/-- Children are stitched one after the other. -/
theorem stitchState_append (before after : List SubagentChild) :
    stitchState main (before ++ after) = after.foldl (stitchStep main) (stitchState main before) :=
  List.foldl_append ..

/-- One more child is one more step. -/
theorem stitchState_concat (before : List SubagentChild) (c : SubagentChild) :
    stitchState main (before ++ [c]) = stitchStep main (stitchState main before) c :=
  stitchState_append before [c]

/-- The loop only adds threads and entries. -/
theorem stitchState_grows (before after : List SubagentChild) :
    (stitchState main before).threads <+: (stitchState main (before ++ after)).threads ∧
      (stitchState main before).entries <+: (stitchState main (before ++ after)).entries := by
  rw [stitchState_append]
  induction after generalizing before with
  | nil => exact ⟨List.prefix_rfl, List.prefix_rfl⟩
  | cons c after ih =>
    have hrest := ih (before ++ [c])
    rw [stitchState_concat] at hrest
    exact ⟨(List.prefix_append _ _).trans hrest.1, (List.prefix_append _ _).trans hrest.2⟩

/-- How many entries the children have. -/
def entryCount : List SubagentChild → Nat
  | [] => 0
  | c :: children => c.transcript.entries.length + entryCount children

/-- One more child adds its entries. -/
theorem entryCount_concat (before : List SubagentChild) (c : SubagentChild) :
    entryCount (before ++ [c]) = entryCount before + c.transcript.entries.length := by
  induction before with
  | nil => exact Nat.add_comm _ _
  | cons b before ih =>
    show b.transcript.entries.length + entryCount (before ++ [c]) = _
    rw [ih, ← Nat.add_assoc]
    rfl

/-- The thread of a child behind the given ones. -/
def threadOf (main : Transcript) (before : List SubagentChild) : Nat :=
  main.threads.length + before.length

/-- The place of the first entry of a child behind the given ones. -/
def offsetOf (main : Transcript) (before : List SubagentChild) : Nat :=
  main.entries.length + entryCount before

/-- Each child adds one thread. -/
theorem length_threads_stitchState (children : List SubagentChild) :
    (stitchState main children).threads.length = threadOf main children := by
  unfold threadOf
  induction children using List.reverseRecOn with
  | nil => rfl
  | append_singleton before c ih =>
    rw [stitchState_concat]
    simp only [stitchStep, List.length_append, List.length_singleton, ih]
    omega

/-- The children add up to the offset of the next. -/
theorem length_entries_stitchState (children : List SubagentChild) :
    (stitchState main children).entries.length = offsetOf main children := by
  unfold offsetOf
  induction children using List.reverseRecOn with
  | nil => rfl
  | append_singleton before c ih =>
    rw [stitchState_concat, entryCount_concat]
    simp only [stitchStep, List.length_append, List.length_map, ih]
    omega

/-- The entries of the child stand in the transcript from the offset on. -/
def Holds (t : Transcript) (offset threadIdx : Nat) (c : SubagentChild) : Prop :=
  ∀ i e, c.transcript.entries[i]? = some e →
    t.entries[offset + i]? = some (rebaseEntry offset threadIdx c.agentId e)

/-- A child holds where its entries were put. -/
theorem holds_of_append {t : Transcript} {front rest : List Entry} {threadIdx : Nat}
    {c : SubagentChild}
    (h : front ++ c.transcript.entries.map (rebaseEntry front.length threadIdx c.agentId) ++ rest
      = t.entries) : Holds t front.length threadIdx c := by
  intro i e he
  have hi : i < c.transcript.entries.length := (List.getElem?_eq_some_iff.mp he).1
  rw [← h, List.append_assoc, List.getElem?_append_right (Nat.le_add_right _ _),
    Nat.add_sub_cancel_left, List.getElem?_append_left (by simpa using hi), List.getElem?_map, he,
    Option.map_some]

/-- **Every child has a thread of its own and its entries in one piece**, in their order, behind
the main session and the children in front of it. -/
theorem stitchSubagents_region (before after : List SubagentChild) (c : SubagentChild) :
    (stitchSubagents main (before ++ c :: after)).threads[threadOf main before]? =
        some (childThread main c) ∧
      Holds (stitchSubagents main (before ++ c :: after)) (offsetOf main before)
        (threadOf main before) c := by
  have hgrows := @stitchState_grows main (before ++ [c]) after
  rw [List.append_assoc, List.singleton_append, stitchState_concat] at hgrows
  obtain ⟨⟨restThreads, hthreads⟩, ⟨rest, hentries⟩⟩ := hgrows
  constructor
  · show (stitchState main (before ++ c :: after)).threads[_]? = _
    rw [← hthreads, ← length_threads_stitchState]
    simp [stitchStep]
  · rw [← length_entries_stitchState, ← length_threads_stitchState]
    exact holds_of_append hentries

/-- The main session stands first, unchanged. -/
theorem main_isPrefix_stitchSubagents (children : List SubagentChild) :
    main.threads <+: (stitchSubagents main children).threads ∧
      main.entries <+: (stitchSubagents main children).entries :=
  stitchState_grows [] children

end AgentConvert.Subagents
