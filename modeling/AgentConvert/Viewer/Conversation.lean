import Mathlib.Data.List.Pairwise
import AgentConvert.Lib.Decimal
import AgentConvert.Loom.WellFormed
import AgentConvert.Viewer.Session

/-!
# Conversations

What the viewer shows of a transcript: one thread entry for each message block of the main thread.
Tool calls are identified by their position, as the transcript links results to calls, so a result
reaches its call without trusting source ids.  What is not shown is counted.

Grouping the thread entries into messages is done by the user interface library; it is a parameter
here.

## Main statements

* `nodup_shownCalls` — every shown call has an id of its own
* `shownResult_reaches_call` — a shown result has the id of the call that it answers, and that call
  is shown earlier
* `shown_or_counted` — an entry that shows nothing is counted, or has nothing to show
* `assistantBlocks_accounted` — every block of the assistant is shown or counted
-/

namespace AgentConvert.Viewer

/-! ### The thread vocabulary -/

/-- Who speaks in an entry of the shown thread. -/
inductive Role where
  | user
  | assistant
  | system
  deriving Repr, DecidableEq

/-- The arguments of a shown call: one text, or the fields of an object. -/
inductive ToolArguments where
  | raw (text : String)
  | fields (entries : List (String × String))
  deriving Repr, DecidableEq

/-- What an entry of the shown thread holds. -/
inductive Content where
  | text (value : String)
  | image (url : String)
  | reasoning (value : String)
  | toolCall (callId name : String) (arguments : ToolArguments)
  | toolResult (callId value : String) (isError : Bool)
  deriving Repr, DecidableEq

/-- An entry of the shown thread. The component groups these into messages. -/
structure ThreadEntry where
  id : String
  role : Role
  content : Content
  atMs : Option Nat
  deriving Repr, DecidableEq

/-- What the thread leaves out, counted so nothing disappears silently. -/
structure Hidden where
  events : Nat := 0
  redacted : Nat := 0
  deriving Repr, DecidableEq

/-! ### Texts -/

/-- The identifier of a shown call is its place in the transcript. -/
def callId (entry block : Nat) : String := s!"{entry}.{block}"

/-- A media locator as the browser can load it. -/
def imageUrl? (mime locator : String) : Option String :=
  let isImage := mime == "image" || (mime.toList.take 6 == "image/".toList)
  if locator.toList.take 5 == "data:".toList || locator.toList.take 4 == "http".toList then
    some locator
  else if isImage then
    let payload :=
      if locator.toList.take 7 == "base64:".toList then String.ofList (locator.toList.drop 7)
      else locator
    let mediaType := if mime == "image" then "image/png" else mime
    some s!"data:{mediaType};base64,{payload}"
  else none

/-- Media as text, where only text fits. -/
def mediaText (mime locator : String) : String :=
  let length := locator.length
  if locator.toList.take 5 == "data:".toList then s!"[{mime}, {length} characters inline]"
  else if length < 200 then s!"[{mime}] {locator}"
  else s!"[{mime}, {length} characters]"

/-- A block as text. -/
def userBlockText : UserBlock → String
  | .text s => s
  | .media mime locator => mediaText mime locator
  | .unmodeled label _ => s!"[{label}]"

/-- The identifier a result names its call by. -/
def refId : CallRef → String
  | .resolved entry block => callId entry block
  | .unresolved (some raw) _ => raw
  | .unresolved none note => s!"unresolved: {note}"

/-- Whether a result is shown as an error. -/
def isError : ErrorSignal → Bool
  | .native e => e
  | .heuristic e _ | .structured e _ => e
  | .unrecorded => false

/-- The keys a tool's arguments are read in, so the field that names the call comes first. -/
def preferredKeys : Option CanonicalTool → List String
  | some .bash => ["description", "command", "cmd", "input"]
  | some .read => ["file_path", "path", "offset", "limit"]
  | some .write => ["file_path", "path", "content"]
  | some .edit => ["file_path", "path", "old_string", "new_string", "replace_all"]
  | some .grep => ["pattern", "path", "glob", "output_mode"]
  | some .glob => ["pattern", "path"]
  | some .webFetch => ["url", "prompt"]
  | some .webSearch => ["query"]
  | some .agentSpawn => ["description", "subagent_type", "prompt"]
  | some .applyPatch => ["patch", "input"]
  | none => ["description", "command", "cmd", "input", "query", "pattern", "file_path", "path",
      "url", "prompt"]

/-- The value of an argument as text. -/
def fieldText : Json → String
  | .str s => s
  | other => other.compress

/-- Tool arguments for display: the tool's own keys first and the rest in key order. -/
def toolArguments (name : ToolName) (args : Json) : ToolArguments :=
  match args with
  | .obj members =>
    let entries := members.map fun p => (p.1, fieldText p.2)
    let preferred := preferredKeys name.canonical
    let first := preferred.filterMap fun key => entries.find? fun p => p.1 == key
    let rest := entries.filter fun p => !preferred.contains p.1
    .fields (first ++ rest)
  | .str s => .raw s
  | other => .raw other.compress

/-- The text of an event, as a search finds it. -/
def eventText : MetaEvent → String
  | .modelChange prev next =>
    let prev := prev.getD "unknown"
    let next := next.getD "unknown"
    s!"model change: {prev} -> {next}"
  | .thinkingLevelChange prev next =>
    let prev := prev.getD "unknown"
    let next := next.getD "unknown"
    s!"thinking level: {prev} -> {next}"
  | .permissionMode mode => s!"permission mode: {mode}"
  | .branchSummary summary => summary
  | .custom label raw =>
    let raw := raw.compress
    s!"[{label}] {raw}"

/-! ### The projection -/

/-- The thread that is shown. Without a main thread it is the first. -/
def mainThread (t : Transcript) : Nat := (mainThreadIndex? t).getD 0

/-- The texts of a user message: images are shown beside them. -/
def shownText? (block : UserBlock) : Option String :=
  match block with
  | .media mime locator =>
    if (imageUrl? mime locator).isSome then none else some (userBlockText block)
  | other => some (userBlockText other)

/-- The address of a block that is shown as an image. -/
def shownImage? (block : UserBlock) : Option String :=
  match block with
  | .media mime locator => imageUrl? mime locator
  | _ => none

/-- What a block of the assistant shows. -/
def blockContent? (i : Nat) (item : AssistantBlock × Nat) : Option Content :=
  match item.1 with
  | .text s => some (.text s)
  | .thinking s _ => some (.reasoning s)
  | .toolCall name args _ => some (.toolCall (callId i item.2) name.raw (toolArguments name args))
  | .media mime locator =>
    some (((imageUrl? mime locator).map Content.image).getD (.text (mediaText mime locator)))
  | .unmodeled _ _ => none

/-- What a block of the environment shows. -/
def envEntry (i : Nat) (atMs : Option Nat) (block : EnvBlock) : ThreadEntry :=
  match block with
  | .toolResult call content error =>
    let content := String.intercalate "\n" (content.map userBlockText)
    { id := toString i, role := .assistant, atMs
      content := .toolResult (refId call) content (isError error) }
  | .unmodeled label _ =>
    { id := toString i, role := .system, content := .text s!"[{label}]", atMs }

/-- The thread entries of the entry at index `i`.  The harness's own scaffolding, which is kept as
user rows, renders as system. -/
def entriesOf (scaffolding : String → Bool) (i : Nat) (e : Entry) : List ThreadEntry :=
  let atMs := timeMs e.time
  let one (role : Role) (content : Content) : ThreadEntry :=
    { id := toString i, role, content, atMs }
  match e.payload with
  | .userMsg blocks =>
    let text := String.intercalate "\n" (blocks.filterMap shownText?)
    let role := if scaffolding text then Role.system else Role.user
    (if text.isEmpty then [] else [one role (.text text)]) ++
      (blocks.filterMap shownImage?).map fun url => one role (.image url)
  | .assistantMsg blocks =>
    blocks.zipIdx.filterMap fun item => (blockContent? i item).map fun content =>
      { id := callId i item.2, role := .assistant, content, atMs }
  | .envMsg blocks => blocks.map (envEntry i atMs)
  | .otherMsg role blocks =>
    let text := String.intercalate "\n" (blocks.map userBlockText)
    if role == "peer" then [one .system (.text text)]
    else [one .system (.text (s!"[{role}] " ++ text))]
  | .compaction summary _ _ => [one .system (.text s!"Compaction summary:\n{summary}")]
  | .event (.custom _ _) => []
  | .event event => [one .system (.text (eventText event))]

/-- A harness bookkeeping row. -/
def isBookkeeping (e : Entry) : Bool :=
  match e.payload with
  | .event (.custom _ _) => true
  | _ => false

/-- A block of the assistant that is counted but not shown. -/
def isRedacted : AssistantBlock → Bool
  | .unmodeled _ _ => true
  | _ => false

/-- Assistant blocks that could only be kept verbatim. -/
def redactedBlocks (e : Entry) : Nat :=
  match e.payload with
  | .assistantMsg blocks => (blocks.filter isRedacted).length
  | _ => 0

/-- The entries of the main thread, with their indices. -/
def mainItems (t : Transcript) : List (Entry × Nat) :=
  t.entries.zipIdx.filter fun item => item.1.thread == mainThread t

/-- The main thread of a transcript, as thread entries. -/
def entries (scaffolding : String → Bool) (t : Transcript) : List ThreadEntry :=
  (mainItems t).flatMap fun item => entriesOf scaffolding item.2 item.1

/-- A transcript as the thread shows it. -/
structure Conversation (Messages : Type) where
  messages : Messages
  sidechains : Nat
  importNotes : Nat
  hidden : Hidden

/-- The conversation of a transcript, with the counts of what is not shown. -/
def Conversation.ofTranscript {Messages : Type} (group : List ThreadEntry → Messages)
    (scaffolding : String → Bool) (t : Transcript) : Conversation Messages where
  messages := group (entries scaffolding t)
  sidechains := t.threads.length - 1
  importNotes := t.importNotes.length
  hidden := {
    events := ((mainItems t).filter fun item => isBookkeeping item.1).length
    redacted := (mainItems t).foldl (fun n item => n + redactedBlocks item.1) 0 }

/-! ### Ids -/

/-- Two numbers that are written the same are the same. -/
theorem toString_injective : Function.Injective (toString : Nat → String) := by
  intro n k h
  have hvalue := congrArg Text.toNat? h
  rw [Text.toNat?_toString, Text.toNat?_toString] at hvalue
  exact Option.some.inj hvalue

/-- A number is written in digits. -/
theorem notMem_toString {c : Char} (hc : c.isDigit = false) (n : Nat) :
    c ∉ (toString n).toList := by
  intro hmem
  rw [Nat.toString_eq_repr, Nat.repr, String.toList_ofList] at hmem
  rw [Decimal.isDigit_of_mem_toDigits hmem] at hc
  cases hc

/-- A call identifier is the two places with a point between. -/
theorem toList_callId (entry block : Nat) :
    (callId entry block).toList = (toString entry).toList ++ '.' :: (toString block).toList := by
  show (toString entry ++ "." ++ toString block).toList = _
  rw [String.toList_append, String.toList_append, List.append_assoc]
  rfl

/-- **The id of a call determines the call.** -/
theorem callId_inj {entry block entry' block' : Nat} :
    callId entry block = callId entry' block' ↔ entry = entry' ∧ block = block' := by
  constructor
  · intro h
    have hchars := congrArg String.toList h
    rw [toList_callId, toList_callId] at hchars
    have hdot : ∀ n : Nat, '.' ∉ (toString n).toList := notMem_toString (by decide)
    obtain ⟨hentry, hblock⟩ := Text.append_cons_inj_of_notMem_left (hdot _) (hdot _) hchars
    exact ⟨toString_injective (String.toList_injective hentry),
      toString_injective (String.toList_injective hblock)⟩
  · rintro ⟨rfl, rfl⟩
    rfl

/-! ### Calls and results -/

/-- The id of the call that the thread entry shows. -/
def ThreadEntry.call? (x : ThreadEntry) : Option String :=
  match x.content with
  | .toolCall callId _ _ => some callId
  | _ => none

/-- The id of the call whose result the thread entry shows. -/
def ThreadEntry.result? (x : ThreadEntry) : Option String :=
  match x.content with
  | .toolResult callId _ _ => some callId
  | _ => none

/-- The place of a block that is a call. -/
def callPlace? (item : AssistantBlock × Nat) : Option Nat :=
  match item.1 with
  | .toolCall _ _ _ => some item.2
  | _ => none

/-- The calls of an entry, by their places in it. -/
def callsOf (e : Entry) : List Nat :=
  match e.payload with
  | .assistantMsg blocks => blocks.zipIdx.filterMap callPlace?
  | _ => []

variable {scaffolding : String → Bool} {t : Transcript} {i : Nat} {e : Entry}

/-- The thread entry shows a block of the assistant. -/
def ThreadEntry.isAssistantBlock (x : ThreadEntry) : Bool :=
  x.role == .assistant && x.result?.isNone

/-- An entry that is not a message of the assistant shows no block of the assistant, and no
call. -/
theorem not_assistantBlock_of_mem (hpayload : ∀ blocks, e.payload ≠ .assistantMsg blocks)
    {x : ThreadEntry} (hx : x ∈ entriesOf scaffolding i e) :
    x.isAssistantBlock = false ∧ x.call? = none := by
  unfold entriesOf at hx
  dsimp only at hx
  split at hx
  · rcases List.mem_append.mp hx with htext | himage
    · split at htext
      · cases htext
      · rw [List.mem_singleton.mp htext]
        exact ⟨by unfold ThreadEntry.isAssistantBlock; split <;> rfl, rfl⟩
    · obtain ⟨url, _, rfl⟩ := List.mem_map.mp himage
      exact ⟨by unfold ThreadEntry.isAssistantBlock; split <;> rfl, rfl⟩
  next blocks hblocks => exact absurd hblocks (hpayload blocks)
  · obtain ⟨block, _, rfl⟩ := List.mem_map.mp hx
    cases block <;> exact ⟨rfl, rfl⟩
  · split at hx
    · rw [List.mem_singleton.mp hx]
      exact ⟨rfl, rfl⟩
    · rw [List.mem_singleton.mp hx]
      exact ⟨rfl, rfl⟩
  · rw [List.mem_singleton.mp hx]
    exact ⟨rfl, rfl⟩
  · cases hx
  · rw [List.mem_singleton.mp hx]
    exact ⟨rfl, rfl⟩

/-- **The calls an entry shows are its calls**, under the ids of their places. -/
theorem filterMap_call?_entriesOf :
    (entriesOf scaffolding i e).filterMap ThreadEntry.call? = (callsOf e).map (callId i) := by
  by_cases hassistant : ∃ blocks, e.payload = .assistantMsg blocks
  · obtain ⟨blocks, hblocks⟩ := hassistant
    unfold entriesOf callsOf
    simp only [hblocks, List.filterMap_filterMap, List.map_filterMap]
    congr 1
    funext item
    obtain ⟨block, j⟩ := item
    cases block <;> first | rfl | skip
    -- an image or its text is not a call
    next mime locator =>
      show ((some _).map _).bind _ = none
      cases imageUrl? mime locator <;> rfl
  · have hother : ∀ blocks, e.payload ≠ .assistantMsg blocks :=
      fun blocks hblocks => hassistant ⟨blocks, hblocks⟩
    have hcalls : callsOf e = [] := by
      unfold callsOf
      split
      next blocks hblocks => exact absurd hblocks (hother blocks)
      · rfl
    rw [hcalls, List.map_nil, List.filterMap_eq_nil_iff]
    exact fun x hx => (not_assistantBlock_of_mem hother hx).2

/-- The calls of an entry are the places of its call blocks. -/
theorem mem_callsOf_iff {j : Nat} : j ∈ callsOf e ↔ ∃ blocks name args rawId,
    e.payload = .assistantMsg blocks ∧ blocks[j]? = some (.toolCall name args rawId) := by
  unfold callsOf
  split
  next blocks hblocks =>
    rw [List.mem_filterMap]
    constructor
    · rintro ⟨⟨block, k⟩, hitem, hplace⟩
      cases block with
      | toolCall name args rawId =>
        cases hplace
        exact ⟨blocks, name, args, rawId, hblocks, List.mem_zipIdx_iff_getElem?.mp hitem⟩
      | text s => cases hplace
      | thinking s signature => cases hplace
      | media mime locator => cases hplace
      | unmodeled label raw => cases hplace
    · rintro ⟨blocks', name, args, rawId, hblocks', hcall⟩
      cases hblocks.symm.trans hblocks'
      exact ⟨(.toolCall name args rawId, j), List.mem_zipIdx_iff_getElem?.mpr hcall, rfl⟩
  next hother =>
    constructor
    · intro h
      cases h
    · rintro ⟨blocks, name, args, rawId, hblocks, _⟩
      exact absurd hblocks (hother blocks)

/-- A call is listed once. -/
theorem nodup_callsOf : (callsOf e).Nodup := by
  unfold callsOf
  split
  next blocks _ =>
    have hplaces : (blocks.zipIdx.map Prod.snd).Nodup := by
      rw [List.zipIdx_map_snd]
      exact List.nodup_range'
    refine List.Nodup.sublist ?_ hplaces
    induction blocks.zipIdx with
    | nil => exact List.Sublist.slnil
    | cons item items ih =>
      rw [List.filterMap_cons, List.map_cons]
      obtain ⟨block, j⟩ := item
      cases block with
      | toolCall name args rawId => exact ih.cons_cons j
      | text s => exact ih.cons j
      | thinking s signature => exact ih.cons j
      | media mime locator => exact ih.cons j
      | unmodeled label raw => exact ih.cons j
  · exact List.nodup_nil

/-- The entries of the main thread stand in their order. -/
theorem pairwise_mainItems : (mainItems t).Pairwise fun item item' => item.2 < item'.2 := by
  have hplaces : (t.entries.zipIdx.map Prod.snd).Pairwise (· < ·) := by
    rw [List.zipIdx_map_snd]
    exact List.pairwise_lt_range'
  exact (List.pairwise_map.mp hplaces).sublist List.filter_sublist

/-- The shown items are the entries of the main thread. -/
theorem mem_mainItems_iff :
    (e, i) ∈ mainItems t ↔ t.entries[i]? = some e ∧ e.thread = mainThread t := by
  unfold mainItems
  rw [List.mem_filter, List.mem_zipIdx_iff_getElem?, beq_iff_eq]

/-- The calls of the main thread. -/
def mainCalls (t : Transcript) : List (Nat × Nat) :=
  (mainItems t).flatMap fun item => (callsOf item.1).map fun j => (item.2, j)

/-- A call of the main thread is listed once. -/
theorem nodup_mainCalls : (mainCalls t).Nodup := by
  unfold mainCalls
  rw [List.nodup_flatMap]
  constructor
  · intro item _
    exact nodup_callsOf.map fun j k h => congrArg Prod.snd h
  · refine pairwise_mainItems.imp fun {item item'} hlt => ?_
    intro call hcall hcall'
    obtain ⟨j, _, rfl⟩ := List.mem_map.mp hcall
    obtain ⟨k, _, hsame⟩ := List.mem_map.mp hcall'
    exact absurd (congrArg Prod.fst hsame) (Nat.ne_of_gt hlt)

/-- The calls that are shown, by their ids. -/
def shownCalls (scaffolding : String → Bool) (t : Transcript) : List String :=
  (entries scaffolding t).filterMap ThreadEntry.call?

/-- **The shown calls are the calls of the main thread.** -/
theorem shownCalls_eq :
    shownCalls scaffolding t = (mainCalls t).map fun call => callId call.1 call.2 := by
  unfold shownCalls entries mainCalls
  rw [List.filterMap_flatMap, List.map_flatMap]
  congr 1
  funext item
  rw [filterMap_call?_entriesOf, List.map_map]
  rfl

/-- **Every shown call has an id of its own.** -/
theorem nodup_shownCalls (scaffolding : String → Bool) (t : Transcript) :
    (shownCalls scaffolding t).Nodup := by
  rw [shownCalls_eq]
  refine nodup_mainCalls.map fun call call' hsame => ?_
  obtain ⟨hentry, hblock⟩ := callId_inj.mp hsame
  exact Prod.ext hentry hblock

/-- The calls of the main thread are the calls of its entries. -/
theorem mem_mainCalls_iff {entry block : Nat} : (entry, block) ∈ mainCalls t ↔
    ∃ e, t.entries[entry]? = some e ∧ e.thread = mainThread t ∧ block ∈ callsOf e := by
  unfold mainCalls
  rw [List.mem_flatMap]
  constructor
  · rintro ⟨⟨e, i⟩, hitem, hcall⟩
    obtain ⟨j, hj, hsame⟩ := List.mem_map.mp hcall
    cases hsame
    obtain ⟨he, hthread⟩ := mem_mainItems_iff.mp hitem
    exact ⟨e, he, hthread, hj⟩
  · rintro ⟨e, he, hthread, hj⟩
    exact ⟨(e, entry), mem_mainItems_iff.mpr ⟨he, hthread⟩, List.mem_map_of_mem hj⟩

/-- Only a block of the environment shows a result. -/
theorem result?_of_mem {x : ThreadEntry} {cid : String} (hx : x ∈ entriesOf scaffolding i e)
    (hresult : x.result? = some cid) : ∃ blocks call content error,
      e.payload = .envMsg blocks ∧ .toolResult call content error ∈ blocks ∧ cid = refId call := by
  unfold entriesOf at hx
  dsimp only at hx
  split at hx
  · rcases List.mem_append.mp hx with htext | himage
    · split at htext
      · cases htext
      · rw [List.mem_singleton.mp htext] at hresult
        cases hresult
    · obtain ⟨url, _, rfl⟩ := List.mem_map.mp himage
      cases hresult
  · obtain ⟨⟨block, j⟩, _, hshown⟩ := List.mem_filterMap.mp hx
    obtain ⟨content, hcontent, rfl⟩ := Option.map_eq_some_iff.mp hshown
    cases block with
    | text s => cases hcontent; cases hresult
    | thinking s signature => cases hcontent; cases hresult
    | toolCall name args rawId => cases hcontent; cases hresult
    | unmodeled label raw => cases hcontent
    | media mime locator =>
      cases Option.some.inj hcontent
      cases hurl : imageUrl? mime locator with
      | none =>
        rw [hurl] at hresult
        cases hresult
      | some url =>
        rw [hurl] at hresult
        cases hresult
  next blocks hblocks =>
    obtain ⟨block, hblock, rfl⟩ := List.mem_map.mp hx
    cases block with
    | unmodeled label raw => cases hresult
    | toolResult call content error =>
      cases hresult
      exact ⟨blocks, call, content, error, hblocks, hblock, rfl⟩
  · split at hx
    · rw [List.mem_singleton.mp hx] at hresult
      cases hresult
    · rw [List.mem_singleton.mp hx] at hresult
      cases hresult
  · rw [List.mem_singleton.mp hx] at hresult
    cases hresult
  · cases hx
  · rw [List.mem_singleton.mp hx] at hresult
    cases hresult

/-- An element of a flattened list, with the list it comes from and what is around it. -/
theorem exists_of_flatMap_eq {α β : Type} {f : α → List β} {l : List α} {front rest : List β}
    {x : β} (h : l.flatMap f = front ++ x :: rest) : ∃ l₁ a l₂ u v, l = l₁ ++ a :: l₂ ∧
      f a = u ++ x :: v ∧ front = l₁.flatMap f ++ u ∧ rest = v ++ l₂.flatMap f := by
  induction l generalizing front with
  | nil => simp at h
  | cons b l ih =>
    rw [List.flatMap_cons] at h
    have hlater : ∀ c, front = f b ++ c → l.flatMap f = c ++ x :: rest → ∃ l₁ a l₂ u v,
        b :: l = l₁ ++ a :: l₂ ∧ f a = u ++ x :: v ∧ front = l₁.flatMap f ++ u ∧
          rest = v ++ l₂.flatMap f := by
      rintro c rfl hc
      obtain ⟨l₁, a, l₂, u, v, rfl, ha, rfl, hrest⟩ := ih hc
      exact ⟨b :: l₁, a, l₂, u, v, rfl, ha, by rw [List.flatMap_cons, List.append_assoc], hrest⟩
    rcases List.append_eq_append_iff.mp h with ⟨c, hfront, hc⟩ | ⟨c, hb, hc⟩
    · exact hlater c hfront hc
    · cases c with
      | nil =>
        rw [List.append_nil] at hb
        exact hlater [] (by rw [hb, List.append_nil]) hc.symm
      | cons y v =>
        obtain ⟨rfl, hrest⟩ := List.cons.inj hc
        exact ⟨[], b, l, front, v, rfl, hb, rfl, hrest⟩

/-- **A shown result reaches its call.**  It has the id of the call it answers.  If that call is
on the main thread, it is shown before the result, and nothing behind the result is shown under
its id; otherwise no call is shown under the id. -/
theorem shownResult_reaches_call (hwell : WellFormed t) {front rest : List ThreadEntry}
    {x : ThreadEntry} {cid : String} (hshown : entries scaffolding t = front ++ x :: rest)
    (hresult : x.result? = some cid) : ∃ entry block e, cid = callId entry block ∧
      t.entries[entry]? = some e ∧ block ∈ callsOf e ∧
      (e.thread = mainThread t →
        (∃ y ∈ front, y.call? = some cid) ∧ ∀ y ∈ rest, y.call? ≠ some cid) ∧
      (e.thread ≠ mainThread t → cid ∉ shownCalls scaffolding t) := by
  obtain ⟨before, ⟨e', i⟩, after, u, v, hitems, hentry, hfront, hrest⟩ :=
    exists_of_flatMap_eq hshown
  have hx : x ∈ entriesOf scaffolding i e' := by
    rw [hentry]
    exact List.mem_append_right u List.mem_cons_self
  obtain ⟨blocks, call, content, error, hblocks, hblock, hid⟩ := result?_of_mem hx hresult
  have hitem : (e', i) ∈ mainItems t := by
    rw [hitems]
    exact List.mem_append_right before List.mem_cons_self
  -- the checks have found the call of the result in an earlier entry
  have hcoherent := wellFormed_iff_coherent.mp hwell
  have hpayload := (hcoherent.entry i e' (mem_mainItems_iff.mp hitem).1).payload
  rw [hblocks] at hpayload
  have hcoherent := hpayload _ hblock
  cases call with
  | unresolved rawId note => exact absurd hcoherent id
  | resolved entry block =>
    obtain ⟨hlt, e, callBlocks, name, args, rawId, he, hpayloadCall, hcall⟩ := hcoherent
    have hplace : block ∈ callsOf e :=
      mem_callsOf_iff.mpr ⟨callBlocks, name, args, rawId, hpayloadCall, hcall⟩
    refine ⟨entry, block, e, hid, he, hplace, fun hmain => ?_, fun hother hmem => ?_⟩
    · have hcallItem : (e, entry) ∈ before := by
        have hmem := mem_mainItems_iff.mpr ⟨he, hmain⟩
        have hsorted := @pairwise_mainItems t
        rw [hitems] at hmem hsorted
        obtain ⟨_, hback, _⟩ := List.pairwise_append.mp hsorted
        rcases List.mem_append.mp hmem with hbefore | hlater
        · exact hbefore
        · rcases List.mem_cons.mp hlater with hsame | hafter
          · exact absurd (congrArg Prod.snd hsame) (Nat.ne_of_lt hlt)
          · have hgt := (List.pairwise_cons.mp hback).1 _ hafter
            exact absurd hlt (Nat.lt_asymm hgt)
      have hfound : ∃ y ∈ front, y.call? = some cid := by
        have hshownCall : cid ∈ (entriesOf scaffolding entry e).filterMap ThreadEntry.call? := by
          rw [filterMap_call?_entriesOf, hid]
          exact List.mem_map_of_mem hplace
        obtain ⟨y, hy, hcid⟩ := List.mem_filterMap.mp hshownCall
        refine ⟨y, ?_, hcid⟩
        rw [hfront]
        exact List.mem_append_left u (List.mem_flatMap.mpr ⟨_, hcallItem, hy⟩)
      refine ⟨hfound, fun y hy hcid => ?_⟩
      obtain ⟨z, hz, hzid⟩ := hfound
      have hnodup := nodup_shownCalls scaffolding t
      unfold shownCalls at hnodup
      rw [hshown, List.filterMap_append, List.nodup_append] at hnodup
      refine hnodup.2.2 cid (List.mem_filterMap.mpr ⟨z, hz, hzid⟩) cid ?_ rfl
      exact List.mem_filterMap.mpr ⟨y, List.mem_cons_of_mem x hy, hcid⟩
    · rw [shownCalls_eq] at hmem
      obtain ⟨⟨entry', block'⟩, hcalls, hsame⟩ := List.mem_map.mp hmem
      rw [hid] at hsame
      obtain ⟨rfl, rfl⟩ := callId_inj.mp hsame
      obtain ⟨e₁, he₁, hthread, _⟩ := mem_mainCalls_iff.mp hcalls
      cases he.symm.trans he₁
      exact hother hthread

/-- One call and its result. -/
def answeredCall : Transcript where
  threads := [{ kind := .main }]
  entries := [
    { payload := .assistantMsg [.toolCall { raw := "Bash" } .null none]
      origin := { format := .claudeCode, sourceRef := "line 1" } },
    { parent := some 0
      payload := .envMsg [.toolResult (.resolved 0 0) [.text "done"] .unrecorded]
      origin := { format := .claudeCode, sourceRef := "line 2" } }]
  origin := { format := .claudeCode, sourceRef := "session.jsonl" }

/-- A session with one answered call. -/
theorem shownResult_reaches_call_answeredCall :
    ∃ entry block e, "0.0" = callId entry block ∧ answeredCall.entries[entry]? = some e ∧
      block ∈ callsOf e ∧
      (e.thread = mainThread answeredCall →
        (∃ y ∈ entriesOf (fun _ => false) 0 answeredCall.entries[0], y.call? = some "0.0") ∧
          ∀ y ∈ ([] : List ThreadEntry), y.call? ≠ some "0.0") ∧
      (e.thread ≠ mainThread answeredCall → "0.0" ∉ shownCalls (fun _ => false) answeredCall) :=
  shownResult_reaches_call (t := answeredCall) (by decide)
    (show entries (fun _ => false) answeredCall =
      entriesOf (fun _ => false) 0 answeredCall.entries[0] ++
        { id := "1"
          role := .assistant
          content := .toolResult "0.0" "done" false
          atMs := none } :: [] from rfl)
    rfl

/-! ### What is left out -/

/-- The entry has nothing that could be shown: no block, or only empty texts. -/
def Blank (e : Entry) : Prop :=
  (∃ blocks, e.payload = .userMsg blocks ∧
      String.intercalate "\n" (blocks.filterMap shownText?) = "" ∧
      blocks.filterMap shownImage? = []) ∨
    e.payload = .assistantMsg [] ∨ e.payload = .envMsg []

/-- The blocks of the assistant in an entry. -/
def assistantBlocks (e : Entry) : Nat :=
  match e.payload with
  | .assistantMsg blocks => blocks.length
  | _ => 0

/-- The blocks that are not shown are those that are counted. -/
theorem blockContent?_isNone (item : AssistantBlock × Nat) :
    (blockContent? i item).isNone = isRedacted item.1 := by
  obtain ⟨block, j⟩ := item
  cases block <;> rfl

/-- What is shown of a block of the assistant is shown as one. -/
theorem isAssistantBlock_of_blockContent? {item : AssistantBlock × Nat} {content : Content}
    (h : blockContent? i item = some content) (id : String) (atMs : Option Nat) :
    ThreadEntry.isAssistantBlock { id, role := .assistant, content, atMs } = true := by
  obtain ⟨block, j⟩ := item
  cases block with
  | text s =>
    cases h
    rfl
  | thinking s signature =>
    cases h
    rfl
  | toolCall name args rawId =>
    cases h
    rfl
  | unmodeled label raw => cases h
  | media mime locator =>
    cases Option.some.inj h
    cases imageUrl? mime locator <;> rfl

/-- **Every block of the assistant in an entry is shown or counted.** -/
theorem countP_entriesOf (scaffolding : String → Bool) (i : Nat) (e : Entry) :
    (entriesOf scaffolding i e).countP ThreadEntry.isAssistantBlock + redactedBlocks e =
      assistantBlocks e := by
  by_cases hassistant : ∃ blocks, e.payload = .assistantMsg blocks
  · obtain ⟨blocks, hpayload⟩ := hassistant
    unfold entriesOf redactedBlocks assistantBlocks
    simp only [hpayload]
    generalize hitems : blocks.zipIdx = items
    have hlength : blocks = items.map Prod.fst := by
      rw [← hitems, List.zipIdx_map_fst]
    rw [hlength, List.filter_map, List.length_map, List.length_map]
    clear hitems hlength hpayload
    induction items with
    | nil => rfl
    | cons item items ih =>
      rw [List.filterMap_cons, List.filter_cons, List.length_cons]
      have hredacted := @blockContent?_isNone i item
      cases hcontent : blockContent? i item with
      | none =>
        rw [hcontent] at hredacted
        rw [Function.comp_apply, ← hredacted]
        simp only [Option.map_none, Option.isNone_none, if_true, List.length_cons]
        omega
      | some content =>
        rw [hcontent] at hredacted
        rw [Function.comp_apply, ← hredacted]
        have hshown := isAssistantBlock_of_blockContent? hcontent (callId i item.2) (timeMs e.time)
        simp only [Option.map_some, Option.isNone_some, Bool.false_eq_true, if_false,
          List.countP_cons, hshown, if_true]
        omega
  · have hother : ∀ blocks, e.payload ≠ .assistantMsg blocks :=
      fun blocks hblocks => hassistant ⟨blocks, hblocks⟩
    have hnone : (entriesOf scaffolding i e).countP ThreadEntry.isAssistantBlock = 0 := by
      rw [List.countP_eq_zero]
      intro x hx
      rw [(not_assistantBlock_of_mem hother hx).1]
      exact Bool.false_ne_true
    have hzero : redactedBlocks e = 0 ∧ assistantBlocks e = 0 := by
      unfold redactedBlocks assistantBlocks
      constructor
      · split
        next blocks hblocks => exact absurd hblocks (hother blocks)
        · rfl
      · split
        next blocks hblocks => exact absurd hblocks (hother blocks)
        · rfl
    rw [hnone, hzero.1, hzero.2]

/-- **An entry that shows nothing is counted, or has nothing to show.** -/
theorem shown_or_counted (hshown : entriesOf scaffolding i e = []) :
    isBookkeeping e = true ∨ 0 < redactedBlocks e ∨ Blank e := by
  have hcount := countP_entriesOf scaffolding i e
  rw [hshown, List.countP_nil, Nat.zero_add] at hcount
  unfold entriesOf at hshown
  unfold isBookkeeping
  cases hpayload : e.payload with
  | userMsg blocks =>
    simp only [hpayload, List.append_eq_nil_iff, List.map_eq_nil_iff] at hshown
    obtain ⟨htext, himage⟩ := hshown
    refine Or.inr (Or.inr (Or.inl ⟨blocks, hpayload, ?_, himage⟩))
    split at htext
    next hempty => exact String.isEmpty_iff.mp hempty
    · cases htext
  | assistantMsg blocks =>
    cases blocks with
    | nil => exact Or.inr (Or.inr (Or.inr (Or.inl hpayload)))
    | cons block blocks =>
      refine Or.inr (Or.inl ?_)
      rw [hcount]
      unfold assistantBlocks
      rw [hpayload]
      exact Nat.zero_lt_succ _
  | envMsg blocks =>
    simp only [hpayload, List.map_eq_nil_iff] at hshown
    rw [hshown] at hpayload
    exact Or.inr (Or.inr (Or.inr (Or.inr hpayload)))
  | otherMsg role blocks =>
    simp only [hpayload] at hshown
    split at hshown <;> cases hshown
  | compaction summary coverage tokensBefore =>
    simp only [hpayload] at hshown
    cases hshown
  | event event =>
    cases event with
    | custom label raw => exact Or.inl rfl
    | modelChange prev next =>
      simp only [hpayload] at hshown
      cases hshown
    | thinkingLevelChange prev next =>
      simp only [hpayload] at hshown
      cases hshown
    | permissionMode mode =>
      simp only [hpayload] at hshown
      cases hshown
    | branchSummary summary =>
      simp only [hpayload] at hshown
      cases hshown

/-- The blocks of the assistant on the main thread. -/
def mainAssistantBlocks (t : Transcript) : Nat :=
  (mainItems t).foldl (fun n item => n + assistantBlocks item.1) 0

/-- **Every block of the assistant is shown or counted.** -/
theorem assistantBlocks_accounted (scaffolding : String → Bool) (t : Transcript) :
    (entries scaffolding t).countP ThreadEntry.isAssistantBlock +
      (Conversation.ofTranscript id scaffolding t).hidden.redacted = mainAssistantBlocks t := by
  have hfold : ∀ (items : List (Entry × Nat)) (n k : Nat),
      (items.flatMap fun item => entriesOf scaffolding item.2 item.1).countP
          ThreadEntry.isAssistantBlock + items.foldl (fun n item => n + redactedBlocks item.1) n +
        k = items.foldl (fun n item => n + assistantBlocks item.1) k + n := by
    intro items
    induction items with
    | nil =>
      intro n k
      show 0 + n + k = k + n
      omega
    | cons item items ih =>
      intro n k
      have hentry := countP_entriesOf scaffolding item.2 item.1
      have hrest := ih (n + redactedBlocks item.1) (k + assistantBlocks item.1)
      rw [List.flatMap_cons, List.countP_append, List.foldl_cons, List.foldl_cons]
      omega
  have haccount := hfold (mainItems t) 0 0
  rw [Nat.add_zero, Nat.add_zero] at haccount
  exact haccount

end AgentConvert.Viewer
