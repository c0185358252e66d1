import Mathlib.Data.List.Nodup
import AgentConvert.Viewer.Catalog
import AgentConvert.Viewer.Conversation

/-!
# What the viewer remembers

The work per file is cached under the path and the modification time of the file: every preview,
and the last few conversations.  Reading a file may fail at any request.  What the cache holds was
computed from the same version of the same file, so it never makes a difference to a conversation
that is shown.  A preview is remembered also when it could not be made.

## Main definitions

* `ConversationCache` — the most recently imported conversations
* `Catalog.serve` — one request

## Main statements

* `cacheKey_inj` — the key of a file determines its path and its modification time
* `harness_eq_of_path` — no file is in two stores
* `ConversationCache.Valid.insert` — the cache stays small and its order complete
* `conversation_served` — a served conversation is the one of the file as it is
* `preview_served` — so is a preview, unless reading failed when it was made
-/

namespace AgentConvert.Viewer

/-! ### Files and keys -/

/-- A session file, from the file system alone. -/
structure SessionFile where
  harness : JsonlHarness
  id : String
  path : String
  modifiedMs : Nat
  bytes : Nat
  deriving Repr, DecidableEq

/-- A cache key: the path and the modification time. -/
def cacheKey (file : SessionFile) : String :=
  let path := file.path
  let modifiedMs := file.modifiedMs
  s!"{path}#{modifiedMs}"

/-- A key is the path and the time with a hash sign between. -/
theorem toList_cacheKey (file : SessionFile) :
    (cacheKey file).toList = file.path.toList ++ '#' :: (toString file.modifiedMs).toList := by
  show (toString file.path ++ "#" ++ toString file.modifiedMs).toList = _
  rw [String.toList_append, String.toList_append, List.append_assoc]
  rfl

/-- **The key of a file determines its path and its modification time**, whatever characters the
path has. -/
theorem cacheKey_inj {file file' : SessionFile} : cacheKey file = cacheKey file' ↔
    file.path = file'.path ∧ file.modifiedMs = file'.modifiedMs := by
  constructor
  · intro h
    -- read from the end: the time has no separator in it
    have hchars := congrArg (fun s => s.toList.reverse) h
    simp only [toList_cacheKey, List.reverse_append, List.reverse_cons, List.append_assoc,
      List.singleton_append] at hchars
    have hfree : ∀ n : Nat, '#' ∉ (toString n).toList.reverse :=
      fun n hmem => notMem_toString (by decide) n (List.mem_reverse.mp hmem)
    obtain ⟨htime, hpath⟩ := Text.append_cons_inj_of_notMem_left (hfree file.modifiedMs)
      (hfree file'.modifiedMs) hchars
    exact ⟨String.toList_injective (List.reverse_injective hpath),
      toString_injective (String.toList_injective (List.reverse_injective htime))⟩
  · rintro ⟨hpath, htime⟩
    unfold cacheKey
    rw [hpath, htime]

/-- The store root, relative to the home directory. -/
def JsonlHarness.root : JsonlHarness → String
  | .claudeCode => ".claude/projects"
  | .codexCli => ".codex/sessions"
  | .pi => ".pi/agent/sessions"
  | .cursorAgent => ".cursor/projects"

/-- The file lies in the store of its harness. -/
def InStore (home : String) (file : SessionFile) : Prop :=
  ∃ rest, file.path = home ++ "/" ++ file.harness.root ++ "/" ++ rest

/-- **No file is in two stores.** -/
theorem harness_eq_of_path {home : String} {file file' : SessionFile} (hfile : InStore home file)
    (hfile' : InStore home file') (hpath : file.path = file'.path) :
    file.harness = file'.harness := by
  obtain ⟨rest, hrest⟩ := hfile
  obtain ⟨rest', hrest'⟩ := hfile'
  rw [hrest, hrest'] at hpath
  have hchars := congrArg String.toList hpath
  simp only [String.toList_append, List.append_assoc, List.append_cancel_left_eq] at hchars
  have hstart := congrArg (List.take 3) hchars
  have hlong : ∀ h : JsonlHarness, 3 ≤ h.root.toList.length := by
    intro h
    cases h <;> decide
  rw [List.take_append_of_le_length (hlong _), List.take_append_of_le_length (hlong _)] at hstart
  revert hstart
  generalize file.harness = h, file'.harness = h'
  cases h <;> cases h' <;> decide

/-! ### The cache of conversations -/

/-- The most recently imported conversations, the one inserted first in front. -/
structure ConversationCache (M : Type) where
  entries : Std.HashMap String (Conversation M) := ∅
  order : List String := []

namespace ConversationCache

/-- The number of conversations the cache holds. -/
def capacity : Nat := 8

variable {M : Type}

/-- Insert, dropping the oldest entry past `capacity`. -/
def insert (c : ConversationCache M) (key : String) (value : Conversation M) :
    ConversationCache M :=
  if c.entries.contains key then { c with entries := c.entries.insert key value }
  else
    let entries := c.entries.insert key value
    let order := c.order ++ [key]
    if order.length ≤ capacity then { entries, order }
    else
      match order with
      | oldest :: rest => { entries := entries.erase oldest, order := rest }
      | [] => { entries, order }

/-- The order lists the keys, and there are few of them. -/
structure Valid (c : ConversationCache M) : Prop where
  mem_iff : ∀ k, k ∈ c.entries ↔ k ∈ c.order
  nodup : c.order.Nodup
  small : c.order.length ≤ capacity

/-- The empty cache is valid. -/
theorem valid_empty : Valid ({} : ConversationCache M) where
  mem_iff := by simp
  nodup := List.nodup_nil
  small := Nat.zero_le _

variable {c : ConversationCache M} {key : String} {value : Conversation M}

/-- What an insertion does: the key is there already, or it is put behind the others, and the
oldest one goes if there are too many. -/
theorem Valid.insert_cases (h : Valid c) :
    (key ∈ c.order ∧ c.insert key value = { c with entries := c.entries.insert key value }) ∨
    (key ∉ c.order ∧ c.order.length < capacity ∧
      c.insert key value = { entries := c.entries.insert key value, order := c.order ++ [key] }) ∨
    ∃ oldest rest, key ∉ c.order ∧ c.order = oldest :: rest ∧
      c.insert key value = {
        entries := (c.entries.insert key value).erase oldest
        order := rest ++ [key] } := by
  unfold ConversationCache.insert
  by_cases hkey : key ∈ c.order
  · refine Or.inl ⟨hkey, ?_⟩
    rw [if_pos (Std.HashMap.contains_iff_mem.mpr ((h.mem_iff key).mpr hkey))]
  · have hnew : ¬c.entries.contains key = true :=
      fun hmem => hkey ((h.mem_iff key).mp (Std.HashMap.contains_iff_mem.mp hmem))
    rw [if_neg hnew]
    dsimp only
    by_cases hfull : (c.order ++ [key]).length ≤ capacity
    · refine Or.inr (Or.inl ⟨hkey, ?_, if_pos hfull⟩)
      rw [List.length_append] at hfull
      exact hfull
    · rw [if_neg hfull]
      cases horder : c.order with
      | nil =>
        rw [horder] at hfull
        exact absurd (show 1 ≤ 8 by decide) hfull
      | cons oldest rest =>
        rw [horder] at hkey
        exact Or.inr (Or.inr ⟨oldest, rest, hkey, rfl, rfl⟩)

/-- **An insertion keeps the cache small and its order complete.** -/
theorem Valid.insert (h : Valid c) (key : String) (value : Conversation M) :
    Valid (c.insert key value) := by
  have hconcat : key ∉ c.order → (c.order ++ [key]).Nodup := by
    intro hkey
    rw [List.nodup_append]
    refine ⟨h.nodup, List.nodup_singleton key, fun k hk k' hk' => ?_⟩
    rw [List.mem_singleton.mp hk']
    rintro rfl
    exact hkey hk
  rcases @insert_cases M c key value h with
    ⟨hkey, hinsert⟩ | ⟨hkey, hroom, hinsert⟩ | ⟨oldest, rest, hkey, horder, hinsert⟩
  · rw [hinsert]
    refine ⟨fun k => ?_, h.nodup, h.small⟩
    rw [Std.HashMap.mem_insert, h.mem_iff, beq_iff_eq]
    exact ⟨fun hk => hk.elim (fun hsame => hsame ▸ hkey) id, Or.inr⟩
  · rw [hinsert]
    refine ⟨fun k => ?_, hconcat hkey, ?_⟩
    · rw [Std.HashMap.mem_insert, h.mem_iff, beq_iff_eq, List.mem_append, List.mem_singleton,
        or_comm, eq_comm]
    · rw [List.length_append]
      exact hroom
  · have hnodup := h.nodup
    have hsmall := h.small
    have hmem := h.mem_iff
    rw [horder] at hkey hnodup hsmall
    have hconcat := hconcat (horder ▸ hkey)
    rw [horder, List.cons_append] at hconcat
    rw [hinsert]
    refine ⟨fun k => ?_, (List.nodup_cons.mp hconcat).2, ?_⟩
    · rw [Std.HashMap.mem_erase, Std.HashMap.mem_insert, hmem, horder, List.mem_append,
        List.mem_singleton, List.mem_cons, beq_iff_eq, beq_eq_false_iff_ne]
      constructor
      · rintro ⟨hne, hsame | hsame | hrest⟩
        · exact Or.inr hsame.symm
        · exact absurd hsame.symm hne
        · exact Or.inl hrest
      · rintro (hrest | rfl)
        · refine ⟨?_, Or.inr (Or.inr hrest)⟩
          rintro rfl
          exact (List.nodup_cons.mp hnodup).1 hrest
        · refine ⟨?_, Or.inl rfl⟩
          rintro rfl
          exact hkey List.mem_cons_self
    · rw [List.length_append]
      exact hsmall

/-- **What was inserted is found**, whatever had to go for it. -/
theorem Valid.getElem?_insert_self (h : Valid c) :
    (c.insert key value).entries[key]? = some value := by
  rcases @insert_cases M c key value h with
    ⟨_, hinsert⟩ | ⟨_, _, hinsert⟩ | ⟨oldest, rest, hkey, horder, hinsert⟩
  · rw [hinsert, Std.HashMap.getElem?_insert_self]
  · rw [hinsert, Std.HashMap.getElem?_insert_self]
  · have hne : ¬(oldest == key) = true := by
      rw [beq_iff_eq]
      rintro rfl
      exact hkey (horder ▸ List.mem_cons_self)
    rw [hinsert, Std.HashMap.getElem?_erase, if_neg hne, Std.HashMap.getElem?_insert_self]

/-- An insertion makes nothing up. -/
theorem Valid.getElem?_insert (h : Valid c) {k : String} {v : Conversation M}
    (hfound : (c.insert key value).entries[k]? = some v) :
    (key = k ∧ value = v) ∨ c.entries[k]? = some v := by
  have hinserted : (c.entries.insert key value)[k]? = some v →
      (key = k ∧ value = v) ∨ c.entries[k]? = some v := by
    intro hfound
    rw [Std.HashMap.getElem?_insert] at hfound
    split at hfound
    next hsame => exact Or.inl ⟨eq_of_beq hsame, Option.some.inj hfound⟩
    · exact Or.inr hfound
  rcases @insert_cases M c key value h with
    ⟨_, hinsert⟩ | ⟨_, _, hinsert⟩ | ⟨oldest, rest, hkey, horder, hinsert⟩
  · rw [hinsert] at hfound
    exact hinserted hfound
  · rw [hinsert] at hfound
    exact hinserted hfound
  · rw [hinsert, Std.HashMap.getElem?_erase] at hfound
    split at hfound
    · cases hfound
    · exact hinserted hfound

end ConversationCache

/-! ### The catalog -/

/-- What the viewer remembers. -/
structure Catalog (M : Type) where
  previews : Std.HashMap String Preview := ∅
  conversations : ConversationCache M := {}

section Serving

variable {M : Type} (parse : JsonlHarness → String → Except String Transcript)
  (group : List ThreadEntry → M)

/-- The preview that is made when none is remembered.  Reading the file gives its bytes or an
error. -/
def freshPreview (file : SessionFile) (reading : Except String ByteArray) : Preview :=
  match reading with
  | .error _ => Preview.unknown
  | .ok bytes => catalogPreview file.harness (parse file.harness) bytes

/-- What reading a file as text gives. -/
def readText (path : String) (reading : Except String ByteArray) : Except String String :=
  match reading with
  | .error e => .error e
  | .ok bytes =>
    match String.fromUTF8? bytes with
    | some text => .ok text
    | none => .error s!"Tried to read file '{path}' containing non UTF-8 data."

/-- The conversation that is made when none is remembered: the whole file through the harness's
importer. -/
def freshConversation (file : SessionFile) (reading : Except String ByteArray) :
    Except String (Conversation M) := do
  let text ← readText file.path reading
  let t ← parse file.harness text
  pure (Conversation.ofTranscript group file.harness.scaffolding t)

/-- The preview of a session. -/
def Catalog.preview (c : Catalog M) (file : SessionFile) (reading : Except String ByteArray) :
    Preview × Catalog M :=
  let key := cacheKey file
  match c.previews[key]? with
  | some preview => (preview, c)
  | none =>
    let preview := freshPreview parse file reading
    (preview, { c with previews := c.previews.insert key preview })

/-- The conversation of a session. -/
def Catalog.conversation (c : Catalog M) (file : SessionFile) (reading : Except String ByteArray) :
    Except String (Conversation M) × Catalog M :=
  let key := cacheKey file
  match c.conversations.entries[key]? with
  | some conversation => (.ok conversation, c)
  | none =>
    match freshConversation parse group file reading with
    | .error e => (.error e, c)
    | .ok conversation =>
      (.ok conversation, { c with conversations := c.conversations.insert key conversation })

/-- What a request asks for. -/
inductive Asked where
  | preview
  | conversation
  deriving Repr, DecidableEq

/-- What is asked about a file, and whether reading it fails. -/
structure Request where
  asked : Asked
  file : SessionFile
  fault : Option String := none

/-- What reading the file gives.  Its bytes depend on its path and its modification time only. -/
def Request.reading (content : String → Nat → ByteArray) (r : Request) :
    Except String ByteArray :=
  match r.fault with
  | some e => .error e
  | none => .ok (content r.file.path r.file.modifiedMs)

/-- What a request leaves in the catalog. -/
def Catalog.serve (content : String → Nat → ByteArray) (c : Catalog M) (r : Request) : Catalog M :=
  match r.asked with
  | .preview => (c.preview parse r.file (r.reading content)).2
  | .conversation => (c.conversation parse group r.file (r.reading content)).2

/-- The catalog behind the requests, from the start of the viewer. -/
def Catalog.after (content : String → Nat → ByteArray) (requests : List Request) : Catalog M :=
  requests.foldl (Catalog.serve parse group content) {}

/-! ### What is remembered is right -/

/-- Everything in the catalog is what one of the requests computed. -/
structure Remembers (content : String → Nat → ByteArray) (requests : List Request)
    (c : Catalog M) : Prop where
  previews : ∀ k p, c.previews[k]? = some p → ∃ q ∈ requests, q.asked = .preview ∧
    cacheKey q.file = k ∧ p = freshPreview parse q.file (q.reading content)
  conversations : ∀ k v, c.conversations.entries[k]? = some v → ∃ q ∈ requests,
    cacheKey q.file = k ∧ freshConversation parse group q.file (q.reading content) = .ok v
  valid : c.conversations.Valid

variable {parse group} {content : String → Nat → ByteArray}

/-- What the catalog remembers may stem from fewer requests. -/
theorem Remembers.mono {requests requests' : List Request} {c : Catalog M}
    (h : Remembers parse group content requests c) (hsub : requests ⊆ requests') :
    Remembers parse group content requests' c where
  previews := fun k p hp => by
    obtain ⟨q, hq, hrest⟩ := h.previews k p hp
    exact ⟨q, hsub hq, hrest⟩
  conversations := fun k v hv => by
    obtain ⟨q, hq, hrest⟩ := h.conversations k v hv
    exact ⟨q, hsub hq, hrest⟩
  valid := h.valid

/-- **One request.** -/
theorem Remembers.serve {requests : List Request} {c : Catalog M}
    (h : Remembers parse group content requests c) (r : Request) :
    Remembers parse group content (requests ++ [r]) (c.serve parse group content r) := by
  have hkeep := h.mono (List.subset_append_left requests [r])
  have hr : r ∈ requests ++ [r] := List.mem_append_right requests (List.mem_singleton_self r)
  unfold Catalog.serve
  cases hasked : r.asked with
  | preview =>
    unfold Catalog.preview
    dsimp only
    split
    · exact hkeep
    · refine { hkeep with previews := fun k p hp => ?_ }
      rw [Std.HashMap.getElem?_insert] at hp
      split at hp
      next hsame => exact ⟨r, hr, hasked, eq_of_beq hsame, (Option.some.inj hp).symm⟩
      · exact hkeep.previews k p hp
  | conversation =>
    unfold Catalog.conversation
    dsimp only
    split
    · exact hkeep
    · split
      · exact hkeep
      next conversation hfresh =>
        refine { hkeep with
          conversations := fun k v hv => ?_
          valid := hkeep.valid.insert _ _ }
        rcases hkeep.valid.getElem?_insert hv with ⟨hkey, hvalue⟩ | hfound
        · exact ⟨r, hr, hkey, hvalue ▸ hfresh⟩
        · exact hkeep.conversations k v hfound

/-- **Any number of requests.** -/
theorem remembers_after (requests : List Request) :
    Remembers parse group content requests
      (Catalog.after parse group content requests : Catalog M) := by
  have hrun : ∀ (rest : List Request) (done : List Request) (c : Catalog M),
      Remembers parse group content done c →
        Remembers parse group content (done ++ rest)
          (rest.foldl (Catalog.serve parse group content) c) := by
    intro rest
    induction rest with
    | nil =>
      intro done c h
      rw [List.append_nil]
      exact h
    | cons r rest ih =>
      intro done c h
      have hrest := ih (done ++ [r]) _ (h.serve r)
      rw [List.append_assoc, List.singleton_append] at hrest
      exact hrest
  refine hrun requests [] {} ?_
  exact {
    previews := fun k p hp => by simp at hp
    conversations := fun k v hv => by simp at hv
    valid := ConversationCache.valid_empty }

/-- The file as it is: its version is read without failure. -/
def SessionFile.version (content : String → Nat → ByteArray) (file : SessionFile) :
    Except String ByteArray := .ok (content file.path file.modifiedMs)

/-- Two requests with one key ask about the same version of the same file. -/
theorem same_version {home : String} {file file' : SessionFile} (hfile : InStore home file)
    (hfile' : InStore home file') (hkey : cacheKey file = cacheKey file') :
    file.harness = file'.harness ∧ file.path = file'.path ∧
      file.version content = file'.version content := by
  obtain ⟨hpath, htime⟩ := cacheKey_inj.mp hkey
  refine ⟨harness_eq_of_path hfile hfile' hpath, hpath, ?_⟩
  unfold SessionFile.version
  rw [hpath, htime]

/-- **A served conversation is the one of the file as it is**, whatever was asked before and
whatever failed; and an error is the error of reading or importing it now. -/
theorem conversation_served {home : String} {before : List Request} {r : Request}
    (hbefore : ∀ q ∈ before, InStore home q.file) (hfile : InStore home r.file) :
    (∀ conversation,
      ((Catalog.after parse group content before).conversation parse group r.file
        (r.reading content)).1 = .ok conversation →
      freshConversation parse group r.file (r.file.version content) = .ok conversation) ∧
    ∀ e, ((Catalog.after parse group content before).conversation parse group r.file
        (r.reading content)).1 = .error e →
      freshConversation parse group r.file (r.reading content) = .error e := by
  have hremembers := @remembers_after M parse group content before
  -- a conversation that was made was made from bytes, so reading them did not fail
  have hread : ∀ q : Request, ∀ conversation,
      freshConversation parse group q.file (q.reading content) = .ok conversation →
        freshConversation parse group q.file (q.file.version content) = .ok conversation := by
    intro q conversation hfresh
    unfold Request.reading at hfresh
    split at hfresh
    · cases hfresh
    · exact hfresh
  unfold Catalog.conversation
  dsimp only
  split
  next conversation hcached =>
    refine ⟨fun conversation' h => ?_, fun e h => (by cases h)⟩
    cases h
    obtain ⟨q, hq, hkey, hfresh⟩ := hremembers.conversations _ _ hcached
    obtain ⟨hharness, hpath, hversion⟩ :=
      @same_version content home q.file r.file (hbefore q hq) hfile hkey
    have hmade := hread q conversation hfresh
    unfold freshConversation at hmade ⊢
    rw [hharness, hpath, hversion] at hmade
    exact hmade
  · split
    next e hfresh =>
      refine ⟨fun conversation h => (by cases h), fun e' h => ?_⟩
      cases h
      exact hfresh
    next conversation hfresh =>
      refine ⟨fun conversation' h => ?_, fun e h => (by cases h)⟩
      cases h
      exact hread r conversation hfresh

/-- **A served preview is the one of the file as it is**, unless reading the same version of the
file failed when its preview was asked for the first time; then it stays unknown. -/
theorem preview_served {home : String} {before : List Request} {r : Request}
    (hbefore : ∀ q ∈ before, InStore home q.file) (hfile : InStore home r.file)
    (hasked : r.asked = .preview) {preview : Preview}
    (hserved : ((Catalog.after parse group content before : Catalog M).preview parse r.file
      (r.reading content)).1 = preview) :
    preview = freshPreview parse r.file (r.file.version content) ∨
      (preview = Preview.unknown ∧ ∃ q ∈ before ++ [r], q.asked = .preview ∧
        q.file.path = r.file.path ∧ q.file.modifiedMs = r.file.modifiedMs ∧ q.fault ≠ none) := by
  have hremembers := @remembers_after M parse group content before
  have hmade : ∀ q ∈ before ++ [r], q.asked = .preview → cacheKey q.file = cacheKey r.file →
      InStore home q.file → preview = freshPreview parse q.file (q.reading content) →
        preview = freshPreview parse r.file (r.file.version content) ∨
          (preview = Preview.unknown ∧ ∃ q ∈ before ++ [r], q.asked = .preview ∧
            q.file.path = r.file.path ∧ q.file.modifiedMs = r.file.modifiedMs ∧
              q.fault ≠ none) := by
    intro q hq hqasked hkey hqfile hfresh
    obtain ⟨hharness, hpath, hversion⟩ := @same_version content home q.file r.file hqfile hfile hkey
    unfold Request.reading at hfresh
    split at hfresh
    next e hfault =>
      refine Or.inr ⟨hfresh, q, hq, hqasked, hpath, (cacheKey_inj.mp hkey).2, ?_⟩
      rw [hfault]
      exact Option.some_ne_none e
    next hfault =>
      have hsame : freshPreview parse q.file (q.file.version content) =
          freshPreview parse r.file (r.file.version content) := by
        unfold freshPreview
        rw [hharness, hversion]
      exact Or.inl (hfresh.trans hsame)
  unfold Catalog.preview at hserved
  dsimp only at hserved
  split at hserved
  next cached hcached =>
    subst hserved
    obtain ⟨q, hq, hqasked, hkey, hfresh⟩ := hremembers.previews _ _ hcached
    exact hmade q (List.mem_append_left [r] hq) hqasked hkey (hbefore q hq) hfresh
  · exact hmade r (List.mem_append_right before (List.mem_singleton_self r)) hasked rfl hfile
      hserved.symm

end Serving

/-- A file whose reading was denied when its preview was asked. -/
def deniedPreview : Request where
  asked := .preview
  file := {
    harness := .pi
    id := "s"
    path := "/home/ada/.pi/agent/sessions/s.jsonl"
    modifiedMs := 1700000000000
    bytes := 0 }
  fault := some "permission denied"

/-- The file stands in the store. -/
theorem deniedPreview_inStore : InStore "/home/ada" deniedPreview.file :=
  ⟨"s.jsonl", by decide⟩

/-- The file cannot be imported, which the second request finds. -/
theorem conversation_served_deniedPreview :
    freshConversation (fun _ _ => .error "no session header") id deniedPreview.file
      (.ok ByteArray.empty) = .error "no session header" :=
  (@conversation_served (List ThreadEntry) (fun _ _ => .error "no session header") id
    (fun _ _ => ByteArray.empty) "/home/ada" [deniedPreview]
    { deniedPreview with asked := .conversation, fault := none }
    (fun q hq => by rw [List.mem_singleton.mp hq]; exact deniedPreview_inStore)
    deniedPreview_inStore).2 _ (by
      simp only [Catalog.after, Catalog.serve, Catalog.preview, Catalog.conversation,
        deniedPreview, List.foldl_cons, List.foldl_nil, Std.HashMap.not_mem_empty,
        not_false_eq_true, getElem?_neg]
      -- what is left is to read no bytes and import them
      rfl)

/-- Asked again the file can be read, and its preview is still unknown. -/
theorem preview_served_deniedPreview :
    Preview.unknown = freshPreview (fun _ _ => .error "no session header") deniedPreview.file
      (deniedPreview.file.version fun _ _ => ByteArray.empty) ∨
    (Preview.unknown = Preview.unknown ∧
      ∃ q ∈ [deniedPreview] ++ [{ deniedPreview with fault := none }], q.asked = .preview ∧
        q.file.path = deniedPreview.file.path ∧
          q.file.modifiedMs = deniedPreview.file.modifiedMs ∧ q.fault ≠ none) :=
  @preview_served (List ThreadEntry) (fun _ _ => .error "no session header") id
    (fun _ _ => ByteArray.empty) "/home/ada" [deniedPreview] { deniedPreview with fault := none }
    (fun q hq => by rw [List.mem_singleton.mp hq]; exact deniedPreview_inStore)
    deniedPreview_inStore rfl Preview.unknown (by
      simp [Catalog.after, Catalog.serve, Catalog.preview, deniedPreview, cacheKey, freshPreview,
        Request.reading])

end AgentConvert.Viewer
