import AgentConvert.Json.RoundTrip
import AgentConvert.Loom.RawValues
import AgentConvert.Wire.RoundTrip

/-!
# The wire format as a text

Writing a transcript as a text and reading the text gives the transcript back, with the numbers
inside the values it keeps in normal form.  Writing what was read gives the same text again.  A
text is read exactly when every number in it is printable.

The members of the wire object are made from the parts of a transcript.  Two facts about each part
carry the result: a property of values holds of what is written if and only if it holds of every
value that is kept, and the normal form of what is written is written for the normal form.

## Main statements

* `importLoomWire_exportLoomWire` — the round trip
* `exportLoomWire_normal` — the text that is written again
* `importLoomWire_accepts_iff` — which texts are read
-/

namespace AgentConvert.Wire

/-! ### Properties of what is written -/

section Compositional

variable {P : Json → Prop} (hP : Json.Compositional P)

include hP

/-- An optional string adds only strings. -/
theorem everyMember_optStr (k : String) (value : Option String) :
    Json.EveryMember P (optStr k value) := by
  cases value with
  | none => exact .nil
  | some s => exact .cons (hP.str s) .nil

/-- An optional number adds only strings. -/
theorem everyMember_optNat (k : String) (value : Option Nat) :
    Json.EveryMember P (optNat k value) := by
  cases value with
  | none => exact .nil
  | some n => exact .cons (hP.str (toString n)) .nil

/-- A marker adds only a Boolean. -/
theorem everyMember_marker (k : String) (b : Bool) :
    Json.EveryMember P (if b then [(k, .bool true)] else []) := by
  cases b with
  | false => exact .nil
  | true => exact .cons (hP.bool true) .nil

/-- The property holds of a written origin if and only if it holds of its raw record. -/
theorem originToWireJson_iff (o : Origin) : P (originToWireJson o) ↔ o.EveryRaw P := by
  refine ⟨fun h extras hextras => ?_, fun h => hP.mkObj (.append (.append (.append
    (.cons (hP.str _) (.cons (hP.str _) .nil)) (everyMember_marker hP _ _))
    (everyMember_optStr hP _ _)) ?_)⟩
  · refine hP.member h (k := "extras") ?_
    simp [hextras, optJson]
  · cases hextras : o.extras with
    | none => exact .nil
    | some extras => exact .cons (h extras hextras) .nil

/-- The property holds of every written time. -/
theorem timeToWireJson_of (time : Time) : P (timeToWireJson time) := by
  cases time with
  | recorded t => exact hP.mkObj (.cons (hP.str _) (.cons (hP.str _) .nil))
  | interpolated t basis =>
    exact hP.mkObj (.cons (hP.str _) (.cons (hP.str _) (.cons (hP.str _) .nil)))
  | sequenced ord => exact hP.mkObj (.cons (hP.str _) (.cons (hP.str _) .nil))
  | absent => exact hP.mkObj (.cons (hP.str _) .nil)

/-- The property holds of every written error signal. -/
theorem errorSignalToWireJson_of (error : ErrorSignal) : P (errorSignalToWireJson error) := by
  cases error with
  | native isError => exact hP.mkObj (.cons (hP.str _) (.cons (hP.str _) .nil))
  | heuristic isError method =>
    exact hP.mkObj (.cons (hP.str _) (.cons (hP.str _) (.cons (hP.str _) .nil)))
  | structured isError source =>
    exact hP.mkObj (.cons (hP.str _) (.cons (hP.str _) (.cons (hP.str _) .nil)))
  | unrecorded => exact hP.mkObj (.cons (hP.str _) .nil)

/-- The property holds of every written call reference. -/
theorem callRefToWireJson_of (call : CallRef) : P (callRefToWireJson call) := by
  cases call with
  | resolved entry block =>
    exact hP.mkObj (.cons (hP.str _) (.cons (hP.str _) (.cons (hP.str _) .nil)))
  | unresolved rawId note =>
    exact hP.mkObj (.append (.cons (hP.str _) (.cons (hP.str _) .nil)) (everyMember_optStr hP _ _))

/-- The property holds of every written thread. -/
theorem threadToWireJson_of (i : Nat) (th : Thread) : P (threadToWireJson i th) := by
  have hkind : P (threadKindToWireJson th.kind) := by
    cases th.kind with
    | main => exact hP.mkObj (.cons (hP.str _) .nil)
    | sidechain anchor =>
      exact hP.mkObj (.cons (hP.str _) (.cons (callRefToWireJson_of hP anchor) .nil))
    | detached note => exact hP.mkObj (.cons (hP.str _) (.cons (hP.str _) .nil))
  exact hP.mkObj (.append (.cons (hP.str _) (.cons hkind .nil)) (everyMember_optStr hP _ _))

/-- For a user block the property comes down to its raw values. -/
theorem userBlockToWireJson_iff (b : UserBlock) : P (userBlockToWireJson b) ↔ b.EveryRaw P := by
  cases b with
  | text s => exact iff_of_true (hP.mkObj (.cons (hP.str _) (.cons (hP.str _) .nil))) trivial
  | media mimeType data =>
    exact iff_of_true
      (hP.mkObj (.cons (hP.str _) (.cons (hP.str _) (.cons (hP.str _) .nil)))) trivial
  | unmodeled label raw =>
    refine ⟨fun h => hP.member h (k := "raw") rfl, fun h => hP.mkObj ?_⟩
    exact .cons (hP.str _) (.cons (hP.str _) (.cons h .nil))

/-- For an assistant block the property comes down to its raw values. -/
theorem assistantBlockToWireJson_iff (b : AssistantBlock) :
    P (assistantBlockToWireJson b) ↔ b.EveryRaw P := by
  cases b with
  | text s => exact iff_of_true (hP.mkObj (.cons (hP.str _) (.cons (hP.str _) .nil))) trivial
  | thinking s signature =>
    exact iff_of_true (hP.mkObj (.append (.cons (hP.str _) (.cons (hP.str _) .nil))
      (everyMember_optStr hP _ _))) trivial
  | toolCall name args rawId =>
    refine ⟨fun h => hP.member h (k := "arguments") ?_, fun h => hP.mkObj ?_⟩
    · simp [List.lookup_append]
    · exact .append (.append (.cons (hP.str _) (.cons (hP.str _) (.cons h .nil)))
        (everyMember_optStr hP _ _)) (everyMember_optStr hP _ _)
  | media mimeType data =>
    exact iff_of_true
      (hP.mkObj (.cons (hP.str _) (.cons (hP.str _) (.cons (hP.str _) .nil)))) trivial
  | unmodeled label raw =>
    refine ⟨fun h => hP.member h (k := "raw") rfl, fun h => hP.mkObj ?_⟩
    exact .cons (hP.str _) (.cons (hP.str _) (.cons h .nil))

/-- The elements of an array that is written for a list. -/
theorem arr_map_iff {α : Type} {f : α → Json} {Q : α → Prop} (h : ∀ a, P (f a) ↔ Q a)
    (l : List α) : P (.arr (l.map f)) ↔ ∀ a ∈ l, Q a := by
  rw [hP.arr, List.forall_mem_map]
  exact forall₂_congr fun a _ => h a

/-- For an environment block the property comes down to its raw values. -/
theorem envBlockToWireJson_iff (b : EnvBlock) : P (envBlockToWireJson b) ↔ b.EveryRaw P := by
  cases b with
  | toolResult call content error =>
    have hcontent := arr_map_iff hP (userBlockToWireJson_iff hP) content
    refine ⟨fun h => hcontent.mp (hP.member h (k := "content") rfl), fun h => hP.mkObj ?_⟩
    exact .cons (hP.str _) (.cons (callRefToWireJson_of hP call) (.cons (hcontent.mpr h)
      (.cons (errorSignalToWireJson_of hP error) .nil)))
  | unmodeled label raw =>
    refine ⟨fun h => hP.member h (k := "raw") rfl, fun h => hP.mkObj ?_⟩
    exact .cons (hP.str _) (.cons (hP.str _) (.cons h .nil))

/-- For a meta event the property comes down to its raw values. -/
theorem metaEventToWireJson_iff (e : MetaEvent) : P (metaEventToWireJson e) ↔ e.EveryRaw P := by
  cases e with
  | modelChange prev next =>
    exact iff_of_true (hP.mkObj (.append (.append (.cons (hP.str _) .nil)
      (everyMember_optStr hP _ _)) (everyMember_optStr hP _ _))) trivial
  | thinkingLevelChange prev next =>
    exact iff_of_true (hP.mkObj (.append (.append (.cons (hP.str _) .nil)
      (everyMember_optStr hP _ _)) (everyMember_optStr hP _ _))) trivial
  | permissionMode mode =>
    exact iff_of_true (hP.mkObj (.cons (hP.str _) (.cons (hP.str _) .nil))) trivial
  | branchSummary summary =>
    exact iff_of_true (hP.mkObj (.cons (hP.str _) (.cons (hP.str _) .nil))) trivial
  | custom label raw =>
    refine ⟨fun h => hP.member h (k := "raw") rfl, fun h => hP.mkObj ?_⟩
    exact .cons (hP.str _) (.cons (hP.str _) (.cons h .nil))

/-- For a payload the property comes down to its raw values. -/
theorem payloadToWireJson_iff (p : Payload) : P (payloadToWireJson p) ↔ p.EveryRaw P := by
  have hlist {elems : Json} (type : String) {Q : Prop} (h : P elems ↔ Q) :
      P (Json.mkObj [("type", .str type), ("blocks", elems)]) ↔ Q :=
    ⟨fun hp => h.mp (hP.member hp (k := "blocks") rfl),
      fun hq => hP.mkObj (.cons (hP.str _) (.cons (h.mpr hq) .nil))⟩
  cases p with
  | userMsg blocks => exact hlist "userMsg" (arr_map_iff hP (userBlockToWireJson_iff hP) blocks)
  | assistantMsg blocks =>
    exact hlist "assistantMsg" (arr_map_iff hP (assistantBlockToWireJson_iff hP) blocks)
  | envMsg blocks => exact hlist "envMsg" (arr_map_iff hP (envBlockToWireJson_iff hP) blocks)
  | otherMsg role blocks =>
    have hblocks := arr_map_iff hP (userBlockToWireJson_iff hP) blocks
    refine ⟨fun h => hblocks.mp (hP.member h (k := "blocks") rfl), fun h => hP.mkObj ?_⟩
    exact .cons (hP.str _) (.cons (hP.str _) (.cons (hblocks.mpr h) .nil))
  | compaction summary coverage tokensBefore =>
    have hcoverage : P (compactionCoverageToWireJson coverage) := by
      cases coverage with
      | knownPrefix firstKept => exact hP.mkObj (.cons (hP.str _) (.cons (hP.str _) .nil))
      | unknownPrefix => exact hP.mkObj (.cons (hP.str _) .nil)
    exact iff_of_true (hP.mkObj (.append (.cons (hP.str _) (.cons (hP.str _)
      (.cons hcoverage .nil))) (everyMember_optNat hP _ _))) trivial
  | event e =>
    have hevent := metaEventToWireJson_iff hP e
    refine ⟨fun h => hevent.mp (hP.member h (k := "event") rfl), fun h => hP.mkObj ?_⟩
    exact .cons (hP.str _) (.cons (hevent.mpr h) .nil)

/-- For an entry the property comes down to its raw values. -/
theorem entryToWireJson_iff (i : Nat) (e : Entry) : P (entryToWireJson i e) ↔ e.EveryRaw P := by
  have hpayload := payloadToWireJson_iff hP e.payload
  have horigin := originToWireJson_iff hP e.origin
  refine ⟨fun h => ⟨hpayload.mp (hP.member h (k := "payload") ?_),
    horigin.mp (hP.member h (k := "origin") ?_)⟩, fun h => hP.mkObj (.append (.append ?_ ?_) ?_)⟩
  · simp [List.lookup_append, List.lookup_cons]
  · simp [List.lookup_append]
  · exact .cons (hP.str _) (.cons (hP.str _) (.cons (timeToWireJson_of hP e.time)
      (.cons (hpayload.mpr h.payload) (.cons (horigin.mpr h.origin) .nil))))
  · cases e.disposition with
    | native => exact .nil
    | historicalUnverified => exact .cons (hP.str _) .nil
  · exact everyMember_optNat hP _ _

/-- The property holds of every written environment. -/
theorem envInfoToWireJson_of (e : EnvInfo) : P (envInfoToWireJson e) :=
  hP.mkObj (.append (.append (.append (.append (.append (everyMember_optStr hP _ _)
    (everyMember_optStr hP _ _)) (everyMember_optStr hP _ _)) (everyMember_optStr hP _ _))
    (everyMember_optStr hP _ _)) (everyMember_optStr hP _ _))

/-- The property holds of every written import note. -/
theorem importNoteToWireJson_of (n : ImportNote) : P (importNoteToWireJson n) :=
  hP.mkObj (.append (.append (.cons (hP.str _) (.cons (hP.str _) .nil))
    (everyMember_marker hP _ _)) (everyMember_optStr hP _ _))

/-- The elements of an array that is written for a list with positions. -/
theorem arr_map_zipIdx_iff {α : Type} {f : α × Nat → Json} {Q : α → Prop}
    (h : ∀ p, P (f p) ↔ Q p.1) (l : List α) : P (.arr (l.zipIdx.map f)) ↔ ∀ a ∈ l, Q a := by
  rw [arr_map_iff hP h]
  conv => rhs; rw [← List.zipIdx_map_fst 0 l, List.forall_mem_map]

/-- **What is written has the property if and only if every value that is kept has it.** -/
theorem exportLoomWireJson_iff (t : Transcript) :
    P (exportLoomWireJson t) ↔ t.EveryRaw P := by
  have hthreads : P (.arr (t.threads.zipIdx.map fun p => threadToWireJson p.2 p.1)) :=
    (arr_map_zipIdx_iff hP (Q := fun _ => True)
      (fun p => iff_true_intro (threadToWireJson_of hP p.2 p.1)) t.threads).mpr fun _ _ => trivial
  have hentries := arr_map_zipIdx_iff hP (fun p => entryToWireJson_iff hP p.2 p.1) t.entries
  have hnotes : P (.arr (t.importNotes.map importNoteToWireJson)) :=
    (arr_map_iff hP (Q := fun _ => True)
      (fun n => iff_true_intro (importNoteToWireJson_of hP n)) t.importNotes).mpr fun _ _ => trivial
  have horigin := originToWireJson_iff hP t.origin
  refine ⟨fun h => ⟨hentries.mp (hP.member h (k := "entries") ?_),
    horigin.mp (hP.member h (k := "origin") ?_)⟩, fun h => hP.mkObj (.append ?_ ?_)⟩
  · simp [List.lookup_append, List.lookup_cons]
  · simp [List.lookup_append, List.lookup_cons]
  · exact .cons (hP.str _) (.cons (horigin.mpr h.origin) (.cons (envInfoToWireJson_of hP t.env)
      (.cons hthreads (.cons (hentries.mpr h.entries) (.cons hnotes .nil)))))
  · exact everyMember_optNat hP _ _

end Compositional

/-! ### The normal form of what is written -/

theorem map_normal_optStr (k : String) (value : Option String) :
    (optStr k value).map (fun member => (member.1, member.2.normal)) = optStr k value := by
  cases value <;> rfl

theorem map_normal_optJson (k : String) (value : Option Json) :
    (optJson k value).map (fun member => (member.1, member.2.normal)) =
      optJson k (value.map Json.normal) := by
  cases value <;> rfl

theorem map_normal_optNat (k : String) (value : Option Nat) :
    (optNat k value).map (fun member => (member.1, member.2.normal)) = optNat k value := by
  cases value <;> rfl

/-- Bringing a written origin into normal form changes its raw record only. -/
theorem normal_originToWireJson (o : Origin) :
    (originToWireJson o).normal = originToWireJson (o.mapRaw Json.normal) := by
  have hmarker : ∀ b : Bool, (if b then [("formatOther", Json.bool true)] else []).map
      (fun member => (member.1, member.2.normal)) =
        if b then [("formatOther", Json.bool true)] else [] := by
    intro b
    cases b <;> rfl
  refine (Json.normal_mkObj _).trans (congrArg Json.mkObj ?_)
  rw [List.map_append, List.map_append, List.map_append, hmarker, map_normal_optStr,
    map_normal_optJson]
  rfl

theorem normal_userBlockToWireJson (b : UserBlock) :
    (userBlockToWireJson b).normal = userBlockToWireJson (b.mapRaw Json.normal) := by
  cases b with
  | text s => exact Json.normal_mkObj _
  | media mimeType data => exact Json.normal_mkObj _
  | unmodeled label raw => exact Json.normal_mkObj _

theorem normal_assistantBlockToWireJson (b : AssistantBlock) :
    (assistantBlockToWireJson b).normal = assistantBlockToWireJson (b.mapRaw Json.normal) := by
  cases b with
  | text s => exact Json.normal_mkObj _
  | thinking s signature =>
    refine (Json.normal_mkObj _).trans (congrArg Json.mkObj ?_)
    rw [List.map_append, map_normal_optStr]
    rfl
  | toolCall name args rawId =>
    refine (Json.normal_mkObj _).trans (congrArg Json.mkObj ?_)
    rw [List.map_append, List.map_append, map_normal_optStr, map_normal_optStr]
    rfl
  | media mimeType data => exact Json.normal_mkObj _
  | unmodeled label raw => exact Json.normal_mkObj _

/-- The normal form of an array that is written for a list. -/
theorem normal_arr_map_of {α : Type} {f : α → Json} {g : α → α} (h : ∀ a, (f a).normal = f (g a))
    (l : List α) : (Json.arr (l.map f)).normal = .arr ((l.map g).map f) := by
  rw [Json.normal_arr_map, List.map_map]
  exact congrArg Json.arr (List.map_congr_left fun a _ => h a)

theorem normal_envBlockToWireJson (b : EnvBlock) :
    (envBlockToWireJson b).normal = envBlockToWireJson (b.mapRaw Json.normal) := by
  cases b with
  | toolResult call content error =>
    have hcall := callRefToWireJson_of Json.compositional_normal call
    have herror := errorSignalToWireJson_of Json.compositional_normal error
    have hcontent := normal_arr_map_of normal_userBlockToWireJson content
    refine (Json.normal_mkObj _).trans (congrArg Json.mkObj ?_)
    simp only [List.map_cons, List.map_nil, hcall, herror, hcontent, Json.normal_str]
  | unmodeled label raw => exact Json.normal_mkObj _

theorem normal_metaEventToWireJson (e : MetaEvent) :
    (metaEventToWireJson e).normal = metaEventToWireJson (e.mapRaw Json.normal) := by
  cases e with
  | custom label raw => exact Json.normal_mkObj _
  | modelChange prev next =>
    exact (metaEventToWireJson_iff Json.compositional_normal _).mpr trivial
  | thinkingLevelChange prev next =>
    exact (metaEventToWireJson_iff Json.compositional_normal _).mpr trivial
  | permissionMode mode =>
    exact (metaEventToWireJson_iff Json.compositional_normal _).mpr trivial
  | branchSummary summary =>
    exact (metaEventToWireJson_iff Json.compositional_normal _).mpr trivial

/-- Bringing a written payload into normal form changes its raw values only. -/
theorem normal_payloadToWireJson (p : Payload) :
    (payloadToWireJson p).normal = payloadToWireJson (p.mapRaw Json.normal) := by
  have hmembers (elems elems' : Json) (h : elems.normal = elems') (type : String) :
      (Json.mkObj [("type", .str type), ("blocks", elems)]).normal =
        Json.mkObj [("type", .str type), ("blocks", elems')] := by
    rw [← h]
    exact Json.normal_mkObj _
  cases p with
  | userMsg blocks =>
    exact hmembers _ _ (normal_arr_map_of normal_userBlockToWireJson blocks) _
  | assistantMsg blocks =>
    exact hmembers _ _ (normal_arr_map_of normal_assistantBlockToWireJson blocks) _
  | envMsg blocks =>
    exact hmembers _ _ (normal_arr_map_of normal_envBlockToWireJson blocks) _
  | otherMsg role blocks =>
    have hblocks := normal_arr_map_of normal_userBlockToWireJson blocks
    refine (Json.normal_mkObj _).trans (congrArg Json.mkObj ?_)
    simp only [List.map_cons, List.map_nil, hblocks, Json.normal_str]
  | compaction summary coverage tokensBefore =>
    exact (payloadToWireJson_iff Json.compositional_normal _).mpr trivial
  | event e =>
    refine (Json.normal_mkObj _).trans (congrArg Json.mkObj ?_)
    simp only [List.map_cons, List.map_nil, normal_metaEventToWireJson, Json.normal_str]

/-- Bringing a written entry into normal form changes its raw values only. -/
theorem normal_entryToWireJson (i : Nat) (e : Entry) :
    (entryToWireJson i e).normal = entryToWireJson i (e.mapRaw Json.normal) := by
  have htime := timeToWireJson_of Json.compositional_normal e.time
  have hdisposition : (entryDispositionWireField e.disposition).map
      (fun member => (member.1, member.2.normal)) = entryDispositionWireField e.disposition := by
    cases e.disposition <;> rfl
  refine (Json.normal_mkObj _).trans (congrArg Json.mkObj ?_)
  simp only [List.map_append, List.map_cons, List.map_nil, htime, hdisposition, map_normal_optNat,
    normal_payloadToWireJson, normal_originToWireJson, Json.normal_str, Entry.mapRaw]

/-- **The normal form of what is written is what is written for the normal form.** -/
theorem normal_exportLoomWireJson (t : Transcript) :
    (exportLoomWireJson t).normal = exportLoomWireJson (t.mapRaw Json.normal) := by
  have harr {α : Type} (f : α → Nat → Json) (h : ∀ a i, (f a i).normal = f a i) (l : List α) :
      (Json.arr (l.zipIdx.map fun p => f p.1 p.2)).normal = .arr (l.zipIdx.map fun p => f p.1 p.2)
        := by
    rw [Json.normal_arr_map]
    exact congrArg Json.arr (List.map_congr_left fun p _ => h p.1 p.2)
  have hthreads := harr (fun th i => threadToWireJson i th)
    (fun th i => threadToWireJson_of Json.compositional_normal i th) t.threads
  have hnotes : (Json.arr (t.importNotes.map importNoteToWireJson)).normal =
      .arr (t.importNotes.map importNoteToWireJson) := by
    rw [Json.normal_arr_map]
    exact congrArg Json.arr (List.map_congr_left fun n _ =>
      importNoteToWireJson_of Json.compositional_normal n)
  have henv := envInfoToWireJson_of Json.compositional_normal t.env
  have hentries : (Json.arr (t.entries.zipIdx.map fun p => entryToWireJson p.2 p.1)).normal =
      .arr ((t.entries.map (Entry.mapRaw Json.normal)).zipIdx.map fun p =>
        entryToWireJson p.2 p.1) := by
    rw [Json.normal_arr_map, List.zipIdx_map, List.map_map]
    exact congrArg Json.arr (List.map_congr_left fun p _ => normal_entryToWireJson p.2 p.1)
  have hexport : ∀ t : Transcript, exportLoomWireJson t = Json.mkObj
      ([("schema", .str "loom.transcript.v0"), ("origin", originToWireJson t.origin),
        ("env", envInfoToWireJson t.env),
        ("threads", .arr (t.threads.zipIdx.map fun p => threadToWireJson p.2 p.1)),
        ("entries", .arr (t.entries.zipIdx.map fun p => entryToWireJson p.2 p.1)),
        ("importNotes", .arr (t.importNotes.map importNoteToWireJson))] ++
        optNat "activeLeaf" t.activeLeaf) := fun _ => rfl
  rw [hexport, hexport]
  refine (Json.normal_mkObj _).trans (congrArg Json.mkObj ?_)
  simp only [List.map_append, List.map_cons, List.map_nil, hthreads, hentries, hnotes, henv,
    map_normal_optNat, normal_originToWireJson, Json.normal_str, Transcript.mapRaw]

/-! ### Texts -/

/-- **A transcript that is written as a text is read back with its numbers in normal form.** -/
theorem importLoomWire_exportLoomWire {t : Transcript} (hordered : t.EveryRaw Json.Ordered)
    (hprintable : t.EveryRaw Json.Printable) :
    importLoomWire (exportLoomWire t) = .ok (t.mapRaw Json.normal) := by
  have hwritten := (exportLoomWireJson_iff Json.compositional_ordered t).mpr hordered
  have hnumbers := (exportLoomWireJson_iff Json.compositional_printable t).mpr hprintable
  refine bind_ok_iff.mpr ⟨_, Json.parse_compress hwritten hnumbers, ?_⟩
  rw [normal_exportLoomWireJson]
  exact importLoomWireJson_export _

/-- **A transcript with its numbers in normal form is read back as it was.** -/
theorem importLoomWire_exportLoomWire_of_normal {t : Transcript}
    (hordered : t.EveryRaw Json.Ordered) (hprintable : t.EveryRaw Json.Printable)
    (hnormal : t.EveryRaw fun v => v.normal = v) : importLoomWire (exportLoomWire t) = .ok t := by
  rw [importLoomWire_exportLoomWire hordered hprintable, Transcript.mapRaw_eq_self hnormal]

/-- **Writing again what was read gives the same text.** -/
theorem exportLoomWire_normal {t : Transcript} (hprintable : t.EveryRaw Json.Printable) :
    exportLoomWire (t.mapRaw Json.normal) = exportLoomWire t := by
  have hnumbers := (exportLoomWireJson_iff Json.compositional_printable t).mpr hprintable
  unfold exportLoomWire
  rw [← normal_exportLoomWireJson]
  exact Json.compress_normal hnumbers

/-- **A text is read if and only if the numbers in it are printable.** -/
theorem importLoomWire_accepts_iff {t : Transcript} (hordered : t.EveryRaw Json.Ordered) :
    Accepts (importLoomWire (exportLoomWire t)) ↔ t.EveryRaw Json.Printable := by
  have hwritten := (exportLoomWireJson_iff Json.compositional_ordered t).mpr hordered
  refine ⟨fun ⟨r, hr⟩ => ?_, fun h => ⟨_, importLoomWire_exportLoomWire hordered h⟩⟩
  obtain ⟨j, hj, -⟩ := bind_ok_iff.mp hr
  have hnumbers := (Json.parse_compress_accepts_iff hwritten).mp ⟨j, hj⟩
  exact (exportLoomWireJson_iff Json.compositional_printable t).mp hnumbers

end AgentConvert.Wire
