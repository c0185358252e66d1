import AgentConvert.Pi.Records
import AgentConvert.Pi.Tree

/-!
# First parts of a Pi session

The entries of a Pi session list a tree parents first, and a first part of them lists a tree as
well.  One reference may point behind it: a compaction names the first entry it kept, and that
entry is looked up among all entries of the text.  So a first part of an accepted session is
accepted exactly when each compaction in it finds its entry in it
(`importPi_accepts_iff_of_cut`).

An accepted first part is a shorter session: its entries, with their parents and their links, are
the first entries of the session (`importPi_of_cut`).
-/

namespace AgentConvert.Pi

/-! ### The entry a compaction kept -/

/-- Every compaction that names the first entry it kept names one of these entries. -/
def FirstKeptResolved (raws : List RawEntry) : Prop :=
  ∀ r ∈ raws, ∀ k ∈ piFirstKeptReference r, k ∈ raws.map (·.id)

instance (raws : List RawEntry) : Decidable (FirstKeptResolved raws) := by
  unfold FirstKeptResolved
  infer_instance

/-- An identifier is found exactly if an entry has it. -/
theorem piEntryLookup_isSome_iff {raws : List RawEntry} {k : String} :
    (piEntryLookup raws k).isSome ↔ k ∈ raws.map (·.id) := by
  unfold piEntryLookup
  rw [Option.isSome_map, List.find?_isSome, List.mem_map]
  constructor
  · rintro ⟨pair, hpair, heq⟩
    obtain ⟨item, hitem, rfl⟩ := List.mem_map.mp hpair
    exact ⟨item.1, List.fst_mem_of_mem_zipIdx hitem, beq_iff_eq.mp heq⟩
  · rintro ⟨raw, hraw, rfl⟩
    obtain ⟨i, hi, rfl⟩ := List.mem_iff_getElem.mp hraw
    have hitem : (raws[i], i) ∈ raws.zipIdx := by
      rw [List.mem_zipIdx_iff_getElem?]
      exact List.getElem?_eq_getElem hi
    exact ⟨(raws[i].id, i), List.mem_map.mpr ⟨_, hitem, rfl⟩, beq_self_eq_true _⟩

/-- Resolving a payload fails on a dangling first kept entry, and on nothing else once the tool
results are linked. -/
theorem piResolvePayload_accepts_iff {lookup : String → Option Nat}
    {resultRefs : List (Nat × CallRef)} {i : Nat} {r : RawEntry}
    (hlinked : r.IsToolResult → ∃ ref, (i, ref) ∈ resultRefs) :
    Accepts (piResolvePayload lookup resultRefs i r) ↔
      ∀ k ∈ piFirstKeptReference r, (lookup k).isSome := by
  unfold piResolvePayload piFirstKeptReference
  cases hpayload : r.payload with
  | compaction summary coverage tokensBefore =>
    dsimp only
    cases hdirect : r.historicalPayloadDirect with
    | true => simp
    | false =>
      cases hkept : r.firstKeptEntryId with
      | none => simp
      | some k =>
        cases hlookup : lookup k with
        | none => simp [piSchemaError, hlookup]
        | some firstKept => simp [hlookup]
  | envMsg blocks =>
    cases blocks with
    | cons block blocks => simp
    | nil =>
      cases hid : r.toolResultId with
      | none => simp
      | some rawId =>
        obtain ⟨ref, href⟩ := hlinked ⟨hpayload, by simp [hid]⟩
        have hfind : (resultRefs.find? fun pair => pair.1 == i).isSome := by
          rw [List.find?_isSome]
          exact ⟨(i, ref), href, by simp⟩
        obtain ⟨pair, hpair⟩ := Option.isSome_iff_exists.mp hfind
        simp [hpair]
  | userMsg => simp
  | assistantMsg => simp
  | otherMsg => simp
  | event => simp

/-- All entries are resolved exactly when every first kept entry is there. -/
theorem piEntries_accepts_iff {raws : List RawEntry} {parents : List (Option Nat)}
    (hparents : piParentIndices raws = .ok parents) :
    Accepts ((raws.zip parents).zipIdx.mapM
      (piEntry (piEntryLookup raws) (piResultRefs raws parents).1)) ↔ FirstKeptResolved raws := by
  have hlength := length_piParentIndices hparents
  have hitem : ∀ r parent i, ((r, parent), i) ∈ (raws.zip parents).zipIdx →
      (r, i) ∈ raws.zipIdx := by
    intro r parent i hmem
    rw [List.mem_zipIdx_iff_getElem?] at hmem ⊢
    exact (List.getElem?_zip_eq_some.mp hmem).1
  have hentry : ∀ r parent i, ((r, parent), i) ∈ (raws.zip parents).zipIdx →
      (Accepts (piEntry (piEntryLookup raws) (piResultRefs raws parents).1 ((r, parent), i)) ↔
        ∀ k ∈ piFirstKeptReference r, k ∈ raws.map (·.id)) := by
    intro r parent i hmem
    unfold piEntry
    rw [accepts_bind_pure_iff, piResolvePayload_accepts_iff
      (fun hresult => piResultRefs_of_isToolResult (hitem r parent i hmem) hresult)]
    simp only [piEntryLookup_isSome_iff]
  rw [accepts_mapM_iff]
  constructor
  · intro h r hr
    obtain ⟨i, hi, rfl⟩ := List.mem_iff_getElem.mp hr
    have hi' : i < parents.length := by omega
    have hmem : ((raws[i], parents[i]), i) ∈ (raws.zip parents).zipIdx := by
      rw [List.mem_zipIdx_iff_getElem?]
      exact List.getElem?_zip_eq_some.mpr ⟨by simp, by simp⟩
    exact (hentry _ _ _ hmem).mp (h _ hmem)
  · rintro h ⟨⟨r, parent⟩, i⟩ hmem
    refine (hentry r parent i hmem).mpr (h r ?_)
    exact List.fst_mem_of_mem_zipIdx (hitem r parent i hmem)

/-! ### First parts of a session -/

/-- Read entries are accepted when they list a tree and every first kept entry is there. -/
theorem piLinkedEntries_accepts_iff (raws : List RawEntry) :
    Accepts (piLinkedEntries raws) ↔ RootedList (piNodes raws) ∧ FirstKeptResolved raws := by
  rw [← piTree_accepts_iff]
  unfold piLinkedEntries
  constructor
  · intro h
    obtain ⟨_, hunique, h⟩ := accepts_bind_iff.mp h
    obtain ⟨_, hroot, h⟩ := accepts_bind_iff.mp h
    obtain ⟨parents, hparents, h⟩ := accepts_bind_iff.mp h
    have hentries := (piEntries_accepts_iff hparents).mp (accepts_bind_pure_iff.mp h)
    exact ⟨⟨⟨_, hunique⟩, ⟨_, hroot⟩, ⟨_, hparents⟩⟩, hentries⟩
  · rintro ⟨⟨⟨_, hunique⟩, ⟨_, hroot⟩, ⟨parents, hparents⟩⟩, hkept⟩
    refine accepts_bind_iff.mpr ⟨_, hunique, accepts_bind_iff.mpr ⟨_, hroot, ?_⟩⟩
    refine accepts_bind_iff.mpr ⟨parents, hparents, ?_⟩
    exact accepts_bind_pure_iff.mpr ((piEntries_accepts_iff hparents).mpr hkept)

/-- A first part of accepted entries is accepted when every first kept entry is in it: what is
left of the tree is a tree. -/
theorem piLinkedEntries_accepts_iff_of_isPrefix {short full : List RawEntry}
    (hcut : short <+: full) (h : Accepts (piLinkedEntries full)) :
    Accepts (piLinkedEntries short) ↔ FirstKeptResolved short := by
  obtain ⟨htree, _⟩ := (piLinkedEntries_accepts_iff full).mp h
  have hfirst : piNodes short <+: piNodes full := hcut.map _
  rw [piLinkedEntries_accepts_iff]
  exact and_iff_right (RootedList.of_isPrefix hfirst htree)

/-! ### The entries of a first part -/

/-- An id that is found in a first part is found at the same place in the session. -/
theorem piEntryLookup_of_isPrefix {short full : List RawEntry} (hcut : short <+: full)
    {k : String} {i : Nat} (h : piEntryLookup short k = some i) :
    piEntryLookup full k = some i := by
  obtain ⟨rest, rfl⟩ := hcut
  obtain ⟨pair, hpair, rfl⟩ := Option.map_eq_some_iff.mp h
  unfold piEntryLookup
  rw [List.zipIdx_append, List.map_append, List.find?_append, hpair]
  rfl

/-- A payload of a first part is resolved to the same payload in the session. -/
theorem piResolvePayload_mono {lookup lookup' : String → Option Nat}
    {refs refs' : List (Nat × CallRef)} {i : Nat} {r : RawEntry} {payload : Payload}
    (hlookup : ∀ k j, lookup' k = some j → lookup k = some j)
    (hrefs : refs.find? (fun pair => pair.1 == i) = refs'.find? fun pair => pair.1 == i)
    (h : piResolvePayload lookup' refs' i r = .ok payload) :
    piResolvePayload lookup refs i r = .ok payload := by
  unfold piResolvePayload at h ⊢
  rw [hrefs]
  split at h
  · exact h
  · split at h
    next hdirect =>
      rw [if_pos hdirect]
      exact h
    next hdirect =>
      rw [if_neg hdirect]
      split at h
      · exact h
      next firstKeptId hkept =>
        split at h
        next firstKept hfound =>
          rw [hlookup firstKeptId firstKept hfound]
          exact h
        · cases h
  · exact h

theorem piEntry_mono {lookup lookup' : String → Option Nat} {refs refs' : List (Nat × CallRef)}
    {item : (RawEntry × Option Nat) × Nat} {entry : Entry}
    (hlookup : ∀ k j, lookup' k = some j → lookup k = some j)
    (hrefs : refs.find? (fun pair => pair.1 == item.2) =
      refs'.find? fun pair => pair.1 == item.2)
    (h : piEntry lookup' refs' item = .ok entry) : piEntry lookup refs item = .ok entry := by
  obtain ⟨payload, hpayload, hpure⟩ := bind_ok_iff.mp h
  exact bind_ok_iff.mpr ⟨payload, piResolvePayload_mono hlookup hrefs hpayload, hpure⟩

/-- Linking went through its two stages. -/
theorem piLinkedEntries_ok {raws : List RawEntry} {entries : List Entry}
    {notes : List ImportNote} (h : piLinkedEntries raws = .ok (entries, notes)) :
    ∃ parents, piParentIndices raws = .ok parents ∧
      (raws.zip parents).zipIdx.mapM (piEntry (piEntryLookup raws) (piResultRefs raws parents).1) =
        .ok entries := by
  obtain ⟨_, _, h⟩ := bind_ok_iff.mp h
  obtain ⟨_, _, h⟩ := bind_ok_iff.mp h
  obtain ⟨parents, hparents, h⟩ := bind_ok_iff.mp h
  obtain ⟨_, hentries, hpure⟩ := bind_ok_iff.mp h
  cases hpure
  exact ⟨parents, hparents, hentries⟩

/-- **The entries of a first part are the first entries of the session.** -/
theorem piLinkedEntries_of_isPrefix {short full : List RawEntry} {entries entries' : List Entry}
    {notes notes' : List ImportNote} (hcut : short <+: full)
    (h : piLinkedEntries full = .ok (entries, notes))
    (h' : piLinkedEntries short = .ok (entries', notes')) : entries' <+: entries := by
  obtain ⟨parents, hparents, hentries⟩ := piLinkedEntries_ok h
  obtain ⟨parents', hparents', hentries'⟩ := piLinkedEntries_ok h'
  obtain ⟨_, hsame, hfirst⟩ := piParentIndices_of_isPrefix hcut hparents
  cases hparents'.symm.trans hsame
  have hlength := length_piParentIndices hparents'
  have hlookup : ∀ k j, piEntryLookup short k = some j → piEntryLookup full k = some j :=
    fun _ _ => piEntryLookup_of_isPrefix hcut
  obtain ⟨rest, rfl⟩ := hcut
  have hzip : (short.zip parents').zipIdx <+: ((short ++ rest).zip parents).zipIdx := by
    obtain ⟨more, rfl⟩ := hfirst
    rw [List.zip_append hlength.symm, List.zipIdx_append]
    exact List.prefix_append _ _
  obtain ⟨first, hread, hpart⟩ := mapM_ok_of_isPrefix hzip hentries
  have hsameEntries : first = entries' := by
    refine Except.ok.inj (hread.symm.trans (mapM_ok_mono ?_ hentries'))
    intro item hitem entry hentry
    refine piEntry_mono hlookup ?_ hentry
    refine find?_piResultRefs_of_isPrefix rest hfirst (piParentIndices_decrease hparents) hlength ?_
    have hindex := List.snd_lt_of_mem_zipIdx hitem
    rw [List.length_zip] at hindex
    omega
  rw [← hsameEntries]
  exact hpart

/-! ### First parts of a text -/

/-- The records of the entries of `p`: what the lines behind the header hold. -/
def piEntryRecords (p : String) : List Json :=
  (piLines p).tail.filterMap fun line => (Json.parse line).toOption

/-- Every record of `p` that names the first entry a compaction kept names a record of `p`. -/
def FirstKeptWithin (p : String) : Prop :=
  ∀ record ∈ piEntryRecords p, ∀ k ∈ piFirstKept? record,
    ∃ kept ∈ piEntryRecords p, ostr kept "id" = some k

/-- The entry has the id of the record, and names the entry that the record names. -/
def NamesAs (record : Json) (raw : RawEntry) : Prop :=
  ostr record "id" = some raw.id ∧ piFirstKeptReference raw = piFirstKept? record

/-- What is read from a line names what its record names. -/
theorem namesAs_of_line {line : Nat} {text : String} {raw : RawEntry}
    (h : (parsePiJsonLine line text >>= parseEntry line) = .ok raw) :
    ∃ record, (Json.parse text).toOption = some record ∧ NamesAs record raw := by
  obtain ⟨record, hrecord, hentry⟩ := bind_ok_iff.mp h
  obtain ⟨id, hid, _, rfl, hkept⟩ := parseEntry_readFrom raw hentry
  refine ⟨record, ?_, hid, hkept⟩
  unfold parsePiJsonLine at hrecord
  cases hparse : Json.parse text with
  | error _ =>
    rw [hparse] at hrecord
    cases hrecord
  | ok _ =>
    rw [hparse] at hrecord
    cases hrecord
    rfl

/-- The entries are read from the records of the lines, in order. -/
theorem namesAs_piRawEntries {lines : List String} {raws : List RawEntry}
    (h : piRawEntries lines = .ok raws) :
    List.Forall₂ NamesAs (lines.filterMap fun line => (Json.parse line).toOption) raws := by
  have hread := mapM_ok_iff.mp h
  clear h
  -- The lines are numbered from the header on.
  generalize 0 = start at hread
  induction lines generalizing start raws with
  | nil =>
    cases hread
    exact .nil
  | cons line rest ih =>
    rw [List.zipIdx_cons] at hread
    cases hread with
    | cons hline hrest =>
      obtain ⟨record, hparse, hnames⟩ := namesAs_of_line hline
      have hrecords : (line :: rest).filterMap (fun line => (Json.parse line).toOption) =
          record :: rest.filterMap fun line => (Json.parse line).toOption := by
        simp only [List.filterMap_cons, hparse]
      rw [hrecords]
      exact .cons hnames (ih (start + 1) hrest)

/-- What a first part has to contain, said of its records and of the entries read from them. -/
theorem firstKeptResolved_iff {records : List Json} {raws : List RawEntry}
    (h : List.Forall₂ NamesAs records raws) :
    FirstKeptResolved raws ↔ ∀ record ∈ records, ∀ k ∈ piFirstKept? record,
      ∃ kept ∈ records, ostr kept "id" = some k := by
  have hids : records.map (fun record => ostr record "id") = raws.map fun raw => some raw.id := by
    rw [← List.forall₂_eq_eq_eq, List.forall₂_map_left_iff, List.forall₂_map_right_iff]
    exact h.imp fun _ _ hnames => hnames.1
  have hkepts : records.map piFirstKept? = raws.map piFirstKeptReference := by
    rw [← List.forall₂_eq_eq_eq, List.forall₂_map_left_iff, List.forall₂_map_right_iff]
    exact h.imp fun _ _ hnames => hnames.2.symm
  have hid : ∀ k, k ∈ raws.map (·.id) ↔ ∃ kept ∈ records, ostr kept "id" = some k := by
    intro k
    rw [← List.mem_map (f := fun record => ostr record "id"), hids]
    simp
  unfold FirstKeptResolved
  simp only [hid]
  constructor
  · intro hall record hrecord k hk
    have hmem : piFirstKept? record ∈ raws.map piFirstKeptReference := by
      rw [← hkepts]
      exact List.mem_map_of_mem hrecord
    obtain ⟨raw, hraw, hsame⟩ := List.mem_map.mp hmem
    exact hall raw hraw k (hsame ▸ hk)
  · intro hall raw hraw k hk
    have hmem : piFirstKeptReference raw ∈ records.map piFirstKept? := by
      rw [hkepts]
      exact List.mem_map_of_mem hraw
    obtain ⟨record, hrecord, hsame⟩ := List.mem_map.mp hmem
    exact hall record hrecord k (hsame ▸ hk)

/-- A first part with a line has the header of the session, and its first entries. -/
theorem piLines_of_cut {p text : String} (hcut : CompleteLineCut p text)
    (hheader : piLines p ≠ []) :
    ∃ header rest more, piLines p = header :: rest ∧ piLines text = header :: (rest ++ more) := by
  obtain ⟨header, rest, hp⟩ := List.exists_cons_of_ne_nil hheader
  have hlines : piLines p <+: piLines text :=
    hcut.segmentCut.filter_isPrefix (fun l => !l.isEmpty) (by decide)
  obtain ⟨more, hmore⟩ := hlines
  rw [hp] at hmore
  exact ⟨header, rest, more, hp, hmore.symm⟩

/-- Entries are read line by line. -/
theorem piRawEntries_append {rest more : List String} {raws : List RawEntry}
    (h : piRawEntries (rest ++ more) = .ok raws) :
    ∃ raws', piRawEntries rest = .ok raws' ∧ raws' <+: raws := by
  have hzip : rest.zipIdx <+: (rest ++ more).zipIdx := by
    rw [List.zipIdx_append]
    exact List.prefix_append _ _
  exact mapM_ok_of_isPrefix hzip h

/-- What is read from a text with the given lines. -/
theorem importPi_ok_iff {text header : String} {rest : List String}
    (hlines : piLines text = header :: rest) {transcript : Transcript} :
    importPi text = .ok transcript ↔
      ∃ hj parsedHeader raws entries notes, parsePiJsonLine 1 header = .ok hj ∧
        parsePiHeader hj = .ok parsedHeader ∧ piRawEntries rest = .ok raws ∧
        piLinkedEntries raws = .ok (entries, notes) ∧
        piTranscript hj parsedHeader raws entries notes = transcript := by
  unfold importPi
  rw [hlines]
  constructor
  · intro h
    obtain ⟨hj, hhj, h⟩ := bind_ok_iff.mp h
    obtain ⟨parsedHeader, hparsed, h⟩ := bind_ok_iff.mp h
    obtain ⟨raws, hraws, h⟩ := bind_ok_iff.mp h
    obtain ⟨⟨entries, notes⟩, hlinked, hpure⟩ := bind_ok_iff.mp h
    exact ⟨hj, parsedHeader, raws, entries, notes, hhj, hparsed, hraws, hlinked,
      Except.ok.inj hpure⟩
  · rintro ⟨hj, parsedHeader, raws, entries, notes, hhj, hparsed, hraws, hlinked, rfl⟩
    refine bind_ok_iff.mpr ⟨hj, hhj, bind_ok_iff.mpr ⟨parsedHeader, hparsed, ?_⟩⟩
    exact bind_ok_iff.mpr ⟨raws, hraws, bind_ok_iff.mpr ⟨(entries, notes), hlinked, rfl⟩⟩

/-- **A first part of an accepted Pi session is accepted exactly when its compactions keep
entries of that part.** -/
theorem importPi_accepts_iff_of_cut {p text : String} (hcut : CompleteLineCut p text)
    (haccepts : Accepts (importPi text)) (hheader : piLines p ≠ []) :
    Accepts (importPi p) ↔ FirstKeptWithin p := by
  obtain ⟨header, rest, more, hp, htext⟩ := piLines_of_cut hcut hheader
  obtain ⟨whole, hwhole⟩ := haccepts
  obtain ⟨hj, parsedHeader, raws, entries, notes, hhj, hparsed, hraws, hlinked, _⟩ :=
    (importPi_ok_iff htext).mp hwhole
  obtain ⟨raws', hread, hfirst⟩ := piRawEntries_append hraws
  have hwithin : FirstKeptWithin p ↔ FirstKeptResolved raws' := by
    unfold FirstKeptWithin piEntryRecords
    rw [hp, List.tail_cons]
    exact (firstKeptResolved_iff (namesAs_piRawEntries hread)).symm
  rw [hwithin, ← piLinkedEntries_accepts_iff_of_isPrefix hfirst ⟨_, hlinked⟩]
  constructor
  · rintro ⟨part, hpart⟩
    obtain ⟨_, _, raws'', entries', notes', _, _, hread', hlinked', _⟩ :=
      (importPi_ok_iff hp).mp hpart
    cases hread.symm.trans hread'
    exact ⟨_, hlinked'⟩
  · rintro ⟨⟨entries', notes'⟩, hlinked'⟩
    exact ⟨_, (importPi_ok_iff hp).mpr
      ⟨hj, parsedHeader, raws', entries', notes', hhj, hparsed, hread, hlinked', rfl⟩⟩

/-! ### Texts made of lines -/

/-- Lines that are not empty are the lines of their text. -/
theorem piLines_joinLines {lines : List String} (h : ∀ line ∈ lines, '\n' ∉ line.toList)
    (hnonempty : ∀ line ∈ lines, line.isEmpty = false) : piLines (joinLines lines) = lines := by
  unfold piLines
  rw [splitLines_joinLines h, List.filter_append, List.filter_eq_self.mpr]
  · simp
  · intro line hline
    simp [hnonempty line hline]

/-- A line that is given by its characters. -/
def parsePiChars (line : Nat) (chars : List Char) : Except String Json :=
  match Json.parseChars chars with
  | .ok value => pure value
  | .error error => .error s!"malformed Pi JSONL at line {line}: {error}"

/-- What the importer makes of lines that are given by their characters. -/
def importPiChars : List (List Char) → Except String Transcript
  | [] => .error "empty session"
  | header :: rest => do
    let hj ← parsePiChars 1 header
    let parsedHeader ← parsePiHeader hj
    let raws ← rest.zipIdx.mapM fun item =>
      parsePiChars (item.2 + 2) item.1 >>= parseEntry (item.2 + 2)
    let (entries, resultNotes) ← piLinkedEntries raws
    pure (piTranscript hj parsedHeader raws entries resultNotes)

/-- Reading a text made of lines is reading the lines. -/
theorem importPi_joinLines {lines : List String} (h : ∀ line ∈ lines, '\n' ∉ line.toList)
    (hnonempty : ∀ line ∈ lines, line.isEmpty = false) :
    importPi (joinLines lines) = importPiChars (lines.map String.toList) := by
  unfold importPi
  rw [piLines_joinLines h hnonempty]
  cases lines with
  | nil => rfl
  | cons header rest =>
    unfold importPiChars piRawEntries
    rw [List.map_cons]
    dsimp only
    rw [List.zipIdx_map, List.mapM_map]
    rfl

/-! ### Shorter sessions -/

@[simp] theorem piTranscript_entries (hj : Json) (parsedHeader : PiHeader)
    (raws : List RawEntry) (entries : List Entry) (notes : List ImportNote) :
    (piTranscript hj parsedHeader raws entries notes).entries = entries := by
  unfold piTranscript
  rw [reviewSourceVersion_entries]

@[simp] theorem piTranscript_env (hj : Json) (parsedHeader : PiHeader) (raws : List RawEntry)
    (entries : List Entry) (notes : List ImportNote) :
    (piTranscript hj parsedHeader raws entries notes).env =
      { cwd := some parsedHeader.cwd, sessionId := some parsedHeader.id } := by
  unfold piTranscript
  rw [reviewSourceVersion_env]

/-- **An accepted first part of an accepted Pi session is a shorter session**: it has the same
environment, and its entries are the first entries of the session. -/
theorem importPi_of_cut {p text : String} {part whole : Transcript}
    (hcut : CompleteLineCut p text) (hwhole : importPi text = .ok whole)
    (hpart : importPi p = .ok part) :
    part.env = whole.env ∧ part.entries <+: whole.entries := by
  have hheader : piLines p ≠ [] := by
    intro hnil
    unfold importPi at hpart
    rw [hnil] at hpart
    cases hpart
  obtain ⟨header, rest, more, hp, htext⟩ := piLines_of_cut hcut hheader
  obtain ⟨hj, parsedHeader, raws, entries, notes, hhj, hparsed, hraws, hlinked, rfl⟩ :=
    (importPi_ok_iff htext).mp hwhole
  obtain ⟨hj', parsedHeader', raws', entries', notes', hhj', hparsed', hraws', hlinked', rfl⟩ :=
    (importPi_ok_iff hp).mp hpart
  cases hhj.symm.trans hhj'
  cases hparsed.symm.trans hparsed'
  obtain ⟨raws'', hread, hfirst⟩ := piRawEntries_append hraws
  cases hraws'.symm.trans hread
  simp only [piTranscript_env, piTranscript_entries, true_and]
  exact piLinkedEntries_of_isPrefix hfirst hlinked hlinked'

end AgentConvert.Pi
