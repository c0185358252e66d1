import AgentConvert.ClaudeCode.Resolve

/-!
# First parts of a Claude session

A first part of an accepted Claude session need not be accepted: a resume pointer, the links of a
compaction summary and an event batch may name records behind the cut, and the part has a leaf of
its own, whose path nobody checked.  `SelfContained` collects what the records of the part have to
say about each other, and `importClaudeCode_accepts_iff_of_cut` says that nothing else can go
wrong.

The batch of the session may stand in the part or behind the cut.  In the part, the records of
the part expand to a sublist of the records of the session, and every check of a single record is
inherited.  Behind the cut, the records of the part are not expanded at all, and differ from the
records that were checked in their links.
-/

namespace AgentConvert.ClaudeCode

/-! ### Lines of a first part -/

/-- The test of `cSourceLines`. -/
def cKeepsLine (newlineEnd : Bool) (count : Nat) (item : String × Nat) : Bool :=
  !(item.1.isEmpty && newlineEnd && item.2 + 1 == count)

/-- A line with another one behind it is kept. -/
theorem filter_cKeepsLine_of_lt (newlineEnd : Bool) {count : Nat} {lines : List String}
    (h : lines.length < count) :
    lines.zipIdx.filter (cKeepsLine newlineEnd count) = lines.zipIdx := by
  rw [List.filter_eq_self]
  rintro ⟨line, index⟩ hmem
  have hindex := List.snd_lt_of_mem_zipIdx hmem
  have hne : (index + 1 == count) = false := by
    rw [beq_eq_false_iff_ne]
    omega
  simp [cKeepsLine, hne]

/-- The last line is kept or dropped. -/
theorem cSourceLines_of_split {text : String} {init : List String} {last : String}
    (hsplit : splitLines text = init ++ [last]) :
    cSourceLines text = init.zipIdx ++
      [(last, init.length)].filter (cKeepsLine (Text.endsWith text "\n") (init.length + 1)) := by
  change (splitLines text).zipIdx.filter
    (cKeepsLine (Text.endsWith text "\n") (splitLines text).length) = _
  rw [hsplit, List.length_append, List.length_singleton, List.zipIdx_append, List.filter_append,
    filter_cKeepsLine_of_lt _ (Nat.lt_succ_self init.length)]
  simp

/-- The kept lines are a first part of all segments. -/
theorem cSourceLines_isPrefix_zipIdx (text : String) :
    cSourceLines text <+: (splitLines text).zipIdx := by
  obtain ⟨init, last, hsplit⟩ := (List.eq_nil_or_concat' (splitLines text)).resolve_left
    (splitLines_ne_nil text)
  rw [cSourceLines_of_split hsplit, hsplit, List.zipIdx_append]
  rw [List.prefix_append_right_inj]
  simp only [List.filter_cons, List.filter_nil]
  split
  · simp
  · exact List.nil_prefix

/-- The segments before another one are kept. -/
theorem zipIdx_isPrefix_cSourceLines {text : String} {kept rest : List String}
    (hsplit : splitLines text = kept ++ rest) (hrest : rest ≠ []) :
    kept.zipIdx <+: cSourceLines text := by
  have hlt : kept.length < (splitLines text).length := by
    rw [hsplit, List.length_append]
    have := List.length_pos_iff.mpr hrest
    omega
  have hkept := filter_cKeepsLine_of_lt (Text.endsWith text "\n") hlt
  change _ <+: (splitLines text).zipIdx.filter
    (cKeepsLine (Text.endsWith text "\n") (splitLines text).length)
  rw [← hkept, hsplit, List.zipIdx_append, List.filter_append]
  exact List.prefix_append _ _

/-- **The lines of a first part are a first part of the lines.** -/
theorem cSourceLines_isPrefix {p text : String} (hcut : CompleteLineCut p text) :
    cSourceLines p <+: cSourceLines text := by
  obtain ⟨rest, rfl, hempty | ⟨head, rfl⟩ | ⟨tail, rfl⟩⟩ := hcut
  · subst hempty
    simp
  · have hshort : splitLines (head ++ "\n") = splitLines head ++ [""] := by
      simpa using splitLines_append_newline head ""
    have hend : Text.endsWith (head ++ "\n") "\n" = true := by
      simp [Text.endsWith]
    have hdropped : cSourceLines (head ++ "\n") = (splitLines head).zipIdx := by
      rw [cSourceLines_of_split hshort, hend]
      simp [cKeepsLine]
    rw [hdropped]
    exact zipIdx_isPrefix_cSourceLines (splitLines_append_newline head rest)
      (splitLines_ne_nil rest)
  · have hsplit : splitLines (p ++ ("\n" ++ tail)) = splitLines p ++ splitLines tail := by
      rw [← String.append_assoc]
      exact splitLines_append_newline p tail
    exact (cSourceLines_isPrefix_zipIdx p).trans
      (zipIdx_isPrefix_cSourceLines hsplit (splitLines_ne_nil tail))

/-- The lines of a text made of lines. -/
theorem cSourceLines_joinLines {lines : List String} (h : ∀ line ∈ lines, '\n' ∉ line.toList)
    (hnonempty : lines ≠ []) : cSourceLines (joinLines lines) = lines.zipIdx := by
  have hend : Text.endsWith (joinLines lines) "\n" = true := by
    obtain ⟨init, last, rfl⟩ := (List.eq_nil_or_concat' lines).resolve_left hnonempty
    rw [joinLines_append]
    simp [Text.endsWith, joinLines, ← List.append_assoc]
  rw [cSourceLines_of_split (splitLines_joinLines h), hend]
  simp [cKeepsLine]

/-- Reading a text made of lines is reading the lines. -/
theorem cParseClaudeJsonLines_joinLines {lines : List String}
    (h : ∀ line ∈ lines, '\n' ∉ line.toList) (hnonempty : lines ≠ []) :
    cParseClaudeJsonLines (joinLines lines) =
      (lines.map String.toList).zipIdx.mapM fun item => cParseClaudeChars item.1 item.2 := by
  have htext : (joinLines lines).isEmpty = false := by
    obtain ⟨line, rest, rfl⟩ := List.exists_cons_of_ne_nil hnonempty
    rw [← Bool.not_eq_true, String.isEmpty_iff]
    intro hempty
    have hchars := congrArg String.toList hempty
    simp [joinLines] at hchars
  unfold cParseClaudeJsonLines
  rw [if_neg (by simp [htext]), cSourceLines_joinLines h hnonempty]
  have hzip : lines.zipIdx.isEmpty = false := by simp [hnonempty]
  dsimp only
  rw [if_neg (by simp [hzip]), List.zipIdx_map, List.mapM_map]
  rfl

/-- What the importer makes of lines that are given by their characters. -/
def importClaudeChars (lines : List (List Char)) : Except String ClaudeSession := do
  let physical ← lines.zipIdx.mapM fun item => cParseClaudeChars item.1 item.2
  let parsed ← cExpandEventBatch physical
  cResolveSession physical parsed

/-- Importing a text made of lines is importing the lines. -/
theorem importClaudeCode_joinLines {lines : List String} (h : ∀ line ∈ lines, '\n' ∉ line.toList)
    (hnonempty : lines ≠ []) :
    importClaudeCode (joinLines lines) = importClaudeChars (lines.map String.toList) := by
  unfold importClaudeCode importClaudeChars
  rw [cParseClaudeJsonLines_joinLines h hnonempty]

/-! ### Records of a first part -/

/-- A line that is read holds an object. -/
theorem cParseClaudeLine_ok {line : String} {index : Nat} {record : Json}
    (h : cParseClaudeLine (line, index) = .ok record) :
    Json.parse line = .ok record ∧ ∃ kvs, record = .obj kvs := by
  unfold cParseClaudeLine cParseClaudeChars at h
  dsimp only at h
  split at h
  · cases h
  · split at h
    · cases h
    next kvs hparse =>
      split at h
      · cases h
      · split at h
        · cases h
        · cases h
          exact ⟨hparse, kvs, rfl⟩
    · cases h

/-- No record stands on an empty line. -/
theorem isEmpty_eq_false_of_parse {line : String} {record : Json}
    (h : Json.parse line = .ok record) : line.isEmpty = false := by
  rw [← Bool.not_eq_true]
  intro hempty
  rw [String.isEmpty_iff.mp hempty] at h
  have hnothing : (Json.parse "").isOk = false := by decide +kernel
  rw [h] at hnothing
  cases hnothing

/-- A nonempty segment is a line. -/
theorem exists_mem_cSourceLines {text line : String} (hmem : line ∈ splitLines text)
    (hnonempty : line.isEmpty = false) : ∃ index, (line, index) ∈ cSourceLines text := by
  obtain ⟨index, hindex⟩ := List.mem_iff_getElem?.mp hmem
  refine ⟨index, List.mem_filter.mpr ⟨List.mem_zipIdx_iff_getElem?.mpr hindex, ?_⟩⟩
  simp [hnonempty]

/-- A text that is read has lines, and these are read one by one. -/
theorem cParseClaudeJsonLines_ok_iff {text : String} {physical : List Json} :
    cParseClaudeJsonLines text = .ok physical ↔
      text.isEmpty = false ∧ cSourceLines text ≠ [] ∧
        (cSourceLines text).mapM cParseClaudeLine = .ok physical := by
  unfold cParseClaudeJsonLines
  dsimp only
  constructor
  · intro h
    split at h
    · cases h
    next htext =>
      split at h
      · cases h
      next hlines =>
        exact ⟨by simpa using htext, by simpa [List.isEmpty_iff] using hlines, h⟩
  · rintro ⟨htext, hlines, h⟩
    rw [if_neg (by simp [htext]), if_neg (by simpa [List.isEmpty_iff] using hlines)]
    exact h

/-- The records on the lines of a text. -/
def cLineRecords (text : String) : List Json :=
  (splitLines text).filterMap fun line => (Json.parse line).toOption

/-- **What the importer reads are the records on the lines of the text.** -/
theorem cLineRecords_eq {text : String} {physical : List Json}
    (h : cParseClaudeJsonLines text = .ok physical) : cLineRecords text = physical := by
  obtain ⟨_, _, hlines⟩ := cParseClaudeJsonLines_ok_iff.mp h
  have hkept : cLineRecords text =
      (cSourceLines text).filterMap fun item => (Json.parse item.1).toOption := by
    unfold cLineRecords cSourceLines
    dsimp only
    rw [List.filterMap_filter]
    conv_lhs => rw [← List.zipIdx_map_fst 0 (splitLines text), List.filterMap_map]
    congr 1
    funext item
    split
    · rfl
    next hdropped =>
      -- only an empty segment is no line, and nothing stands on it
      cases hparse : Json.parse item.1 with
      | error e => simp [Function.comp_apply, hparse, Except.toOption]
      | ok record =>
        have hnonempty := isEmpty_eq_false_of_parse hparse
        simp [hnonempty] at hdropped
  rw [hkept]
  have hread := mapM_ok_iff.mp hlines
  clear h hlines hkept
  generalize cSourceLines text = lines at hread
  induction hread with
  | nil => rfl
  | @cons item record items records hline _ ih =>
    obtain ⟨line, index⟩ := item
    obtain ⟨hparse, _⟩ := cParseClaudeLine_ok hline
    have hrecord : (Json.parse line).toOption = some record := by
      rw [hparse]
      rfl
    rw [List.filterMap_cons, hrecord, ih]

/-- A first part with a line that is not empty is read as a first part of the records. -/
theorem cParseClaudeJsonLines_of_cut {p text : String} (hcut : CompleteLineCut p text)
    {physical : List Json} (hread : cParseClaudeJsonLines text = .ok physical) {line : String}
    (hline : line ∈ splitLines p) (hnonempty : line.isEmpty = false) :
    ∃ part, cParseClaudeJsonLines p = .ok part ∧ part <+: physical ∧
      (∀ record ∈ physical, ∃ kvs, record = .obj kvs) ∧
      ∃ record ∈ part, Json.parse line = .ok record := by
  obtain ⟨index, hmem⟩ := exists_mem_cSourceLines hline hnonempty
  have hp : p.isEmpty = false := by
    rw [← Bool.not_eq_true]
    intro hempty
    rw [String.isEmpty_iff.mp hempty, splitLines_empty, List.mem_singleton] at hline
    rw [hline] at hnonempty
    cases hnonempty
  obtain ⟨_, _, hlines⟩ := cParseClaudeJsonLines_ok_iff.mp hread
  obtain ⟨part, hpart, hfirst⟩ := mapM_ok_of_isPrefix (cSourceLines_isPrefix hcut) hlines
  refine ⟨part, ?_, hfirst, ?_, ?_⟩
  · exact cParseClaudeJsonLines_ok_iff.mpr ⟨hp, List.ne_nil_of_mem hmem, hpart⟩
  · intro record hrecord
    obtain ⟨⟨line', index'⟩, _, hparse⟩ := exists_of_mem_mapM_ok hlines hrecord
    exact (cParseClaudeLine_ok hparse).2
  · obtain ⟨record, hrecord, hparse⟩ := exists_mem_of_mapM_ok hpart hmem
    exact ⟨record, hrecord, (cParseClaudeLine_ok hparse).1⟩

/-! ### The event batch -/

/-- What a batch says about positions and parent links stays within the given records. -/
structure BatchWithin (physical : List Json) (batch : Json) : Prop where
  entries : ∀ event ∈ cBatchEntries batch,
    (onat event "beforeEntry").getD 0 ≤ physical.length
  annotations : ∀ event ∈ cBatchEvents batch, ostr event "kind" = some "annotation" →
    ∀ i, onat event "beforeEntry" = some i → i < physical.length
  links : ∀ link ∈ cBatchLinks batch, ∃ record ∈ physical,
    ostr record "uuid" = ostr link "uuid"

/-- A refusal passes exactly if its condition is false. -/
theorem accepts_refuseIf_iff {bad : Bool} {message : String} :
    Accepts (refuseIf bad message) ↔ bad = false := by
  simp only [Accepts, refuseIf_ok_iff, exists_const]

/-- When an annotation has its record. -/
theorem accepts_cCheckAnnotationEvent_iff {physical : List Json} {event : Json} :
    Accepts (cCheckAnnotationEvent physical event) ↔
      (ostr event "kind" = some "annotation" → ∃ record i, (record, i) ∈ physical.zipIdx ∧
        ostr record "uuid" = ostr event "entryUuid" ∧ onat event "beforeEntry" = some i) := by
  unfold cCheckAnnotationEvent
  rw [accepts_refuseIf_iff, Bool.and_eq_false_iff, beq_eq_false_iff_ne, Bool.not_eq_false',
    List.any_eq_true, ← Decidable.imp_iff_not_or]
  simp only [Prod.exists, Bool.and_eq_true, beq_iff_eq]

/-- On a first part, an annotation finds its entry again when its position is inside. -/
theorem accepts_cCheckAnnotationEvent_iff_of_isPrefix {short full : List Json}
    (hcut : short <+: full) {event : Json} (hfull : Accepts (cCheckAnnotationEvent full event)) :
    Accepts (cCheckAnnotationEvent short event) ↔ (ostr event "kind" = some "annotation" →
      ∀ i, onat event "beforeEntry" = some i → i < short.length) := by
  rw [accepts_cCheckAnnotationEvent_iff] at hfull ⊢
  constructor
  · intro h hkind i hi
    obtain ⟨record, i', hmem, _, hi'⟩ := h hkind
    cases hi.symm.trans hi'
    simpa using List.snd_lt_of_mem_zipIdx hmem
  · intro h hkind
    obtain ⟨record, i, hmem, huuid, hi⟩ := hfull hkind
    have hlt := h hkind i hi
    refine ⟨record, i, ?_, huuid, hi⟩
    rw [List.mem_zipIdx_iff_getElem?] at hmem ⊢
    obtain ⟨rest, rfl⟩ := hcut
    rw [List.getElem?_append_left hlt] at hmem
    exact hmem

/-- On a first part, a parent link finds its child again when the child is inside. -/
theorem accepts_cCheckParentLink_iff_of_isPrefix {short full : List Json} (hcut : short <+: full)
    {batch link : Json} (hfull : Accepts (cCheckParentLink full batch link)) :
    Accepts (cCheckParentLink short batch link) ↔
      ∃ record ∈ short, ostr record "uuid" = ostr link "uuid" := by
  have hiff : (short.find? fun record => ostr record "uuid" == ostr link "uuid").isSome ↔
      ∃ record ∈ short, ostr record "uuid" = ostr link "uuid" := by
    rw [List.find?_isSome]
    simp only [beq_iff_eq]
  rw [← hiff]
  unfold cCheckParentLink at hfull ⊢
  obtain ⟨rest, rfl⟩ := hcut
  cases hfind : short.find? fun record => ostr record "uuid" == ostr link "uuid" with
  | none => simp
  | some child =>
    rw [List.find?_append, hfind] at hfull
    simpa using hfull

/-- The leaf of a batch says nothing about single records. -/
theorem cCheckBatchLeaf_of_isPrefix {short full : List Json} (hcut : short <+: full)
    {batch : Json} (hfull : Accepts (cCheckBatchLeaf full batch)) :
    Accepts (cCheckBatchLeaf short batch) := by
  unfold cCheckBatchLeaf at hfull ⊢
  split at hfull
  · exact accepts_pure _
  · simp only [accepts_seq_iff, accepts_refuseIf_iff, Bool.and_eq_false_iff] at hfull ⊢
    refine ⟨hfull.1, hfull.2.1, hfull.2.2.imp_right fun hempty => ?_⟩
    rw [Bool.not_eq_false', List.isEmpty_iff] at hempty ⊢
    subst hempty
    exact List.prefix_nil.mp hcut

/-- On a first part that has the batch, the checks of the batch are passed again when the batch
stays within the part. -/
theorem accepts_cCheckEventBatch_iff_of_isPrefix {short full : List Json} (hcut : short <+: full)
    {batch : Json} (hfull : Accepts (cCheckEventBatch full batch)) :
    Accepts (cCheckEventBatch short batch) ↔ BatchWithin short batch := by
  unfold cCheckEventBatch at hfull ⊢
  simp only [accepts_seq_iff, accepts_forM_iff, accepts_refuseIf_iff] at hfull ⊢
  obtain ⟨hvalid, _, hids, hannotations, hlinkIds, hlinks, hleaf⟩ := hfull
  constructor
  · rintro ⟨_, hpositions, _, hannotations', _, hlinks', _⟩
    refine ⟨fun event hevent => ?_, fun event hevent => ?_, fun link hlink => ?_⟩
    · have := List.any_eq_false.mp hpositions event hevent
      simpa using this
    · exact (accepts_cCheckAnnotationEvent_iff_of_isPrefix hcut (hannotations event hevent)).mp
        (hannotations' event hevent)
    · exact (accepts_cCheckParentLink_iff_of_isPrefix hcut (hlinks link hlink)).mp
        (hlinks' link hlink)
  · intro hwithin
    refine ⟨hvalid, ?_, ?_, fun event hevent => ?_, hlinkIds, fun link hlink => ?_,
      cCheckBatchLeaf_of_isPrefix hcut hleaf⟩
    · rw [List.any_eq_false]
      intro event hevent
      simpa using hwithin.entries event hevent
    · rw [Bool.or_eq_false_iff] at hids ⊢
      refine ⟨hids.1, List.any_eq_false.mpr fun record hrecord => ?_⟩
      exact List.any_eq_false.mp hids.2 record (hcut.subset hrecord)
    · exact (accepts_cCheckAnnotationEvent_iff_of_isPrefix hcut (hannotations event hevent)).mpr
        (hwithin.annotations event hevent)
    · exact (accepts_cCheckParentLink_iff_of_isPrefix hcut (hlinks link hlink)).mpr
        (hwithin.links link hlink)

/-- On a first part, the checks of the batch are passed when the part does not have it, or the
batch stays within the part. -/
theorem accepts_cCheckEventBatches_iff_of_isPrefix {part physical : List Json}
    (hcut : part <+: physical) (hfull : Accepts (cCheckEventBatches physical)) :
    Accepts (cCheckEventBatches part) ↔
      ∀ batch ∈ part.filterMap cEventBatch?, BatchWithin (cPhysicalRecords part) batch := by
  have hbatches : part.filterMap cEventBatch? <+: physical.filterMap cEventBatch? :=
    hcut.filterMap _
  have hrecords : cPhysicalRecords part <+: cPhysicalRecords physical := hcut.filter _
  unfold cCheckEventBatches at hfull ⊢
  simp only [accepts_seq_iff, accepts_forM_iff, accepts_refuseIf_iff, decide_eq_false_iff_not]
    at hfull ⊢
  obtain ⟨howners, hsingle, hbatch⟩ := hfull
  have howners' : ∀ record ∈ part, Accepts (cCheckBatchOwner record) := fun record hrecord =>
    howners record (hcut.subset hrecord)
  have hlength := hbatches.length_le
  have hsingle' : ¬1 < (part.filterMap cEventBatch?).length := by omega
  cases hpart : part.filterMap cEventBatch? with
  | nil => simpa [hpart] using howners'
  | cons batch rest =>
    obtain ⟨more, hmore⟩ := hbatches
    rw [hpart] at hmore hsingle'
    have hrest : rest = [] := by
      rw [List.length_cons] at hsingle'
      exact List.length_eq_zero_iff.mp (by omega)
    rw [← hmore] at hbatch
    have hiff : Accepts (cCheckEventBatch (cPhysicalRecords part) batch) ↔
        BatchWithin (cPhysicalRecords part) batch :=
      accepts_cCheckEventBatch_iff_of_isPrefix hrecords hbatch
    rw [hrest, List.forall_mem_singleton, ← hiff]
    exact ⟨fun h => h.2.2, fun h => ⟨howners', by simp, h⟩⟩

/-! ### Checks of the expanded records -/

/-- The batch of a first part is the batch of the records. -/
theorem cExpandedRecords_sublist {part physical : List Json} (hcut : part <+: physical)
    (hbatch : part.filterMap cEventBatch? ≠ []) :
    (cExpandedRecords part).Sublist (cExpandedRecords physical) := by
  obtain ⟨more, hmore⟩ := hcut.filterMap cEventBatch?
  obtain ⟨batch, rest, hpart⟩ := List.exists_cons_of_ne_nil hbatch
  unfold cExpandedRecords
  rw [← hmore, hpart]
  exact cExpandWith_sublist batch hcut

/-- Without a batch nothing is put back. -/
theorem cExpandedRecords_of_no_batch {part : List Json}
    (hbatch : part.filterMap cEventBatch? = []) : cExpandedRecords part = part := by
  unfold cExpandedRecords
  rw [hbatch]

/-- On a first part, every record is accepted when every link is spelled correctly. -/
theorem forall_cCheckRecord_iff_of_isPrefix {part physical : List Json}
    (hcut : part <+: physical) (hobj : ∀ record ∈ physical, ∃ kvs, record = .obj kvs)
    (hfull : ∀ record ∈ cExpandedRecords physical, Accepts (cCheckRecord record)) :
    (∀ record ∈ cExpandedRecords part, Accepts (cCheckRecord record)) ↔
      ∀ record ∈ cExpandedRecords part, LinksSpelled record := by
  constructor
  · exact fun h record hrecord => linksSpelled_of_accepts (h record hrecord)
  · intro hspelled record hrecord
    by_cases hbatch : part.filterMap cEventBatch? = []
    · have hmem : record ∈ physical := by
        rw [cExpandedRecords_of_no_batch hbatch] at hrecord
        exact hcut.subset hrecord
      obtain ⟨restored, hrestored, hagrees⟩ := exists_agreesOff_mem_cExpandedRecords hobj hmem
      exact cCheckRecord_of_agreesOff hagrees (hspelled record hrecord) (hfull restored hrestored)
    · exact hfull record ((cExpandedRecords_sublist hcut hbatch).subset hrecord)

/-- Putting events back does not remove a source-environment header. -/
theorem cTranscriptSourceEnvCount_le_cExpandFrom (batch : Json) (position : Nat)
    {records : List Json} (hobj : ∀ record ∈ records, ∃ kvs, record = .obj kvs) :
    cTranscriptSourceEnvCount records ≤
      cTranscriptSourceEnvCount (cExpandFrom batch position records) := by
  unfold cTranscriptSourceEnvCount
  induction records generalizing position with
  | nil => exact Nat.zero_le _
  | cons record rest ih =>
    have hrecord := hobj record List.mem_cons_self
    have hrest := fun n => ih n fun r hr => hobj r (List.mem_cons_of_mem _ hr)
    have hsame : ∀ n, cIsSourceEnvCarrier (cRestoreRecord batch n record) =
        cIsSourceEnvCarrier record := fun n =>
      (cParseTranscriptProvenanceCarrier?_congr (cRestoreRecord_agreesOff batch n hrecord)).2.symm
    unfold cExpandFrom
    split
    · rw [List.countP_append, List.countP_cons, List.countP_cons, hsame]
      have := hrest (position + 1)
      omega
    · rw [List.countP_cons, List.countP_cons, hsame]
      have := hrest position
      omega

/-- Expanding the records adds source environments and takes none away. -/
theorem cTranscriptSourceEnvCount_le_cExpandedRecords {records : List Json}
    (hobj : ∀ record ∈ records, ∃ kvs, record = .obj kvs) :
    cTranscriptSourceEnvCount records ≤ cTranscriptSourceEnvCount (cExpandedRecords records) := by
  unfold cExpandedRecords
  split
  · exact Nat.le_refl _
  next batch _ _ =>
    refine Nat.le_trans (cTranscriptSourceEnvCount_le_cExpandFrom batch 0 hobj) ?_
    exact (List.sublist_append_left _ _).countP_le

/-- A first part has at most the source-environment headers of the records. -/
theorem cTranscriptSourceEnvCount_of_isPrefix {part physical : List Json}
    (hcut : part <+: physical) (hobj : ∀ record ∈ physical, ∃ kvs, record = .obj kvs) :
    cTranscriptSourceEnvCount (cExpandedRecords part) ≤
      cTranscriptSourceEnvCount (cExpandedRecords physical) := by
  by_cases hbatch : part.filterMap cEventBatch? = []
  · rw [cExpandedRecords_of_no_batch hbatch]
    exact Nat.le_trans hcut.sublist.countP_le (cTranscriptSourceEnvCount_le_cExpandedRecords hobj)
  · exact (cExpandedRecords_sublist hcut hbatch).countP_le

/-! ### First parts of a session -/

/-- What the importer asks of the records of a part taken together: the event batch of the part fits
its records, the links of its records are spelled correctly, and its summaries, its last resume
pointer and the path from its leaf are resolved among them.  Beside that path, links may name
records that are not in the part. -/
structure SelfContained (part : List Json) : Prop where
  batch : ∀ batch ∈ part.filterMap cEventBatch?, BatchWithin (cPhysicalRecords part) batch
  spelled : ∀ record ∈ cExpandedRecords part, LinksSpelled record
  resolved : LinksResolved (cExpandedRecords part)

/-- The records of the text are self-contained. -/
def SelfContainedText (p : String) : Prop := SelfContained (cLineRecords p)

/-- What is done with the expanded records is accepted when the batch is and when it is accepted
itself. -/
theorem accepts_cExpandEventBatch_bind_iff {records : List Json}
    {next : List Json → Except String ClaudeSession} :
    Accepts (cExpandEventBatch records >>= next) ↔
      Accepts (cCheckEventBatches records) ∧ Accepts (next (cExpandedRecords records)) := by
  unfold cExpandEventBatch
  rw [bind_assoc, accepts_seq_iff]
  rfl

/-- **A first part of an accepted Claude session that has a message is accepted exactly when its
records are self-contained.** -/
theorem importClaudeCode_accepts_iff_of_cut {p text : String} (hcut : CompleteLineCut p text)
    (haccepts : Accepts (importClaudeCode text))
    (hmessage : ∃ line ∈ splitLines p, ∃ record, Json.parse line = .ok record ∧
      (cConversationKind? record).isSome = true) :
    Accepts (importClaudeCode p) ↔ SelfContainedText p := by
  obtain ⟨line, hline, record, hparse, hkind⟩ := hmessage
  unfold importClaudeCode at haccepts ⊢
  obtain ⟨physical, hread, haccepts⟩ := accepts_bind_iff.mp haccepts
  obtain ⟨hbatches, haccepts⟩ := accepts_cExpandEventBatch_bind_iff.mp haccepts
  obtain ⟨part, hpart, hfirst, hobj, record', hrecord', hparse'⟩ :=
    cParseClaudeJsonLines_of_cut hcut hread hline (isEmpty_eq_false_of_parse hparse)
  cases hparse.symm.trans hparse'
  have hexpanded : ∀ {records : List Json}, (∀ r ∈ records, ∃ kvs, r = .obj kvs) →
      record ∈ records → ∃ r ∈ cExpandedRecords records, (cConversationKind? r).isSome = true := by
    intro records hrecords hmem
    obtain ⟨restored, hrestored, hagrees⟩ := exists_agreesOff_mem_cExpandedRecords hrecords hmem
    exact ⟨restored, hrestored, by rw [← cConversationKind?_congr hagrees]; exact hkind⟩
  have hobj' : ∀ r ∈ part, ∃ kvs, r = .obj kvs := fun r hr => hobj r (hfirst.subset hr)
  obtain ⟨hchecked, hcount, _⟩ := (accepts_cResolveSession_iff
    (hexpanded hobj (hfirst.subset hrecord'))).mp haccepts
  have hcount' := Nat.le_trans (cTranscriptSourceEnvCount_of_isPrefix hfirst hobj) hcount
  have hself : SelfContainedText p ↔ SelfContained part := by
    rw [SelfContainedText, cLineRecords_eq hpart]
  rw [hself, hpart]
  change Accepts (cExpandEventBatch part >>= cResolveSession part) ↔ _
  rw [accepts_cExpandEventBatch_bind_iff, accepts_cResolveSession_iff (hexpanded hobj' hrecord'),
    accepts_cCheckEventBatches_iff_of_isPrefix hfirst hbatches,
    forall_cCheckRecord_iff_of_isPrefix hfirst hobj hchecked]
  constructor
  · rintro ⟨hbatch, hspelled, _, hresolved⟩
    exact ⟨hbatch, hspelled, hresolved⟩
  · rintro ⟨hbatch, hspelled, hresolved⟩
    exact ⟨hbatch, hspelled, hcount', hresolved⟩

/-- What a session keeps of its text is what was read from the lines. -/
theorem cParseClaudeJsonLines_of_importClaudeCode {text : String} {session : ClaudeSession}
    (h : importClaudeCode text = .ok session) :
    cParseClaudeJsonLines text = .ok session.physical := by
  obtain ⟨physical, hread, h⟩ := bind_ok_iff.mp h
  obtain ⟨parsed, _, h⟩ := bind_ok_iff.mp h
  obtain ⟨_, _, h⟩ := bind_ok_iff.mp h
  split at h
  · cases h
  · obtain ⟨lastPrompt, _, h⟩ := bind_ok_iff.mp h
    obtain ⟨leaf, _, h⟩ := bind_ok_iff.mp h
    obtain ⟨⟨selectedLeafToRoot, graphNotes⟩, _, hpure⟩ := bind_ok_iff.mp h
    cases hpure
    exact hread

/-- An accepted first part of an accepted Claude session has the first records of the session.
What it continues from may differ: the part has a leaf of its own. -/
theorem importClaudeCode_of_cut {p text : String} {part whole : ClaudeSession}
    (hcut : CompleteLineCut p text) (hwhole : importClaudeCode text = .ok whole)
    (hpart : importClaudeCode p = .ok part) : part.physical <+: whole.physical := by
  obtain ⟨_, _, hlines⟩ :=
    cParseClaudeJsonLines_ok_iff.mp (cParseClaudeJsonLines_of_importClaudeCode hwhole)
  obtain ⟨_, _, hlines'⟩ :=
    cParseClaudeJsonLines_ok_iff.mp (cParseClaudeJsonLines_of_importClaudeCode hpart)
  obtain ⟨first, hfirst, hcut'⟩ := mapM_ok_of_isPrefix (cSourceLines_isPrefix hcut) hlines
  cases hlines'.symm.trans hfirst
  exact hcut'

end AgentConvert.ClaudeCode
