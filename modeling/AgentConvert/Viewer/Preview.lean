import AgentConvert.ClaudeCode.Prefix
import AgentConvert.CodexCli.Session
import AgentConvert.CursorAgent.Import
import AgentConvert.Pi.Prefix
import AgentConvert.Viewer.Harness

/-!
# Previews

The viewer does not read a long session to its end.  It cuts the text at a line boundary and
gives the first part to the importer of the harness, counting on every importer of line-oriented
sessions to read such a part as a shorter session.

This module says for which first parts that is so.  The Codex and cursor-agent importers accept
all of them.  A Pi session is accepted when the entries that compactions kept stand in the part,
and a Claude session when the records of the part are self-contained: the last resume pointer and
the summaries of the part name exactly one record of it each, its event batch counts and links its
records only, and the path from its leaf ends at a root.  A parent that stands behind the cut does
not stop that path, since a record with a dangling parent is a root.  A UUID that two records of the
part share, or a parent that only another session has, does.

## Main statements

* `parses_iff_of_cut` — which first parts of an accepted session are accepted
* `not_previewsAccepted` — an accepted session with a first part that is refused
* `pi_part_refused` — the same for a session in another format
-/

namespace AgentConvert.Viewer

/-- Whether the harness's importer reads the text. -/
def JsonlHarness.parses (h : JsonlHarness) (text : String) : Bool :=
  match h with
  | .claudeCode => (ClaudeCode.importClaudeCode text).isOk
  | .codexCli => (CodexCli.importCodexCli text).isOk
  | .pi => (Pi.importPi text).isOk
  | .cursorAgent => (CursorAgent.importCursorAgent text).isOk

/-! ### What a part has to contain -/

/-- Some line of the text is a record with the property. -/
def HasRecord (property : Json → Bool) (text : String) : Prop :=
  ∃ line ∈ splitLines text, ∃ record, Json.parse line = .ok record ∧ property record = true

/-- The type of the header record, in the formats that have one. -/
def JsonlHarness.headerType? : JsonlHarness → Option String
  | .codexCli => some "session_meta"
  | .pi => some "session"
  | .claudeCode | .cursorAgent => none

/-- The text has a session header, if the format has one. -/
def HasHeader (h : JsonlHarness) (text : String) : Prop :=
  ∀ kind, h.headerType? = some kind → HasRecord (fun record => ostr record "type" == some kind) text

/-- A role that a message can have. -/
def isUserOrAssistant (role : Option String) : Bool :=
  role == some "user" || role == some "assistant"

/-- A Codex message is an item of the model's conversation, or an event of the terminal. -/
def isCodexMessage (record : Json) : Bool :=
  (oobj record "payload").any fun payload =>
    (ostr record "type" == some "response_item" && ostr payload "type" == some "message" &&
      isUserOrAssistant (ostr payload "role")) ||
    (ostr record "type" == some "event_msg" &&
      (ostr payload "type" == some "user_message" || ostr payload "type" == some "agent_message"))

/-- Whether the record is a message of the user or the assistant. -/
def JsonlHarness.isMessage (h : JsonlHarness) (record : Json) : Bool :=
  match h with
  | .claudeCode => (ClaudeCode.cConversationKind? record).isSome
  | .codexCli => isCodexMessage record
  | .pi => ostr record "type" == some "message" &&
      (oobj record "message").any fun message => isUserOrAssistant (ostr message "role")
  | .cursorAgent =>
    match CursorAgent.classifyCursorAgentRecord 0 record with
    | .ok (.message _ _) => true
    | _ => false

/-- The part is what a preview may read of the text: it ends at a line boundary and still has the
header and a message. -/
structure PreviewPart (h : JsonlHarness) (p text : String) : Prop where
  cut : CompleteLineCut p text
  header : HasHeader h p
  message : HasRecord h.isMessage p

/-- What previews count on: every such part of an accepted text is accepted. -/
def PreviewsAccepted : Prop :=
  ∀ h p text, JsonlHarness.parses h text = true → PreviewPart h p text →
    JsonlHarness.parses h p = true

/-! ### Which parts are accepted -/

/-- What the importer of the harness asks of the names in a part: a Claude part is self-contained, a
Pi part has the entries its compactions kept, and of the other formats nothing is asked. -/
def RefersWithin (h : JsonlHarness) (p : String) : Prop :=
  match h with
  | .claudeCode => ClaudeCode.SelfContainedText p
  | .pi => Pi.FirstKeptWithin p
  | .codexCli | .cursorAgent => True

/-- A record stands on a line that is not empty. -/
theorem exists_nonempty_line_of_hasRecord {property : Json → Bool} {text : String}
    (h : HasRecord property text) : (splitLines text).filter (fun line => !line.isEmpty) ≠ [] := by
  obtain ⟨line, hline, record, hparse, _⟩ := h
  have hnonempty := ClaudeCode.isEmpty_eq_false_of_parse hparse
  exact List.ne_nil_of_mem (List.mem_filter.mpr ⟨hline, by simp [hnonempty]⟩)

/-- A text has the record that one of its lines parses to. -/
theorem hasRecord_of_mem {property : Json → Bool} {lines : List String} {line : String}
    (hlines : ∀ line ∈ lines, '\n' ∉ line.toList) (hline : line ∈ lines)
    (h : (Json.parseChars line.toList).toOption.any property = true) :
    HasRecord property (joinLines lines) := by
  have hmem : line ∈ splitLines (joinLines lines) := by
    rw [splitLines_joinLines hlines]
    exact List.mem_append_left _ hline
  cases hparse : Json.parseChars line.toList with
  | error _ =>
    rw [hparse] at h
    cases h
  | ok record =>
    rw [hparse] at h
    exact ⟨line, hmem, record, hparse, h⟩

/-- **A preview of an accepted session is accepted exactly when the names in it are as its importer
asks.** -/
theorem parses_iff_of_cut (h : JsonlHarness) {p text : String} (haccepts : h.parses text = true)
    (hpart : PreviewPart h p text) : h.parses p = true ↔ RefersWithin h p := by
  cases h with
  | claudeCode =>
    simp only [JsonlHarness.parses, isOk_iff_accepts] at haccepts ⊢
    exact ClaudeCode.importClaudeCode_accepts_iff_of_cut hpart.cut haccepts hpart.message
  | codexCli =>
    simp only [JsonlHarness.parses, isOk_iff_accepts, RefersWithin, iff_true] at haccepts ⊢
    exact CodexCli.importCodexCli_accepts_of_cut hpart.cut haccepts
      (exists_nonempty_line_of_hasRecord (hpart.header _ rfl))
  | pi =>
    simp only [JsonlHarness.parses, isOk_iff_accepts] at haccepts ⊢
    exact Pi.importPi_accepts_iff_of_cut hpart.cut haccepts
      (exists_nonempty_line_of_hasRecord (hpart.header _ rfl))
  | cursorAgent =>
    simp only [JsonlHarness.parses, isOk_iff_accepts, RefersWithin, iff_true] at haccepts ⊢
    exact CursorAgent.importCursorAgent_accepts_of_cut hpart.cut haccepts

/-! ### Sessions with a resume pointer

Two Claude sessions of three lines: a message, a resume pointer and another message.  The pointer of
the first session names the message behind it, that of the second the message in front of it.  The
first two lines are a preview part, and in the first session the pointer of this part dangles. -/

/-- A user record up to its `uuid`. -/
def claudeMessageHead : String := "\x7b\"type\":\"user\",\"uuid\":\""

/-- A pointer record up to the `uuid` it names. -/
def claudePromptHead : String := "\x7b\"type\":\"last-prompt\",\"leafUuid\":\""

/-- The session both records belong to. -/
def claudeSessionMember : String :=
  "\",\"sessionId\":\"00000000-0000-4000-8000-00000000000a\""

/-- What stands behind the session in a user record. -/
def claudeMessageTail : String :=
  ",\"parentUuid\":null,\"message\":\x7b\"role\":\"user\",\"content\":\"Hello\"\x7d\x7d"

/-- What stands behind the session in a pointer record. -/
def claudePromptTail : String := "\x7d"

/-- A user message without a parent. -/
def claudeMessageLine (uuid : String) : String :=
  claudeMessageHead ++ uuid ++ claudeSessionMember ++ claudeMessageTail

/-- A resume pointer. -/
def claudePromptLine (leafUuid : String) : String :=
  claudePromptHead ++ leafUuid ++ claudeSessionMember ++ claudePromptTail

/-- A message, and a pointer to a message that comes later. -/
def claudePart : List String :=
  [claudeMessageLine "00000000-0000-4000-8000-000000000001",
    claudePromptLine "00000000-0000-4000-8000-000000000002"]

/-- A message, and a pointer back to it. -/
def resumedPart : List String :=
  [claudeMessageLine "00000000-0000-4000-8000-000000000001",
    claudePromptLine "00000000-0000-4000-8000-000000000001"]

/-- The message behind both parts. -/
def claudeRest : List String := [claudeMessageLine "00000000-0000-4000-8000-000000000002"]

-- The texts are given to the evaluation by their characters: taking a text apart is slow there.

theorem claudeMessageLine_toList (uuid : String) :
    (claudeMessageLine uuid).toList = claudeMessageHead.toList ++ uuid.toList ++
      claudeSessionMember.toList ++ claudeMessageTail.toList := by
  unfold claudeMessageLine
  rw [String.toList_append, String.toList_append, String.toList_append]

theorem claudePromptLine_toList (leafUuid : String) :
    (claudePromptLine leafUuid).toList = claudePromptHead.toList ++ leafUuid.toList ++
      claudeSessionMember.toList ++ claudePromptTail.toList := by
  unfold claudePromptLine
  rw [String.toList_append, String.toList_append, String.toList_append]

/-- What the lines evaluate to: none is broken over two, the first is a message of the user, and the
importer refuses the part with the dangling pointer, but neither session and not the other part. -/
theorem claudeLines_evaluated :
    (∀ line ∈ claudePart ++ resumedPart ++ claudeRest, '\n' ∉ line.toList) ∧
      (Json.parseChars (claudeMessageLine "00000000-0000-4000-8000-000000000001").toList
        ).toOption.any JsonlHarness.claudeCode.isMessage = true ∧
      (ClaudeCode.importClaudeChars ((claudePart ++ claudeRest).map String.toList)).isOk = true ∧
      (ClaudeCode.importClaudeChars (claudePart.map String.toList)).isOk = false ∧
      (ClaudeCode.importClaudeChars ((resumedPart ++ claudeRest).map String.toList)).isOk = true ∧
      (ClaudeCode.importClaudeChars (resumedPart.map String.toList)).isOk = true := by
  simp only [claudePart, resumedPart, claudeRest, List.cons_append, List.nil_append,
    List.map_cons, List.map_nil, List.forall_mem_cons, claudeMessageLine_toList,
    claudePromptLine_toList]
  unfold claudeMessageHead claudePromptHead claudeSessionMember claudeMessageTail claudePromptTail
  repeat rw [String.toList_ofList]
  decide +kernel

/-- None of the lines is broken over two. -/
theorem claudeLines_no_newline {lines : List String}
    (h : lines ⊆ claudePart ++ resumedPart ++ claudeRest) : ∀ line ∈ lines, '\n' ∉ line.toList := by
  obtain ⟨hnewline, _⟩ := claudeLines_evaluated
  exact fun line hline => hnewline line (h hline)

/-- The lines of the sessions are read character by character. -/
theorem parses_claudeLines {lines : List String}
    (h : lines ⊆ claudePart ++ resumedPart ++ claudeRest) (hnonempty : lines ≠ []) :
    JsonlHarness.parses .claudeCode (joinLines lines) =
      (ClaudeCode.importClaudeChars (lines.map String.toList)).isOk := by
  unfold JsonlHarness.parses
  rw [ClaudeCode.importClaudeCode_joinLines (claudeLines_no_newline h) hnonempty]

/-- A part that starts with the first message is what a preview reads: a cut between lines that has
a message. -/
theorem claudeLines_previewPart {lines : List String}
    (h : lines ⊆ claudePart ++ resumedPart ++ claudeRest)
    (hline : claudeMessageLine "00000000-0000-4000-8000-000000000001" ∈ lines) :
    PreviewPart .claudeCode (joinLines lines) (joinLines (lines ++ claudeRest)) where
  cut := CompleteLineCut.joinLines (List.ne_nil_of_mem hline) claudeRest
  header := fun _ hkind => by cases hkind
  message := by
    obtain ⟨_, hmessage, _⟩ := claudeLines_evaluated
    exact hasRecord_of_mem (claudeLines_no_newline h) hline hmessage

/-- The first session is accepted: its pointer names its last record. -/
theorem claudeText_parses :
    JsonlHarness.parses .claudeCode (joinLines (claudePart ++ claudeRest)) = true := by
  obtain ⟨_, _, hwhole, _⟩ := claudeLines_evaluated
  rw [parses_claudeLines (by simp) (by simp [claudePart]), hwhole]

/-- The part of the first session is refused: its pointer names a record behind the cut. -/
theorem claudePart_refused :
    JsonlHarness.parses .claudeCode (joinLines claudePart) = false := by
  obtain ⟨_, _, _, hpart, _⟩ := claudeLines_evaluated
  rw [parses_claudeLines (by simp) (by simp [claudePart]), hpart]

/-- The part of the first session is what a preview reads. -/
theorem claudePart_previewPart :
    PreviewPart .claudeCode (joinLines claudePart) (joinLines (claudePart ++ claudeRest)) :=
  claudeLines_previewPart (by simp) (by simp [claudePart])

/-- **An accepted session has a preview part that is refused**, so previews cannot count on the
importers. -/
theorem not_previewsAccepted :
    JsonlHarness.parses .claudeCode (joinLines (claudePart ++ claudeRest)) = true ∧
      PreviewPart .claudeCode (joinLines claudePart) (joinLines (claudePart ++ claudeRest)) ∧
      JsonlHarness.parses .claudeCode (joinLines claudePart) = false ∧ ¬ PreviewsAccepted := by
  refine ⟨claudeText_parses, claudePart_previewPart, claudePart_refused, fun haccepts => ?_⟩
  have hparses := haccepts .claudeCode _ _ claudeText_parses claudePart_previewPart
  rw [claudePart_refused] at hparses
  cases hparses

/-- The second session is accepted. -/
theorem resumedText_parses :
    JsonlHarness.parses .claudeCode (joinLines (resumedPart ++ claudeRest)) = true := by
  obtain ⟨_, _, _, _, hwhole, _⟩ := claudeLines_evaluated
  rw [parses_claudeLines (by simp) (by simp [resumedPart]), hwhole]

/-- So is its part: the pointer names a record in front of it. -/
theorem resumedPart_parses :
    JsonlHarness.parses .claudeCode (joinLines resumedPart) = true := by
  obtain ⟨_, _, _, _, _, hpart⟩ := claudeLines_evaluated
  rw [parses_claudeLines (by simp) (by simp [resumedPart]), hpart]

/-- The part of the second session is what a preview reads. -/
theorem resumedPart_previewPart :
    PreviewPart .claudeCode (joinLines resumedPart) (joinLines (resumedPart ++ claudeRest)) :=
  claudeLines_previewPart (by simp) (by simp [resumedPart])

/-! ### A compaction in front of the entry it kept

A Pi session of four lines: the header, a message, a compaction and the message that the compaction
names as the first entry it kept.  The first three lines are a preview part. -/

/-- The timestamp all lines end with. -/
def piStamp : String := ",\"timestamp\":\"2026-01-01T00:00:00Z\"\x7d"

/-- A session header up to its timestamp. -/
def piHeaderHead : String := "\x7b\"type\":\"session\",\"id\":\"s\",\"cwd\":\"/\",\"version\":3"

/-- A message up to its identifier. -/
def piMessageHead : String := "\x7b\"type\":\"message\",\"id\":\""

/-- What a message says. -/
def piMessageBody : String :=
  ",\"message\":\x7b\"role\":\"user\",\"content\":\"Hello\",\"timestamp\":0\x7d"

/-- A compaction up to its summary. -/
def piCompactionHead : String := "\x7b\"type\":\"compaction\",\"id\":\"c\",\"parentId\":\"a\""

/-- A compaction that keeps what stands from `b` on. -/
def piCompactionBody : String := ",\"summary\":\"\",\"firstKeptEntryId\":\"b\",\"tokensBefore\":0"

/-- The first message is a root. -/
def piFirstIds : String := "a\",\"parentId\":null"

/-- The kept message follows the compaction. -/
def piKeptIds : String := "b\",\"parentId\":\"c\""

/-- The session header. -/
def piHeaderLine : String := piHeaderHead ++ piStamp

/-- A user message with the given id and parent. -/
def piMessageLine (ids : String) : String := piMessageHead ++ ids ++ piMessageBody ++ piStamp

/-- The compaction. -/
def piCompactionLine : String := piCompactionHead ++ piCompactionBody ++ piStamp

/-- A header, a message, and a compaction that keeps an entry that comes later. -/
def piPart : List String := [piHeaderLine, piMessageLine piFirstIds, piCompactionLine]

/-- The entry the compaction keeps. -/
def piRest : List String := [piMessageLine piKeptIds]

theorem piHeaderLine_toList : piHeaderLine.toList = piHeaderHead.toList ++ piStamp.toList := by
  unfold piHeaderLine
  rw [String.toList_append]

theorem piMessageLine_toList (ids : String) :
    (piMessageLine ids).toList =
      piMessageHead.toList ++ ids.toList ++ piMessageBody.toList ++ piStamp.toList := by
  unfold piMessageLine
  rw [String.toList_append, String.toList_append, String.toList_append]

theorem piCompactionLine_toList :
    piCompactionLine.toList =
      piCompactionHead.toList ++ piCompactionBody.toList ++ piStamp.toList := by
  unfold piCompactionLine
  rw [String.toList_append, String.toList_append]

/-- What the lines evaluate to: none is empty or broken over two, the first is a header and the
second a message of the user, and the importer accepts the session and refuses the part. -/
theorem piLines_evaluated :
    (∀ line ∈ piPart ++ piRest, '\n' ∉ line.toList ∧ line.toList.isEmpty = false) ∧
      (Json.parseChars piHeaderLine.toList).toOption.any
        (fun record => ostr record "type" == some "session") = true ∧
      (Json.parseChars (piMessageLine piFirstIds).toList).toOption.any
        JsonlHarness.pi.isMessage = true ∧
      (Pi.importPiChars ((piPart ++ piRest).map String.toList)).isOk = true ∧
      (Pi.importPiChars (piPart.map String.toList)).isOk = false := by
  simp only [piPart, piRest, List.cons_append, List.nil_append, List.map_cons, List.map_nil,
    List.forall_mem_cons, piHeaderLine_toList, piMessageLine_toList, piCompactionLine_toList]
  unfold piHeaderHead piStamp piMessageHead piMessageBody piCompactionHead piCompactionBody
    piFirstIds piKeptIds
  repeat rw [String.toList_ofList]
  decide +kernel

/-- None of the lines is broken over two. -/
theorem piPart_no_newline : ∀ line ∈ piPart, '\n' ∉ line.toList := by
  obtain ⟨hlines, _⟩ := piLines_evaluated
  exact fun line hline => (hlines line (List.mem_append_left _ hline)).1

/-- The lines of the session are read character by character. -/
theorem parses_piLines {lines : List String} (h : lines <+: piPart ++ piRest) :
    JsonlHarness.parses .pi (joinLines lines) =
      (Pi.importPiChars (lines.map String.toList)).isOk := by
  obtain ⟨hlines, _⟩ := piLines_evaluated
  unfold JsonlHarness.parses
  rw [Pi.importPi_joinLines]
  · exact fun line hline => (hlines line (h.subset hline)).1
  · intro line hline
    have hchars := (hlines line (h.subset hline)).2
    simpa using hchars

/-- The session is accepted. -/
theorem piText_parses : JsonlHarness.parses .pi (joinLines (piPart ++ piRest)) = true := by
  obtain ⟨_, _, _, hwhole, _⟩ := piLines_evaluated
  rw [parses_piLines List.prefix_rfl, hwhole]

/-- The part is refused: the kept entry stands behind the cut. -/
theorem piPart_refused : JsonlHarness.parses .pi (joinLines piPart) = false := by
  obtain ⟨_, _, _, _, hpart⟩ := piLines_evaluated
  rw [parses_piLines (List.prefix_append _ _), hpart]

/-- The part is what a preview reads: a cut between lines that has a header and a message. -/
theorem piPart_previewPart :
    PreviewPart .pi (joinLines piPart) (joinLines (piPart ++ piRest)) where
  cut := CompleteLineCut.joinLines (by simp [piPart]) piRest
  header := by
    intro kind hkind
    cases hkind
    obtain ⟨_, hheader, _⟩ := piLines_evaluated
    exact hasRecord_of_mem piPart_no_newline (by simp [piPart]) hheader
  message := by
    obtain ⟨_, _, hmessage, _⟩ := piLines_evaluated
    exact hasRecord_of_mem piPart_no_newline (by simp [piPart]) hmessage

/-- **A Pi session, too, has a preview part that is refused**: its compaction names an entry behind
the cut. -/
theorem pi_part_refused :
    JsonlHarness.parses .pi (joinLines (piPart ++ piRest)) = true ∧
      PreviewPart .pi (joinLines piPart) (joinLines (piPart ++ piRest)) ∧
      JsonlHarness.parses .pi (joinLines piPart) = false :=
  ⟨piText_parses, piPart_previewPart, piPart_refused⟩

/-- The condition on the three parts: a pointer to a record of the part meets it, a pointer and a
compaction that name a record behind the cut do not. -/
theorem parses_iff_of_cut_parts :
    RefersWithin .claudeCode (joinLines resumedPart) ∧
      ¬ RefersWithin .claudeCode (joinLines claudePart) ∧
      ¬ RefersWithin .pi (joinLines piPart) := by
  refine ⟨?_, fun hwithin => ?_, fun hwithin => ?_⟩
  · exact (parses_iff_of_cut .claudeCode resumedText_parses resumedPart_previewPart).mp
      resumedPart_parses
  · have hparses := (parses_iff_of_cut .claudeCode claudeText_parses claudePart_previewPart).mpr
      hwithin
    rw [claudePart_refused] at hparses
    cases hparses
  · have hparses := (parses_iff_of_cut .pi piText_parses piPart_previewPart).mpr hwithin
    rw [piPart_refused] at hparses
    cases hparses

end AgentConvert.Viewer
