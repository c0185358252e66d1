import AgentConvert.Viewer.Preview
import AgentConvert.Viewer.ReadPrefix
import AgentConvert.Viewer.Session

/-!
# What a preview is made from

`Catalog.preview` reads the first part of a session file and gives it to the importer.  If the
importer accepts the part, the result is a shorter session: the records of the part are the first
records of the session, and so are the entries of its transcript.  If it refuses the part, the
viewer shows the session without a preview.

## Main statements

* `shorterSession_of_cut` — an accepted first part of an accepted session is a shorter session
* `catalogPreview_agrees_pi`, `catalogPreview_agrees_cursorAgent` — a preview says what the
  preview of the whole session would say
-/

namespace AgentConvert.Viewer

/-- The first line of the file ends within what a preview reads. -/
def FirstLineFits (text : String) : Prop :=
  text.toByteArray.size < previewLimit ∨
    ∃ i < previewLimit, text.toByteArray[i]! = newlineByte

/-! ### Shorter sessions -/

/-- What the importer reads from the part is the first part of what it reads from the text.  A
Codex session keeps what its header says. -/
def ShorterSession (h : JsonlHarness) (p text : String) : Prop :=
  match h with
  | .claudeCode => ∀ part whole, ClaudeCode.importClaudeCode p = .ok part →
      ClaudeCode.importClaudeCode text = .ok whole → part.physical <+: whole.physical
  | .codexCli => ∀ part whole, CodexCli.importCodexCli p = .ok part →
      CodexCli.importCodexCli text = .ok whole →
        part.payload = whole.payload ∧ part.records <+: whole.records
  | .pi => ∀ part whole, Pi.importPi p = .ok part → Pi.importPi text = .ok whole →
      ShorterTranscript part whole
  | .cursorAgent => ∀ part whole, CursorAgent.importCursorAgent p = .ok part →
      CursorAgent.importCursorAgent text = .ok whole → ShorterTranscript part whole

/-- **An accepted first part of an accepted session is a shorter session.** -/
theorem shorterSession_of_cut (h : JsonlHarness) {p text : String}
    (hcut : CompleteLineCut p text) : ShorterSession h p text := by
  cases h with
  | claudeCode =>
    intro part whole hpart hwhole
    exact ClaudeCode.importClaudeCode_of_cut hcut hwhole hpart
  | codexCli =>
    intro part whole hpart hwhole
    -- an accepted part has a header, so it has a line
    have hheader : CodexCli.codexLines p ≠ [] := CodexCli.codexLines_ne_nil hpart
    obtain ⟨part', hpart', hpayload, hrecords⟩ :=
      CodexCli.importCodexCli_of_cut hcut hwhole hheader
    cases hpart.symm.trans hpart'
    exact ⟨hpayload, hrecords⟩
  | pi =>
    intro part whole hpart hwhole
    obtain ⟨henv, hentries⟩ := Pi.importPi_of_cut hcut hwhole hpart
    exact ⟨henv, hentries⟩
  | cursorAgent =>
    intro part whole hpart hwhole
    obtain ⟨part', hpart', henv, hentries⟩ := CursorAgent.importCursorAgent_of_cut hcut hwhole
    cases hpart.symm.trans hpart'
    exact ⟨henv, hentries⟩

/-- **A preview of a session file is made from a shorter session.** -/
theorem readPrefix_shorterSession (h : JsonlHarness) {text : String}
    (hline : FirstLineFits text) :
    ∃ p, readPrefix text.toByteArray = some p ∧ CompleteLineCut p text ∧
      ShorterSession h p text := by
  obtain ⟨p, hread, hcut⟩ := readPrefix_completeLineCut hline
  exact ⟨p, hread, hcut, shorterSession_of_cut h hcut⟩

/-! ### Previews -/

/-- What a parse failure yields. -/
def Preview.unknown : Preview :=
  { title := none, cwd := none, model := none, startedMs := none, turns := 0 }

/-- The preview of a session file, given the importer of its harness. -/
def catalogPreview (h : JsonlHarness) (parse : String → Except String Transcript)
    (file : ByteArray) : Preview :=
  match readPrefix file with
  | none => Preview.unknown
  | some text =>
    match parse text with
    | .ok t => Preview.ofTranscript h t
    | .error _ => Preview.unknown

/-- A preview is that of the transcript its part is read as. -/
theorem catalogPreview_of_readPrefix {h : JsonlHarness}
    {parse : String → Except String Transcript} {file : ByteArray} {p : String} {part : Transcript}
    (hread : readPrefix file = some p) (hpart : parse p = .ok part) :
    catalogPreview h parse file = Preview.ofTranscript h part := by
  unfold catalogPreview
  rw [hread]
  dsimp only
  rw [hpart]

/-- **The preview of a cursor-agent session says what the preview of the whole session would
say.** -/
theorem catalogPreview_agrees_cursorAgent {text : String} {whole : Transcript}
    (hwhole : CursorAgent.importCursorAgent text = .ok whole) (hline : FirstLineFits text) :
    Preview.Agrees
      (catalogPreview .cursorAgent CursorAgent.importCursorAgent text.toByteArray)
      (Preview.ofTranscript .cursorAgent whole) := by
  obtain ⟨p, hread, hcut⟩ := readPrefix_completeLineCut hline
  obtain ⟨part, hpart, henv, hentries⟩ := CursorAgent.importCursorAgent_of_cut hcut hwhole
  rw [catalogPreview_of_readPrefix hread hpart]
  exact Preview.agrees_of_shorter .cursorAgent ⟨henv, hentries⟩

/-- **A Pi preview that is shown says what the preview of the whole session would say.** -/
theorem catalogPreview_agrees_pi {text : String} {whole : Transcript}
    (hwhole : Pi.importPi text = .ok whole) (hline : FirstLineFits text)
    (hknown : catalogPreview .pi Pi.importPi text.toByteArray ≠ Preview.unknown) :
    Preview.Agrees (catalogPreview .pi Pi.importPi text.toByteArray)
      (Preview.ofTranscript .pi whole) := by
  obtain ⟨p, hread, hcut⟩ := readPrefix_completeLineCut hline
  cases hpart : Pi.importPi p with
  | error e =>
    refine absurd ?_ hknown
    unfold catalogPreview
    rw [hread]
    dsimp only
    rw [hpart]
  | ok part =>
    rw [catalogPreview_of_readPrefix hread hpart]
    obtain ⟨henv, hentries⟩ := Pi.importPi_of_cut hcut hwhole hpart
    exact Preview.agrees_of_shorter .pi ⟨henv, hentries⟩

end AgentConvert.Viewer
