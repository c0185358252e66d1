import AgentConvert.Lib.Text
import AgentConvert.Loom.Core

/-!
# Harnesses

The harnesses whose sessions are files of lines, and what the viewer asks each of them about a
transcript.
-/

namespace AgentConvert.Viewer

/-- The harnesses whose sessions are files of lines. -/
inductive JsonlHarness where
  | claudeCode
  | codexCli
  | pi
  | cursorAgent
  deriving Repr, DecidableEq

/-- Whether the text starts with one of the given ones, not counting white space. -/
def startsWithAny (starts : List String) (s : String) : Bool :=
  let s := String.ofList (s.toList.dropWhile Char.isWhitespace)
  starts.any fun p => Text.startsWith s p

/-- Whether a user text is the harness talking to itself, not the person. -/
def JsonlHarness.scaffolding (h : JsonlHarness) (text : String) : Bool :=
  match h with
  | .claudeCode => startsWithAny ["<command-name>", "<command-message>",
      "<local-command-caveat>", "<local-command-stdout>", "<local-command-stderr>",
      "<system-reminder>", "<task-notification>"] text
  | .codexCli => startsWithAny ["<environment_context>", "<user_instructions>", "<permissions",
      "<INSTRUCTIONS>", "<turn_aborted>", "The following is the Codex agent history"] text
  | .pi | .cursorAgent => false

/-- Whether a transcript is a session the harness ran for itself. -/
def JsonlHarness.internal (h : JsonlHarness) (t : Transcript) : Bool :=
  match h with
  | .codexCli => t.env.model == some "codex-auto-review"
  | .claudeCode | .pi | .cursorAgent => false

/-- Whether a session is internal is read from its environment. -/
theorem JsonlHarness.internal_congr (h : JsonlHarness) {t t' : Transcript} (henv : t.env = t'.env) :
    h.internal t = h.internal t' := by
  unfold internal
  cases h with
  | codexCli =>
    dsimp only
    rw [henv]
  | claudeCode => rfl
  | pi => rfl
  | cursorAgent => rfl

end AgentConvert.Viewer
