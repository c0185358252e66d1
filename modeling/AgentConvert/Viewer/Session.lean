import AgentConvert.Lib.Text
import AgentConvert.Loom.Turns
import AgentConvert.Viewer.Harness

/-!
# Sessions

What the list of sessions shows of one: the first words of the person, where and when the session
was run, and how many turns it has.  The preview of a shorter transcript says the same, as far as
it says anything (`Preview.agrees_of_shorter`).
-/

namespace AgentConvert.Viewer

/-- What a session is about, read from its transcript. -/
structure Preview where
  title : Option String
  cwd : Option String
  model : Option String
  startedMs : Option Nat
  turns : Nat
  internal : Bool := false
  deriving Repr, DecidableEq

/-- Whitespace trimmed from both ends. -/
def trimSpaces (s : String) : String :=
  String.ofList ((s.toList.dropWhile Char.isWhitespace).reverse.dropWhile Char.isWhitespace).reverse

/-- `width` characters of the first line that is not blank, with an ellipsis when cut. -/
def headline (text : String) (width : Nat := 120) : String :=
  let line := trimSpaces
    (((Text.splitOn text "\n").find? fun l => !(trimSpaces l).isEmpty).getD "")
  if line.length ≤ width then line
  else trimSpaces (String.ofList (line.toList.take width)) ++ "…"

/-- The texts of a user message, one under the other. -/
def userText (blocks : List UserBlock) : String :=
  String.intercalate "\n" (blocks.filterMap fun block =>
    match block with
    | .text s => some s
    | _ => none)

/-- The milliseconds of a time that has any. -/
def timeMs : Time → Option Nat
  | .recorded t => some t.ms
  | .interpolated t _ => some t.ms
  | _ => none

/-- The first words an entry has for the title: a user text that is not the harness's
scaffolding. -/
def titleWords (h : JsonlHarness) (entry : Entry) : Option String :=
  match entry.payload with
  | .userMsg blocks =>
    let text := userText blocks
    if (trimSpaces text).isEmpty || h.scaffolding text then none else some (headline text)
  | _ => none

/-- The preview of a transcript imported from the harness. -/
def Preview.ofTranscript (h : JsonlHarness) (t : Transcript) : Preview where
  title := t.entries.findSome? (titleWords h)
  cwd := t.env.cwd
  model := t.env.model
  startedMs := t.entries.findSome? fun entry => timeMs entry.time
  turns := turnCount t
  internal := h.internal t

/-! ### Shorter transcripts -/

/-- The entries of the one are the first entries of the other. -/
structure ShorterTranscript (part whole : Transcript) : Prop where
  env : part.env = whole.env
  entries : part.entries <+: whole.entries

/-- What the one preview says, the other one says as well; it may have more turns. -/
structure Preview.Agrees (part whole : Preview) : Prop where
  title : ∀ title, part.title = some title → whole.title = some title
  cwd : part.cwd = whole.cwd
  model : part.model = whole.model
  startedMs : ∀ ms, part.startedMs = some ms → whole.startedMs = some ms
  turns : part.turns ≤ whole.turns
  internal : part.internal = whole.internal

/-- **The preview of a shorter transcript agrees with the preview of the whole.** -/
theorem Preview.agrees_of_shorter (h : JsonlHarness) {part whole : Transcript}
    (hshorter : ShorterTranscript part whole) :
    Preview.Agrees (Preview.ofTranscript h part) (Preview.ofTranscript h whole) where
  title := fun _ htitle => hshorter.entries.findSome?_eq_some htitle
  cwd := congrArg EnvInfo.cwd hshorter.env
  model := congrArg EnvInfo.model hshorter.env
  startedMs := fun _ hms => hshorter.entries.findSome?_eq_some hms
  turns := (turnsGrow_of_isPrefix hshorter.entries).length_le
  internal := h.internal_congr hshorter.env

end AgentConvert.Viewer
