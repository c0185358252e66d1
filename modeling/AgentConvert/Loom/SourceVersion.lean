import AgentConvert.Lib.Text
import AgentConvert.Loom.Core

/-!
# Reviewed source versions

For some formats there is a newest source version whose records were reviewed.  A transcript
whose source carries a newer one gets an import note; it is never refused.
-/

namespace AgentConvert

/-- The newest version of each harness that the importer was reviewed for. -/
def reviewedSourceVersion : Format → Option String
  | .codexCli => some "0.162.1"
  | .claudeCode => some "2.1.274"
  | .pi => some "3"
  | .openCode => some "1.1.34"
  | .cursorAgent | .cursorIde | .hermes | .googleAiStudio | .other _ => none

/-- The text has digits only. -/
def allDigits (part : String) : Bool := part.toList.all Char.isDigit

/-- A part of a version that is a number, without zeros at its front. -/
def versionNat? (part : String) : Option Nat := do
  guard (!part.isEmpty && allDigits part)
  guard (part == "0" || !Text.startsWith part "0")
  pure (Text.digitsValue part.toList)

/-- The numbers of a version, and the parts of its prerelease. -/
def versionParts? (version : String) : Option (List Nat × List String) := do
  let value := if Text.startsWith version "v" then Text.drop version 1 else version
  let coreAndPre := (Text.splitOnChar value '+').headD ""
  let parts := Text.splitOnChar coreAndPre '-'
  let core := Text.splitOnChar (parts.headD "") '.'
  guard (core.length == 3 || core.length == 1)
  let numbers ← core.mapM versionNat?
  let prerelease := if parts.length == 1 then [] else
    Text.splitOnChar (String.intercalate "-" parts.tail) '.'
  guard (prerelease.all fun part =>
    !part.isEmpty && part.toList.all (fun c => c.isAlphanum || c == '-') &&
      (!allDigits part || (versionNat? part).isSome))
  pure (numbers, prerelease)

/-- Numbers are compared from the front.  A version with more numbers is newer. -/
def compareVersionNumbers : List Nat → List Nat → Ordering
  | [], [] => .eq
  | [], _ => .lt
  | _, [] => .gt
  | a :: as, b :: bs => if a == b then compareVersionNumbers as bs else compare a b

/-- The number a prerelease part is, when it has digits only. -/
def prereleaseNat? (part : String) : Option Nat :=
  if !part.isEmpty && allDigits part then some (Text.digitsValue part.toList) else none

/-- The parts of two prereleases are compared from the front: numbers by value and before texts,
texts as texts. -/
def comparePrerelease : List String → List String → Ordering
  | [], [] => .eq
  | [], _ => .lt
  | _, [] => .gt
  | a :: as, b :: bs =>
    if a == b then comparePrerelease as bs else
    match prereleaseNat? a, prereleaseNat? b with
    | some x, some y => compare x y
    | some _, none => .lt
    | none, some _ => .gt
    | none, none => compare a b

/-- Precedence of release numbers; vendor spellings compare as texts. -/
def compareSourceVersions (observed reviewed : String) : Ordering :=
  match versionParts? observed, versionParts? reviewed with
  | some (a, ap), some (b, bp) =>
    match compareVersionNumbers a b with
    | .eq =>
      if ap.isEmpty && !bp.isEmpty then .gt
      else if !ap.isEmpty && bp.isEmpty then .lt
      else comparePrerelease ap bp
    | order => order
  | _, _ => compare observed reviewed

/-- The newest of the versions that are not empty.  Of equal ones the first one counts. -/
def latestSourceVersion (versions : List String) : Option String :=
  (versions.filter fun value => !value.isEmpty).foldl (fun best value =>
    match best with
    | none => some value
    | some previous => if compareSourceVersions value previous == .gt then some value else best)
    none

/-- What a note calls the harness. -/
def sourceReviewName : Format → String
  | .codexCli => "Codex"
  | .claudeCode => "Claude Code"
  | .cursorAgent => "Cursor Agent"
  | .pi => "Pi schema"
  | .openCode => "OpenCode"
  | .cursorIde => "Cursor IDE"
  | .hermes => "Hermes"
  | .googleAiStudio => "Google AI Studio"
  | .other name => name

/-- Note a source version beyond the reviewed one in the transcript. -/
def reviewSourceVersion (format : Format) (observed : Option String) (transcript : Transcript) :
    Transcript :=
  match observed, reviewedSourceVersion format with
  | some observed, some reviewed =>
    if compareSourceVersions observed reviewed != .gt then transcript else
    let evidence := Json.mkObj [("observed", .str observed), ("reviewed", .str reviewed)]
    let extras := match transcript.origin.extras with
      | some (.obj fields) =>
        .obj (Json.insertMember "source_version_beyond_reviewed" evidence fields)
      | _ => Json.mkObj [("source_version_beyond_reviewed", evidence)]
    { transcript with
      importNotes := transcript.importNotes ++ [
        { kind := .other "source-version-beyond-reviewed"
          detail := s!"{sourceReviewName format} {observed} is newer than the newest reviewed " ++
            s!"source schema ({reviewed}); check import notes for unconsumed content" }]
      origin := { transcript.origin with extras := some extras } }
  | _, _ => transcript

/-- The review adds a note and leaves the conversation as it is. -/
theorem reviewSourceVersion_eq (format : Format) (observed : Option String)
    (transcript : Transcript) :
    ∃ importNotes origin, reviewSourceVersion format observed transcript =
      { transcript with importNotes, origin } := by
  unfold reviewSourceVersion
  split
  · dsimp only
    split
    · exact ⟨_, _, rfl⟩
    · exact ⟨_, _, rfl⟩
  · exact ⟨_, _, rfl⟩

section Review

variable (format : Format) (observed : Option String) (transcript : Transcript)

@[simp] theorem reviewSourceVersion_threads :
    (reviewSourceVersion format observed transcript).threads = transcript.threads := by
  obtain ⟨_, _, heq⟩ := reviewSourceVersion_eq format observed transcript
  rw [heq]

/-- The review of the version touches notes only, so entries stay. -/
@[simp] theorem reviewSourceVersion_entries :
    (reviewSourceVersion format observed transcript).entries = transcript.entries := by
  obtain ⟨_, _, heq⟩ := reviewSourceVersion_eq format observed transcript
  rw [heq]

@[simp] theorem reviewSourceVersion_env :
    (reviewSourceVersion format observed transcript).env = transcript.env := by
  obtain ⟨_, _, heq⟩ := reviewSourceVersion_eq format observed transcript
  rw [heq]

@[simp] theorem reviewSourceVersion_activeLeaf :
    (reviewSourceVersion format observed transcript).activeLeaf = transcript.activeLeaf := by
  obtain ⟨_, _, heq⟩ := reviewSourceVersion_eq format observed transcript
  rw [heq]

end Review

end AgentConvert
