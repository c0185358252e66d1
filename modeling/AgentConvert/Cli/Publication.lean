import AgentConvert.Lib.FilePrograms

/-!
# Publishing a session with its sidecars

A session with subagents is several files: the main file, and a directory with two files for each
child.  Publication writes the candidate beside the destination, hides the prior main file, swaps
the directories while no main file is visible, and renames the candidate main file into place
last.  When a step fails, the steps before it are undone in reverse order.

Every operation may fail, and a crash may stop the program between any two of them.
-/

namespace AgentConvert.Cli

open FilePrograms

/-! ### Paths -/

/-- The sidecar directory of a session file. -/
def claudeSubagentsDir (path : String) : String :=
  let stemPath :=
    if path.toList.drop (path.length - 6) == ".jsonl".toList then
      String.ofList (path.toList.take (path.length - 6))
    else path
  stemPath ++ "/subagents"

/-- The name of a file type in messages. -/
def sidecarFileTypeName : FileType → String
  | .file => "regular file"
  | .dir => "directory"
  | .symlink => "symbolic link"
  | .other => "special filesystem entry"

/-- What a path names. -/
def sidecarPathType? (path : String) : Prog (Except String (Option FileType)) := do
  match ← probe path with
  | .ok kind => pure (.ok kind)
  | .error error => pure (.error s!"cannot inspect '{path}': {error}")

/-- What an entry of a directory is. -/
def sidecarEntryType? (dir name : String) : Prog (Except String (Option FileType)) := do
  match ← probeIn dir name with
  | .ok kind => pure (.ok kind)
  | .error error => pure (.error s!"cannot inspect '{dir}/{name}': {error}")

/-- The entries of a sidecar directory that this program would not have written. -/
def unownedEntries (subDir : String) (allowed : List String) :
    List (String × Node) → Prog (List String)
  | [] => pure []
  | (name, _) :: entries => do
    let kind ← sidecarEntryType? subDir name
    let blockers ← unownedEntries subDir allowed entries
    match kind with
    | .error error => pure (error :: blockers)
    | .ok none => pure (s!"{name} (vanished while ownership was checked)" :: blockers)
    | .ok (some kind) =>
      let typeName := sidecarFileTypeName kind
      if !allowed.contains name then pure (s!"{name} ({typeName}; unexpected name)" :: blockers)
      else if kind != .file then pure (s!"{name} ({typeName}; expected a regular file)" :: blockers)
      else pure blockers

/-- A sidecar directory may be replaced only when every entry of it is a regular file with one of
the generated names. -/
def ensureExpectedSidecarDirectory (family subDir : String) (allowed : List String) :
    Prog (Except String Unit) := do
  match ← sidecarPathType? subDir with
  | .error error => pure (.error error)
  | .ok none => pure (.ok ())
  | .ok (some kind) =>
    if kind != .dir then
      let typeName := sidecarFileTypeName kind
      pure (.error (s!"refusing {family} sidecar export: '{subDir}' is a {typeName}, " ++
        "not an owned directory"))
    else
      match ← readDir subDir with
      | .error error =>
        pure (.error s!"cannot inventory {family} sidecar directory '{subDir}': {error}")
      | .ok entries => do
        let blockers ← unownedEntries subDir allowed entries
        if blockers.isEmpty then pure (.ok ())
        else
          let listed := String.intercalate ", " blockers
          pure (.error (s!"refusing {family} sidecar export because '{subDir}' contains " ++
            s!"unowned entries: {listed}"))

/-- The two files of a child session. -/
structure SidecarChildOutput where
  transcriptPath : String
  transcriptText : String
  metadataPath : String
  metadataText : String

/-- The last component of a path. -/
def fileName (path : String) : Option String :=
  let last := String.ofList (path.toList.reverse.takeWhile fun c => c != '/').reverse
  if last.isEmpty || last == "." || last == ".." then none else some last

/-- The name of the transcript in the sidecar directory. -/
def SidecarChildOutput.transcriptName (child : SidecarChildOutput) : String :=
  (fileName child.transcriptPath).getD child.transcriptPath

/-- The name of the metadata in the sidecar directory. -/
def SidecarChildOutput.metadataName (child : SidecarChildOutput) : String :=
  (fileName child.metadataPath).getD child.metadataPath

/-- All names that are written into the sidecar directory. -/
def sidecarOutputNames (children : List SidecarChildOutput) : List String :=
  children.flatMap fun child => [child.transcriptName, child.metadataName]

/-- The four paths a publication uses besides the two it publishes. -/
def sidecarReservedPaths (path subDir : String) : List String := [
  path ++ ".agent-convert-stage",
  subDir ++ ".agent-convert-stage",
  path ++ ".agent-convert-backup",
  subDir ++ ".agent-convert-backup"]

/-- Remove a path that this program created or set aside. -/
def removeOwnedPathChecked (path : String) : Prog (Except String Unit) := do
  match ← sidecarPathType? path with
  | .error error => pure (.error error)
  | .ok none => pure (.ok ())
  | .ok (some _) =>
    match ← remove path with
    | .ok _ => pure (.ok ())
    | .error error => pure (.error s!"cannot remove converter-owned path '{path}': {error}")

/-- Remove several paths. A path that fails does not keep the next one from being tried. -/
def removeOwnedPathsChecked : List String → Prog (List String)
  | [] => pure []
  | path :: paths => do
    let removed ← removeOwnedPathChecked path
    let errors ← removeOwnedPathsChecked paths
    match removed with
    | .ok _ => pure errors
    | .error error => pure (error :: errors)

/-- Rename only where nothing stands at the destination. -/
def renameIntoAbsent (source destination operation : String) : Prog (Except String Unit) := do
  match ← sidecarPathType? destination with
  | .error error => pure (.error s!"{operation}: {error}")
  | .ok (some kind) =>
    let typeName := sidecarFileTypeName kind
    pure (.error s!"{operation}: destination '{destination}' is already a {typeName}")
  | .ok none =>
    match ← rename source destination with
    | .ok _ => pure (.ok ())
    | .error error =>
      pure (.error s!"{operation}: cannot rename '{source}' to '{destination}': {error}")

/-! ### Phases -/

/-- How far a commit has come. -/
inductive SidecarCommitPhase where
  | staged
  | mainHidden
  | originalsQuarantined
  | candidateSidecarsVisible
  | committed
  deriving Repr, DecidableEq

/-- The steps of a rollback. -/
inductive SidecarRollbackPoint where
  | quarantineCandidate
  | restoreSidecars
  | restoreMain
  | cleanupStages
  deriving Repr, DecidableEq

/-- The name of a phase in error texts. -/
def SidecarCommitPhase.name : SidecarCommitPhase → String
  | .staged => "LoomConvert.Cli.SidecarCommitPhase.staged"
  | .mainHidden => "LoomConvert.Cli.SidecarCommitPhase.mainHidden"
  | .originalsQuarantined => "LoomConvert.Cli.SidecarCommitPhase.originalsQuarantined"
  | .candidateSidecarsVisible => "LoomConvert.Cli.SidecarCommitPhase.candidateSidecarsVisible"
  | .committed => "LoomConvert.Cli.SidecarCommitPhase.committed"

/-- The name of a rollback step as messages show it. -/
def SidecarRollbackPoint.name : SidecarRollbackPoint → String
  | .quarantineCandidate => "LoomConvert.Cli.SidecarRollbackPoint.quarantineCandidate"
  | .restoreSidecars => "LoomConvert.Cli.SidecarRollbackPoint.restoreSidecars"
  | .restoreMain => "LoomConvert.Cli.SidecarRollbackPoint.restoreMain"
  | .cleanupStages => "LoomConvert.Cli.SidecarRollbackPoint.cleanupStages"

/-- Failures that a test asks for, besides those of the operations. -/
structure SidecarFaultInjection where
  failCommitAt : Option SidecarCommitPhase := none
  failRollbackAt : Option SidecarRollbackPoint := none
  failPostCommitCleanup : Bool := false

/-- A publication that went through, possibly with warnings. -/
structure SidecarPublishSuccess where
  warnings : List String := []

/-- The failure that a test injects at a phase. -/
def sidecarCommitFault? (fault : SidecarFaultInjection) (phase : SidecarCommitPhase) :
    Option String :=
  let phaseName := phase.name
  if fault.failCommitAt == some phase then some s!"injected commit failure at {phaseName}" else none

/-- The failure that a test injects into a rollback. -/
def sidecarRollbackFault? (fault : SidecarFaultInjection) (point : SidecarRollbackPoint) :
    Option String :=
  let pointName := point.name
  if fault.failRollbackAt == some point then some s!"injected rollback failure at {pointName}"
  else none

/-! ### Rolling back -/

/-- What a rollback achieved. -/
structure SidecarRollbackReport where
  priorOutputsSafe : Bool
  restorationErrors : List String
  cleanupErrors : List String

/-- One step back, with the errors so far; whether it was made. -/
def rollbackStep (fault : SidecarFaultInjection) (point : SidecarRollbackPoint)
    (restore : Prog (Except String Unit)) (errors : List String) : Prog (List String × Bool) :=
  match sidecarRollbackFault? fault point with
  | some error => pure (errors ++ [error], false)
  | none => do
    match ← restore with
    | .ok _ => pure (errors, true)
    | .error error => pure (errors ++ [error], false)

/-- Move the candidate generation out of view before restoring old sidecars. -/
def quarantineCandidate (subDir sidecarStage : String) (phase : SidecarCommitPhase)
    (fault : SidecarFaultInjection) : Prog (List String × Bool) :=
  let candidateWasInstalled := phase == .candidateSidecarsVisible
  if candidateWasInstalled then
    rollbackStep fault .quarantineCandidate
      (renameIntoAbsent subDir sidecarStage "cannot quarantine candidate sidecars") []
  else pure ([], true)

/-- Put the prior sidecars back, unless an earlier step failed. -/
def restoreSidecars (subDir sidecarBackup : String) (hadSidecars : Bool)
    (phase : SidecarCommitPhase) (fault : SidecarFaultInjection) (reached : List String × Bool) :
    Prog (List String × Bool) :=
  let sidecarsWereQuarantined :=
    phase == .originalsQuarantined || phase == .candidateSidecarsVisible
  if reached.2 && sidecarsWereQuarantined && hadSidecars then
    rollbackStep fault .restoreSidecars
      (renameIntoAbsent sidecarBackup subDir "cannot restore prior sidecars") reached.1
  else pure reached

/-- The old main marker is restored only after matching sidecars are ready. -/
def restoreMain (path mainBackup : String) (hadMain : Bool) (phase : SidecarCommitPhase)
    (fault : SidecarFaultInjection) (reached : List String × Bool) : Prog (List String) :=
  let mainWasHidden := phase != .staged
  if mainWasHidden && hadMain then
    if reached.2 then do
      let restored ← rollbackStep fault .restoreMain
        (renameIntoAbsent mainBackup path "cannot restore prior main marker") reached.1
      pure restored.1
    else
      pure (reached.1 ++ ["prior main marker intentionally remains hidden because sidecar " ++
        "restoration is incomplete"])
  else pure reached.1

/-- Remove both stages after a rollback that went through. -/
def cleanupStages (mainStage sidecarStage : String) (fault : SidecarFaultInjection)
    (errors : List String) : Prog (List String) :=
  if errors.isEmpty then
    match sidecarRollbackFault? fault .cleanupStages with
    | some error => pure [error]
    | none => removeOwnedPathsChecked [mainStage, sidecarStage]
  else pure []

/-- Undo what was done up to the phase, the last step first. -/
def rollbackSidecarBundle (path subDir mainStage sidecarStage mainBackup sidecarBackup : String)
    (hadMain hadSidecars : Bool) (phase : SidecarCommitPhase) (fault : SidecarFaultInjection) :
    Prog SidecarRollbackReport := do
  let reached ← quarantineCandidate subDir sidecarStage phase fault
  let reached ← restoreSidecars subDir sidecarBackup hadSidecars phase fault reached
  let errors ← restoreMain path mainBackup hadMain phase fault reached
  let cleanupErrors ← cleanupStages mainStage sidecarStage fault errors
  pure { priorOutputsSafe := errors.isEmpty, restorationErrors := errors, cleanupErrors }

/-- A message with its diagnostics behind it. -/
def appendSidecarDiagnostics (message label : String) (errors : List String) : String :=
  let joined := String.intercalate "; " errors
  if errors.isEmpty then message else s!"{message}; {label}: {joined}"

/-! ### Publishing -/

/-- Which of the reserved paths are taken, by an earlier run that did not end well. -/
def staleReservedPaths : List String → Prog (Except String (List String))
  | [] => pure (.ok [])
  | reservedPath :: paths =>
    andThen (sidecarPathType? reservedPath) fun kind =>
      andThen (staleReservedPaths paths) fun stale =>
        match kind with
        | none => pure (.ok stale)
        | some kind =>
          let typeName := sidecarFileTypeName kind
          pure (.ok (s!"{reservedPath} ({typeName})" :: stale))

/-- Write the two files of each child into the stage. -/
def stageChildren (sidecarStage : String) : List SidecarChildOutput → Prog (Except String Unit)
  | [] => pure (.ok ())
  | child :: children =>
    andThen (writeNewIn sidecarStage child.transcriptName child.transcriptText) fun _ =>
      andThen (writeNewIn sidecarStage child.metadataName child.metadataText) fun _ =>
        stageChildren sidecarStage children

/-- Write the candidate beside the destination.  The first step creates the directories that the
destination is in. -/
def stageBundle (mainStage sidecarStage output : String) (children : List SidecarChildOutput) :
    Prog (Except String Unit) :=
  andThen attempt fun _ =>
    andThen (createDir sidecarStage) fun _ =>
      andThen (writeNew mainStage output) fun _ => stageChildren sidecarStage children

/-- One step of the swap, from one phase to the next.  A failure ends the swap with the phase that
was reached. -/
def commitStep (fault : SidecarFaultInjection) (phase next : SidecarCommitPhase)
    (p : Prog (Except String Unit)) (rest : Prog (SidecarCommitPhase × Except String Unit)) :
    Prog (SidecarCommitPhase × Except String Unit) := do
  match ← p with
  | .error error => pure (phase, .error error)
  | .ok _ =>
    match sidecarCommitFault? fault next with
    | some error => pure (next, .error error)
    | none => rest

/-- Swap the generations.  The result is the last phase that was reached, and the error that
ended the swap before `committed`. -/
def commitBundle (path subDir mainStage sidecarStage mainBackup sidecarBackup : String)
    (hadMain hadSidecars : Bool) (fault : SidecarFaultInjection) :
    Prog (SidecarCommitPhase × Except String Unit) :=
  commitStep fault .staged .mainHidden
    (if hadMain then renameIntoAbsent path mainBackup "cannot hide prior main marker"
      else pure (.ok ())) <|
  commitStep fault .mainHidden .originalsQuarantined
    (if hadSidecars then renameIntoAbsent subDir sidecarBackup "cannot quarantine prior sidecars"
      else pure (.ok ())) <|
  commitStep fault .originalsQuarantined .candidateSidecarsVisible
    (renameIntoAbsent sidecarStage subDir "cannot install candidate sidecars") <| do
  match ← renameIntoAbsent mainStage path "cannot publish candidate main marker" with
  | .error error => pure (.candidateSidecarsVisible, .error error)
  | .ok _ => pure (.committed, .ok ())

/-- The types of the two destinations, if they may be replaced. -/
def preflight (family path subDir : String) (expectedNames : List String) :
    Prog (Except String (Option FileType × Option FileType)) :=
  andThen (sidecarPathType? path) fun initialMainType =>
    match initialMainType with
    | none | some .file =>
      andThen (ensureExpectedSidecarDirectory family subDir expectedNames) fun _ =>
        andThen (sidecarPathType? subDir) fun initialSidecarType =>
          pure (.ok (initialMainType, initialSidecarType))
    | some kind =>
      let typeName := sidecarFileTypeName kind
      pure (.error s!"refusing {family} sidecar export: main output '{path}' is a {typeName}")

/-- Give up before anything was moved: remove the candidate, and say so if that fails. -/
def abandonStage (mainStage sidecarStage message : String) :
    Prog (Except String SidecarPublishSuccess) := do
  let cleanupErrors ← removeOwnedPathsChecked [mainStage, sidecarStage]
  pure (.error (appendSidecarDiagnostics message "converter-owned staging cleanup failed"
    cleanupErrors))

/-- Look at the destinations once more; an error is the text to give up with. -/
def recheck (family path subDir : String) (expectedNames : List String)
    (initialMainType initialSidecarType : Option FileType) : Prog (Except String Unit) := do
  match ← ensureExpectedSidecarDirectory family subDir expectedNames with
  | .error error =>
    pure (.error (s!"refusing {family} publication because sidecar ownership changed before " ++
      s!"commit: {error}"))
  | .ok _ =>
    andThen (sidecarPathType? path) fun currentMainType =>
      andThen (sidecarPathType? subDir) fun currentSidecarType =>
        if currentMainType != initialMainType || currentSidecarType != initialSidecarType then
          pure (.error (s!"refusing {family} publication because destination presence/type " ++
            "changed before commit"))
        else pure (.ok ())

/-- Remove both backups after the commit. -/
def cleanupBackups (mainBackup sidecarBackup : String) (fault : SidecarFaultInjection) :
    Prog (List String) :=
  if fault.failPostCommitCleanup then pure ["injected post-commit backup cleanup failure"]
  else removeOwnedPathsChecked [mainBackup, sidecarBackup]

/-- What is said after a swap: the backups are removed, or the steps are undone. -/
def finishBundle (family path subDir mainStage sidecarStage mainBackup sidecarBackup : String)
    (reserved : List String) (hadMain hadSidecars : Bool) (fault : SidecarFaultInjection) :
    SidecarCommitPhase × Except String Unit → Prog (Except String SidecarPublishSuccess)
  | (_, .ok _) => do
    let cleanupErrors ← cleanupBackups mainBackup sidecarBackup fault
    let joined := String.intercalate "; " cleanupErrors
    let warnings := if cleanupErrors.isEmpty then [] else [
      s!"{family} sidecar publication succeeded with a matching main/sidecar generation, but " ++
        "prior backup cleanup was not completed; backup paths remain or require inspection: " ++
        joined]
    pure (.ok { warnings })
  | (phase, .error commitError) => do
    let report ← rollbackSidecarBundle path subDir mainStage sidecarStage mainBackup sidecarBackup
      hadMain hadSidecars phase fault
    let recoveryPaths := String.intercalate ", " reserved
    let phaseName := phase.name
    if report.priorOutputsSafe then
      let preservation :=
        if phase == .staged then "prior outputs were not mutated" else "prior outputs were restored"
      pure (.error (appendSidecarDiagnostics
        (s!"cannot commit {family} sidecar export at {phaseName}: {commitError}; " ++
          preservation)
        "converter-owned staging cleanup failed" report.cleanupErrors))
    else
      let joined := String.intercalate "; " report.restorationErrors
      pure (.error (s!"cannot commit {family} sidecar export at {phaseName}: {commitError}; " ++
        s!"rollback incomplete: {joined}; no candidate main marker was published by this " ++
        s!"invocation, and recovery paths were preserved for inspection: {recoveryPaths}"))

/-- Publish a main file and its sidecar directory. -/
def writeSidecarBundle (family path output subDir : String) (children : List SidecarChildOutput)
    (fault : SidecarFaultInjection) : Prog (Except String SidecarPublishSuccess) :=
  let mainStage := path ++ ".agent-convert-stage"
  let sidecarStage := subDir ++ ".agent-convert-stage"
  let mainBackup := path ++ ".agent-convert-backup"
  let sidecarBackup := subDir ++ ".agent-convert-backup"
  let reserved := sidecarReservedPaths path subDir
  let expectedNames := sidecarOutputNames children
  andThen (staleReservedPaths reserved) fun stale =>
  if !stale.isEmpty then
    let listed := String.intercalate ", " stale
    pure (.error (s!"refusing {family} sidecar export: stale converter stage/backup state " ++
      s!"exists and will not be recovered or deleted automatically: {listed}"))
  else
  andThen (preflight family path subDir expectedNames) fun initialTypes => do
  match ← stageBundle mainStage sidecarStage output children with
  | .error error =>
    abandonStage mainStage sidecarStage s!"cannot stage {family} sidecar export: {error}"
  | .ok _ =>
  match ← recheck family path subDir expectedNames initialTypes.1 initialTypes.2 with
  | .error error => abandonStage mainStage sidecarStage error
  | .ok _ => do
    let hadMain := initialTypes.1.isSome
    let hadSidecars := initialTypes.2.isSome
    let outcome ← commitBundle path subDir mainStage sidecarStage mainBackup sidecarBackup hadMain
      hadSidecars fault
    finishBundle family path subDir mainStage sidecarStage mainBackup sidecarBackup reserved
      hadMain hadSidecars fault outcome

end AgentConvert.Cli
