import FormMigrate.Ambiguity.Encoding
import FormMigrate.App.Basic
import FormMigrate.CommandLine.Request

/-! The program at work: previews, applied runs, rollbacks and watching. -/

namespace FormMigrate.App

open Session

variable {m : Type → Type} [Monad m]

/-- The journal entry of what happened to a file. -/
def eventEntry : RunEvent → LogEntry
  | .unchanged path ambiguous =>
      ⟨.debug, "File unchanged.", [("path", .text path), ("ambiguous", .count ambiguous)]⟩
  | .replaced path backup =>
      ⟨.debug, "File rewritten.", [("path", .text path), ("backup", .text backup)]⟩

/-- The totals of a run as attributes. -/
def totals (result : RunResult) : List (Bytes × LogValue) := [
  ("scanned", .count result.files.length),
  ("changed", .count result.changed.length),
  ("ambiguous", .count result.ambiguous.size)]

/-- The templates of a program. -/
def templates (workspace : Workspace m) (app : App) : Session m (List Bytes) := do
  note .debug "Resolving template path." [("path", .text app.settings.viewsDir)]
  note .debug "Path is a directory, scanning for templates." [
    ("directory", .text app.settings.viewsDir), ("extension", .text app.settings.extension)]
  match ← access (Templates.resolve workspace app.settings.viewsDir app.settings.extension) with
  | .ok files => return files
  | .error e => throw ((ProgramFailure.ofTemplates e).wrap "failed to list templates")

/-- How a program runs over its templates. -/
def runOptions (app : App) (timestamp : Bytes) : RunOptions where
  rules := app.rules
  apply := app.invocation.apply
  backupSuffix := app.settings.backupSuffix
  timestamp

/-- Runs the rules over templates. The result counts even if the run stopped early. -/
def convert (workspace : Workspace m) (app : App) (timestamp : Bytes) (files : List Bytes)
    : Session m (RunResult × Option ProgramFailure) := do
  note .debug "Engine run started." [
    ("files", .count files.length),
    ("rules", .count app.rules.length),
    ("apply", .bool app.invocation.apply)]
  let (result, stopped) ←
    access (Migration.run workspace.store (app.runOptions timestamp) files)
  noteAll (result.events.map eventEntry)
  if stopped.isNone then note .debug "Engine run finished." (totals result)
  return (result, stopped.map ProgramFailure.ofRun)

/-- Ends a session with a failure, together with the one that stopped the run, if any. -/
def fail {α : Type} (stopped : Option ProgramFailure) (failure : ProgramFailure) : Session m α :=
  match stopped with
  | some first => throw (first.both failure)
  | none => throw failure

/-- Writes the ambiguity log of a run. -/
def writeLog (workspace : Workspace m) (app : App) (result : RunResult)
    (stopped : Option ProgramFailure) : Session m Unit := do
  match ← access (workspace.replace app.settings.ambiguousLog result.ambiguous.encode) with
  | .ok () => return
  | .error fault =>
      fail stopped ((ProgramFailure.ofFault fault).wrap "failed to write ambiguous log")

/-- The manifest of an applied run. -/
def manifestOf (app : App) (timestamp : Bytes) (result : RunResult) : Manifest where
  timestamp
  files := some (result.changed.map fun change => ⟨change.path, change.backup⟩)
  apply := true
  focus := Bytes.join "," app.settings.tokens

/-- Writes the manifest of an applied run. -/
def writeManifest (workspace : Workspace m) (app : App) (timestamp : Bytes) (result : RunResult)
    (stopped : Option ProgramFailure) : Session m Unit := do
  let manifest := app.manifestOf timestamp result
  match ← access (Manifest.write workspace app.settings.manifestDir manifest) with
  | .error e => fail stopped (.ofManifest e)
  | .ok path =>
      note .debug "Manifest written." [
        ("path", .text path), ("files", .count result.changed.length)]
      tell (app.console.manifestWritten path)

/-- Runs the rules over the templates once. The ambiguity log and, for an applied run, the manifest
are written even if the run stopped early, so that what was replaced can be rolled back.
-/
def migrate (workspace : Workspace m) (app : App) (timestamp : Bytes) : Session m Unit := do
  match ← access (workspace.kind app.settings.viewsDir) with
  | .ok .directory =>
      let apply := app.invocation.apply
      tell (app.console.banner app.settings.viewsDir apply)
      let files ← templates workspace app
      if files.isEmpty then tell (Console.noFiles app.settings.viewsDir app.settings.extension)
      else
        note .info "Templates found." [("count", .count files.length)]
        let (result, stopped) ← convert workspace app timestamp files
        tell (app.console.files result apply)
        writeLog workspace app result stopped
        if apply then writeManifest workspace app timestamp result stopped
        match stopped with
        | some failure => throw failure
        | none =>
            tell (app.console.summary result)
            tell (app.console.samplesReport result apply)
            note .info "Migration pass finished." (totals result)
  | _ =>
      throw (.noTarget
        ("views directory not found at expected path: " ++ app.settings.viewsDir))

/-- The journal entry of what became of a restored file. -/
def restorationEntry (outcome : Restoration) : LogEntry :=
  let names : List (Bytes × LogValue) :=
    [("file", .text outcome.entry.file), ("bak", .text outcome.entry.backup)]
  match outcome.error with
  | none => ⟨.debug, "File restored.", names⟩
  | some .missingBackup => ⟨.warn, "Backup missing, skipping.", names⟩
  | some (.copy fault) =>
      ⟨.warn, "Restore failed.", names.concat ("error", .failure (some fault.message))⟩

/-- Rolls back the run that the invocation names. -/
def rollback (workspace : Workspace m) (app : App) : Session m Unit := do
  match ← access (Manifest.resolve workspace app.settings.manifestDir app.invocation.rollback) with
  | .error e => throw (.ofManifest e)
  | .ok path =>
      match ← access (Rollback.run workspace path) with
      | .error e => throw (.ofManifest e)
      | .ok result =>
          noteAll (result.outcomes.map restorationEntry)
          tell (app.console.rollback result.manifest result.restored
            (result.failed.map fun (entry, e) => Restoration.message entry e))

/-- The line that announces watching. -/
def watchingLine : Bytes := "Watching for changes. Press Ctrl+C to stop.\n"

/-- Previews once and then watches the templates; this is all that happens until one changes. -/
def watch (workspace : Workspace m) (app : App) (timestamp : Bytes) : Session m Unit := do
  migrate workspace app timestamp
  tell watchingLine
  note .debug "Watching for template changes." [
    ("root", .text app.settings.viewsDir), ("extension", .text app.settings.extension)]

/-- The mode that the invocation selects. -/
def mode (workspace : Workspace m) (app : App) (timestamp : Bytes) : Session m Unit :=
  if !app.invocation.rollback.isEmpty then rollback workspace app
  else if app.invocation.watch then watch workspace app timestamp
  else migrate workspace app timestamp

/-- Notes how a run ended and passes its failure on. -/
def finish (outcome : Except ProgramFailure Unit) : Session m Unit := do
  match outcome with
  | .ok () => note .debug "App.Run method finished." [("error", .failure none)]
  | .error failure =>
      note .debug "App.Run method finished." [("error", .failure (some failure.message))]
      throw failure

/-- Runs the program in the mode that the invocation selects. -/
def run (workspace : Workspace m) (app : App) (timestamp : Bytes) : Session m Unit := do
  note .debug "App.Run method started." [
    ("apply", .bool app.invocation.apply),
    ("watch", .bool app.invocation.watch),
    ("rollback", .text app.invocation.rollback)]
  finish (← ExceptT.lift (ExceptT.run (mode workspace app timestamp)))

/-- Prepares and runs the program of an invocation. -/
def serve (workspace : Workspace m) (environment : Environment) (timestamp : Bytes)
    (invocation : Invocation) (decoder : ConfigDecoder := ConfigFile.decode) : Session m Unit := do
  run workspace (← create workspace environment invocation decoder) timestamp

/-- The whole program: from arguments to what it tells and how it ends. -/
def execute (workspace : Workspace m) (environment : Environment) (timestamp : Bytes)
    (arguments : List Bytes) (decoder : ConfigDecoder := ConfigFile.decode) : Session m Unit := do
  match Request.parse arguments with
  | .error e =>
      tell e.output
      throw e.toFailure
  | .ok .help => tell Request.help.output
  | .ok (.run invocation) => serve workspace environment timestamp invocation decoder

end FormMigrate.App
