import FormMigrate.App.Session
import FormMigrate.ConfigFile
import FormMigrate.Invocation
import FormMigrate.Report.Console

/-! The program before it runs: an invocation with its settings and its rules. -/

namespace FormMigrate

/-- A program that is ready to run. -/
structure App where
  invocation : Invocation
  /-- The settings, with paths seen from the project root. -/
  settings : Settings
  rules : List Rule

namespace App

/-- The report of a program. -/
def console (app : App) : Console :=
  .ofSettings app.invocation.verbose (!app.invocation.noColor) app.settings.sampleDiffs
    app.settings.diffLines (Path.base app.settings.ambiguousLog)

variable {m : Type → Type} [Monad m]

open Session

/-- The failure behind a failed configuration. -/
def invalid (failure : ProgramFailure) : ProgramFailure := .invalid failure.message

/-- The settings of a file. -/
def readFile (workspace : Workspace m) (environment : Environment) (path root : Bytes)
    (decoder : ConfigDecoder := ConfigFile.decode) : Session m Settings := do
  match ConfigFile.formatOf? path with
  | none => throw (.invalid ("unsupported config file type " ++ Quoted.text path))
  | some format =>
      note .debug (format.name ++ " loader started.") [("path", .text path)]
      match ← access (ConfigFile.load workspace format path root environment decoder) with
      | .error e => throw (invalid e.toFailure)
      | .ok settings =>
          note .debug (format.name ++ " loading complete.")
            [("path", .text path), ("views_dir", .text settings.viewsDir)]
          note .debug "Config file loaded." [("path", .text path)]
          return settings

/-- The settings before the invocation overrides them: those of a file, or the defaults. -/
def fileSettings (workspace : Workspace m) (environment : Environment) (root asked : Bytes)
    (decoder : ConfigDecoder := ConfigFile.decode) : Session m Settings := do
  match ← access (ConfigFile.discover workspace root asked) with
  | .error fault => throw (.invalid ("config file: " ++ fault.message))
  | .ok (some path) => readFile workspace environment path root decoder
  | .ok none =>
      note .debug "No config file found, using defaults." [("root", .text root)]
      return {}

/-- The settings of an invocation, all of them valid. -/
def loadSettings (workspace : Workspace m) (environment : Environment) (invocation : Invocation)
    (decoder : ConfigDecoder := ConfigFile.decode) : Session m Settings := do
  let root := Path.absolute workspace.workingDirectory invocation.root
  let settings := invocation.override
    (← fileSettings workspace environment root invocation.config decoder)
  if !settings.problems.isEmpty then throw (.invalid settings.problemText)
  match Focus.validate settings.tokens with
  | .error e => throw (.invalid e.message)
  | .ok () => return settings.resolve root

/-- The program of an invocation. -/
def create (workspace : Workspace m) (environment : Environment) (invocation : Invocation)
    (decoder : ConfigDecoder := ConfigFile.decode) : Session m App := do
  note .debug "Logger configured successfully."
  let settings ← loadSettings workspace environment invocation decoder
  note .debug "Settings resolved." [
    ("views_dir", .text settings.viewsDir),
    ("extension", .text settings.extension),
    ("focus", .texts settings.focus)]
  match Registry.builtIn.select settings.tokens with
  | .error e => throw (.invalid e.message)
  | .ok rules =>
      note .debug "Rules selected." [("count", .count rules.length)]
      return { invocation, settings, rules }

end App

end FormMigrate
