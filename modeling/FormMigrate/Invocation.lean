import FormMigrate.ProgramFailure
import FormMigrate.Settings

/-! Invocations: what one start of the program asks for. -/

namespace FormMigrate

/-- What a command line asks for. An empty text means that nothing was asked. -/
structure Invocation where
  /-- The project root. -/
  root : Bytes := []
  /-- The configuration file, looked for in the root when empty. -/
  config : Bytes := []
  views : Bytes := []
  extension : Bytes := []
  /-- The focus tokens, never an empty list. -/
  focus : Option (List Bytes) := none
  samples : Option Int := none
  apply : Bool := false
  verbose : Bool := false
  watch : Bool := false
  noColor : Bool := false
  /-- The manifest to roll back. -/
  rollback : Bytes := []
  logFormat : Bytes := []
  logLevel : Bytes := []
  deriving DecidableEq, Repr

/-- Why an invocation is refused. -/
inductive InvocationError where
  | logFormat (format : Bytes)
  | logLevel (level : Bytes)
  | watchAndApply
  | rollbackAndOther
  | negativeSamples
  deriving DecidableEq, Repr

namespace InvocationError

/-- The reason of a refusal. -/
def reason : InvocationError → Bytes
  | .logFormat format => "log-format must be 'text' or 'json', got " ++ Quoted.text format
  | .logLevel level =>
      "log-level must be 'debug', 'info', 'warn', or 'error', got " ++ Quoted.text level
  | .watchAndApply => "-watch only runs previews and cannot be combined with -apply"
  | .rollbackAndOther => "-rollback cannot be combined with -apply or -watch"
  | .negativeSamples => "-samples must not be negative"

/-- A refusal as a failure. -/
def toFailure (e : InvocationError) : ProgramFailure := .invalid e.reason

end InvocationError

namespace Invocation

/-- The log formats; an empty text selects the first. -/
def logFormats : List Bytes := ["text", "json"]

/-- The log levels; an empty text selects warnings. -/
def logLevels : List Bytes := ["debug", "info", "warn", "error"]

/-- The first reason to refuse an invocation. -/
def refusal? (invocation : Invocation) : Option InvocationError :=
  if !invocation.logFormat.isEmpty && !logFormats.contains invocation.logFormat then
    some (.logFormat invocation.logFormat)
  else if !invocation.logLevel.isEmpty && !logLevels.contains invocation.logLevel then
    some (.logLevel invocation.logLevel)
  else if invocation.watch && invocation.apply then some .watchAndApply
  else if !invocation.rollback.isEmpty && (invocation.apply || invocation.watch) then
    some .rollbackAndOther
  else if invocation.samples.any (· < 0) then some .negativeSamples
  else none

/-- The accepted invocation, whose root defaults to the current directory. -/
def accept (invocation : Invocation) : Except InvocationError Invocation :=
  match invocation.refusal? with
  | some e => .error e
  | none =>
      .ok { invocation with root := if invocation.root.isEmpty then Path.here else invocation.root }

/-- The settings of a file with what the invocation asks for in their place. -/
def override (invocation : Invocation) (settings : Settings) : Settings :=
  { settings with
    viewsDir := if invocation.views.isEmpty then settings.viewsDir else invocation.views
    extension := if invocation.extension.isEmpty then settings.extension else invocation.extension
    focus := invocation.focus <|> settings.focus
    sampleDiffs := invocation.samples.getD settings.sampleDiffs }

end Invocation

end FormMigrate
