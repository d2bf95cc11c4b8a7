import FormMigrate.CommandLine.Usage
import FormMigrate.Invocation
import FormMigrate.Text.Blank
import FormMigrate.Text.Case

/-! What a command line asks for, from its arguments. -/

namespace FormMigrate

/-- Why a command line is refused. -/
inductive CommandLineError where
  | flag (e : FlagError)
  | tooManyRoots (count : Nat)
  | focus (e : UnknownFocus)
  | invocation (e : InvocationError)
  deriving DecidableEq, Repr

namespace CommandLineError

/-- The wording of a refusal. -/
def message : CommandLineError → Bytes
  | .flag e => e.message
  | .tooManyRoots count =>
      "expected at most one PROJECT_ROOT, got " ++ Bytes.ofNat count ++ " arguments"
  | .focus e => e.message
  | .invocation e => e.toFailure.message

/-- What a refusal prints: a wrong flag is followed by the usage. -/
def output : CommandLineError → Bytes
  | .flag e => e.message ++ [0x0a] ++ Usage.text
  | _ => []

/-- A refusal as a failure with status two. -/
def toFailure (e : CommandLineError) : ProgramFailure := .exit 2 e.message

end CommandLineError

/-- What a command line asks for. -/
inductive Request where
  | help
  | run (invocation : Invocation)
  deriving DecidableEq, Repr

namespace Request

/-- The focus tokens of a flag, all of which have to be known. -/
def focusOf (value : Option Bytes) : Except UnknownFocus (Option (List Bytes)) :=
  match value with
  | none => .ok none
  | some value => do
      let tokens := Focus.parse value
      Focus.validate tokens
      return if tokens.isEmpty then none else some tokens

/-- The invocation of flag values and a project root beside them, before it is accepted. -/
def invocation (values : FlagValues) (operand : Bytes) (focus : Option (List Bytes))
    : Invocation where
  root := if values.root.isEmpty then operand else values.root
  config := values.config
  views := values.views
  extension := values.extension
  focus
  samples := values.samples
  apply := values.apply
  verbose := values.verbose
  watch := values.watch
  noColor := values.noColor
  rollback := Bytes.trim values.rollback
  logFormat := Bytes.lower values.logFormat
  logLevel := Bytes.lower values.logLevel

/-- The request of flag values and the arguments after the flags. -/
def ofValues (values : FlagValues) (operands : List Bytes) : Except CommandLineError Request := do
  if 1 < operands.length then .error (.tooManyRoots operands.length)
  else
    let focus ← (focusOf values.focus).mapError .focus
    let accepted ←
      ((invocation values (operands.headD []) focus).accept).mapError .invocation
    return .run accepted

/-- The request of a command line. -/
def parse (arguments : List Bytes) : Except CommandLineError Request :=
  match Flag.read arguments with
  | .error .help => .ok .help
  | .error (.error e) => .error (.flag e)
  | .ok (values, operands) => ofValues values operands

/-- What a request prints by itself. -/
def output : Request → Bytes
  | .help => Usage.text
  | .run _ => []

end Request

end FormMigrate
