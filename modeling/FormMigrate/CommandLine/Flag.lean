import FormMigrate.Number.Integer
import FormMigrate.Text.Quoted

/-! Command-line flags: their table and how arguments set them. -/

namespace FormMigrate

/-- The values of all flags. -/
structure FlagValues where
  apply : Bool := false
  config : Bytes := []
  extension : Bytes := []
  focus : Option Bytes := none
  logFormat : Bytes := "text"
  logLevel : Bytes := "warn"
  noColor : Bool := false
  rollback : Bytes := []
  root : Bytes := []
  samples : Option Int := none
  verbose : Bool := false
  views : Bytes := []
  watch : Bool := false
  deriving DecidableEq, Repr

/-- What kind of value a flag takes and how it is kept. -/
inductive FlagKind where
  | switch (set : FlagValues → Bool → FlagValues)
  | text (set : FlagValues → Bytes → FlagValues)
  | count (set : FlagValues → Int → FlagValues)

/-- A flag with its help. -/
structure Flag where
  name : Bytes
  kind : FlagKind
  help : Bytes
  /-- The default that the help names, empty for none. -/
  preset : Bytes := []

/-- The flags in increasing order of their names. -/
def flags : List Flag := [
  { name := "apply", kind := .switch fun v b => { v with apply := b },
    help := "Write changes, creating backups and a manifest." },
  { name := "config", kind := .text fun v s => { v with config := s },
    help := "Config file (.hcl, .yaml or .yml), relative to the root unless absolute. "
      ++ "Default: htmlmigrate.\x7bhcl,yaml,yml\x7d in the root." },
  { name := "ext", kind := .text fun v s => { v with extension := s },
    help := "Template file extension. Default '.blade.php'." },
  { name := "focus", kind := .text fun v s => { v with focus := some s },
    help := "Comma-separated focus tokens limiting which constructs are converted." },
  { name := "log-format", kind := .text fun v s => { v with logFormat := s },
    help := "Log output format. Options: 'text' or 'json'.", preset := "\"text\"" },
  { name := "log-level", kind := .text fun v s => { v with logLevel := s },
    help := "Set the logging level. Options: 'debug', 'info', 'warn', 'error'.",
    preset := "\"warn\"" },
  { name := "no-color", kind := .switch fun v b => { v with noColor := b },
    help := "Disable colored output." },
  { name := "rollback", kind := .text fun v s => { v with rollback := s },
    help := "Restore backups from a manifest: 'latest' or a manifest file." },
  { name := "root", kind := .text fun v s => { v with root := s },
    help := "Project root. Overrides PROJECT_ROOT." },
  { name := "samples", kind := .count fun v n => { v with samples := some n },
    help := "Number of sample diffs shown in preview mode.", preset := "5" },
  { name := "verbose", kind := .switch fun v b => { v with verbose := b },
    help := "List every scanned file." },
  { name := "views", kind := .text fun v s => { v with views := s },
    help := "Template directory, relative to the root unless absolute. "
      ++ "Default 'resources/views'." },
  { name := "watch", kind := .switch fun v b => { v with watch := b },
    help := "Re-run the preview whenever a template changes." }]

/-- Why arguments are refused. -/
inductive FlagError where
  | badSyntax (argument : Bytes)
  | undefined (name : Bytes)
  | missingValue (name : Bytes)
  | badSwitch (name value : Bytes)
  | badCount (name value : Bytes) (fault : Numeral.WordError)
  deriving DecidableEq, Repr

/-- The wording of a refusal. -/
def FlagError.message : FlagError → Bytes
  | .badSyntax argument => "bad flag syntax: " ++ argument
  | .undefined name => "flag provided but not defined: -" ++ name
  | .missingValue name => "flag needs an argument: -" ++ name
  | .badSwitch name value =>
      "invalid boolean value " ++ Quoted.text value ++ " for -" ++ name ++ ": parse error"
  | .badCount name value fault =>
      "invalid value " ++ Quoted.text value ++ " for flag -" ++ name ++ ": "
        ++ match fault with
          | .malformed => "parse error"
          | .overflow => "value out of range"

/-- Why reading arguments stops early: help was asked for, or an argument is wrong. -/
inductive FlagStop where
  | help
  | error (e : FlagError)
  deriving DecidableEq, Repr

namespace Flag

/-- The texts that mean true. -/
def trueTexts : List Bytes := ["1", "t", "T", "TRUE", "true", "True"]

/-- The texts that mean false. -/
def falseTexts : List Bytes := ["0", "f", "F", "FALSE", "false", "False"]

/-- The value of a switch. -/
def switchValue? (value : Bytes) : Option Bool :=
  if trueTexts.contains value then some true
  else if falseTexts.contains value then some false
  else none

/-- What an argument is. -/
inductive Argument where
  | operand
  | terminator
  | malformed
  | flag (name : Bytes) (value : Option Bytes)
  deriving DecidableEq, Repr

/-- The name in a flag argument and the value after its equals sign, which is never its first
character.
-/
def nameAndValue : Bytes → Bytes × Option Bytes
  | [] => ([], none)
  | c :: rest =>
      match Bytes.cut? 0x3d rest with
      | some (before, after) => (c :: before, some after)
      | none => (c :: rest, none)

/-- The flag that a text without its dashes spells. -/
def ofBody (body : Bytes) : Argument :=
  match body.head? with
  | none => .malformed
  | some c =>
      if c == 0x2d || c == 0x3d then .malformed
      else .flag (nameAndValue body).1 (nameAndValue body).2

/-- The kind of an argument. One or two dashes open a flag, and a lone dash does not. -/
def classify : Bytes → Argument
  | [0x2d, 0x2d] => .terminator
  | 0x2d :: 0x2d :: body => ofBody body
  | 0x2d :: c :: body => ofBody (c :: body)
  | _ => .operand

/-- The values after a flag that takes a value was given one. -/
def assign (flag : Flag) (values : FlagValues) (value : Bytes) : Except FlagStop FlagValues :=
  match flag.kind with
  | .switch set =>
      match switchValue? value with
      | some b => .ok (set values b)
      | none => .error (.error (.badSwitch flag.name value))
  | .text set => .ok (set values value)
  | .count set =>
      match Integer.read value with
      | .ok n => .ok (set values n)
      | .error fault => .error (.error (.badCount flag.name value fault))

/-- Whether a flag is true when it is merely named. -/
def isSwitch (flag : Flag) : Bool :=
  match flag.kind with
  | .switch _ => true
  | _ => false

/-- The flag of a name. Asking for help stops the reading even though no flag has the name. -/
def named (name : Bytes) : Except FlagStop Flag :=
  match flags.find? fun flag => flag.name == name with
  | some flag => .ok flag
  | none =>
      if name == Bytes.ofString "help" || name == Bytes.ofString "h" then .error .help
      else .error (.error (.undefined name))

/-- Reads flags from the front of the arguments. The rest starts at the first argument that is no
flag, or after two dashes.
-/
def readFrom : (values : FlagValues) → List Bytes → Except FlagStop (FlagValues × List Bytes)
  | values, [] => .ok (values, [])
  | values, argument :: rest =>
      match classify argument with
      | .operand => .ok (values, argument :: rest)
      | .terminator => .ok (values, rest)
      | .malformed => .error (.error (.badSyntax argument))
      | .flag name value => do
          let flag ← named name
          match value with
          | some value => readFrom (← flag.assign values value) rest
          | none =>
              if flag.isSwitch then readFrom (← flag.assign values "true") rest
              else
                match rest with
                | [] => .error (.error (.missingValue name))
                | value :: rest => readFrom (← flag.assign values value) rest

/-- The flags of a command line and the arguments after them. -/
def read (arguments : List Bytes) : Except FlagStop (FlagValues × List Bytes) :=
  readFrom {} arguments

end Flag

end FormMigrate
