import FormMigrate.CommandLine.Flag
import FormMigrate.Focus

/-! The usage text of the command line. -/

namespace FormMigrate.Usage

/-- What stands above the list of flags. -/
def preamble : Bytes :=
  "
htmlmigrate - Rewrites Laravel Collective Form:: calls in Blade templates
to the spatie/laravel-html html() builder.

Usage:
  htmlmigrate [options] [PROJECT_ROOT]

Arguments:
  PROJECT_ROOT
    Project root holding resources/views. Defaults to the current directory.

Without -apply the run is a preview: nothing but the ambiguity log is written.

Focus tokens: " ++ Bytes.join ", " Focus.tokens ++ "

Options:
"

/-- The kind of value that a flag takes, as the usage names it after a blank. -/
def operand (kind : FlagKind) : Bytes :=
  match kind with
  | .switch _ => []
  | .text _ => " string"
  | .count _ => " int"

/-- The default of a flag, as the usage names it after a blank. -/
def preset (flag : Flag) : Bytes :=
  if flag.preset.isEmpty then [] else " (default " ++ flag.preset ++ ")"

/-- The two lines on a flag. -/
def entry (flag : Flag) : Bytes :=
  "  -" ++ flag.name ++ operand flag.kind ++ "\n    \t" ++ flag.help ++ preset flag ++ "\n"

/-- The usage text. -/
def text : Bytes := preamble ++ flags.flatMap entry

end FormMigrate.Usage
