import FormMigrate.File.Path
import FormMigrate.Text.Quoted

/-! Settings: what a configuration file can change about a run. -/

namespace FormMigrate

/-- The settings of a run. Relative paths start at the project root. -/
structure Settings where
  viewsDir : Bytes := "resources/views"
  extension : Bytes := ".blade.php"
  /-- The focus tokens; a file may list none at all. -/
  focus : Option (List Bytes) := none
  backupSuffix : Bytes := ".bak"
  manifestDir : Bytes := "."
  ambiguousLog : Bytes := "ambiguous.log"
  sampleDiffs : Int := 5
  diffLines : Int := 6
  deriving DecidableEq, Repr

/-- A setting that no run can work with. -/
inductive SettingProblem where
  | emptyViewsDir
  | emptyExtension
  | backupSuffix (suffix : Bytes)
  | emptyAmbiguousLog
  | negativeSamples (count : Int)
  | noDiffLines (count : Int)
  | focusToken (token : Bytes)
  deriving DecidableEq, Repr

/-- The wording of a problem. -/
def SettingProblem.message : SettingProblem → Bytes
  | .emptyViewsDir => "views_dir must not be empty"
  | .emptyExtension => "extension must not be empty"
  | .backupSuffix suffix =>
      "backup_suffix " ++ Quoted.text suffix ++ " must be a non-empty file name suffix"
  | .emptyAmbiguousLog => "ambiguous_log must not be empty"
  | .negativeSamples count => "sample_diffs must not be negative, got " ++ Bytes.ofInt count
  | .noDiffLines count => "diff_lines must be at least 1, got " ++ Bytes.ofInt count
  | .focusToken token => "focus token " ++ Quoted.text token ++ " must be a single word"

namespace Settings

/-- The focus tokens, none when they are not set. -/
def tokens (settings : Settings) : List Bytes := settings.focus.getD []

/-- A word of ASCII letters and underscores. -/
def isWord (token : Bytes) : Bool :=
  !token.isEmpty && token.all fun c => c.isLetter || c == 0x5f

/-- A text that can end a file name. -/
def isSuffix (suffix : Bytes) : Bool :=
  !suffix.isEmpty && suffix.all fun c => c != 0x2f && c != 0x5c

/-- Every problem of the settings, in the order of the fields. -/
def problems (settings : Settings) : List SettingProblem :=
  (if settings.viewsDir.isEmpty then [.emptyViewsDir] else [])
    ++ (if settings.extension.isEmpty then [.emptyExtension] else [])
    ++ (if isSuffix settings.backupSuffix then [] else [.backupSuffix settings.backupSuffix])
    ++ (if settings.ambiguousLog.isEmpty then [.emptyAmbiguousLog] else [])
    ++ (if settings.sampleDiffs < 0 then [.negativeSamples settings.sampleDiffs] else [])
    ++ (if settings.diffLines < 1 then [.noDiffLines settings.diffLines] else [])
    ++ (settings.tokens.filter fun token => !isWord token).map .focusToken

/-- The wording of all problems, one a line. -/
def problemText (settings : Settings) : Bytes :=
  Bytes.join [0x0a] (settings.problems.map SettingProblem.message)

/-- A path as seen from the project root; an empty one stays empty. -/
def locate (root path : Bytes) : Bytes := if path.isEmpty then path else Path.under root path

/-- The settings with relative paths seen from the project root. An empty list of tokens is no list
any more.
-/
def resolve (settings : Settings) (root : Bytes) : Settings :=
  { settings with
    viewsDir := locate root settings.viewsDir
    manifestDir := locate root settings.manifestDir
    ambiguousLog := locate root settings.ambiguousLog
    focus := settings.focus.filter fun tokens => !tokens.isEmpty }

end Settings

end FormMigrate
