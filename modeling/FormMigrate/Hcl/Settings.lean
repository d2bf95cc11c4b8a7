import FormMigrate.Environment
import FormMigrate.Hcl.Evaluation
import FormMigrate.Hcl.Reader
import FormMigrate.Number.Word
import FormMigrate.Settings

/-! Settings from attribute files. -/

namespace FormMigrate.Hcl

/-- Why a file gives no settings: it is no attribute file, or its attributes are no settings. -/
inductive LoadError where
  | syntactic
  | semantic
  deriving DecidableEq, Repr

/-- What expressions may use: the project root and the environment. -/
def scope (root : Bytes) (environment : Environment) : Scope := [
  ("root", .ofText root),
  ("env", .map .text (Value.sorted (environment.entries.map fun entry =>
    (entry.1.normal, .ofText entry.2))))]

/-- A text setting after an attribute; null leaves it as it is. -/
def textSetting? (current : Bytes) (value : Value) : Option Bytes :=
  match value.convert? .text with
  | some (.null _) => some current
  | some (.text s) => some s
  | _ => none

/-- A number setting after an attribute, a word; null leaves it as it is. -/
def numberSetting? (current : Int) (value : Value) : Option Int :=
  match value.convert? .number with
  | some (.null _) => some current
  | some (.number n) => (n.toInt? 64).bind fun i => if Word.holds i then some i else none
  | _ => none

/-- The text of a value that is one. -/
def textOf? : Value → Option Bytes
  | .text s => some s
  | _ => none

/-- The focus tokens after an attribute; null sets none. -/
def focusSetting? (value : Value) : Option (Option (List Bytes)) :=
  match value.convert? (.list .text) with
  | some (.null _) => some none
  | some (.list _ elements) => (elements.mapM textOf?).map some
  | _ => none

/-- The settings after an attribute. Every attribute has to be a setting. -/
def set? (settings : Settings) (name : Bytes) (value : Value) : Option Settings :=
  if name == Bytes.ofString "views_dir" then
    (textSetting? settings.viewsDir value).map fun s => { settings with viewsDir := s }
  else if name == Bytes.ofString "extension" then
    (textSetting? settings.extension value).map fun s => { settings with extension := s }
  else if name == Bytes.ofString "focus" then
    (focusSetting? value).map fun focus => { settings with focus }
  else if name == Bytes.ofString "backup_suffix" then
    (textSetting? settings.backupSuffix value).map fun s => { settings with backupSuffix := s }
  else if name == Bytes.ofString "manifest_dir" then
    (textSetting? settings.manifestDir value).map fun s => { settings with manifestDir := s }
  else if name == Bytes.ofString "ambiguous_log" then
    (textSetting? settings.ambiguousLog value).map fun s => { settings with ambiguousLog := s }
  else if name == Bytes.ofString "sample_diffs" then
    (numberSetting? settings.sampleDiffs value).map fun n => { settings with sampleDiffs := n }
  else if name == Bytes.ofString "diff_lines" then
    (numberSetting? settings.diffLines value).map fun n => { settings with diffLines := n }
  else none

/-- The settings after a line of a file. No setting is a block. -/
def setItem? (scope : Scope) (settings : Settings) : Item → Option Settings
  | .attribute name e => (evaluate? scope e).bind (set? settings name)
  | .block _ _ _ => none

/-- The settings of a file on top of the defaults. -/
def load (root : Bytes) (environment : Environment) (content : Bytes)
    : Except LoadError Settings :=
  match parse? content with
  | none => .error .syntactic
  | some items =>
      match items.foldlM (setItem? (scope root environment)) {} with
      | some settings => .ok settings
      | none => .error .semantic

end FormMigrate.Hcl
