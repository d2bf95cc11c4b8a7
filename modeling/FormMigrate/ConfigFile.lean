import FormMigrate.File.Workspace
import FormMigrate.Hcl.Settings
import FormMigrate.ProgramFailure
import FormMigrate.Text.Case
import FormMigrate.Yaml.Settings

/-! Configuration files: finding one and reading the settings that it holds. -/

namespace FormMigrate

/-- The formats of configuration files. -/
inductive ConfigFormat where
  | hcl
  | yaml
  deriving DecidableEq, Repr

/-- The name of a format. -/
def ConfigFormat.name : ConfigFormat → Bytes
  | .hcl => "HCL"
  | .yaml => "YAML"

/-- Why a file gives no settings. -/
inductive ConfigError where
  | unreadable (format : ConfigFormat) (path : Bytes) (fault : FileFault)
  | syntactic (format : ConfigFormat) (path : Bytes)
  | semantic (format : ConfigFormat) (path : Bytes)
  deriving DecidableEq, Repr

namespace ConfigError

/-- The wording of a configuration error. -/
def message : ConfigError → Bytes
  | .unreadable format path fault =>
      "failed to read " ++ format.name ++ " file " ++ path ++ ": " ++ fault.message
  | .syntactic format path => "failed to parse " ++ format.name ++ " file " ++ path
  | .semantic format path => "failed to decode " ++ format.name ++ " file " ++ path

/-- A configuration error as a failure. -/
def toFailure (e : ConfigError) : ProgramFailure :=
  ⟨match e with
    | .unreadable _ _ _ => .file
    | .syntactic _ _ | .semantic _ _ => .configFile, e.message⟩

end ConfigError

/-- How settings are got from the content of a file, given its format, its path, the project root
and the environment.
-/
abbrev ConfigDecoder :=
  ConfigFormat → (path root : Bytes) → Environment → (content : Bytes) → Except ConfigError Settings

namespace ConfigFile

/-- The names looked for in the project root, in order. -/
def names : List Bytes := ["htmlmigrate.hcl", "htmlmigrate.yaml", "htmlmigrate.yml"]

/-- The format that the extension of a path stands for, whatever its case. -/
def formatOf? (path : Bytes) : Option ConfigFormat :=
  let extension := Bytes.lower (Path.extension path)
  if extension == Bytes.ofString ".hcl" then some .hcl
  else if extension == Bytes.ofString ".yaml" || extension == Bytes.ofString ".yml" then some .yaml
  else none

/-- The settings that the content of a file gives. -/
def decode : ConfigDecoder
  | .hcl, path, root, environment, content =>
      match Hcl.load root environment content with
      | .ok settings => .ok settings
      | .error .syntactic => .error (.syntactic .hcl path)
      | .error .semantic => .error (.semantic .hcl path)
  | .yaml, path, root, environment, content =>
      match Yaml.load? root environment content with
      | some settings => .ok settings
      | none => .error (.semantic .yaml path)

variable {m : Type → Type} [Monad m]

/-- The settings of a file. An attribute file that cannot be read counts as malformed. -/
def load (workspace : Workspace m) (format : ConfigFormat) (path root : Bytes)
    (environment : Environment) (decoder : ConfigDecoder := decode)
    : m (Except ConfigError Settings) := do
  match ← workspace.store.read path with
  | .ok content => return decoder format path root environment content
  | .error fault =>
      match format with
      | .hcl => return .error (.syntactic .hcl path)
      | .yaml => return .error (.unreadable .yaml path fault)

/-- The first of some files below a root that exists. -/
def firstOf (workspace : Workspace m) (root : Bytes) : List Bytes → m (Option Bytes)
  | [] => return none
  | name :: rest => do
      let path := Path.join [root, name]
      match ← workspace.kind path with
      | .ok .file => return some path
      | _ => firstOf workspace root rest

/-- The file to load: the one that was asked for, which has to exist, or the first of the usual
names.
-/
def discover (workspace : Workspace m) (root asked : Bytes)
    : m (Except FileFault (Option Bytes)) := do
  if asked.isEmpty then return .ok (← firstOf workspace root names)
  else
    let path := Path.under root asked
    match ← workspace.kind path with
    | .ok _ => return .ok (some path)
    | .error fault => return .error fault

end ConfigFile

end FormMigrate
