import FormMigrate.Rule
import FormMigrate.Run.Store

/-! Migration runs: reading, converting, backing up and replacing files one after another. -/

namespace FormMigrate

/-- How a run goes about its files. -/
structure RunOptions where
  rules : List Rule
  apply : Bool
  /-- What a backup's path adds to its file's; empty selects the default. -/
  backupSuffix : Bytes := []
  /-- Distinguishes backups whose plain path is taken. -/
  timestamp : Bytes

/-- The backup suffix of a run. -/
def RunOptions.suffix (options : RunOptions) : Bytes :=
  if options.backupSuffix.isEmpty then ".bak" else options.backupSuffix

/-- The path of a file's first backup. -/
def RunOptions.plainBackup (options : RunOptions) (path : Bytes) : Bytes := path ++ options.suffix

/-- The path of a file's backup when the plain one holds other content. -/
def RunOptions.stampedBackup (options : RunOptions) (path : Bytes) : Bytes :=
  path ++ "." ++ options.timestamp ++ options.suffix

/-- A file whose text the rules changed. The backup is empty unless the file was replaced. -/
structure Change where
  path : Bytes
  before : Bytes
  after : Bytes
  backup : Bytes := []
  deriving DecidableEq, Repr

/-- What happened to a file, for the journal. -/
inductive RunEvent where
  | unchanged (path : Bytes) (ambiguous : Nat)
  | replaced (path backup : Bytes)
  deriving DecidableEq, Repr

/-- What a run has done so far. -/
structure RunResult where
  files : List Bytes := []
  changed : List Change := []
  ambiguous : AmbiguityLog := {}
  events : List RunEvent := []
  deriving DecidableEq, Repr

/-- Why a run stopped. -/
inductive RunError (Fault : Type) where
  | cancelled
  | read (path : Bytes) (fault : Fault)
  | readBackup (backup : Bytes) (fault : Fault)
  | backUp (path backup : Bytes) (fault : Fault)
  | write (path : Bytes) (fault : Fault)
  deriving DecidableEq, Repr

namespace RunError

/-- The fault of the store behind an error. -/
def fault? {Fault : Type} : RunError Fault → Option Fault
  | .cancelled => none
  | .read _ fault | .readBackup _ fault | .backUp _ _ fault | .write _ fault => some fault

/-- The wording of a cancelled run. -/
def cancelledMessage : Bytes := "context canceled"

/-- The wording of an error, given that of the store's faults. -/
def message {Fault : Type} (wording : Fault → Bytes) : RunError Fault → Bytes
  | .cancelled => cancelledMessage
  | .read path fault => "failed to read " ++ path ++ ": " ++ wording fault
  | .readBackup backup fault =>
      "failed to read existing backup " ++ backup ++ ": " ++ wording fault
  | .backUp path backup fault =>
      "failed to back up " ++ path ++ " to " ++ backup ++ ": " ++ wording fault
  | .write path fault => "failed to write " ++ path ++ ": " ++ wording fault

end RunError

namespace Migration

variable {m : Type → Type} [Monad m] {Fault : Type}

/-- Makes sure that a backup holds a file's current content and returns its path. A backup that
holds it already is used again; one that holds something else is left alone.
-/
def backUp (store : Store m Fault) (options : RunOptions) (path current : Bytes)
    : m (Except (RunError Fault) Bytes) := do
  let copyTo (target : Bytes) : m (Except (RunError Fault) Bytes) := do
    match ← store.copy path target with
    | .ok () => return .ok target
    | .error fault => return .error (.backUp path target fault)
  let plain := options.plainBackup path
  if ← store.isPresent plain then
    match ← store.read plain with
    | .error fault => return .error (.readBackup plain fault)
    | .ok existing =>
        if existing == current then return .ok plain
        else copyTo (options.stampedBackup path)
  else copyTo plain

/-- Replaces a changed file once its backup is safe. -/
def replace (store : Store m Fault) (options : RunOptions) (result : RunResult)
    (path before after : Bytes) : m (RunResult × Option (RunError Fault)) := do
  match ← backUp store options path before with
  | .error e => return (result, some e)
  | .ok backup =>
      match ← store.write path after with
      | .error fault => return (result, some (.write path fault))
      | .ok () =>
          let changed := result.changed ++ [⟨path, before, after, backup⟩]
          let events := result.events ++ [.replaced path backup]
          return ({ result with changed, events }, none)

/-- Converts one file. -/
def step (store : Store m Fault) (options : RunOptions) (result : RunResult) (path : Bytes)
    : m (RunResult × Option (RunError Fault)) := do
  if ← store.isCancelled then return (result, some .cancelled)
  match ← store.read path with
  | .error fault => return (result, some (.read path fault))
  | .ok before =>
      let converted := Rule.convertAll options.rules path before
      let files := result.files ++ [path]
      let ambiguous := result.ambiguous.merge ⟨converted.records⟩
      let result := { result with files, ambiguous }
      if converted.text == before then
        let events := result.events ++ [.unchanged path converted.records.length]
        return ({ result with events }, none)
      else if options.apply then replace store options result path before converted.text
      else
        let changed := result.changed ++ [⟨path, before, converted.text, []⟩]
        return ({ result with changed }, none)

/-- Converts files in order after what a run has done so far, up to the first error. -/
def runFrom (store : Store m Fault) (options : RunOptions) (result : RunResult)
    : List Bytes → m (RunResult × Option (RunError Fault))
  | [] => return (result, none)
  | path :: rest => do
      match ← step store options result path with
      | (next, none) => runFrom store options next rest
      | (next, some e) => return (next, some e)

/-- Converts files in order up to the first error, which comes with what was done before it. -/
def run (store : Store m Fault) (options : RunOptions) (files : List Bytes)
    : m (RunResult × Option (RunError Fault)) :=
  runFrom store options {} files

end Migration

end FormMigrate
