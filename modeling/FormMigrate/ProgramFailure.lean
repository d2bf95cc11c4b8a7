import FormMigrate.File.Templates
import FormMigrate.Focus
import FormMigrate.Manifest.Rollback
import FormMigrate.Run.Migration

/-! Failures that end the program: their kind, their wording and their exit status. -/

namespace FormMigrate

/-- What a failure is about. -/
inductive FailureKind where
  | invalidConfiguration
  | targetMissing
  | unknownFocus
  | manifestNotFound
  | malformedManifest
  | missingBackup
  | pathNotFound
  | cancelled
  | exit (code : Int) (text : Bytes)
  | file
  | configFile
  | other
  deriving DecidableEq, Repr

/-- The place of a kind: of two failures together, the kind with the lower place counts. -/
def FailureKind.rank : FailureKind → Nat
  | .invalidConfiguration => 0
  | .targetMissing => 1
  | .unknownFocus => 2
  | .manifestNotFound => 3
  | .malformedManifest => 4
  | .missingBackup => 5
  | .pathNotFound => 6
  | .cancelled => 7
  | .exit _ _ => 8
  | .file => 9
  | .configFile => 10
  | .other => 11

/-- A failure and its full text. -/
structure ProgramFailure where
  kind : FailureKind
  message : Bytes
  deriving DecidableEq, Repr

namespace ProgramFailure

/-- The failure with more context in front of its text. -/
def wrap (failure : ProgramFailure) (context : Bytes) : ProgramFailure :=
  { failure with message := context ++ ": " ++ failure.message }

/-- How the text of a wrong configuration starts. -/
def invalidText : Bytes := "invalid configuration"

/-- How the text of a missing target starts. -/
def targetText : Bytes := "target directory not found"

/-- A wrong configuration. -/
def invalid (reason : Bytes) : ProgramFailure :=
  ⟨.invalidConfiguration, invalidText ++ ": " ++ reason⟩

/-- A missing target. -/
def noTarget (reason : Bytes) : ProgramFailure := ⟨.targetMissing, targetText ++ ": " ++ reason⟩

/-- A failure that carries its exit status. -/
def exit (code : Int) (text : Bytes) : ProgramFailure := ⟨.exit code text, text⟩

/-- Two failures, each with its text on lines of its own. -/
def both (a b : ProgramFailure) : ProgramFailure where
  kind := if a.kind.rank ≤ b.kind.rank then a.kind else b.kind
  message := a.message ++ [0x0a] ++ b.message

/-- A fault of the files. -/
def ofFault (fault : FileFault) : ProgramFailure := ⟨.file, fault.message⟩

/-- An error of a run. -/
def ofRun (e : RunError FileFault) : ProgramFailure :=
  ⟨match e with
    | .cancelled => .cancelled
    | _ => .file, e.message FileFault.message⟩

/-- An error of a manifest. -/
def ofManifest (e : ManifestError) : ProgramFailure :=
  ⟨match e with
    | .notFound _ => .manifestNotFound
    | .malformed _ | .unnamed _ => .malformedManifest
    | .unreadable _ | .unwritable _ | .pointerUnwritable _ => .file, e.message⟩

/-- An error of one restored file. -/
def ofRestore (entry : BackupEntry) (e : RestoreError) : ProgramFailure :=
  ⟨match e with
    | .missingBackup => .missingBackup
    | .copy _ => .file, Restoration.message entry e⟩

/-- An error of listing templates. -/
def ofTemplates (e : TemplateError) : ProgramFailure :=
  ⟨match e with
    | .notFound _ => .pathNotFound
    | .inaccessible _ _ | .walk _ => .file
    | .emptyExtension | .wrongExtension _ _ => .other, e.message⟩

/-- How the program ends: the status that it returns and the text that it prints. -/
structure ExitStatus where
  code : Int
  text : Bytes
  deriving DecidableEq, Repr

/-- The exit status of a failure: two for wrong input or a missing target and one for everything
else, unless the failure carries a status.
-/
def status (failure : ProgramFailure) : ExitStatus :=
  match failure.kind with
  | .exit code text => ⟨code, text⟩
  | .invalidConfiguration | .targetMissing => ⟨2, failure.message⟩
  | _ => ⟨1, failure.message⟩

end ProgramFailure

end FormMigrate
