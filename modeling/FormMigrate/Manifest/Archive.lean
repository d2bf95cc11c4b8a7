import FormMigrate.File.Workspace
import FormMigrate.Manifest.Document

/-! Manifests in a directory, with a pointer to the newest one. -/

namespace FormMigrate

/-- Why a manifest cannot be stored or found. -/
inductive ManifestError where
  | notFound (path : Bytes)
  | malformed (path : Bytes)
  | unnamed (path : Bytes)
  | unreadable (fault : FileFault)
  | unwritable (fault : FileFault)
  | pointerUnwritable (fault : FileFault)
  deriving DecidableEq, Repr

namespace ManifestError

/-- The fault of the files behind an error. -/
def fault? : ManifestError → Option FileFault
  | .unreadable fault | .unwritable fault | .pointerUnwritable fault => some fault
  | .notFound _ | .malformed _ | .unnamed _ => none

/-- How the error of a missing manifest starts. -/
def notFoundText : Bytes := "manifest not found"

/-- The wording of a manifest error. -/
def message : ManifestError → Bytes
  | .notFound path => notFoundText ++ ": " ++ path
  | .malformed path => "malformed manifest: " ++ path
  | .unnamed path => "malformed manifest: " ++ path ++ " names no manifest"
  | .unreadable fault => fault.message
  | .unwritable fault => "failed to write manifest: " ++ fault.message
  | .pointerUnwritable fault => "failed to write latest manifest pointer: " ++ fault.message

end ManifestError

namespace Manifest

/-- The file name of a run's manifest. -/
def fileName (timestamp : Bytes) : Bytes := "convert_manifest_" ++ timestamp ++ ".json"

/-- The file name of the pointer to the newest manifest. -/
def pointerName : Bytes := "convert_manifest_latest.json"

/-- The reference that asks for the newest manifest. -/
def latestReference : Bytes := "latest"

variable {m : Type → Type} [Monad m]

/-- Stores a manifest in a directory, points at it and returns its path. -/
def write (workspace : Workspace m) (directory : Bytes) (manifest : Manifest)
    : m (Except ManifestError Bytes) := do
  let path := Path.join [directory, fileName manifest.timestamp]
  match ← workspace.replace path (Json.print .markup manifest.toJson) with
  | .error fault => return .error (.unwritable fault)
  | .ok () =>
      let pointer : ManifestPointer := ⟨Path.base path, manifest.timestamp⟩
      let pointerPath := Path.join [directory, pointerName]
      match ← workspace.replace pointerPath (Json.print .markup pointer.toJson) with
      | .error fault => return .error (.pointerUnwritable fault)
      | .ok () => return .ok path

/-- Reads a document of some kind. -/
def readDocument {α : Type} (workspace : Workspace m) (ofJson? : Json → Option α) (path : Bytes)
    : m (Except ManifestError α) := do
  match ← workspace.store.read path with
  | .error fault => return .error (if fault.isNoEntry then .notFound path else .unreadable fault)
  | .ok content =>
      match (Json.parse? content).bind ofJson? with
      | some found => return .ok found
      | none => return .error (.malformed path)

/-- Reads a manifest. -/
def load (workspace : Workspace m) (path : Bytes) : m (Except ManifestError Manifest) :=
  readDocument workspace ofJson? path

/-- The path of the manifest that a directory's pointer names. -/
def latest (workspace : Workspace m) (directory : Bytes) : m (Except ManifestError Bytes) := do
  let pointerPath := Path.join [directory, pointerName]
  match ← readDocument workspace ManifestPointer.ofJson? pointerPath with
  | .error e => return .error e
  | .ok pointer =>
      if pointer.manifest.isEmpty then return .error (.unnamed pointerPath)
      else return .ok (Path.join [directory, pointer.manifest])

/-- The path that a rollback reference stands for: the newest manifest, or a path seen from the
directory.
-/
def resolve (workspace : Workspace m) (directory reference : Bytes)
    : m (Except ManifestError Bytes) :=
  if reference == latestReference then latest workspace directory
  else pure (.ok (Path.under directory reference))

end Manifest

end FormMigrate
