import FormMigrate.Manifest.Archive

/-! Rollback: every backup of a manifest is copied back over its file. -/

namespace FormMigrate

/-- Why an entry was not restored. -/
inductive RestoreError where
  | missingBackup
  | copy (fault : FileFault)
  deriving DecidableEq, Repr

/-- An entry with what became of it. -/
structure Restoration where
  entry : BackupEntry
  error : Option RestoreError := none
  deriving DecidableEq, Repr

namespace Restoration

/-- The wording of a failure. -/
def message (entry : BackupEntry) : RestoreError → Bytes
  | .missingBackup => "backup not found for " ++ entry.file ++ ": " ++ entry.backup
  | .copy fault =>
      "failed to restore " ++ entry.file ++ " from " ++ entry.backup ++ ": " ++ fault.message

end Restoration

/-- What a rollback did, in the order of the manifest. -/
structure RollbackResult where
  manifest : Bytes
  outcomes : List Restoration
  deriving DecidableEq, Repr

namespace RollbackResult

/-- The entries that were restored, in order. -/
def restored (result : RollbackResult) : List BackupEntry :=
  result.outcomes.filterMap fun outcome =>
    if outcome.error.isNone then some outcome.entry else none

/-- The entries that were not restored and why, in order. -/
def failed (result : RollbackResult) : List (BackupEntry × RestoreError) :=
  result.outcomes.filterMap fun outcome => outcome.error.map fun e => (outcome.entry, e)

end RollbackResult

namespace Rollback

variable {m : Type → Type} [Monad m]

/-- Restores one entry. -/
def restore (store : Store m FileFault) (entry : BackupEntry) : m Restoration := do
  if ← store.isPresent entry.backup then
    match ← store.copy entry.backup entry.file with
    | .ok () => return ⟨entry, none⟩
    | .error fault => return ⟨entry, some (.copy fault)⟩
  else return ⟨entry, some .missingBackup⟩

/-- Restores entries in order, going on after a failure. -/
def restoreAll (store : Store m FileFault) : List BackupEntry → m (List Restoration)
  | [] => return []
  | entry :: rest => do
      let outcome ← restore store entry
      return outcome :: (← restoreAll store rest)

/-- Rolls back the run of a manifest. -/
def run (workspace : Workspace m) (path : Bytes) : m (Except ManifestError RollbackResult) := do
  match ← Manifest.load workspace path with
  | .error e => return .error e
  | .ok manifest => return .ok ⟨path, ← restoreAll workspace.store manifest.entries⟩

end Rollback

end FormMigrate
