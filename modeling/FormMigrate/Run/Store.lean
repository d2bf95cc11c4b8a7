import FormMigrate.Text.Bytes

/-! The file access that a run and a rollback need, whatever keeps the files. -/

namespace FormMigrate

/-- Files by path. Every call may fail with a fault of the store, and a failing call changes no
file.
-/
structure Store (m : Type → Type) (Fault : Type) where
  /-- The content of a file. -/
  read : (path : Bytes) → m (Except Fault Bytes)
  /-- Whether something exists under a path. -/
  isPresent : (path : Bytes) → m Bool
  /-- Copies the content of one file to another. -/
  copy : (source target : Bytes) → m (Except Fault Unit)
  /-- Replaces the content of a file. -/
  write : (path content : Bytes) → m (Except Fault Unit)
  /-- Whether the run has been told to stop. -/
  isCancelled : m Bool

end FormMigrate
