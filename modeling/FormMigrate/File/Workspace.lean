import FormMigrate.File.Disk

/-! The file access of the whole program: that of a run, and looking for and making files. -/

namespace FormMigrate

/-- Files and directories by path. -/
structure Workspace (m : Type → Type) where
  store : Store m FileFault
  /-- The directory that relative paths start from. -/
  workingDirectory : Bytes
  /-- What stands under a path. -/
  kind : (path : Bytes) → m (Except FileFault FileKind)
  /-- How files are replaced. -/
  calls : FileCalls m
  /-- What a walk through a path comes to, in any order: entries and failures. -/
  walk : (path : Bytes) → m (List (Except FileFault WalkEntry))

/-- Replaces a file as a whole, making the directories above it. -/
def Workspace.replace {m : Type → Type} [Monad m] (workspace : Workspace m) (path content : Bytes)
    : m (Except FileFault Unit) :=
  workspace.calls.replace path content 0o644

/-- A disk in memory as a workspace. -/
def Disk.workspace (workingDirectory : Bytes) (cancelled : Bool) : Workspace (StateM Disk) where
  store := Disk.store cancelled
  workingDirectory
  kind path := fun disk => ((disk.stat "stat" path).map Node.kind, disk)
  calls := Disk.calls
  walk path := fun disk => (disk.walk path, disk)

end FormMigrate
