import FormMigrate.File.Workspace
import FormMigrate.Proofs.File.Replacement

/-! Workspaces that serve a disk. Their calls do to it what the disk does, unless they fail, which
any of them may do at any time.
-/

namespace FormMigrate

/-- The calls of a workspace that look at files change no disk, the one that belongs to its state,
and what they find is there.
-/
structure Workspace.Sees {σ : Type} (workspace : Workspace (StateM σ)) (disk : σ → Disk)
    : Prop where
  read
    : ∀ path s,
        disk (workspace.store.read path s).2 = disk s
        ∧ ∀ content,
            (workspace.store.read path s).1 = .ok content → (disk s).read path = .ok content
  isPresent : ∀ path s, disk (workspace.store.isPresent path s).2 = disk s
  isCancelled : ∀ s, disk (workspace.store.isCancelled s).2 = disk s
  kind
    : ∀ path s,
        disk (workspace.kind path s).2 = disk s
        ∧ ∀ kind,
            (workspace.kind path s).1 = .ok kind
            → ((disk s).stat "stat" path).map Node.kind = .ok kind
  /-- A walk on which nothing fails comes to what is there. -/
  walk
    : ∀ path s,
        disk (workspace.walk path s).2 = disk s
        ∧ ((∀ visit ∈ (workspace.walk path s).1, visit.isOk = true)
            → (workspace.walk path s).1 = (disk s).walk path)

/-- The calls of a workspace serve the disk that belongs to its state: those that look at files,
those that copy and write the files of a run, and those by which any other file is replaced.
-/
structure Workspace.Serves {σ : Type} (workspace : Workspace (StateM σ)) (disk : σ → Disk) : Prop
    extends workspace.Sees disk where
  copy
    : ∀ source target s,
        Disk.Attempts (Disk.Makes (Path.directory target) (disk s)) ((disk s).copy source target)
          (workspace.store.copy source target s).1 (disk (workspace.store.copy source target s).2)
  write
    : ∀ path content s,
        Disk.Attempts (Disk.Makes (Path.directory path) (disk s)) ((disk s).write path content)
          (workspace.store.write path content s).1 (disk (workspace.store.write path content s).2)
  calls : workspace.calls.Serves disk

/-- A disk in memory is seen as it is. -/
theorem Disk.workspace_sees (workingDirectory : Bytes) (cancelled : Bool)
    : (Disk.workspace workingDirectory cancelled).Sees id where
  read := fun _ _ => ⟨rfl, fun _ read => read⟩
  isPresent := fun _ _ => rfl
  isCancelled := fun _ => rfl
  kind := fun _ _ => ⟨rfl, fun _ kind => kind⟩
  walk := fun _ _ => ⟨rfl, fun _ => rfl⟩

/-- A disk in memory serves itself. -/
theorem Disk.workspace_serves (workingDirectory : Bytes) (cancelled : Bool)
    : (Disk.workspace workingDirectory cancelled).Serves id where
  toSees := Disk.workspace_sees workingDirectory cancelled
  copy := fun _ _ _ => .performed
  write := fun _ _ _ => .performed
  calls := Disk.calls_serves

namespace Workspace

variable {σ : Type} {workspace : Workspace (StateM σ)} {disk : σ → Disk} {s later : σ}

namespace Sees

theorem read_run (sees : workspace.Sees disk) {path : Bytes} {outcome : Except FileFault Bytes}
    (ran : workspace.store.read path s = (outcome, later))
    : disk later = disk s
      ∧ ∀ content, outcome = .ok content → (disk s).read path = .ok content := by
  have seen := sees.read path s
  rwa [ran] at seen

theorem isPresent_run (sees : workspace.Sees disk) {path : Bytes} {present : Bool}
    (ran : workspace.store.isPresent path s = (present, later))
    : disk later = disk s := by
  have seen := sees.isPresent path s
  rwa [ran] at seen

theorem isCancelled_run (sees : workspace.Sees disk) {cancelled : Bool}
    (ran : workspace.store.isCancelled s = (cancelled, later))
    : disk later = disk s := by
  have seen := sees.isCancelled s
  rwa [ran] at seen

end Sees

namespace Serves

theorem copy_run (serves : workspace.Serves disk) {source target : Bytes}
    {outcome : Except FileFault Unit}
    (ran : workspace.store.copy source target s = (outcome, later))
    : Disk.Attempts (Disk.Makes (Path.directory target) (disk s)) ((disk s).copy source target)
        outcome (disk later) := by
  have served := serves.copy source target s
  rwa [ran] at served

theorem write_run (serves : workspace.Serves disk) {path content : Bytes}
    {outcome : Except FileFault Unit}
    (ran : workspace.store.write path content s = (outcome, later))
    : Disk.Attempts (Disk.Makes (Path.directory path) (disk s)) ((disk s).write path content)
        outcome (disk later) := by
  have served := serves.write path content s
  rwa [ran] at served

end Serves

end Workspace

end FormMigrate
