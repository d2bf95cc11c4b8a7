import FormMigrate.Manifest.Rollback
import FormMigrate.Proofs.File.Writing
import FormMigrate.Proofs.State

/-! Rollbacks on a disk: every file that can be written again and whose backup can be read gets back
what the backup holds, and nothing else changes.
-/

namespace FormMigrate.Rollback

variable {disk before after : Disk} {workingDirectory : Bytes} {cancelled : Bool}
  {entry : BackupEntry} {entries : List BackupEntry}

/-- An entry that can be restored: its backup can be read, and its file can be written again. -/
def Restorable (disk : Disk) (entry : BackupEntry) : Prop :=
  (∃ content, disk.read entry.backup = .ok content) ∧ disk.Rewritable entry.file

theorem isPresent_of_read {path content : Bytes} (read : disk.read path = .ok content)
    : disk.isPresent path = true := by
  obtain ⟨place, mode, led, stands⟩ := Disk.read_ok.mp read
  rw [Disk.isPresent, Disk.find_ok.mpr ⟨led, stands⟩]
  rfl

theorem restore_restorable (restorable : Restorable disk entry)
    : ∃ content later,
        disk.read entry.backup = .ok content
        ∧ restore (Disk.workspace workingDirectory cancelled).store entry disk
          = (⟨entry, none⟩, later)
        ∧ Disk.Puts entry.file content disk later := by
  obtain ⟨⟨content, read⟩, rewritable⟩ := restorable
  have asked
      : (Disk.workspace workingDirectory cancelled).store.isPresent entry.backup disk
        = (true, disk) :=
    congrArg (·, disk) (isPresent_of_read read)
  have copy
      : disk.copy entry.backup entry.file
        = disk.replace entry.file content (disk.modeOf entry.backup) := by
    rw [Disk.copy, read]
  have done := rewritable.replace content (disk.modeOf entry.backup)
  have writing := disk.replace_writing entry.file content (disk.modeOf entry.backup)
  rw [← copy] at done writing
  rw [done] at writing
  have copied
      : (Disk.workspace workingDirectory cancelled).store.copy entry.backup entry.file disk
        = (.ok (), (disk.copy entry.backup entry.file).2) :=
    Prod.ext done rfl
  refine ⟨content, (disk.copy entry.backup entry.file).2, read, ?_, ?_⟩
  · rw [restore, bind_run asked, if_pos rfl, bind_run copied]
    rfl
  · cases writing with
    | done rewrites => exact rewrites.toPuts

/-- What a rollback of entries leaves of a disk: their files hold what their backups hold. -/
structure Restores (entries : List BackupEntry) (before after : Disk) : Prop where
  touches : Disk.Touches (entries.map BackupEntry.file) before after
  restored
    : ∀ entry ∈ entries,
        ∀ content, before.read entry.backup = .ok content → after.read entry.file = .ok content

/-- Entries whose files and backups lead apart are all restored. -/
theorem restoreAll_restores (restorable : ∀ entry ∈ entries, Restorable disk entry)
    (apart
      : ((entries.map BackupEntry.file ++ entries.map BackupEntry.backup).map disk.spot).Nodup)
    : ∃ later,
        restoreAll (Disk.workspace workingDirectory cancelled).store entries disk
          = (entries.map (⟨·, none⟩), later)
        ∧ Restores entries disk later := by
  induction entries generalizing disk with
  | nil => exact ⟨disk, rfl, .refl _ _, by simp⟩
  | cons entry rest ih =>
      rw [List.forall_mem_cons] at restorable
      simp only [List.map_cons, List.cons_append, List.map_append, List.nodup_cons,
        List.nodup_append, List.mem_append, List.mem_cons, not_or] at apart
      obtain ⟨⟨listed, own, backups⟩, files, ⟨-, others⟩, across⟩ := apart
      obtain ⟨content, next, read, ran, puts⟩ :=
        @restore_restorable disk workingDirectory cancelled entry restorable.1
      have spots : next.spot = disk.spot := funext puts.touches.grows.spot
      have again {other : BackupEntry} (member : other ∈ rest) {content : Bytes}
          (read : disk.read other.backup = .ok content)
          : next.read other.backup = .ok content := by
        refine puts.touches.read read ?_
        rw [List.map_singleton, List.mem_singleton]
        exact fun same => backups (same ▸ List.mem_map_of_mem (List.mem_map_of_mem member))
      have restorable' : ∀ other ∈ rest, Restorable next other := fun other member => by
        obtain ⟨⟨content, read⟩, rewritable⟩ := restorable.2 other member
        exact ⟨⟨content, again member read⟩, puts.touches.grows.rewritable rewritable⟩
      have apart'
          : ((rest.map BackupEntry.file ++ rest.map BackupEntry.backup).map next.spot).Nodup := by
        rw [spots, List.map_append]
        exact List.nodup_append.mpr ⟨files, others, fun a member b member' =>
          across a member b (.inr member')⟩
      obtain ⟨later, ran', restores⟩ := ih restorable' apart'
      refine ⟨later, ?_, ?_, List.forall_mem_cons.mpr ⟨fun found read' => ?_, ?_⟩⟩
      · rw [restoreAll, bind_run ran, bind_run ran']
        rfl
      · rw [List.map_cons]
        exact (puts.touches.widen (by simp)).trans (restores.touches.widen (by simp))
      · cases read.symm.trans read'
        refine restores.touches.read puts.read ?_
        rw [spots]
        exact listed
      · exact fun other member content read =>
          restores.restored other member content (again member read)

/-- A rollback by a manifest whose entries lead apart restores all of them. -/
theorem run_restores {path : Bytes} {manifest : Manifest}
    (loads
      : Manifest.load (Disk.workspace workingDirectory cancelled) path disk = (.ok manifest, disk))
    (restorable : ∀ entry ∈ manifest.entries, Restorable disk entry)
    (apart
      : ((manifest.entries.map BackupEntry.file ++ manifest.entries.map BackupEntry.backup).map
          disk.spot).Nodup)
    : ∃ result later,
        run (Disk.workspace workingDirectory cancelled) path disk = (.ok result, later)
        ∧ result.restored = manifest.entries
        ∧ result.failed = []
        ∧ Restores manifest.entries disk later := by
  obtain ⟨later, ran, restores⟩ := restoreAll_restores restorable apart
  refine ⟨⟨path, manifest.entries.map (⟨·, none⟩)⟩, later, ?_, ?_, ?_, restores⟩
  · rw [run, bind_run loads]
    dsimp only
    rw [bind_run ran]
    rfl
  · rw [RollbackResult.restored, List.filterMap_map]
    exact List.filterMap_some
  · rw [RollbackResult.failed, List.filterMap_map]
    exact List.filterMap_eq_nil_iff.mpr fun entry _ => rfl

end FormMigrate.Rollback
