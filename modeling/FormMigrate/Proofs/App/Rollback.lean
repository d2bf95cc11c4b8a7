import FormMigrate.Proofs.App.Preview
import FormMigrate.Proofs.Manifest.Archive
import FormMigrate.Proofs.Manifest.Rollback
import FormMigrate.Proofs.Run.Applied
import Mathlib.Data.List.Flatten
import Mathlib.Data.List.Nodup

/-! Rolling back the newest manifest undoes an applied migration, wherever its run stopped. -/

namespace FormMigrate

variable {σ : Type} {disk : σ → Disk} {workspace : Workspace (StateM σ)}

--------------------------------------------------------------------------------
-- Statement
--------------------------------------------------------------------------------

/-- What a path holds, by the place that it names. -/
def Disk.contentAt (disk : Disk) (path : Bytes) : Option Bytes := disk.content? (disk.spot path)

/-- The paths that an applied migration of templates may write to: the templates, what they may be
backed up to, and its log, its manifest and the pointer to that.
-/
def App.outputs (app : App) (timestamp : Bytes) (templates : List Bytes) : List Bytes :=
  (app.runOptions timestamp).reach templates
    ++ [app.settings.ambiguousLog, Manifest.pathOf app.settings.manifestDir timestamp,
      Manifest.pointerOf app.settings.manifestDir]

/-- What a rollback by a manifest comes to, when a migration of templates left one disk of another.
-/
structure Undoes (templates : List Bytes) (before after : Disk) (manifest : Manifest)
    (result : RollbackResult) (restored : Disk) : Prop where
  /-- The manifest lists the templates that have other content, and no others, in their order. -/
  listed
    : manifest.entries.map BackupEntry.file
      = templates.filter fun path => after.contentAt path ≠ before.contentAt path
  /-- Every entry was restored. -/
  complete : result.restored = manifest.entries ∧ result.failed = []
  /-- Every template holds what it held before the migration. -/
  undone : ∀ path ∈ templates, restored.contentAt path = before.contentAt path
  /-- The backups can still be read, and hold what the templates held. -/
  backups
    : ∀ entry ∈ manifest.entries,
        ∃ content,
          before.contentAt entry.file = some content
          ∧ restored.read entry.file = .ok content
          ∧ restored.read entry.backup = .ok content
  /-- Nothing but templates has changed since the migration. -/
  others
    : ∀ place, place ∉ templates.map before.spot → restored.content? place = after.content? place

/-- Rolling back the newest manifest of a directory undoes a migration of templates. -/
def RollsBack (directory : Bytes) (templates : List Bytes) (before after : Disk) : Prop :=
  ∃ path manifest result restored,
    let files := Disk.workspace [] false
    Manifest.resolve files directory Manifest.latestReference after = (.ok path, after)
    ∧ Manifest.load files path after = (.ok manifest, after)
    ∧ Rollback.run files path after = (.ok result, restored)
    ∧ (∀ app : App,
        app.settings.manifestDir = directory
        → app.invocation.rollback = Manifest.latestReference
        → (App.rollback files app).Ends after fun outcome left => outcome = .ok () ∧ left = restored)
    ∧ Undoes templates before after manifest result restored

/-- A project with templates that can be told apart from each other and from all else that a
migration writes to, under names that a manifest can hold.
-/
structure App.Reversible (app : App) (timestamp : Bytes) (templates : List Bytes) (disk : Disk)
    : Prop where
  views : disk.IsDirectory app.settings.viewsDir
  listed
    : Templates.resolve (Disk.workspace [] false) app.settings.viewsDir app.settings.extension disk
      = (.ok templates, disk)
  nonempty : templates ≠ []
  apart : ((app.outputs timestamp templates).map disk.spot).Nodup
  valid : ∀ path ∈ templates, Utf8.Valid path
  suffix : Utf8.Valid (app.runOptions timestamp).suffix
  stamp : isStamp timestamp = true

--------------------------------------------------------------------------------
-- Disks
--------------------------------------------------------------------------------

theorem eq_filter_of_sublist {α : Type} {p : α → Bool} {l' l : List α} (h : l'.Sublist l)
    (nodup : l.Nodup) (members : ∀ a ∈ l, a ∈ l' ↔ p a = true)
    : l' = l.filter p := by
  induction h with
  | slnil => rfl
  | @cons l' l a h ih =>
      obtain ⟨fresh, nodup⟩ := List.nodup_cons.mp nodup
      have other : ¬ p a = true := fun chosen =>
        fresh (h.subset ((members a (.head _)).mpr chosen))
      rw [List.filter_cons_of_neg other]
      exact ih nodup fun b member => members b (.tail _ member)
  | @cons_cons l' l a h ih =>
      obtain ⟨fresh, nodup⟩ := List.nodup_cons.mp nodup
      rw [List.filter_cons_of_pos ((members a (.head _)).mp (.head _))]
      refine congrArg (a :: ·) (ih nodup fun b member => ?_)
      rw [← members b (.tail _ member), List.mem_cons]
      refine ⟨.inr, fun found => found.resolve_left ?_⟩
      rintro rfl
      exact fresh member

--------------------------------------------------------------------------------
-- Changes and their entries
--------------------------------------------------------------------------------

/-- The entry of a change in a manifest. -/
def Change.entry (change : Change) : BackupEntry := ⟨change.path, change.backup⟩

theorem Change.map_entry_file (changes : List Change)
    : (changes.map entry).map BackupEntry.file = changes.map path := by
  rw [List.map_map]
  rfl

theorem Change.map_entry_backup (changes : List Change)
    : (changes.map entry).map BackupEntry.backup = changes.map backup := by
  rw [List.map_map]
  rfl

/-- A change goes on being safe while its file and its backup are left alone. -/
theorem Change.Safe.later {options : RunOptions} {change : Change} {before after later : Disk}
    {paths : List Bytes} (safe : change.Safe options before after)
    (touches : Disk.Touches paths after later)
    (file : after.spot change.path ∉ paths.map after.spot)
    (backup : after.spot change.backup ∉ paths.map after.spot)
    : change.Safe options before later :=
  ⟨safe.differs, safe.candidate, safe.was, touches.read safe.is file,
    touches.grows.rewritable safe.rewritable, touches.read safe.held backup⟩

/-- What a change is of holds other content than before. -/
theorem Change.Safe.contentAt_ne {options : RunOptions} {change : Change} {before after : Disk}
    (safe : change.Safe options before after)
    : after.contentAt change.path ≠ before.contentAt change.path := by
  have now := Disk.content?_of_read safe.is
  rw [Disk.contentAt, Disk.contentAt, now, safe.was]
  exact fun same => safe.differs (Option.some.inj same)

namespace Migrated

variable {options : RunOptions} {paths : List Bytes} {changes : List Change} {before after : Disk}

/-- Each change has a backup of its own. -/
theorem backups_sublist (h : Migrated options paths changes before after)
    : (changes.map Change.backup).Sublist (paths.flatMap options.backups) := by
  have own : ∀ change ∈ changes, change.backup ∈ options.backups change.path :=
    fun change member => (h.changed change member).candidate
  have backups
      : (changes.map Change.backup).Sublist ((changes.map Change.path).flatMap options.backups) := by
    clear h
    induction changes with
    | nil => exact List.Sublist.refl _
    | cons change rest ih =>
        rw [List.forall_mem_cons] at own
        rw [List.map_cons, List.map_cons, List.flatMap_cons]
        exact (List.singleton_sublist.mpr own.1).append (ih own.2)
  exact backups.trans (h.listed.flatMap options.backups)

end Migrated

--------------------------------------------------------------------------------
-- Rollbacks by a manifest
--------------------------------------------------------------------------------

section

variable {options : RunOptions} {templates artifacts : List Bytes} {changes : List Change}
  {before migrated after : Disk}

/-- The changes of a run, when all of them can be undone. -/
structure Undoable (options : RunOptions) (templates : List Bytes) (changes : List Change)
    (before after : Disk) : Prop where
  listed : (changes.map Change.path).Sublist templates
  safe : ∀ change ∈ changes, change.Safe options before after
  backups : (changes.map Change.backup).Sublist (templates.flatMap options.backups)
  /-- A template that was not changed holds what it held. -/
  kept
    : ∀ path ∈ templates,
        path ∉ changes.map Change.path → after.contentAt path = before.contentAt path
  spots : after.spot = before.spot

/-- What a run has changed can be undone after its artifacts are written, if no two of the paths
lead to one place.
-/
theorem Migrated.undoable (h : Migrated options templates changes before migrated)
    (written : Disk.Touches artifacts migrated after)
    (apart : ((options.reach templates ++ artifacts).map before.spot).Nodup)
    : Undoable options templates changes before after := by
  have spots : migrated.spot = before.spot := funext h.touches.grows.spot
  have spots' : after.spot = before.spot := (funext written.grows.spot).trans spots
  have same {path other : Bytes} (member : path ∈ options.reach templates)
      (member' : other ∈ options.reach templates ++ artifacts)
      (led : before.spot path = before.spot other)
      : path = other :=
    List.inj_on_of_nodup_map apart (List.mem_append_left _ member) member' led
  obtain ⟨reach, -, artifact⟩ := List.nodup_append.mp (List.Nodup.of_map _ apart)
  obtain ⟨-, -, backup⟩ := List.nodup_append.mp reach
  have outside {path : Bytes} (member : path ∈ options.reach templates)
      : migrated.spot path ∉ artifacts.map migrated.spot := by
    rw [spots, List.mem_map]
    rintro ⟨other, listed, led⟩
    exact artifact path member other listed
      (same member (List.mem_append_right _ listed) led.symm)
  refine ⟨h.listed, fun change member => ?_, h.backups_sublist, fun path listed fresh => ?_, spots'⟩
  · have file := h.listed.subset (List.mem_map_of_mem member)
    have safe := h.changed change member
    exact safe.later written (outside (RunOptions.reach_of_mem file))
      (outside (RunOptions.reach_of_backup file safe.candidate))
  · have within : path ∈ options.reach templates := RunOptions.reach_of_mem listed
    have untouched
        : before.spot path
          ∉ (changes.map Change.path ++ templates.flatMap options.backups).map before.spot := by
      rw [List.mem_map]
      rintro ⟨other, touched, led⟩
      obtain rfl := same within (List.mem_append_left _ (h.within touched)) led.symm
      rcases List.mem_append.mp touched with changed | candidate
      · exact fresh changed
      · exact backup path listed path candidate rfl
    rw [Disk.contentAt, Disk.contentAt, spots', ← h.touches.content? _ untouched, ← spots]
    exact written.content? _ (outside within)

namespace Undoable

variable {restored : Disk}

/-- The changes are of the templates that have other content, and of no others. -/
theorem listed_eq (h : Undoable options templates changes before after) (nodup : templates.Nodup)
    : changes.map Change.path
      = templates.filter fun path => after.contentAt path ≠ before.contentAt path := by
  refine eq_filter_of_sublist h.listed nodup fun path listed => ?_
  rw [decide_eq_true_iff]
  constructor
  · intro changed
    obtain ⟨change, recorded, rfl⟩ := List.mem_map.mp changed
    exact (h.safe change recorded).contentAt_ne
  · intro other
    by_contra fresh
    exact other (h.kept path listed fresh)

theorem restorable (h : Undoable options templates changes before after)
    : ∀ entry ∈ changes.map Change.entry, Rollback.Restorable after entry := by
  intro entry member
  obtain ⟨change, recorded, rfl⟩ := List.mem_map.mp member
  have safe := h.safe change recorded
  exact ⟨⟨_, safe.held⟩, safe.rewritable⟩

variable (apart : ((options.reach templates).map before.spot).Nodup)
include apart

theorem entries_apart (h : Undoable options templates changes before after)
    : (((changes.map Change.entry).map BackupEntry.file
        ++ (changes.map Change.entry).map BackupEntry.backup).map after.spot).Nodup := by
  rw [Change.map_entry_file, Change.map_entry_backup, h.spots]
  exact ((h.listed.append h.backups).map before.spot).nodup apart

/-- Restoring the entries of the changes gives every template what it held. -/
theorem undone (h : Undoable options templates changes before after)
    (restores : Rollback.Restores (changes.map Change.entry) after restored) {path : Bytes}
    (listed : path ∈ templates)
    : restored.contentAt path = before.contentAt path := by
  by_cases changed : path ∈ changes.map Change.path
  · obtain ⟨change, recorded, rfl⟩ := List.mem_map.mp changed
    have safe := h.safe change recorded
    have back := restores.restored change.entry (List.mem_map_of_mem recorded) _ safe.held
    exact (Disk.content?_of_read back).trans safe.was.symm
  · have spots : restored.spot = after.spot := funext restores.touches.grows.spot
    rw [← h.kept path listed changed, Disk.contentAt, Disk.contentAt, spots]
    refine restores.touches.content? _ ?_
    rw [Change.map_entry_file, h.spots, List.mem_map]
    rintro ⟨other, changed', led⟩
    have same :=
      List.inj_on_of_nodup_map apart (RunOptions.reach_of_mem (h.listed.subset changed'))
        (RunOptions.reach_of_mem listed) led
    exact changed (same ▸ changed')

/-- Restoring the entries of the changes leaves their backups in place. -/
theorem backups_stay (h : Undoable options templates changes before after)
    (restores : Rollback.Restores (changes.map Change.entry) after restored) {entry : BackupEntry}
    (member : entry ∈ changes.map Change.entry)
    : ∃ content,
        before.contentAt entry.file = some content
        ∧ restored.read entry.file = .ok content
        ∧ restored.read entry.backup = .ok content := by
  have distinct := h.entries_apart apart
  rw [List.map_append] at distinct
  have outside := fun touched =>
    (List.nodup_append.mp distinct).2.2 _ touched _
      (List.mem_map_of_mem (List.mem_map_of_mem member)) rfl
  obtain ⟨change, recorded, rfl⟩ := List.mem_map.mp member
  have safe := h.safe change recorded
  exact ⟨change.before, safe.was, restores.restored _ member _ safe.held,
    restores.touches.read safe.held outside⟩

/-- A rollback by a manifest that lists the changes of a run undoes them. -/
theorem undoes (h : Undoable options templates changes before after) {path : Bytes}
    {manifest : Manifest} (entries : manifest.entries = changes.map Change.entry)
    (loads : Manifest.load (Disk.workspace [] false) path after = (.ok manifest, after))
    : ∃ result restored,
        Rollback.run (Disk.workspace [] false) path after = (.ok result, restored)
        ∧ Undoes templates before after manifest result restored := by
  obtain ⟨result, restored, ran, done, failed, restores⟩ :=
    Rollback.run_restores loads (entries ▸ h.restorable) (entries ▸ h.entries_apart apart)
  have nodup : templates.Nodup :=
    (List.Nodup.of_map _ apart).sublist (List.sublist_append_left _ _)
  rw [entries] at restores
  refine ⟨result, restored, ran, ?_, ⟨done, failed⟩, fun file => h.undone apart restores,
    fun entry member => h.backups_stay apart restores (entries ▸ member), fun place other => ?_⟩
  · rw [entries, Change.map_entry_file]
    exact h.listed_eq nodup
  · refine restores.touches.content? place fun touched => other ?_
    rw [Change.map_entry_file, h.spots] at touched
    exact List.map_subset before.spot h.listed.subset touched

end Undoable

end

--------------------------------------------------------------------------------
-- Migrations
--------------------------------------------------------------------------------

/-- What a migration leaves when it writes its artifacts: the changes of its run can be undone, and
the newest manifest lists them.
-/
structure Recorded (app : App) (timestamp : Bytes) (templates : List Bytes) (before after : Disk)
    (result : RunResult) : Prop where
  undoable : Undoable (app.runOptions timestamp) templates result.changed before after
  manifest
    : after.read (Manifest.pathOf app.settings.manifestDir timestamp)
      = .ok (Json.print .markup (app.manifestOf timestamp result).toJson)
  pointer
    : after.read (Manifest.pointerOf app.settings.manifestDir)
      = .ok (Json.print .markup
          (ManifestPointer.toJson
            ⟨Path.base (Manifest.pathOf app.settings.manifestDir timestamp), timestamp⟩))

namespace App

variable {app : App} {timestamp : Bytes} {templates : List Bytes}

/-- A rollback of the newest manifest ends as the rollback by that manifest does. -/
theorem rollback_ends {disk restored : Disk} {path : Bytes} {result : RollbackResult}
    (resolves
      : Manifest.resolve (Disk.workspace [] false) app.settings.manifestDir app.invocation.rollback
          disk
        = (.ok path, disk))
    (ran : Rollback.run (Disk.workspace [] false) path disk = (.ok result, restored))
    : (rollback (Disk.workspace [] false) app).Ends disk
        fun outcome left => outcome = .ok () ∧ left = restored := by
  refine .access_bind resolves (.access_bind ran (.noteAll_bind (.tell ?_)))
  exact ⟨rfl, rfl⟩

/-- Changes of templates under valid names are in a manifest as they are. -/
theorem entries_sanitized {result : RunResult} {disk : Disk}
    (reversible : app.Reversible timestamp templates disk)
    (listed : ∀ change ∈ result.changed, change.path ∈ templates)
    (candidates
      : ∀ change ∈ result.changed, change.backup ∈ (app.runOptions timestamp).backups change.path)
    : (app.manifestOf timestamp result).sanitized.entries = result.changed.map Change.entry := by
  show (result.changed.map Change.entry).map BackupEntry.sanitized = _
  rw [List.map_map]
  refine List.map_congr_left fun change member => ?_
  have path := reversible.valid _ (listed change member)
  have stamp : Utf8.Valid timestamp :=
    Utf8.valid_ascii fun b digit => (Manifest.stamp_ascii reversible.stamp b digit).1
  have backup : Utf8.Valid change.backup := by
    rcases List.mem_cons.mp (candidates change member) with plain | stamped
    · rw [plain]
      exact path.append reversible.suffix
    · rw [List.mem_singleton.mp stamped]
      have dot : Utf8.Valid (Bytes.ofString ".") := by decide
      exact ((path.append dot).append stamp).append reversible.suffix
  exact congrArg₂ BackupEntry.mk path backup

/-- The notes of a run are those that it started with. -/
theorem noting_spares (workspace : Workspace (StateM σ))
    : Migration.Spares workspace.noting.store Prod.snd where
  read := fun _ _ => rfl
  isPresent := fun _ _ => rfl
  copy := fun _ _ _ => rfl
  write := fun _ _ _ => rfl
  isCancelled := fun _ => rfl

/-- Templates that a migration lists without a note are those of the reversible. -/
theorem Reversible.found (serves : workspace.Serves disk) {before s₁ s₂ : σ × List Bytes}
    (reversible : app.Reversible timestamp templates (disk before.1))
    {kind : Except FileFault FileKind} {outcome : Except TemplateError (List Bytes)}
    (looked : workspace.noting.kind app.settings.viewsDir before = (kind, s₁))
    (listed
      : Templates.resolve workspace.noting app.settings.viewsDir app.settings.extension s₁
        = (outcome, s₂))
    (silent : s₂.2 = [])
    : outcome = .ok templates ∧ disk s₂.1 = disk before.1 := by
  obtain ⟨silent, same, found⟩ := Templates.resolve_silent serves.toSees listed silent
  obtain ⟨-, same', -⟩ := serves.toSees.kind_silent looked silent
  rw [same'] at found same
  exact ⟨(Prod.mk.inj (found.symm.trans reversible.listed)).1, same⟩

/-- A pass without a note starts without one. -/
theorem PassCourse.silent (serves : workspace.Serves disk) {before later : σ × List Bytes}
    (passes : PassCourse workspace.noting app timestamp templates before later)
    (silent : later.2 = [])
    : before.2 = [] := by
  have noted {outcome : RunResult × Option (RunError FileFault)} {s₁ : σ × List Bytes}
      (converted
        : Migration.run workspace.noting.store (app.runOptions timestamp) templates before
          = (outcome, s₁))
      (silent : s₁.2 = [])
      : before.2 = [] :=
    ((Migration.runFrom_course converted).spares (noting_spares workspace)).symm.trans silent
  cases passes with
  | unlogged converted logged => exact noted converted (Workspace.replace_silent logged silent).1
  | shown _ converted logged => exact noted converted (Workspace.replace_silent logged silent).1
  | applied _ converted logged recorded =>
      obtain ⟨silent, -⟩ := Manifest.write_silent serves recorded silent
      exact noted converted (Workspace.replace_silent logged silent).1

/-- A pass that applies its changes without a note records them. -/
theorem PassCourse.recorded (serves : workspace.Serves disk) (applies : app.invocation.apply = true)
    {before later : σ × List Bytes}
    (passes : PassCourse workspace.noting app timestamp templates before later)
    (silent : later.2 = [])
    (apart : ((app.outputs timestamp templates).map (disk before.1).spot).Nodup)
    : ∃ result, Recorded app timestamp templates (disk before.1) (disk later.1) result := by
  cases passes with
  | unlogged converted logged =>
      obtain ⟨-, no⟩ := Workspace.replace_silent logged silent
      cases no
  | shown shows => cases applies.symm.trans shows
  | @applied result stopped s₁ s₂ outcome _ _ converted logged recorded =>
      obtain ⟨-, held, manifest, pointer⟩ := Manifest.write_silent serves recorded silent
      have log := serves.noting.calls.replace_puts logged
      have course := Migration.runFrom_course converted
      obtain ⟨changes, recorded, migrated⟩ :=
        course.migrated serves.noting applies
          (apart.sublist ((List.sublist_append_left _ _).map _))
      obtain rfl : result.changed = changes := recorded
      have touches
          : Disk.Touches
              [app.settings.ambiguousLog, Manifest.pathOf app.settings.manifestDir timestamp,
                Manifest.pointerOf app.settings.manifestDir]
              (disk s₁.1) (disk later.1) :=
        ((log.touches.widen (by simp)).trans (manifest.touches.widen (by simp [manifestOf]))).trans
          (pointer.touches.widen (by simp))
      have spots : held.spot = (disk before.1).spot :=
        (funext (manifest.touches.grows.spot)).trans
          ((funext log.touches.grows.spot).trans (funext migrated.touches.grows.spot))
      refine ⟨result, migrated.undoable touches apart,
        pointer.touches.read manifest.read ?_, pointer.read⟩
      rw [spots, List.map_singleton, List.mem_singleton]
      rw [outputs, List.map_append] at apart
      have others := (List.nodup_append.mp apart).2.1
      simp only [List.map_cons, List.nodup_cons, List.mem_cons] at others
      exact fun same => others.2.1 (.inl same)

/-- What was recorded of a project can be rolled back. -/
theorem Reversible.rollsBack {before after : Disk} {result : RunResult}
    (reversible : app.Reversible timestamp templates before)
    (recorded : Recorded app timestamp templates before after result)
    : RollsBack app.settings.manifestDir templates before after := by
  have undoable := recorded.undoable
  have entries := entries_sanitized reversible
    (fun change member => undoable.listed.subset (List.mem_map_of_mem member))
    fun change member => (undoable.safe change member).candidate
  have resolves := @Manifest.resolve_latest _ _ _ [] false reversible.stamp recorded.pointer
  have loads := @Manifest.load_eq _ [] false _ _ recorded.manifest
  have apart := reversible.apart.sublist ((List.sublist_append_left _ _).map _)
  obtain ⟨rolled, restored, ran, undoes⟩ := undoable.undoes apart entries loads
  refine ⟨_, _, rolled, restored, resolves, loads, ran, fun other directory latest => ?_, undoes⟩
  rw [← directory] at resolves ran
  rw [← latest] at resolves
  exact rollback_ends resolves ran

/-- A migration that applies its changes, and writes its artifacts, can be rolled back wherever its
run stopped. Its files may fail to be read, copied or written.
-/
theorem migrate_rollsBack (serves : workspace.Serves disk) (applies : app.invocation.apply = true)
    {before after : σ} (reversible : app.Reversible timestamp templates (disk before))
    (ran : ((migrate workspace.noting app timestamp).play (before, [])).2 = (after, []))
    : RollsBack app.settings.manifestDir templates (disk before) (disk after) := by
  have ends := @migrate_course _ workspace.noting app timestamp (before, [])
  have course : MigrateCourse workspace.noting app timestamp (before, []) (after, []) := by
    have ended := ends {}
    rwa [show ((migrate workspace.noting app timestamp).run.run {} (before, [])).2 = _ from ran]
      at ended
  cases course with
  | elsewhere looked other =>
      obtain ⟨-, -, found⟩ := serves.toSees.kind_silent looked rfl
      exact absurd ((Prod.mk.inj found).1.symm.trans reversible.views) other
  | unlisted looked listed =>
      obtain ⟨no, -⟩ := reversible.found serves looked listed rfl
      cases no
  | empty looked listed =>
      obtain ⟨none, -⟩ := reversible.found serves looked listed rfl
      cases none
      exact absurd rfl reversible.nonempty
  | passed looked listed passes =>
      obtain ⟨named, same⟩ := reversible.found serves looked listed (passes.silent serves rfl)
      cases named
      have apart := reversible.apart
      rw [← same] at apart
      obtain ⟨result, recorded⟩ := passes.recorded serves applies rfl apart
      rw [same] at recorded
      exact reversible.rollsBack recorded

/-- A program that applies all rules to the project, with backups under a suffix. -/
def applying (backupSuffix : Bytes) : App where
  invocation := { plainInvocation with apply := true }
  settings := ({ backupSuffix } : Settings).resolve "/p"
  rules := Rule.builtIn

/-- The template of the project. -/
def projectTemplate : Bytes := "/p/resources/views/a.blade.php"

/-- The project after its migration with backups under a suffix, and the notes of that. -/
def appliedProject (backupSuffix : Bytes) : Disk × List Bytes :=
  ((migrate (Disk.workspace "/p" false).noting (applying backupSuffix) "T").play (project, [])).2

theorem migrate_rollsBack_project
    : (applying ".bak").Reversible "T" [projectTemplate] project
      ∧ (appliedProject ".bak").2 = []
      ∧ (appliedProject ".bak").1.read projectTemplate = .ok "csrf_field()"
      ∧ RollsBack "/p" [projectTemplate] project (appliedProject ".bak").1 := by
  have views : project.IsDirectory "/p/resources/views" := by unfold Disk.IsDirectory; decide +kernel
  have listed
      : Templates.resolve (Disk.workspace [] false) "/p/resources/views" ".blade.php" project
        = (.ok [projectTemplate], project) := Prod.ext (by decide +kernel) rfl
  have reversible : (applying ".bak").Reversible "T" [projectTemplate] project :=
    ⟨views, listed, by simp, by decide +kernel, by decide +kernel, by decide +kernel, by decide⟩
  have silent : (appliedProject ".bak").2 = [] := by decide +kernel
  exact ⟨reversible, silent, by decide +kernel,
    @migrate_rollsBack Disk id (Disk.workspace "/p" false) (applying ".bak") "T" [projectTemplate]
      (Disk.workspace_serves "/p" false) rfl project (appliedProject ".bak").1 reversible
      (Prod.ext rfl silent)⟩

/-- A manifest is a text of characters. The backup under a suffix that is none is not found again,
and the template stays as the migration left it.
-/
theorem not_rollsBack_project
    : (applying [0xff]).invocation.apply = true
      ∧ project.IsDirectory (applying [0xff]).settings.viewsDir
      ∧ Templates.resolve (Disk.workspace [] false) (applying [0xff]).settings.viewsDir
          (applying [0xff]).settings.extension project
        = (.ok [projectTemplate], project)
      ∧ (((applying [0xff]).outputs "T" [projectTemplate]).map project.spot).Nodup
      ∧ Utf8.Valid projectTemplate
      ∧ isStamp "T" = true
      ∧ (appliedProject [0xff]).2 = []
      ∧ ¬ RollsBack (applying [0xff]).settings.manifestDir [projectTemplate] project
          (appliedProject [0xff]).1 := by
  refine ⟨rfl, by unfold Disk.IsDirectory; decide +kernel, Prod.ext (by decide +kernel) rfl,
    by decide +kernel, by decide +kernel, by decide, by decide +kernel, ?_⟩
  rintro ⟨path, manifest, result, restored, resolves, -, ran, -, undoes⟩
  have path
      : (Manifest.resolve (Disk.workspace [] false) (applying [0xff]).settings.manifestDir
          Manifest.latestReference (appliedProject [0xff]).1).1
        = .ok "/p/convert_manifest_T.json" := by decide +kernel
  rw [resolves] at path
  cases path
  have left
      : (Rollback.run (Disk.workspace [] false) "/p/convert_manifest_T.json"
          (appliedProject [0xff]).1).2.contentAt projectTemplate
        ≠ project.contentAt projectTemplate := by decide +kernel
  rw [ran] at left
  exact left (undoes.undone _ (.head _))

end App

end FormMigrate
