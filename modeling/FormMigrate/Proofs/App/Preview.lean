import FormMigrate.Proofs.App.Pass
import FormMigrate.Proofs.App.Session
import FormMigrate.Proofs.Run.Service

/-! A preview touches nothing but the ambiguity log, however the program is configured and whichever
of its calls fail. Without valid settings and a directory of views it touches nothing at all.
-/

namespace FormMigrate

variable {σ α β : Type} {disk : σ → Disk} {workspace : Workspace (StateM σ)}
  {decoder : ConfigDecoder}

--------------------------------------------------------------------------------
-- Statement
--------------------------------------------------------------------------------

/-- Whether a directory stands under a path. -/
def Disk.IsDirectory (disk : Disk) (path : Bytes) : Prop :=
  (disk.stat "stat" path).map Node.kind = .ok .directory

/-- What writing a log leaves of a disk. Only the log may be new or have changed, and directories on
the way to it may be new. If it cannot be written and the system then refuses to remove the
temporary file for it, which the program makes nothing of, that file is all that is new.
-/
def LogLeaves (calls : FileCalls (StateM σ)) (disk : σ → Disk) (log : Bytes) (before after : Disk)
    : Prop :=
  Disk.Alters log before after ∨ calls.Strands disk log before after

/-- Where files can be removed, only the log may be new or have changed. -/
theorem LogLeaves.alters {calls : FileCalls (StateM σ)} {log : Bytes} {before after : Disk}
    (left : LogLeaves calls disk log before after) (removes : calls.Removes disk)
    : Disk.Alters log before after :=
  left.resolve_right removes.not_strands

theorem ConfigFile.load_looks (sees : workspace.Sees disk) (format : ConfigFormat)
    (path root : Bytes) (environment : Environment)
    : OnlyLooks disk (load workspace format path root environment decoder) := by
  refine OnlyLooks.bind (fun s => (sees.read path s).1) fun read => ?_
  cases read with
  | ok content => exact .pure _
  | error fault => cases format <;> exact .pure _

theorem Templates.resolve_looks (sees : workspace.Sees disk) (path extension : Bytes)
    : OnlyLooks disk (resolve workspace path extension) := by
  refine OnlyLooks.bind (fun s => (sees.kind path s).1) fun kind => ?_
  split
  · exact .pure _
  · unfold find
    split
    · exact .pure _
    · refine OnlyLooks.bind (fun s => (sees.walk path s).1) fun visits => ?_
      cases visits.foldlM (visit extension) [] <;> exact .pure _
  · split <;> exact .pure _

theorem Migration.run_looks (sees : workspace.Sees disk) {options : RunOptions}
    (shows : options.apply = false) (files : List Bytes)
    : OnlyLooks disk (run workspace.store options files) := by
  intro s
  rcases ran : run workspace.store options files s with ⟨outcome, later⟩
  exact (runFrom_course ran).quiet sees shows

--------------------------------------------------------------------------------
-- Preparation
--------------------------------------------------------------------------------

namespace App

open Session

variable {app : App} {timestamp : Bytes} {s : σ}

/-- A pass of a preview writes its ambiguity log only, whether or not it can. -/
theorem PassCourse.leaves {files : List Bytes} {later : σ} (sees : workspace.Sees disk)
    (serves : workspace.calls.Serves disk) (previews : app.invocation.apply = false)
    (course : PassCourse workspace app timestamp files s later)
    : LogLeaves workspace.calls disk app.settings.ambiguousLog (disk s) (disk later) := by
  have leaves {s₁ s₂ outcome content logged}
      (converted
        : Migration.run workspace.store (app.runOptions timestamp) files s = (outcome, s₁))
      (logs : workspace.replace app.settings.ambiguousLog content s₁ = (logged, s₂))
      : LogLeaves workspace.calls disk app.settings.ambiguousLog (disk s) (disk s₂) := by
    have shows : (app.runOptions timestamp).apply = false := previews
    have looked := Migration.run_looks sees shows files
    rw [← looked.run converted]
    exact (serves.replace_leaves logs).alters
  cases course with
  | unlogged converted logged | shown _ converted logged => exact leaves converted logged
  | applied applies => cases applies.symm.trans previews

/-- A preview changes nothing unless its views are there. -/
theorem MigrateCourse.leaves {later : σ} (sees : workspace.Sees disk)
    (serves : workspace.calls.Serves disk) (previews : app.invocation.apply = false)
    (course : MigrateCourse workspace app timestamp s later)
    : (¬ (disk s).IsDirectory app.settings.viewsDir → disk later = disk s)
      ∧ LogLeaves workspace.calls disk app.settings.ambiguousLog (disk s) (disk later) := by
  have still {s' : σ} (same : disk s' = disk s)
      : (¬ (disk s).IsDirectory app.settings.viewsDir → disk s' = disk s)
        ∧ LogLeaves workspace.calls disk app.settings.ambiguousLog (disk s) (disk s') :=
    ⟨fun _ => same, .inl (same ▸ .refl _ _)⟩
  have views := sees.kind app.settings.viewsDir s
  have resolves := Templates.resolve_looks sees app.settings.viewsDir app.settings.extension
  cases course with
  | elsewhere looked =>
      rw [looked] at views
      exact still views.1
  | unlisted looked listed | empty looked listed =>
      rw [looked] at views
      exact still ((resolves.run listed).trans views.1)
  | passed looked listed passes =>
      rw [looked] at views
      have same := (resolves.run listed).trans views.1
      exact ⟨fun missing => absurd (views.2 _ rfl) missing,
        same ▸ passes.leaves sees serves previews⟩

--------------------------------------------------------------------------------
-- Whole programs
--------------------------------------------------------------------------------

/-- A project with one template, in the directory that the program starts in. -/
def project : Disk where
  nodes := [
    (["p"], .directory 0o755),
    (["p", "resources"], .directory 0o755),
    (["p", "resources", "views"], .directory 0o755),
    (["p", "resources", "views", "a.blade.php"], .file 0o644 "Form::token()")]
  workingDirectory := ["p"]

/-- What no arguments at all ask for. -/
def plainInvocation : Invocation where
  root := "."
  logFormat := "text"
  logLevel := "warn"

/-- What a preview of the project without arguments leaves in a workspace. -/
def previewed (workspace : Workspace (StateM Disk)) : Disk :=
  ((execute workspace {} "T" []).play project).2

/-- What becomes of the program without arguments in a workspace. -/
def prepared (workspace : Workspace (StateM Disk)) : Except ProgramFailure App :=
  ((create workspace {} plainInvocation).play project).1.1

end App

end FormMigrate
