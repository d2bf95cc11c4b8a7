import FormMigrate.Proofs.File.Service
import FormMigrate.Proofs.Run.Course

/-! Runs in a workspace that sees a disk. -/

namespace FormMigrate.Migration

variable {σ : Type} {disk : σ → Disk} {workspace : Workspace (StateM σ)} {options : RunOptions}
  {result : RunResult} {path : Bytes} {files : List Bytes} {s later : σ}
  {outcome : RunResult × Option (RunError FileFault)}

theorem Reads.sees (sees : workspace.Sees disk) {text : Bytes}
    (reads : Reads workspace.store path s text later)
    : disk later = disk s ∧ (disk s).read path = .ok text := by
  obtain ⟨s₁, asked, read⟩ := reads
  have first := sees.isCancelled_run asked
  obtain ⟨second, held⟩ := sees.read_run read
  exact ⟨second.trans first, first ▸ held text rfl⟩

theorem StepCourse.quiet (sees : workspace.Sees disk) (shows : options.apply = false)
    (course : StepCourse workspace.store options result path s outcome later)
    : disk later = disk s := by
  cases course with
  | cancelled asked => exact sees.isCancelled_run asked
  | unread asked read => exact (sees.read_run read).1.trans (sees.isCancelled_run asked)
  | unchanged reads | shown reads => exact (reads.sees sees).1
  | applied _ _ applies => cases applies.symm.trans shows

/-- A preview changes no file. -/
theorem RunCourse.quiet (sees : workspace.Sees disk) (shows : options.apply = false)
    (course : RunCourse workspace.store options result files s outcome later)
    : disk later = disk s := by
  induction course with
  | done => rfl
  | stopped first => exact first.quiet sees shows
  | onward first _ ih => exact ih.trans (first.quiet sees shows)

end FormMigrate.Migration
