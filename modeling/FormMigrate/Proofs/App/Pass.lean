import FormMigrate.App.Run
import FormMigrate.Proofs.App.Session

/-! The stages of a migration: looking for templates, and the pass over those that were found. -/

namespace FormMigrate.App

open Session

variable {m : Type → Type} [Monad m]

/-- What follows the artifacts of a pass: its failure or its summary. -/
def conclude (app : App) (result : RunResult) (stopped : Option ProgramFailure)
    : Session m Unit := do
  match stopped with
  | some failure => throw failure
  | none =>
      tell (app.console.summary result)
      tell (app.console.samplesReport result app.invocation.apply)
      note .info "Migration pass finished." (totals result)

/-- The pass of a migration over its templates. -/
def pass (workspace : Workspace m) (app : App) (timestamp : Bytes) (files : List Bytes)
    : Session m Unit := do
  note .info "Templates found." [("count", .count files.length)]
  let (result, stopped) ← convert workspace app timestamp files
  tell (app.console.files result app.invocation.apply)
  writeLog workspace app result stopped
  if app.invocation.apply then do
    writeManifest workspace app timestamp result stopped
    conclude app result stopped
  else conclude app result stopped

theorem migrate_eq (workspace : Workspace m) (app : App) (timestamp : Bytes)
    : migrate workspace app timestamp
      = (do
          match ← access (workspace.kind app.settings.viewsDir) with
          | .ok .directory =>
              tell (app.console.banner app.settings.viewsDir app.invocation.apply)
              let files ← templates workspace app
              if files.isEmpty then
                tell (Console.noFiles app.settings.viewsDir app.settings.extension)
              else pass workspace app timestamp files
          | _ =>
              throw (.noTarget
                ("views directory not found at expected path: " ++ app.settings.viewsDir))) :=
  rfl

--------------------------------------------------------------------------------
-- Sessions that only tell
--------------------------------------------------------------------------------

variable {σ ω : Type} {part : σ → ω}

theorem conclude_quiet (app : App) (result : RunResult) (stopped : Option ProgramFailure)
    : Session.Quiet part (conclude app result stopped : Session (StateM σ) Unit) := by
  cases stopped with
  | some failure => exact .throw _
  | none =>
      exact Quiet.bind (.tell _) fun _ => Quiet.bind (.tell _) fun _ => .note _ _ _

--------------------------------------------------------------------------------
-- Courses
--------------------------------------------------------------------------------

section

variable (workspace : Workspace (StateM σ)) (app : App) (timestamp : Bytes)

/-- What a pass over templates does: it converts them, then writes its log, and then the manifest if
it applies its changes.
-/
inductive PassCourse (files : List Bytes) (s : σ) : σ → Prop
  | unlogged {result stopped s₁ fault s₂}
    (converted
      : Migration.run workspace.store (app.runOptions timestamp) files s = ((result, stopped), s₁))
    (logged
      : workspace.replace app.settings.ambiguousLog result.ambiguous.encode s₁ = (.error fault, s₂))
    : PassCourse files s s₂
  | shown {result stopped s₁ s₂} (shows : app.invocation.apply = false)
    (converted
      : Migration.run workspace.store (app.runOptions timestamp) files s = ((result, stopped), s₁))
    (logged : workspace.replace app.settings.ambiguousLog result.ambiguous.encode s₁ = (.ok (), s₂))
    : PassCourse files s s₂
  | applied {result stopped s₁ s₂ outcome s₃} (applies : app.invocation.apply = true)
    (converted
      : Migration.run workspace.store (app.runOptions timestamp) files s = ((result, stopped), s₁))
    (logged : workspace.replace app.settings.ambiguousLog result.ambiguous.encode s₁ = (.ok (), s₂))
    (recorded
      : Manifest.write workspace app.settings.manifestDir (app.manifestOf timestamp result) s₂
        = (outcome, s₃))
    : PassCourse files s s₃

/-- What a migration does: it looks for its views and for the templates there, and passes over those
that it finds.
-/
inductive MigrateCourse (s : σ) : σ → Prop
  | elsewhere {kind s₁} (looked : workspace.kind app.settings.viewsDir s = (kind, s₁))
    (other : kind ≠ .ok .directory)
    : MigrateCourse s s₁
  | unlisted {s₁ e s₂} (looked : workspace.kind app.settings.viewsDir s = (.ok .directory, s₁))
    (listed
      : Templates.resolve workspace app.settings.viewsDir app.settings.extension s₁
        = (.error e, s₂))
    : MigrateCourse s s₂
  | empty {s₁ s₂} (looked : workspace.kind app.settings.viewsDir s = (.ok .directory, s₁))
    (listed
      : Templates.resolve workspace app.settings.viewsDir app.settings.extension s₁ = (.ok [], s₂))
    : MigrateCourse s s₂
  | passed {s₁ files s₂ s₃} (looked : workspace.kind app.settings.viewsDir s = (.ok .directory, s₁))
    (listed
      : Templates.resolve workspace app.settings.viewsDir app.settings.extension s₁
        = (.ok files, s₂))
    (passes : PassCourse workspace app timestamp files s₂ s₃)
    : MigrateCourse s s₃

end

variable {workspace : Workspace (StateM σ)} {app : App} {timestamp : Bytes}

theorem convert_course (files : List Bytes) (s : σ)
    : (convert workspace app timestamp files).Ends s fun outcome s' =>
        ∃ result stopped,
          outcome = .ok (result, stopped.map ProgramFailure.ofRun)
          ∧ Migration.run workspace.store (app.runOptions timestamp) files s
            = ((result, stopped), s') := by
  rcases ran : Migration.run workspace.store (app.runOptions timestamp) files s
    with ⟨⟨result, stopped⟩, s'⟩
  refine .note_bind (.access_bind ran (.noteAll_bind ?_))
  dsimp only
  split
  · exact .note_bind (.pure ⟨result, stopped, rfl, rfl⟩)
  · exact .pure ⟨result, stopped, rfl, rfl⟩

/-- A session that writes its log fails if and only if the log cannot be written. -/
theorem writeLog_course (result : RunResult) (stopped : Option ProgramFailure) (s : σ)
    : (writeLog workspace app result stopped).Ends s fun outcome s' =>
        ∃ logged,
          workspace.replace app.settings.ambiguousLog result.ambiguous.encode s = (logged, s')
          ∧ outcome.isOk = logged.isOk := by
  rcases logged : workspace.replace app.settings.ambiguousLog result.ambiguous.encode s
    with ⟨fault | done, s'⟩
  · refine .access_bind logged ?_
    cases stopped <;> exact .throw ⟨_, rfl, rfl⟩
  · exact .access_bind logged (.pure ⟨_, rfl, rfl⟩)

theorem writeManifest_course (result : RunResult) (stopped : Option ProgramFailure) (s : σ)
    : (writeManifest workspace app timestamp result stopped).Ends s fun _ s' =>
        ∃ recorded,
          Manifest.write workspace app.settings.manifestDir (app.manifestOf timestamp result) s
          = (recorded, s') := by
  rcases recorded
    : Manifest.write workspace app.settings.manifestDir (app.manifestOf timestamp result) s
    with ⟨e | path, s'⟩
  · refine .access_bind recorded ?_
    cases stopped <;> exact .throw ⟨_, rfl⟩
  · exact .access_bind recorded (.note_bind (.tell ⟨_, rfl⟩))

theorem pass_course (files : List Bytes) (s : σ)
    : (pass workspace app timestamp files).Ends s fun _ s' =>
        PassCourse workspace app timestamp files s s' := by
  refine .note_bind ((convert_course files s).bind (fun pair s₁ converted => ?_)
    fun failure s₁ converted => ?_)
  · obtain ⟨result, stopped, same, converted⟩ := converted
    cases same
    refine .tell_bind ((writeLog_course result _ s₁).bind (fun _ s₂ logged => ?_)
      fun failure s₂ logged => ?_)
    · obtain ⟨_ | _, logged, done⟩ := logged
      · cases done
      · -- What follows the artifacts changes no state.
        have quiet (s : σ) := @conclude_quiet σ σ id app result (stopped.map .ofRun) s
        split
        · rename_i applies
          refine (writeManifest_course result _ s₂).bind (fun _ s₃ recorded => ?_)
            fun failure s₃ recorded => ?_
          · obtain ⟨outcome, recorded⟩ := recorded
            refine (quiet s₃).mono fun _ s₄ same => ?_
            rw [show s₄ = s₃ from same]
            exact .applied applies converted logged recorded
          · obtain ⟨outcome, recorded⟩ := recorded
            exact .applied applies converted logged recorded
        · rename_i shows
          refine (quiet s₂).mono fun _ s₃ same => ?_
          rw [show s₃ = s₂ from same]
          exact .shown (by simpa using shows) converted logged
    · obtain ⟨_ | _, logged, done⟩ := logged
      · exact .unlogged converted logged
      · cases done
  · obtain ⟨result, stopped, same, -⟩ := converted
    cases same

theorem templates_course (s : σ)
    : (templates workspace app).Ends s fun outcome s' =>
        ∃ listed,
          Templates.resolve workspace app.settings.viewsDir app.settings.extension s = (listed, s')
          ∧ ∀ files, outcome = .ok files ↔ listed = .ok files := by
  rcases listed : Templates.resolve workspace app.settings.viewsDir app.settings.extension s
    with ⟨e | files, s'⟩
  · exact .note_bind (.note_bind (.access_bind listed (.throw ⟨_, rfl, by simp⟩)))
  · exact .note_bind (.note_bind (.access_bind listed (.pure ⟨_, rfl, by simp⟩)))

theorem migrate_course (s : σ)
    : (migrate workspace app timestamp).Ends s fun _ s' =>
        MigrateCourse workspace app timestamp s s' := by
  rw [migrate_eq]
  rcases looked : workspace.kind app.settings.viewsDir s with ⟨kind, s₁⟩
  refine .access_bind looked ?_
  split
  · refine .tell_bind ((templates_course s₁).bind (fun files s₂ listed => ?_)
      fun failure s₂ listed => ?_)
    · obtain ⟨outcome, listed, same⟩ := listed
      obtain rfl := (same files).mp rfl
      split
      · rename_i empty
        obtain rfl := List.isEmpty_iff.mp empty
        exact .tell (.empty looked listed)
      · exact (pass_course files s₂).mono fun _ _ passes => .passed looked listed passes
    · obtain ⟨e | files, listed, same⟩ := listed
      · exact .unlisted looked listed
      · cases (same files).mpr rfl
  · rename_i other
    exact .throw (.elsewhere looked other)

end FormMigrate.App
