import FormMigrate.Proofs.Run.Backup

/-! The courses that a run can take at a file, by the calls that it makes and their answers,
whatever keeps the files.
-/

namespace FormMigrate.Migration

variable {σ Fault : Type} (store : Store (StateM σ) Fault) (options : RunOptions)

--------------------------------------------------------------------------------
-- Backups
--------------------------------------------------------------------------------

/-- How a backup is made sure of: a taken path is read, and the text is copied unless it is there
already.
-/
inductive BackUpCourse (path text : Bytes) (s : σ) : Except (RunError Fault) Bytes → σ → Prop
  | unread {s₁ s₂ fault} (taken : store.isPresent (options.plainBackup path) s = (true, s₁))
    (read : store.read (options.plainBackup path) s₁ = (.error fault, s₂))
    : BackUpCourse path text s (.error (.readBackup (options.plainBackup path) fault)) s₂
  | reused {s₁ s₂} (taken : store.isPresent (options.plainBackup path) s = (true, s₁))
    (read : store.read (options.plainBackup path) s₁ = (.ok text, s₂))
    : BackUpCourse path text s (.ok (options.plainBackup path)) s₂
  | beside {s₁ s₂ other outcome s₃}
    (taken : store.isPresent (options.plainBackup path) s = (true, s₁))
    (read : store.read (options.plainBackup path) s₁ = (.ok other, s₂)) (differs : other ≠ text)
    (copied : copyTo store path (options.stampedBackup path) s₂ = (outcome, s₃))
    : BackUpCourse path text s outcome s₃
  | plain {s₁ outcome s₂} (free : store.isPresent (options.plainBackup path) s = (false, s₁))
    (copied : copyTo store path (options.plainBackup path) s₁ = (outcome, s₂))
    : BackUpCourse path text s outcome s₂

variable {store options}

theorem copyTo_course {path target : Bytes} {s later : σ} {outcome : Except (RunError Fault) Bytes}
    (ran : copyTo store path target s = (outcome, later))
    : (outcome = .ok target ∧ store.copy path target s = (.ok (), later))
      ∨ ∃ fault,
          outcome = .error (.backUp path target fault)
          ∧ store.copy path target s = (.error fault, later) := by
  unfold copyTo at ran
  obtain ⟨answer, after, copied, ran⟩ := exists_of_bind_run ran
  cases answer with
  | ok done =>
      cases ran
      exact .inl ⟨rfl, copied⟩
  | error fault =>
      cases ran
      exact .inr ⟨fault, rfl, copied⟩

theorem backUp_course {path text : Bytes} {s later : σ} {outcome : Except (RunError Fault) Bytes}
    (ran : backUp store options path text s = (outcome, later))
    : BackUpCourse store options path text s outcome later := by
  rw [backUp_eq] at ran
  obtain ⟨present, s₁, asked, ran⟩ := exists_of_bind_run ran
  cases present with
  | false => exact .plain asked ran
  | true =>
      obtain ⟨answer, s₂, read, ran⟩ := exists_of_bind_run ran
      cases answer with
      | error fault =>
          cases ran
          exact .unread asked read
      | ok existing =>
          dsimp only at ran
          by_cases same : existing = text
          · subst same
            rw [if_pos (beq_self_eq_true existing)] at ran
            cases ran
            exact .reused asked read
          · rw [if_neg fun same' => same (beq_iff_eq.mp same')] at ran
            exact .beside asked read same ran

--------------------------------------------------------------------------------
-- Files
--------------------------------------------------------------------------------

/-- A result after a file was converted. -/
def scanned (result : RunResult) (path : Bytes) (records : List Record) : RunResult :=
  { result with
    files := result.files ++ [path]
    ambiguous := result.ambiguous.merge ⟨records⟩ }

variable (store options)

/-- A file's text as a run that goes on reads it. -/
def Reads (path : Bytes) (s : σ) (text : Bytes) (later : σ) : Prop :=
  ∃ s₁, store.isCancelled s = (false, s₁) ∧ store.read path s₁ = (.ok text, later)

/-- How a file is replaced: first the backup, then the write. -/
inductive ReplaceCourse (result : RunResult) (path before after : Bytes) (s : σ)
    : RunResult × Option (RunError Fault) → σ → Prop
  | unbacked {e s₁} (backedUp : BackUpCourse store options path before s (.error e) s₁)
    : ReplaceCourse result path before after s (result, some e) s₁
  | unwritten {backup s₁ fault s₂}
    (backedUp : BackUpCourse store options path before s (.ok backup) s₁)
    (written : store.write path after s₁ = (.error fault, s₂))
    : ReplaceCourse result path before after s (result, some (.write path fault)) s₂
  | replaced {backup s₁ s₂} (backedUp : BackUpCourse store options path before s (.ok backup) s₁)
    (written : store.write path after s₁ = (.ok (), s₂))
    : ReplaceCourse result path before after s
        ({ result with
            changed := result.changed ++ [⟨path, before, after, backup⟩]
            events := result.events ++ [.replaced path backup] }, none)
        s₂

/-- What a run does at a file: nothing once it is cancelled, and nothing to a file that cannot be
read or that the rules leave alone. A changed text is shown or replaces the file.
-/
inductive StepCourse (result : RunResult) (path : Bytes) (s : σ)
    : RunResult × Option (RunError Fault) → σ → Prop
  | cancelled {s₁} (asked : store.isCancelled s = (true, s₁))
    : StepCourse result path s (result, some .cancelled) s₁
  | unread {s₁ fault s₂} (asked : store.isCancelled s = (false, s₁))
    (read : store.read path s₁ = (.error fault, s₂))
    : StepCourse result path s (result, some (.read path fault)) s₂
  | unchanged {before s₁} (reads : Reads store path s before s₁)
    (same : (Rule.convertAll options.rules path before).text = before)
    : StepCourse result path s
        ({ scanned result path (Rule.convertAll options.rules path before).records with
            events :=
              result.events
              ++ [.unchanged path (Rule.convertAll options.rules path before).records.length] },
          none)
        s₁
  | shown {before s₁} (reads : Reads store path s before s₁)
    (differs : (Rule.convertAll options.rules path before).text ≠ before)
    (shows : options.apply = false)
    : StepCourse result path s
        ({ scanned result path (Rule.convertAll options.rules path before).records with
            changed :=
              result.changed
              ++ [⟨path, before, (Rule.convertAll options.rules path before).text, []⟩] },
          none)
        s₁
  | applied {before s₁ outcome s₂} (reads : Reads store path s before s₁)
    (differs : (Rule.convertAll options.rules path before).text ≠ before)
    (applies : options.apply = true)
    (replaces
      : ReplaceCourse store options
          (scanned result path (Rule.convertAll options.rules path before).records) path before
          (Rule.convertAll options.rules path before).text s₁ outcome s₂)
    : StepCourse result path s outcome s₂

variable {store options}

theorem replace_course {result : RunResult} {path before after : Bytes} {s later : σ}
    {outcome : RunResult × Option (RunError Fault)}
    (ran : replace store options result path before after s = (outcome, later))
    : ReplaceCourse store options result path before after s outcome later := by
  unfold replace at ran
  obtain ⟨answer, s₁, backedUp, ran⟩ := exists_of_bind_run ran
  cases answer with
  | error e =>
      cases ran
      exact .unbacked (backUp_course backedUp)
  | ok backup =>
      obtain ⟨answer, s₂, written, ran⟩ := exists_of_bind_run ran
      cases answer with
      | error fault =>
          cases ran
          exact .unwritten (backUp_course backedUp) written
      | ok done =>
          cases ran
          exact .replaced (backUp_course backedUp) written

theorem step_course {result : RunResult} {path : Bytes} {s later : σ}
    {outcome : RunResult × Option (RunError Fault)}
    (ran : step store options result path s = (outcome, later))
    : StepCourse store options result path s outcome later := by
  unfold step at ran
  obtain ⟨cancelled, s₁, asked, ran⟩ := exists_of_bind_run ran
  cases cancelled with
  | true =>
      cases ran
      exact .cancelled asked
  | false =>
      obtain ⟨answer, s₂, read, ran⟩ := exists_of_bind_run ran
      cases answer with
      | error fault =>
          cases ran
          exact .unread asked read
      | ok before =>
          dsimp only at ran
          by_cases same : (Rule.convertAll options.rules path before).text = before
          · rw [if_pos (beq_iff_eq.mpr same)] at ran
            cases ran
            exact .unchanged ⟨s₁, asked, read⟩ same
          · rw [if_neg fun same' => same (beq_iff_eq.mp same')] at ran
            cases applies : options.apply with
            | false =>
                rw [applies, if_neg Bool.false_ne_true] at ran
                cases ran
                exact .shown ⟨s₁, asked, read⟩ same applies
            | true =>
                rw [applies, if_pos rfl] at ran
                exact .applied ⟨s₁, asked, read⟩ same applies (replace_course ran)

--------------------------------------------------------------------------------
-- Runs
--------------------------------------------------------------------------------

variable (store options)

/-- A run comes to its files in order, until one of them stops it. -/
inductive RunCourse
    : RunResult → List Bytes → σ → RunResult × Option (RunError Fault) → σ → Prop
  | done {result s} : RunCourse result [] s (result, none) s
  | stopped {result path rest s next e s₁}
    (first : StepCourse store options result path s (next, some e) s₁)
    : RunCourse result (path :: rest) s (next, some e) s₁
  | onward {result path rest s next s₁ outcome s₂}
    (first : StepCourse store options result path s (next, none) s₁)
    (behind : RunCourse next rest s₁ outcome s₂)
    : RunCourse result (path :: rest) s outcome s₂

variable {store options}

theorem runFrom_course {result : RunResult} {paths : List Bytes} {s later : σ}
    {outcome : RunResult × Option (RunError Fault)}
    (ran : runFrom store options result paths s = (outcome, later))
    : RunCourse store options result paths s outcome later := by
  induction paths generalizing result s with
  | nil =>
      cases ran
      exact .done
  | cons path rest ih =>
      rw [runFrom] at ran
      obtain ⟨⟨next, stopped⟩, s₁, stepped, ran⟩ := exists_of_bind_run ran
      cases stopped with
      | some e =>
          cases ran
          exact .stopped (step_course stepped)
      | none => exact .onward (step_course stepped) (ih ran)

--------------------------------------------------------------------------------
-- What no call changes
--------------------------------------------------------------------------------

/-- No call of a store changes a part of its state. -/
structure Spares {ω : Type} (store : Store (StateM σ) Fault) (part : σ → ω) : Prop where
  read : ∀ path, OnlyLooks part (store.read path)
  isPresent : ∀ path, OnlyLooks part (store.isPresent path)
  copy : ∀ source target, OnlyLooks part (store.copy source target)
  write : ∀ path content, OnlyLooks part (store.write path content)
  isCancelled : OnlyLooks part store.isCancelled

section

variable {ω : Type} {part : σ → ω} {s later : σ}

theorem BackUpCourse.spares (spares : Spares store part) {path text : Bytes}
    {outcome : Except (RunError Fault) Bytes}
    (course : BackUpCourse store options path text s outcome later)
    : part later = part s := by
  have copies {target : Bytes} {s : σ} (copied : copyTo store path target s = (outcome, later))
      : part later = part s := by
    rcases copyTo_course copied with ⟨-, copied⟩ | ⟨fault, -, copied⟩ <;>
      exact (spares.copy _ _).run copied
  cases course with
  | unread taken read | reused taken read =>
      exact ((spares.read _).run read).trans ((spares.isPresent _).run taken)
  | beside taken read _ copied =>
      exact (copies copied).trans
        (((spares.read _).run read).trans ((spares.isPresent _).run taken))
  | plain free copied => exact (copies copied).trans ((spares.isPresent _).run free)

theorem ReplaceCourse.spares (spares : Spares store part) {result : RunResult}
    {path before after : Bytes} {outcome : RunResult × Option (RunError Fault)}
    (course : ReplaceCourse store options result path before after s outcome later)
    : part later = part s := by
  cases course with
  | unbacked backedUp => exact backedUp.spares spares
  | unwritten backedUp written | replaced backedUp written =>
      exact ((spares.write _ _).run written).trans (backedUp.spares spares)

theorem Reads.spares (spares : Spares store part) {path text : Bytes}
    (reads : Reads store path s text later)
    : part later = part s := by
  obtain ⟨s₁, asked, read⟩ := reads
  exact ((spares.read _).run read).trans (spares.isCancelled.run asked)

theorem StepCourse.spares (spares : Spares store part) {result : RunResult} {path : Bytes}
    {outcome : RunResult × Option (RunError Fault)}
    (course : StepCourse store options result path s outcome later)
    : part later = part s := by
  cases course with
  | cancelled asked => exact spares.isCancelled.run asked
  | unread asked read =>
      exact ((spares.read _).run read).trans (spares.isCancelled.run asked)
  | unchanged reads | shown reads => exact reads.spares spares
  | applied reads _ _ replaces => exact (replaces.spares spares).trans (reads.spares spares)

/-- A run changes no part of the state that the calls of its store spare. -/
theorem RunCourse.spares (spares : Spares store part) {result : RunResult} {paths : List Bytes}
    {outcome : RunResult × Option (RunError Fault)}
    (course : RunCourse store options result paths s outcome later)
    : part later = part s := by
  induction course with
  | done => rfl
  | stopped first => exact first.spares spares
  | onward first _ ih => exact ih.trans (first.spares spares)

end

end FormMigrate.Migration
