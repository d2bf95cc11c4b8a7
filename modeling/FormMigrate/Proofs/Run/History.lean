import FormMigrate.Proofs.Run.Handling

/-! Histories of applied runs on the same files, with edits in between. A backup that a run recorded
keeps its text unless a later file is backed up under a stamped name that may have been taken for
it; nothing looks whether a stamped name is free.
-/

namespace FormMigrate

theorem FileMap.get?_erase (files : FileMap) (path other : Bytes)
    : (files.erase path).get? other = if other = path then none else files.get? other := by
  induction files with
  | nil => exact (ite_self none).symm
  | cons entry rest ih =>
      obtain ⟨p, content⟩ := entry
      rw [erase] at ih
      rw [erase, List.filter_cons, get?_cons]
      by_cases removed : p = path
      · subst removed
        rw [if_neg (by simp), ih]
        split <;> rfl
      · rw [if_pos (by simpa using removed), get?_cons, ih]
        by_cases found : other = p
        · subst found
          rw [if_pos rfl, if_pos rfl, if_neg removed]
        · rw [if_neg found, if_neg found]

namespace History

--------------------------------------------------------------------------------
-- Statement
--------------------------------------------------------------------------------

/-- A turn in a history: a file is edited or deleted, or files are migrated, whatever fails. -/
inductive Turn where
  | edit (path : Bytes) (content? : Option Bytes)
  | run (options : RunOptions) (disturbance : Disturbance) (paths : List Bytes)

/-- The files, and the changes that the runs so far have recorded. -/
structure Ledger where
  files : FileMap := []
  recorded : List Change := []

namespace Turn

/-- The options of an applied run. -/
def applied (options : RunOptions) : RunOptions := { options with apply := true }

/-- The ledger after a turn. -/
def play (ledger : Ledger) : Turn → Ledger
  | .edit path (some content) => { ledger with files := ledger.files.set path content }
  | .edit path none => { ledger with files := ledger.files.erase path }
  | .run options disturbance paths =>
      let ((result, _), memory) :=
        Migration.run (Memory.store disturbance) (applied options) paths ⟨ledger.files, []⟩
      ⟨memory.files, ledger.recorded ++ result.changed⟩

/-- The files that a turn comes to, with the options of the run. -/
def visits : Turn → List (RunOptions × Bytes)
  | .edit _ _ => []
  | .run options _ paths => paths.map (applied options, ·)

/-- A turn that only edits or migrates templates, none of which is backed up over another. -/
def Within (templates : List Bytes) : Turn → Prop
  | .edit path _ => path ∈ templates
  | .run options _ paths =>
      paths ⊆ templates ∧ ∀ path ∈ templates, ∀ other ∈ templates, path ∉ options.backups other

instance (templates : List Bytes) : (turn : Turn) → Decidable (turn.Within templates)
  | .edit path _ => inferInstanceAs (Decidable (path ∈ templates))
  | .run options _ paths =>
      inferInstanceAs (Decidable (paths ⊆ templates
        ∧ ∀ path ∈ templates, ∀ other ∈ templates, path ∉ options.backups other))

end Turn

/-- The ledger after a history. -/
def play (ledger : Ledger) (turns : List Turn) : Ledger := turns.foldl Turn.play ledger

/-- Every recorded change has its old text in its backup. -/
def Restorable (ledger : Ledger) : Prop :=
  ∀ change ∈ ledger.recorded, ledger.files.get? change.backup = some change.before

instance (ledger : Ledger) : Decidable (Restorable ledger) :=
  inferInstanceAs (Decidable (∀ change ∈ ledger.recorded, _ = _))

/-- Two visits to files, the later one of which cannot be stamped over a backup of the earlier one.
-/
def Fresh (earlier later : RunOptions × Bytes) : Prop :=
  later.1.stampedBackup later.2 ∉ earlier.1.backups earlier.2

instance (earlier later : RunOptions × Bytes) : Decidable (Fresh earlier later) :=
  inferInstanceAs (Decidable (¬ later.1.stampedBackup later.2 ∈ earlier.1.backups earlier.2))

--------------------------------------------------------------------------------
-- Backups of the visits so far
--------------------------------------------------------------------------------

/-- Changes with their old texts in their backups, which are backups of the given visits. -/
def Held (visits : List (RunOptions × Bytes)) (files : FileMap) (recorded : List Change) : Prop :=
  ∀ change ∈ recorded,
    files.get? change.backup = some change.before
    ∧ ∃ visit ∈ visits, change.backup ∈ visit.1.backups visit.2

/-- Visits none of which backs a file up over a template. -/
def Spares (templates : List Bytes) (visits : List (RunOptions × Bytes)) : Prop :=
  ∀ visit ∈ visits, ∀ path ∈ templates, path ∉ visit.1.backups visit.2

variable {templates : List Bytes} {past : List (RunOptions × Bytes)} {files later : FileMap}
  {recorded : List Change} {options : RunOptions} {path : Bytes}

theorem Held.widen {wider : List (RunOptions × Bytes)} (held : Held past files recorded)
    (within : past ⊆ wider)
    : Held wider files recorded := by
  intro change listed
  obtain ⟨holds, visit, before, backup⟩ := held change listed
  exact ⟨holds, visit, within before, backup⟩

/-- Whatever happens to a template happens to no recorded backup. -/
theorem Held.edited (held : Held past files recorded) (spares : Spares templates past)
    (member : path ∈ templates)
    (others : ∀ other, other ≠ path → later.get? other = files.get? other)
    : Held past later recorded := by
  intro change listed
  obtain ⟨holds, visit, before, backup⟩ := held change listed
  refine ⟨?_, visit, before, backup⟩
  rw [others change.backup, holds]
  intro same
  exact spares visit before path member (same ▸ backup)

/-- A backup that is fresh for the visits before leaves theirs alone. -/
theorem Held.backedUp {text backup : Bytes} (held : Held past files recorded)
    (fresh : ∀ visit ∈ past, Fresh visit (options, path))
    (backs : Backs options path text files later backup)
    : Held past later recorded := by
  intro change listed
  obtain ⟨holds, visit, before, candidate⟩ := held change listed
  exact ⟨backs.keeps holds fun same => fresh visit before (same ▸ candidate), visit, before,
    candidate⟩

/-- A visit that is fresh for those before keeps their backups and adds its own. -/
theorem Held.visited {changes : List Change} (held : Held past files recorded)
    (spares : Spares templates (past ++ [(options, path)])) (member : path ∈ templates)
    (fresh : ∀ visit ∈ past, Fresh visit (options, path))
    (handles : Migration.Handles options path files later changes)
    : Held (past ++ [(options, path)]) later (recorded ++ changes) := by
  have before : past ⊆ past ++ [(options, path)] := List.subset_append_left _ _
  have own : (options, path) ∈ past ++ [(options, path)] := List.mem_append_right _ (.head _)
  cases handles with
  | left =>
      rw [List.append_nil]
      exact held.widen before
  | backedUp _ backs =>
      rw [List.append_nil]
      exact (held.backedUp fresh backs).widen before
  | @replaced text after _ backup _ backs =>
      have candidate := backs.mem_backups
      have apart : backup ≠ path := fun same => spares _ own path member (same ▸ candidate)
      have kept := ((held.backedUp fresh backs).widen before).edited spares member
        fun other apart => (FileMap.get?_set _ path after other).trans (if_neg apart)
      refine List.forall_mem_append.mpr ⟨kept, List.forall_mem_singleton.mpr ⟨?_, _, own, candidate⟩⟩
      rw [FileMap.get?_set, if_neg apart, backs.holds]

theorem Held.stepped {disturbance : Disturbance} {result : RunResult} {memory after : Memory}
    {outcome : RunResult × Option (RunError MemoryFault)}
    (course
      : Migration.StepCourse (Memory.store disturbance) options result path memory outcome after)
    (applies : options.apply = true) (held : Held past memory.files (recorded ++ result.changed))
    (spares : Spares templates (past ++ [(options, path)])) (member : path ∈ templates)
    (fresh : ∀ visit ∈ past, Fresh visit (options, path))
    : Held (past ++ [(options, path)]) after.files (recorded ++ outcome.1.changed) := by
  obtain ⟨changes, changed, handles⟩ := course.handles applies
  rw [changed, ← List.append_assoc]
  exact held.visited spares member fresh handles

/-- A run whose visits are fresh for those before and for each other keeps all recorded backups. -/
theorem Held.migrated {disturbance : Disturbance} {result : RunResult} {paths : List Bytes}
    {memory after : Memory} {outcome : RunResult × Option (RunError MemoryFault)}
    (course
      : Migration.RunCourse (Memory.store disturbance) options result paths memory outcome after)
    (applies : options.apply = true) (held : Held past memory.files (recorded ++ result.changed))
    (spares : Spares templates (past ++ paths.map (options, ·))) (within : paths ⊆ templates)
    (fresh : (past ++ paths.map (options, ·)).Pairwise Fresh)
    : Held (past ++ paths.map (options, ·)) after.files (recorded ++ outcome.1.changed) := by
  -- The visits so far take in the file that the run comes to next.
  have shift (path : Bytes) (rest : List Bytes) (past : List (RunOptions × Bytes))
      : past ++ (path :: rest).map (options, ·)
        = (past ++ [(options, path)]) ++ rest.map (options, ·) := by simp
  have own {path : Bytes} {rest : List Bytes} {past : List (RunOptions × Bytes)}
      (fresh : (past ++ (path :: rest).map (options, ·)).Pairwise Fresh)
      : ∀ visit ∈ past, Fresh visit (options, path) := fun visit before =>
    (List.pairwise_append.mp fresh).2.2 visit before _ (.head _)
  induction course generalizing past with
  | done => exact held.widen (List.subset_append_left _ _)
  | stopped first =>
      have first := held.stepped first applies
        (fun visit listed => spares visit (shift _ _ past ▸ List.mem_append_left _ listed))
        (within (.head _)) (own fresh)
      exact shift _ _ past ▸ first.widen (List.subset_append_left _ _)
  | onward first _ ih =>
      have first := held.stepped first applies
        (fun visit listed => spares visit (shift _ _ past ▸ List.mem_append_left _ listed))
        (within (.head _)) (own fresh)
      rw [shift] at spares fresh ⊢
      exact ih first spares (fun p listed => within (.tail _ listed)) fresh

--------------------------------------------------------------------------------
-- Histories
--------------------------------------------------------------------------------

/-- A turn that is fresh for the visits before keeps all recorded backups. -/
theorem Held.played {ledger : Ledger} {turn : Turn} (held : Held past ledger.files ledger.recorded)
    (spares : Spares templates past) (within : turn.Within templates)
    (fresh : (past ++ turn.visits).Pairwise Fresh)
    : Held (past ++ turn.visits) (turn.play ledger).files (turn.play ledger).recorded
      ∧ Spares templates (past ++ turn.visits) := by
  cases turn with
  | edit path content? =>
      rw [Turn.visits, List.append_nil]
      cases content? with
      | none =>
          exact ⟨held.edited spares within fun other apart =>
            (FileMap.get?_erase _ path other).trans (if_neg apart), spares⟩
      | some content =>
          exact ⟨held.edited spares within fun other apart =>
            (FileMap.get?_set _ path content other).trans (if_neg apart), spares⟩
  | run options disturbance paths =>
      have spares' : Spares templates (past ++ paths.map (Turn.applied options, ·)) := by
        intro visit listed path member
        rcases List.mem_append.mp listed with before | own
        · exact spares visit before path member
        · obtain ⟨other, visited, rfl⟩ := List.mem_map.mp own
          exact within.2 path member other (within.1 visited)
      refine ⟨?_, spares'⟩
      rcases ran : Migration.run (Memory.store disturbance) (Turn.applied options) paths
        ⟨ledger.files, []⟩ with ⟨⟨result, stopped⟩, memory⟩
      rw [Turn.play, ran]
      have start : Held past ledger.files (ledger.recorded ++ []) := by rwa [List.append_nil]
      exact start.migrated (Migration.runFrom_course ran) rfl spares' within.1 fresh

theorem Held.playedAll {ledger : Ledger} {turns : List Turn}
    (held : Held past ledger.files ledger.recorded) (spares : Spares templates past)
    (within : ∀ turn ∈ turns, turn.Within templates)
    (fresh : (past ++ turns.flatMap Turn.visits).Pairwise Fresh)
    : Restorable (play ledger turns) := by
  induction turns generalizing past ledger with
  | nil => exact fun change listed => (held change listed).1
  | cons turn rest ih =>
      rw [List.forall_mem_cons] at within
      rw [List.flatMap_cons, ← List.append_assoc] at fresh
      obtain ⟨held, spares⟩ := held.played spares within.1 (List.pairwise_append.mp fresh).1
      exact ih held spares within.2 fresh

/-- Recorded backups are never lost in a history over templates none of which is backed up over
another, as long as no file is stamped over what may be an earlier backup.
-/
theorem play_restorable {templates : List Bytes} {turns : List Turn} (files : FileMap)
    (within : ∀ turn ∈ turns, turn.Within templates)
    (fresh : (turns.flatMap Turn.visits).Pairwise Fresh)
    : Restorable (play ⟨files, []⟩ turns) :=
  @Held.playedAll templates [] ⟨files, []⟩ turns (by simp [Held]) (by simp [Spares]) within fresh

/-- Two runs over a file that is edited in between. -/
def twoRuns (timestamp timestamp' : Bytes) : List Turn := [
  .run ⟨[Rule.modelToken], true, [], timestamp⟩ {} ["a"],
  .edit "a" (some "Form::close()"),
  .run ⟨[Rule.openClose], true, [], timestamp'⟩ {} ["a"]]

/-- With timestamps of their own, both runs keep a backup beside an older one. -/
theorem play_restorable_two_stamps
    : (∀ turn ∈ twoRuns "T" "U", turn.Within ["a"])
      ∧ ((twoRuns "T" "U").flatMap Turn.visits).Pairwise Fresh
      ∧ Restorable (play ⟨[("a", "Form::token()"), ("a.bak", "old")], []⟩ (twoRuns "T" "U"))
      ∧ (play ⟨[("a", "Form::token()"), ("a.bak", "old")], []⟩ (twoRuns "T" "U")).recorded
          = [⟨"a", "Form::token()", "csrf_field()", "a.T.bak"⟩,
              ⟨"a", "Form::close()", "html()->form()->close()", "a.U.bak"⟩] :=
  ⟨by decide +kernel, by decide +kernel,
    play_restorable _ (by decide +kernel : ∀ turn ∈ twoRuns "T" "U", turn.Within ["a"])
      (by decide +kernel),
    by decide +kernel⟩

/-- With one timestamp, the second run stamps its backup over that of the first one. -/
theorem not_restorable_one_stamp
    : (∀ turn ∈ twoRuns "T" "T", turn.Within ["a"])
      ∧ ¬ Restorable (play ⟨[("a", "Form::token()"), ("a.bak", "old")], []⟩ (twoRuns "T" "T")) := by
  decide +kernel

end History

end FormMigrate
