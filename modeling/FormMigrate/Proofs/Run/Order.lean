import FormMigrate.Proofs.Rule.Location
import FormMigrate.Proofs.Run.Preview

/-! Applied runs do not depend on the order of their files, where no call fails and no file or
backup is in the way of another one: what a run makes of a file is decided by the files as they
were.
-/

namespace FormMigrate

--------------------------------------------------------------------------------
-- Statement
--------------------------------------------------------------------------------

/-- Two runs that went through, left the same files and recorded the same, up to the order of the
files.
-/
structure Agrees (first second : (RunResult × Option (RunError MemoryFault)) × Memory) : Prop where
  through : first.1.2 = none ∧ second.1.2 = none
  files : ∀ path, first.2.files.get? path = second.2.files.get? path
  changed : first.1.1.changed.Perm second.1.1.changed
  records : first.1.1.ambiguous.records.Perm second.1.1.ambiguous.records
  /-- The records of a single file are in the same order. -/
  ofFile
    : ∀ path,
        first.1.1.ambiguous.records.filter (·.file = path)
        = second.1.1.ambiguous.records.filter (·.file = path)

--------------------------------------------------------------------------------
-- What a run makes of a file
--------------------------------------------------------------------------------

namespace RunOptions

/-- The backup that a file's text is found in or copied to, given the files as they are. -/
def backupFor (options : RunOptions) (files : FileMap) (path text : Bytes) : Bytes :=
  if (files.get? (options.plainBackup path)).all (· == text) then options.plainBackup path
  else options.stampedBackup path

/-- The change that an applied run makes to a file, if any. -/
def change? (options : RunOptions) (files : FileMap) (path : Bytes) : Option Change := do
  let before ← files.get? path
  let after := (Rule.convertAll options.rules path before).text
  if after = before then none
  else some ⟨path, before, after, options.backupFor files path before⟩

/-- The records that a run makes of a file. -/
def recordsOf (options : RunOptions) (files : FileMap) (path : Bytes) : List Record :=
  (files.get? path).elim [] fun before => (Rule.convertAll options.rules path before).records

variable {options : RunOptions} {files others : FileMap} {path : Bytes}

/-- Only what a file reaches counts for it. -/
theorem change?_congr (same : ∀ p ∈ options.reach [path], files.get? p = others.get? p)
    : options.change? files path = options.change? others path := by
  have own := same path (reach_of_mem (.head _))
  have plain := same (options.plainBackup path) (reach_of_backup (.head _) (.head _))
  simp only [change?, backupFor, own, plain]

theorem recordsOf_congr (same : files.get? path = others.get? path)
    : options.recordsOf files path = options.recordsOf others path := by
  rw [recordsOf, recordsOf, same]

theorem recordsOf_file {record : Record} (made : record ∈ options.recordsOf files path)
    : record.file = path := by
  unfold recordsOf at made
  cases held : files.get? path with
  | none =>
      rw [held] at made
      cases made
  | some before =>
      rw [held, Option.elim_some, Rule.convertAll_eq_foldl] at made
      exact (Rule.foldl_step_records made).1

theorem mem_change? {change : Change} (made : change ∈ options.change? files path)
    : change.path = path ∧ change.backup ∈ options.backups path := by
  simp only [change?, Option.mem_def, Option.bind_eq_bind, Option.bind_eq_some_iff] at made
  obtain ⟨before, -, made⟩ := made
  split at made
  · cases made
  · cases made
    refine ⟨rfl, ?_⟩
    unfold backupFor
    split
    · exact .head _
    · exact .tail _ (.head _)

end RunOptions

namespace Backs

variable {options : RunOptions} {path text backup : Bytes} {files later : FileMap}

theorem backup_eq (h : Backs options path text files later backup)
    : backup = options.backupFor files path text := by
  cases h with
  | reused held => simp [RunOptions.backupFor, held]
  | plain free => simp [RunOptions.backupFor, free]
  | stamped taken differs => simp [RunOptions.backupFor, taken, differs]

/-- Only the backup that is taken may change. -/
theorem others (h : Backs options path text files later backup) {other : Bytes}
    (apart : other ≠ backup)
    : later.get? other = files.get? other := by
  cases h with
  | reused => rfl
  | plain | stamped => rw [FileMap.get?_set, if_neg apart]

end Backs

--------------------------------------------------------------------------------
-- Runs that go through
--------------------------------------------------------------------------------

/-- A run went through, and all that it did follows from the files as they were at first. -/
structure Settled (options : RunOptions) (paths : List Bytes) (files later : FileMap)
    (result : RunResult) (outcome : RunResult × Option (RunError MemoryFault)) : Prop where
  through : outcome.2 = none
  changed : outcome.1.changed = result.changed ++ paths.filterMap (options.change? files)
  records
    : outcome.1.ambiguous.records
      = result.ambiguous.records ++ paths.flatMap (options.recordsOf files)
  replaced
    : ∀ change ∈ paths.filterMap (options.change? files),
        later.get? change.path = some change.after
        ∧ later.get? change.backup = some change.before
  kept
    : ∀ path,
        (∀ change ∈ paths.filterMap (options.change? files),
          path ≠ change.path ∧ path ≠ change.backup)
        → later.get? path = files.get? path

namespace Settled

variable {options : RunOptions} {path : Bytes} {paths : List Bytes}
  {files middle later : FileMap} {result next : RunResult}
  {outcome : RunResult × Option (RunError MemoryFault)}

theorem untouched (h : Settled options paths files later result outcome) {other : Bytes}
    (apart : other ∉ options.reach paths)
    : later.get? other = files.get? other := by
  refine h.kept other fun change made => ?_
  obtain ⟨path, listed, made⟩ := List.mem_filterMap.mp made
  obtain ⟨rfl, candidate⟩ := RunOptions.mem_change? made
  constructor
  · rintro rfl
    exact apart (RunOptions.reach_of_mem listed)
  · rintro rfl
    exact apart (RunOptions.reach_of_backup listed candidate)

/-- A file in front changes nothing that the files behind it reach, nor they what it has left. -/
theorem cons (h : Settled options [path] files middle result (next, none))
    (h' : Settled options paths middle later next outcome)
    (apart : (options.reach (path :: paths)).Nodup)
    : Settled options (path :: paths) files later result outcome := by
  obtain ⟨-, -, across⟩ := RunOptions.apart_cons apart
  have same (other : Bytes) (listed : other ∈ paths) (p : Bytes) (within : p ∈ options.reach [other])
      : middle.get? p = files.get? p := by
    refine h.untouched fun own => across p own ?_
    rcases RunOptions.mem_reach_singleton.mp within with rfl | candidate
    · exact RunOptions.reach_of_mem listed
    · exact RunOptions.reach_of_backup listed candidate
  have changes : paths.filterMap (options.change? middle) = paths.filterMap (options.change? files) :=
    List.filterMap_congr fun other listed => RunOptions.change?_congr (same other listed)
  have records : paths.flatMap (options.recordsOf middle) = paths.flatMap (options.recordsOf files) :=
    List.flatMap_congr fun other listed =>
      RunOptions.recordsOf_congr (same other listed other (RunOptions.reach_of_mem (.head _)))
  have split : (path :: paths).filterMap (options.change? files)
      = [path].filterMap (options.change? files) ++ paths.filterMap (options.change? files) := by
    rw [← List.filterMap_append, List.singleton_append]
  refine ⟨h'.through, ?_, ?_, ?_, ?_⟩
  · rw [h'.changed, h.changed, changes, split, List.append_assoc]
  · rw [h'.records, h.records, records]
    simp
  · rw [split, List.forall_mem_append]
    refine ⟨fun change made => ?_, fun change made => h'.replaced change (changes ▸ made)⟩
    obtain ⟨is, backup⟩ := h.replaced change made
    obtain ⟨_, listed, made'⟩ := List.mem_filterMap.mp made
    obtain rfl := List.mem_singleton.mp listed
    obtain ⟨rfl, candidate⟩ := RunOptions.mem_change? made'
    have own : change.path ∈ options.reach [change.path] := RunOptions.reach_of_mem (.head _)
    have copy := RunOptions.reach_of_backup (List.mem_singleton_self change.path) candidate
    exact ⟨(h'.untouched (across _ own)).trans is, (h'.untouched (across _ copy)).trans backup⟩
  · intro p others
    rw [split, List.forall_mem_append] at others
    exact (h'.kept p (changes ▸ others.2)).trans (h.kept p others.1)

end Settled

namespace Migration

variable {options : RunOptions} {memory later : Memory} {result : RunResult} {path : Bytes}
  {paths : List Bytes} {outcome : RunResult × Option (RunError MemoryFault)}

/-- A step at a file that is there goes through if no call fails. -/
theorem StepCourse.settled
    (course : StepCourse (Memory.store {}) options result path memory outcome later)
    (applies : options.apply = true) (present : (memory.files.get? path).isSome)
    : Settled options [path] memory.files later.files result outcome := by
  cases course with
  | cancelled asked => cases asked
  | unread asked read =>
      obtain rfl := Memory.isCancelled_eq asked
      obtain ⟨-, refused | ⟨missing, -⟩⟩ := Memory.read_error read
      · cases refused
      · rw [missing] at present
        cases present
  | unchanged reads same =>
      obtain ⟨held, rfl⟩ := reads.held
      have changes : [path].filterMap (options.change? memory.files) = [] := by
        simp [RunOptions.change?, held, same]
      refine ⟨rfl, ?_, ?_, ?_, fun _ _ => rfl⟩
      · rw [changes, List.append_nil]
        rfl
      · simp [scanned, AmbiguityLog.merge, RunOptions.recordsOf, held]
      · simp [changes]
  | shown reads differs shows => cases applies.symm.trans shows
  | @applied before _ _ _ reads differs _ replaces =>
      obtain ⟨held, rfl⟩ := reads.held
      cases replaces with
      | unbacked backedUp =>
          obtain ⟨-, call, refused⟩ := backedUp.fails
          cases refused
      | unwritten backedUp written => cases (Memory.write_error written).2
      | @replaced backup _ _ backedUp written =>
          have backs : Backs options path before memory.files _ backup := backedUp.backs held
          have changes : [path].filterMap (options.change? memory.files)
              = [⟨path, before, (Rule.convertAll options.rules path before).text, backup⟩] := by
            simp [RunOptions.change?, held, differs, backs.backup_eq]
          have apart : backup ≠ path := by
            rintro rfl
            exact options.not_mem_backups _ backs.mem_backups
          have wrote := Memory.write_ok written
          refine ⟨rfl, ?_, ?_, ?_, ?_⟩
          · rw [changes]
            rfl
          · simp [scanned, AmbiguityLog.merge, RunOptions.recordsOf, held]
          · rw [changes, List.forall_mem_singleton, wrote, FileMap.get?_set, FileMap.get?_set,
              if_pos rfl, if_neg apart]
            exact ⟨rfl, backs.holds⟩
          · intro p others
            rw [changes, List.forall_mem_singleton] at others
            rw [wrote, FileMap.get?_set, if_neg others.1]
            exact backs.others others.2

/-- A run over files that are there, with nothing in each other's way, goes through if no call
fails.
-/
theorem RunCourse.settled
    (course : RunCourse (Memory.store {}) options result paths memory outcome later)
    (applies : options.apply = true) (apart : (options.reach paths).Nodup)
    (present : ∀ path ∈ paths, (memory.files.get? path).isSome)
    : Settled options paths memory.files later.files result outcome := by
  induction course with
  | done => exact ⟨rfl, (List.append_nil _).symm, (List.append_nil _).symm, nofun, fun _ _ => rfl⟩
  | stopped first => cases (first.settled applies (present _ (.head _))).through
  | onward first _ ih =>
      obtain ⟨-, distinct, across⟩ := RunOptions.apart_cons apart
      have settled := first.settled applies (present _ (.head _))
      refine settled.cons (ih distinct fun other listed => ?_) apart
      have outside := fun within => across other within (RunOptions.reach_of_mem listed)
      rw [settled.untouched outside]
      exact present other (.tail _ listed)

end Migration

--------------------------------------------------------------------------------
-- Other orders
--------------------------------------------------------------------------------

section

variable {options : RunOptions} {paths others : List Bytes} {files : FileMap}

theorem RunOptions.reach_perm (options : RunOptions) (same : paths.Perm others)
    : (options.reach paths).Perm (options.reach others) :=
  same.append (same.flatMap_right _)

/-- The records of one of the files are those that the run makes of it. -/
theorem RunOptions.filter_records (distinct : paths.Nodup) (path : Bytes)
    : (paths.flatMap (options.recordsOf files)).filter (·.file = path)
      = if path ∈ paths then options.recordsOf files path else [] := by
  induction paths with
  | nil => rfl
  | cons p rest ih =>
      obtain ⟨fresh, distinct⟩ := List.nodup_cons.mp distinct
      rw [List.flatMap_cons, List.filter_append, ih distinct]
      by_cases own : p = path
      · subst own
        rw [if_neg fresh, if_pos (.head _), List.append_nil, List.filter_eq_self]
        exact fun record made => decide_eq_true (recordsOf_file made)
      · have none : (options.recordsOf files p).filter (·.file = path) = [] := by
          rw [List.filter_eq_nil_iff]
          intro record made named
          exact own ((recordsOf_file made).symm.trans (of_decide_eq_true named))
        rw [none, List.nil_append]
        simp [Ne.symm own]

/-- What is left of the files is decided by the changes, in whatever order they were made. -/
theorem Settled.files_eq {later later' : FileMap} {result result' : RunResult}
    {outcome outcome' : RunResult × Option (RunError MemoryFault)}
    (h : Settled options paths files later result outcome)
    (h' : Settled options others files later' result' outcome') (same : paths.Perm others)
    (path : Bytes)
    : later.get? path = later'.get? path := by
  have changes := same.filterMap (options.change? files)
  by_cases changed
      : ∃ change ∈ paths.filterMap (options.change? files),
          path = change.path ∨ path = change.backup
  · obtain ⟨change, made, rfl | rfl⟩ := changed
    · rw [(h.replaced change made).1, (h'.replaced change (changes.subset made)).1]
    · rw [(h.replaced change made).2, (h'.replaced change (changes.subset made)).2]
  · push Not at changed
    rw [h.kept path changed, h'.kept path fun change made => changed change (changes.symm.subset made)]

end

namespace Migration

/-- Applied runs over the same files in two orders agree, if no call fails and neither a file nor a
backup is in the way of another one.
-/
theorem run_order {options : RunOptions} {paths others : List Bytes} {memory : Memory}
    (applies : options.apply = true) (same : paths.Perm others)
    (apart : (options.reach paths).Nodup)
    (present : ∀ path ∈ paths, (memory.files.get? path).isSome)
    : Agrees (run (Memory.store {}) options paths memory)
        (run (Memory.store {}) options others memory) := by
  rcases ran : run (Memory.store {}) options paths memory with ⟨outcome, later⟩
  rcases ran' : run (Memory.store {}) options others memory with ⟨outcome', later'⟩
  have settled := (runFrom_course ran).settled applies apart present
  have settled' := (runFrom_course ran').settled applies ((options.reach_perm same).nodup apart)
    fun path listed => present path (same.symm.subset listed)
  have distinct : paths.Nodup := (List.nodup_append.mp apart).1
  refine ⟨⟨settled.through, settled'.through⟩, settled.files_eq settled' same, ?_, ?_, ?_⟩
  · rw [settled.changed, settled'.changed]
    exact same.filterMap _
  · rw [settled.records, settled'.records]
    exact same.flatMap_right _
  · intro path
    rw [settled.records, settled'.records]
    exact (RunOptions.filter_records distinct path).trans
      ((if_congr same.mem_iff rfl rfl).trans
        (RunOptions.filter_records (same.nodup distinct) path).symm)

/-- Three files in two orders: one is backed up beside an older backup, and two have calls that are
left alone.
-/
theorem run_order_three
    : let options : RunOptions := ⟨[Rule.modelToken], true, [], "T"⟩
      let memory : Memory :=
        ⟨[("a", "Form::token()"), ("a.bak", "old"), ("b", "Form::token(1) Form::token(2)"),
          ("c", "Form::token() Form::token(3)")], []⟩
      (options.reach ["a", "b", "c"]).Nodup
      ∧ Agrees (run (Memory.store {}) options ["a", "b", "c"] memory)
          (run (Memory.store {}) options ["c", "a", "b"] memory)
      ∧ (run (Memory.store {}) options ["a", "b", "c"] memory).1.1.changed.map Change.backup
          = [Bytes.ofString "a.T.bak", "c.bak"]
      ∧ (run (Memory.store {}) options ["c", "a", "b"] memory).1.1.changed.map Change.backup
          = [Bytes.ofString "c.bak", "a.T.bak"]
      ∧ (run (Memory.store {}) options ["c", "a", "b"] memory).1.1.ambiguous.records.map
            Record.snippet
          = [Bytes.ofString "3", "1", "2"] :=
  ⟨by decide +kernel,
    run_order rfl (by decide +kernel) (by decide +kernel) (by decide +kernel),
    by decide +kernel, by decide +kernel, by decide +kernel⟩

end Migration

end FormMigrate
