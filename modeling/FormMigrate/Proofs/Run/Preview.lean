import FormMigrate.Proofs.Run.Handling

/-! Previews predict applied runs. Where no call fails, a run reports what the rules make of the
files as they were at first, whether it shows or applies, and an applied run leaves what was
reported.
-/

namespace FormMigrate

--------------------------------------------------------------------------------
-- Statement
--------------------------------------------------------------------------------

/-- A change, its backup aside. -/
def Change.withoutBackup (change : Change) : Change := { change with backup := [] }

/-- Distinct files none of which another one is backed up to. -/
structure RunOptions.Apart (options : RunOptions) (paths : List Bytes) : Prop where
  distinct : paths.Nodup
  noBackup : ∀ path ∈ paths, ∀ other ∈ paths, path ∉ options.backups other

/-- A preview and an applied run over the same files: what they report and what they leave. -/
structure Predicts (paths : List Bytes) (before : Memory)
    (shown applied : (RunResult × Option (RunError MemoryFault)) × Memory) : Prop where
  files : applied.1.1.files = shown.1.1.files
  ambiguous : applied.1.1.ambiguous = shown.1.1.ambiguous
  changed
    : applied.1.1.changed.map Change.withoutBackup = shown.1.1.changed.map Change.withoutBackup
  stopped : applied.1.2 = shown.1.2
  /-- Where every file is there, all of them are reported on. -/
  whole
    : (∀ path ∈ paths, (before.files.get? path).isSome)
      → shown.1.2 = none ∧ shown.1.1.files = paths
  /-- The preview changes nothing, and it only reads files in order. -/
  untouched : shown.2.files = before.files
  reads : ∃ read, read <+: paths ∧ shown.2.calls = before.calls ++ read.map Call.read
  /-- The applied run leaves the reported texts in place of those that they were made of. -/
  replaced
    : ∀ change ∈ shown.1.1.changed,
        before.files.get? change.path = some change.before
        ∧ applied.2.files.get? change.path = some change.after
  /-- It leaves every other file as it was. -/
  kept
    : ∀ path ∈ paths,
        (∀ change ∈ shown.1.1.changed, change.path ≠ path)
        → applied.2.files.get? path = before.files.get? path

--------------------------------------------------------------------------------
-- Changes but for their backups
--------------------------------------------------------------------------------

/-- Changes that are listed alike but for their backups are at the same paths, of the same texts. -/
theorem Change.exists_of_withoutBackup {changes others : List Change}
    (same : changes.map Change.withoutBackup = others.map Change.withoutBackup) {change : Change}
    (member : change ∈ changes)
    : ∃ other ∈ others,
        other.path = change.path ∧ other.before = change.before ∧ other.after = change.after := by
  have listed := List.mem_map_of_mem (f := Change.withoutBackup) member
  rw [same] at listed
  obtain ⟨other, member', alike⟩ := List.mem_map.mp listed
  rw [Change.withoutBackup, Change.withoutBackup] at alike
  obtain ⟨path, before, after, -⟩ := Change.mk.inj alike
  exact ⟨other, member', path, before, after⟩

--------------------------------------------------------------------------------
-- Files apart
--------------------------------------------------------------------------------

theorem RunOptions.mem_reach_singleton {options : RunOptions} {path other : Bytes}
    : other ∈ options.reach [path] ↔ other = path ∨ other ∈ options.backups path := by
  simp [reach]

namespace RunOptions.Apart

variable {options : RunOptions} {path : Bytes} {rest : List Bytes}

theorem tail (apart : options.Apart (path :: rest)) : options.Apart rest :=
  ⟨(List.nodup_cons.mp apart.distinct).2, fun p member other member' =>
    apart.noBackup p (.tail _ member) other (.tail _ member')⟩

theorem head (apart : options.Apart (path :: rest)) : path ∉ options.reach rest := by
  rw [reach, List.mem_append, not_or, List.mem_flatMap]
  refine ⟨(List.nodup_cons.mp apart.distinct).1, ?_⟩
  rintro ⟨other, member, backup⟩
  exact apart.noBackup path (.head _) other (.tail _ member) backup

theorem later (apart : options.Apart (path :: rest)) {other : Bytes} (member : other ∈ rest)
    : other ∉ options.reach [path] := by
  rw [mem_reach_singleton, not_or]
  refine ⟨?_, apart.noBackup other (.tail _ member) path (.head _)⟩
  rintro rfl
  exact (List.nodup_cons.mp apart.distinct).1 member

end RunOptions.Apart

namespace Migration

variable {disturbance : Disturbance} {options : RunOptions} {memory later : Memory}
  {result : RunResult} {path : Bytes} {paths : List Bytes}
  {outcome : RunResult × Option (RunError MemoryFault)}

--------------------------------------------------------------------------------
-- Previews only read
--------------------------------------------------------------------------------

theorem StepCourse.shows
    (course : StepCourse (Memory.store disturbance) options result path memory outcome later)
    (shows : options.apply = false)
    : later = memory ∧ outcome.2 ≠ none ∨ later = memory.note (.read path) := by
  cases course with
  | cancelled asked => exact .inl ⟨Memory.isCancelled_eq asked, by simp⟩
  | unread asked read =>
      obtain rfl := Memory.isCancelled_eq asked
      exact .inr (Memory.read_error read).1
  | unchanged reads | shown reads => exact .inr reads.held.2
  | applied reads differs applies => cases applies.symm.trans shows

/-- A preview reads files in order and does nothing else. -/
theorem RunCourse.shows
    (course : RunCourse (Memory.store disturbance) options result paths memory outcome later)
    (shows : options.apply = false)
    : later.files = memory.files
      ∧ ∃ read, read <+: paths ∧ later.calls = memory.calls ++ read.map Call.read := by
  induction course with
  | done => exact ⟨rfl, [], List.nil_prefix, (List.append_nil _).symm⟩
  | stopped first =>
      rcases first.shows shows with ⟨rfl, -⟩ | rfl
      · exact ⟨rfl, [], List.nil_prefix, (List.append_nil _).symm⟩
      · exact ⟨rfl, [_], by simp, rfl⟩
  | @onward _ path _ _ _ _ _ _ first _ ih =>
      rcases first.shows shows with ⟨-, goesOn⟩ | rfl
      · exact absurd rfl goesOn
      · obtain ⟨files, read, listed, calls⟩ := ih
        exact ⟨files, path :: read, by simpa using listed,
          calls.trans (by simp [Memory.note])⟩

--------------------------------------------------------------------------------
-- Both runs report on the files as they were at first
--------------------------------------------------------------------------------

/-- A result without what only an applied run adds to it. -/
def report (result : RunResult) : RunResult :=
  { result with changed := result.changed.map Change.withoutBackup, events := [] }

/-- A report after a file with a known text. -/
def surveyed (rules : List Rule) (reported : RunResult) (path before : Bytes) : RunResult :=
  let converted := Rule.convertAll rules path before
  { scanned reported path converted.records with
    changed :=
      if converted.text = before then reported.changed
      else reported.changed ++ [⟨path, before, converted.text, []⟩] }

/-- The report on files with known texts, up to the first one that is missing. -/
def survey (rules : List Rule) (content? : Bytes → Option Bytes) (reported : RunResult)
    : List Bytes → RunResult × Option (RunError MemoryFault)
  | [] => (reported, none)
  | path :: rest =>
      match content? path with
      | none => (reported, some (.read path .noSuchFile))
      | some before => survey rules content? (surveyed rules reported path before) rest

/-- The report on a file where no call fails: it is missing, or it is converted. -/
theorem StepCourse.reports
    (course : StepCourse (Memory.store {}) options result path memory outcome later)
    : (memory.files.get? path = none
        ∧ report outcome.1 = report result ∧ outcome.2 = some (.read path .noSuchFile))
      ∨ ∃ before,
          memory.files.get? path = some before
          ∧ report outcome.1 = surveyed options.rules (report result) path before
          ∧ outcome.2 = none := by
  cases course with
  | cancelled asked => cases asked
  | unread asked read =>
      obtain rfl := Memory.isCancelled_eq asked
      obtain ⟨-, refused | ⟨missing, rfl⟩⟩ := Memory.read_error read
      · cases refused
      · exact .inl ⟨missing, rfl, rfl⟩
  | unchanged reads same =>
      refine .inr ⟨_, reads.held.1, ?_, rfl⟩
      simp only [surveyed, if_pos same]
      rfl
  | shown reads differs =>
      refine .inr ⟨_, reads.held.1, ?_, rfl⟩
      simp only [surveyed, if_neg differs, report, List.map_append]
      rfl
  | applied reads differs applies replaces =>
      cases replaces with
      | unbacked backedUp =>
          obtain ⟨-, call, refused⟩ := backedUp.fails
          cases refused
      | unwritten backedUp written => cases (Memory.write_error written).2
      | replaced backedUp written =>
          refine .inr ⟨_, reads.held.1, ?_, rfl⟩
          simp only [surveyed, if_neg differs, report, List.map_append]
          rfl

/-- What a run does at a file stays within reach of that file. -/
theorem Handles.untouched {files later : FileMap} {changes : List Change} {other : Bytes}
    (h : Handles options path files later changes) (apart : other ∉ options.reach [path])
    : later.get? other = files.get? other := by
  rw [RunOptions.mem_reach_singleton, not_or] at apart
  cases h with
  | left => rfl
  | backedUp held backs => exact backs.untouched apart.2
  | replaced held backs => rw [FileMap.get?_set, if_neg apart.1, backs.untouched apart.2]

theorem StepCourse.untouched
    (course : StepCourse (Memory.store disturbance) options result path memory outcome later)
    {other : Bytes} (apart : other ∉ options.reach [path])
    : later.files.get? other = memory.files.get? other := by
  cases mode : options.apply with
  | false => rcases course.shows mode with ⟨rfl, -⟩ | rfl <;> rfl
  | true =>
      obtain ⟨changes, -, handles⟩ := course.handles mode
      exact handles.untouched apart

/-- A run reports on the files that it has not come to yet as they were at first: nothing that it
does at a file reaches a later one.
-/
theorem RunCourse.reports {content? : Bytes → Option Bytes}
    (course : RunCourse (Memory.store {}) options result paths memory outcome later)
    (apart : options.Apart paths)
    (same : ∀ path ∈ paths, memory.files.get? path = content? path)
    : (report outcome.1, outcome.2) = survey options.rules content? (report result) paths := by
  induction course with
  | done => rfl
  | stopped first =>
      rw [survey, ← same _ (.head _)]
      rcases first.reports with ⟨missing, reported, why⟩ | ⟨before, -, -, goesOn⟩
      · rw [missing, reported, why]
      · cases goesOn
  | onward first _ ih =>
      rw [survey, ← same _ (.head _)]
      rcases first.reports with ⟨-, -, why⟩ | ⟨before, held, reported, -⟩
      · cases why
      · rw [held]
        dsimp only
        rw [← reported]
        exact ih apart.tail fun path member =>
          (first.untouched (apart.later member)).trans (same path (.tail _ member))

theorem survey_whole {rules : List Rule} {content? : Bytes → Option Bytes} {reported : RunResult}
    (present : ∀ path ∈ paths, (content? path).isSome)
    : (survey rules content? reported paths).2 = none
      ∧ (survey rules content? reported paths).1.files = reported.files ++ paths := by
  induction paths generalizing reported with
  | nil => exact ⟨rfl, (List.append_nil _).symm⟩
  | cons path rest ih =>
      obtain ⟨before, held⟩ := Option.isSome_iff_exists.mp (present path (.head _))
      rw [survey, held]
      obtain ⟨goesOn, files⟩ := @ih (surveyed rules reported path before) fun p member =>
        present p (.tail _ member)
      exact ⟨goesOn, files.trans (List.append_assoc _ [path] rest)⟩

--------------------------------------------------------------------------------
-- Applied runs leave the new texts
--------------------------------------------------------------------------------

/-- What an applied run leaves of its files: the new texts of those that it replaced, and the rest
as it was.
-/
structure Leaves (options : RunOptions) (paths : List Bytes) (files later : FileMap)
    (changes : List Change) : Prop where
  replaced
    : ∀ change ∈ changes,
        change.path ∈ paths
        ∧ files.get? change.path = some change.before
        ∧ later.get? change.path = some change.after
  kept
    : ∀ path ∈ paths,
        (∀ change ∈ changes, change.path ≠ path) → later.get? path = files.get? path
  untouched : ∀ path, path ∉ options.reach paths → later.get? path = files.get? path

theorem Handles.leaves {files later : FileMap} {changes : List Change}
    (h : Handles options path files later changes)
    : Leaves options [path] files later changes where
  replaced := by
    cases h with
    | left | backedUp => simp
    | replaced held backs =>
        refine List.forall_mem_singleton.mpr ⟨.head _, held, ?_⟩
        rw [FileMap.get?_set, if_pos rfl]
  kept := by
    intro p member others
    obtain rfl := List.mem_singleton.mp member
    cases h with
    | left => rfl
    | backedUp held backs => exact backs.untouched (options.not_mem_backups p)
    | replaced => exact absurd rfl (others _ (.head _))
  untouched := fun _ apart => h.untouched apart

/-- The files behind a file leave it alone, and it leaves them as they were. -/
theorem Leaves.cons {files middle later : FileMap} {changes further : List Change}
    (h : Leaves options [path] files middle changes)
    (h' : Leaves options paths middle later further) (apart : options.Apart (path :: paths))
    : Leaves options (path :: paths) files later (changes ++ further) where
  replaced := by
    refine List.forall_mem_append.mpr ⟨fun change member => ?_, fun change member => ?_⟩
    · obtain ⟨listed, was, is⟩ := h.replaced change member
      obtain same := List.mem_singleton.mp listed
      exact ⟨same ▸ .head _, was, (h'.untouched _ (same ▸ apart.head)).trans is⟩
    · obtain ⟨listed, was, is⟩ := h'.replaced change member
      exact ⟨.tail _ listed, (h.untouched _ (apart.later listed)).symm.trans was, is⟩
  kept := by
    intro p member unchanged
    rw [List.forall_mem_append] at unchanged
    rcases List.mem_cons.mp member with rfl | member
    · exact (h'.untouched p apart.head).trans (h.kept p (.head _) unchanged.1)
    · exact (h'.kept p member unchanged.2).trans (h.untouched p (apart.later member))
  untouched := by
    intro p outside
    rw [← List.singleton_append, RunOptions.mem_reach_append, not_or] at outside
    exact (h'.untouched p outside.2).trans (h.untouched p outside.1)

/-- A run that ends at a file leaves those behind it as they were. -/
theorem Leaves.nil (options : RunOptions) (paths : List Bytes) (files : FileMap)
    : Leaves options paths files files [] :=
  ⟨by simp, fun _ _ _ => rfl, fun _ _ => rfl⟩

theorem RunCourse.leaves
    (course : RunCourse (Memory.store disturbance) options result paths memory outcome later)
    (applies : options.apply = true) (apart : options.Apart paths)
    : ∃ changes,
        outcome.1.changed = result.changed ++ changes
        ∧ Leaves options paths memory.files later.files changes := by
  induction course with
  | done => exact ⟨[], (List.append_nil _).symm, .nil options [] _⟩
  | stopped first =>
      obtain ⟨changes, changed, handles⟩ := first.handles applies
      refine ⟨changes ++ [], by simpa using changed, ?_⟩
      exact handles.leaves.cons (.nil options _ _) apart
  | onward first _ ih =>
      obtain ⟨changes, changed, handles⟩ := first.handles applies
      obtain ⟨further, changed', leaves⟩ := ih apart.tail
      refine ⟨changes ++ further, ?_, handles.leaves.cons leaves apart⟩
      rw [changed', changed, List.append_assoc]

--------------------------------------------------------------------------------
-- Previews predict
--------------------------------------------------------------------------------

/-- A preview over files that are apart predicts what an applied run of the same rules reports and
leaves, if no call fails.
-/
theorem preview_predicts {options : RunOptions} {paths : List Bytes} (apart : options.Apart paths)
    (before : Memory)
    : Predicts paths before (run (Memory.store {}) { options with apply := false } paths before)
        (run (Memory.store {}) { options with apply := true } paths before) := by
  rcases showed : run (Memory.store {}) { options with apply := false } paths before
    with ⟨shown, seen⟩
  rcases applied : run (Memory.store {}) { options with apply := true } paths before
    with ⟨done, left⟩
  have course := runFrom_course showed
  have course' := runFrom_course applied
  -- Both reports are the survey of the files as they were.
  have surveys := course.reports ⟨apart.distinct, apart.noBackup⟩ fun _ _ => rfl
  have surveys' := course'.reports ⟨apart.distinct, apart.noBackup⟩ fun _ _ => rfl
  have alike : (report done.1, done.2) = (report shown.1, shown.2) := surveys'.trans surveys.symm
  obtain ⟨reported, stopped⟩ := Prod.mk.inj alike
  have files : (report done.1).files = (report shown.1).files := by rw [reported]
  have ambiguous : (report done.1).ambiguous = (report shown.1).ambiguous := by rw [reported]
  have changed : (report done.1).changed = (report shown.1).changed := by rw [reported]
  dsimp only [report] at files ambiguous changed
  obtain ⟨untouched, reads⟩ := course.shows rfl
  obtain ⟨changes, all, leaves⟩ := course'.leaves rfl ⟨apart.distinct, apart.noBackup⟩
  obtain rfl : done.1.changed = changes := all
  refine ⟨files, ambiguous, changed, stopped, ?_, untouched, reads, ?_, ?_⟩
  · intro present
    obtain ⟨goesOn, files⟩ := @survey_whole paths options.rules before.files.get?
      (report {}) present
    rw [← surveys] at goesOn files
    exact ⟨goesOn, files⟩
  · intro change member
    obtain ⟨change', member', path, text, text'⟩ :=
      Change.exists_of_withoutBackup changed.symm member
    obtain ⟨-, was, is⟩ := leaves.replaced change' member'
    rw [← path, ← text, ← text']
    exact ⟨was, is⟩
  · intro path member others
    refine leaves.kept path member fun change member' => ?_
    obtain ⟨change', listed, same, -⟩ := Change.exists_of_withoutBackup changed member'
    exact same ▸ others change' listed

/-- Each of two files is reported on as it was, although the applied run backs the first one up
beside an older backup.
-/
theorem preview_predicts_beside
    : (RunOptions.Apart ⟨[Rule.modelToken], false, [], "T"⟩ ["a", "b"])
      ∧ Predicts ["a", "b"] ⟨[("a", "Form::token()"), ("a.bak", "old"), ("b", "Form::token()")], []⟩
          (run (Memory.store {}) ⟨[Rule.modelToken], false, [], "T"⟩ ["a", "b"]
            ⟨[("a", "Form::token()"), ("a.bak", "old"), ("b", "Form::token()")], []⟩)
          (run (Memory.store {}) ⟨[Rule.modelToken], true, [], "T"⟩ ["a", "b"]
            ⟨[("a", "Form::token()"), ("a.bak", "old"), ("b", "Form::token()")], []⟩)
      ∧ (run (Memory.store {}) ⟨[Rule.modelToken], false, [], "T"⟩ ["a", "b"]
            ⟨[("a", "Form::token()"), ("a.bak", "old"), ("b", "Form::token()")], []⟩).1.1.changed
          = [⟨"a", "Form::token()", "csrf_field()", []⟩, ⟨"b", "Form::token()", "csrf_field()", []⟩]
      ∧ (run (Memory.store {}) ⟨[Rule.modelToken], true, [], "T"⟩ ["a", "b"]
            ⟨[("a", "Form::token()"), ("a.bak", "old"), ("b", "Form::token()")], []⟩).1.1.changed
          = [⟨"a", "Form::token()", "csrf_field()", "a.T.bak"⟩,
              ⟨"b", "Form::token()", "csrf_field()", "b.bak"⟩] :=
  ⟨⟨by decide +kernel, by decide +kernel⟩,
    @preview_predicts ⟨[Rule.modelToken], false, [], "T"⟩ _ ⟨by decide +kernel, by decide +kernel⟩ _,
    by decide +kernel, by decide +kernel⟩

end Migration

end FormMigrate
