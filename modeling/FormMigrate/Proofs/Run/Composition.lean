import FormMigrate.Proofs.File.Writing
import FormMigrate.Proofs.Run.Handling

/-! Runs are made of their steps, also when they stop early. A run over files and further files is a
run over the former followed by one over the latter; a run that stops at a file has done what a run
over the files before it does, and no more than the first calls of that file's own step.
-/

namespace FormMigrate

--------------------------------------------------------------------------------
-- Statement
--------------------------------------------------------------------------------

/-- What a run and then a further one have done. -/
def RunResult.append (earlier later : RunResult) : RunResult where
  files := earlier.files ++ later.files
  changed := earlier.changed ++ later.changed
  ambiguous := earlier.ambiguous.merge later.ambiguous
  events := earlier.events ++ later.events

/-- Files as paths show them: the place that a path leads to, and what a place holds. -/
structure FileView (Place : Type) where
  spot : Bytes → Place
  content? : Place → Option Bytes

namespace FileView

variable {Place : Type}

/-- What a path leads to holds. -/
def held? (view : FileView Place) (path : Bytes) : Option Bytes := view.content? (view.spot path)

/-- The place that a path leads to holds a content, and no other place has changed. -/
structure Puts (path content : Bytes) (before after : FileView Place) : Prop where
  spot : after.spot = before.spot
  held : after.held? path = some content
  others : ∀ place, place ≠ before.spot path → after.content? place = before.content? place

end FileView

section

variable {σ Place Fault : Type}

/-- A writing call puts a content under its path, or fails and changes nothing. -/
def Store.Writes (view : σ → FileView Place) (path content : Bytes) (s : σ)
    : Except Fault Unit → σ → Prop
  | .ok (), later => (view s).Puts path content (view later)
  | .error _, later => view later = view s

/-- The calls of a store do to its files what they say, or fail and change nothing. -/
structure Store.Keeps (store : Store (StateM σ) Fault) (view : σ → FileView Place) : Prop where
  read
    : ∀ path s,
        view (store.read path s).2 = view s
        ∧ ∀ content, (store.read path s).1 = .ok content → (view s).held? path = some content
  isPresent : ∀ path, OnlyLooks view (store.isPresent path)
  isCancelled : OnlyLooks view store.isCancelled
  copy
    : ∀ source target s content,
        (view s).held? source = some content
        → Store.Writes view target content s (store.copy source target s).1
            (store.copy source target s).2
  write
    : ∀ path content s,
        Store.Writes view path content s (store.write path content s).1
          (store.write path content s).2

namespace Migration

/-- How a run stops at a file, by what it had done before, the files that it found and its error. A
stop before the text is read leaves everything as it was. Behind that the file counts as scanned,
and once its backup is there the text may be held twice.
-/
inductive Halts (options : RunOptions) (path : Bytes) (reached : RunResult) (before : FileView Place)
    : RunResult → RunError Fault → FileView Place → Prop
  | cancelled : Halts options path reached before reached .cancelled before
  | unread {fault} : Halts options path reached before reached (.read path fault) before
  | backupUnread {text fault} (held : before.held? path = some text)
    : Halts options path reached before
        (scanned reached path (Rule.convertAll options.rules path text).records)
        (.readBackup (options.plainBackup path) fault) before
  | uncopied {text backup fault} (held : before.held? path = some text)
    (candidate : backup ∈ options.backups path)
    : Halts options path reached before
        (scanned reached path (Rule.convertAll options.rules path text).records)
        (.backUp path backup fault) before
  | unwritten {text backup fault after} (held : before.held? path = some text)
    (candidate : backup ∈ options.backups path) (backed : before.Puts backup text after)
    : Halts options path reached before
        (scanned reached path (Rule.convertAll options.rules path text).records)
        (.write path fault) after

end Migration

--------------------------------------------------------------------------------
-- Calls
--------------------------------------------------------------------------------

namespace FileView.Puts

/-- A content that is there already is put there by doing nothing. -/
theorem refl {view : FileView Place} {path content : Bytes} (held : view.held? path = some content)
    : view.Puts path content view :=
  ⟨rfl, held, fun _ _ => rfl⟩

end FileView.Puts

namespace Store.Keeps

variable {store : Store (StateM σ) Fault} {view : σ → FileView Place} {s later : σ}

theorem read_run (keeps : store.Keeps view) {path : Bytes} {answer : Except Fault Bytes}
    (ran : store.read path s = (answer, later))
    : view later = view s ∧ ∀ content, answer = .ok content → (view s).held? path = some content := by
  have kept := keeps.read path s
  rwa [ran] at kept

theorem copy_run (keeps : store.Keeps view) {source target content : Bytes}
    {answer : Except Fault Unit} (held : (view s).held? source = some content)
    (ran : store.copy source target s = (answer, later))
    : Store.Writes view target content s answer later := by
  have kept := keeps.copy source target s content held
  rwa [ran] at kept

theorem write_run (keeps : store.Keeps view) {path content : Bytes} {answer : Except Fault Unit}
    (ran : store.write path content s = (answer, later))
    : Store.Writes view path content s answer later := by
  have kept := keeps.write path content s
  rwa [ran] at kept

end Store.Keeps

end

/-- Files in memory as paths show them: every path leads to a place of its own. -/
def Memory.view (memory : Memory) : FileView Bytes := ⟨id, memory.files.get?⟩

theorem Memory.puts_set {path content : Bytes} {memory later : Memory}
    (set : later.files = memory.files.set path content)
    : memory.view.Puts path content later.view := by
  refine ⟨rfl, ?_, fun place apart => ?_⟩
  · show later.files.get? path = some content
    rw [set, FileMap.get?_set, if_pos rfl]
  · show later.files.get? place = memory.files.get? place
    rw [set, FileMap.get?_set]
    exact if_neg apart

/-- Files in memory are kept, whatever calls are refused. -/
theorem Memory.store_keeps (disturbance : Disturbance)
    : (Memory.store disturbance).Keeps Memory.view where
  read := by
    intro path memory
    rcases ran : (Memory.store disturbance).read path memory with ⟨fault | content, later⟩
    · obtain ⟨rfl, -⟩ := Memory.read_error ran
      exact ⟨rfl, nofun⟩
    · obtain ⟨held, rfl⟩ := Memory.read_ok ran
      refine ⟨rfl, ?_⟩
      rintro _ ⟨⟩
      exact held
  isPresent := fun _ _ => rfl
  isCancelled := fun _ => rfl
  copy := by
    intro source target memory content held
    rcases ran : (Memory.store disturbance).copy source target memory with ⟨fault | ⟨⟩, later⟩
    · exact congrArg (FileView.mk id) (congrArg FileMap.get? (Memory.copy_error ran).1)
    · exact Memory.puts_set (Memory.copy_ok ran held)
  write := by
    intro path content memory
    rcases ran : (Memory.store disturbance).write path content memory with ⟨fault | ⟨⟩, later⟩
    · exact congrArg (FileView.mk id) (congrArg FileMap.get? (Memory.write_error ran).1)
    · exact Memory.puts_set (Memory.write_ok ran)

/-- Files on a disk as paths show them: several paths may lead to one place. -/
def Disk.view (disk : Disk) : FileView Place := ⟨disk.spot, disk.content?⟩

theorem Disk.Touches.view {before after : Disk} (h : Disk.Touches [] before after)
    : after.view = before.view := by
  have spots : after.spot = before.spot := funext h.grows.spot
  have contents : after.content? = before.content? := funext fun place => h.content? place (by simp)
  rw [Disk.view, Disk.view, spots, contents]

theorem Disk.Puts.view {path content : Bytes} {before after : Disk}
    (h : Disk.Puts path content before after)
    : before.view.Puts path content after.view := by
  refine ⟨funext h.touches.grows.spot, Disk.content?_of_read h.read, fun place apart => ?_⟩
  have apart : place ≠ before.spot path := apart
  exact h.touches.content? place (by simpa using apart)

/-- The files of a disk are kept by a workspace that serves it, whatever calls fail. -/
theorem Workspace.Serves.keeps {σ : Type} {workspace : Workspace (StateM σ)} {disk : σ → Disk}
    (serves : workspace.Serves disk)
    : workspace.store.Keeps fun s => (disk s).view where
  read := by
    intro path s
    obtain ⟨same, read⟩ := serves.read path s
    exact ⟨congrArg Disk.view same, fun content ran => Disk.content?_of_read (read content ran)⟩
  isPresent := fun path s => congrArg Disk.view (serves.isPresent path s)
  isCancelled := fun s => congrArg Disk.view (serves.isCancelled s)
  copy := by
    intro source target s content held
    rcases ran : workspace.store.copy source target s with ⟨outcome, later⟩
    cases serves.copy_writing ran with
    | done copies =>
        obtain ⟨found, read, puts⟩ := copies
        obtain rfl : found = content :=
          Option.some.inj ((Disk.content?_of_read read).symm.trans held)
        exact puts.view
    | failed touches => exact touches.view
  write := by
    intro path content s
    rcases ran : workspace.store.write path content s with ⟨outcome, later⟩
    cases serves.write_writing ran with
    | done puts => exact puts.view
    | failed touches => exact touches.view

namespace Migration

--------------------------------------------------------------------------------
-- Runs one after another
--------------------------------------------------------------------------------

section

variable {m : Type → Type} [Monad m] [LawfulMonad m] {Fault : Type} (store : Store m Fault)
  (options : RunOptions)

theorem replace_append (earlier result : RunResult) (path before after : Bytes)
    : replace store options (earlier.append result) path before after
      = Prod.map earlier.append id <$> replace store options result path before after := by
  simp only [replace, map_bind]
  refine bind_congr fun backedUp => ?_
  cases backedUp with
  | error e => simp
  | ok backup =>
      simp only [map_bind]
      refine bind_congr fun written => ?_
      cases written <;> simp [RunResult.append]

theorem scanned_append (earlier result : RunResult) (path : Bytes) (records : List Record)
    : scanned (earlier.append result) path records
      = earlier.append (scanned result path records) := by
  simp [scanned, RunResult.append, AmbiguityLog.merge]

/-- A step adds to what was done before without looking at it. -/
theorem step_append (earlier result : RunResult) (path : Bytes)
    : step store options (earlier.append result) path
      = Prod.map earlier.append id <$> step store options result path := by
  simp only [step, map_bind]
  refine bind_congr fun cancelled => ?_
  cases cancelled with
  | true => simp
  | false =>
      simp only [Bool.false_eq_true, ↓reduceIte, map_bind]
      refine bind_congr fun read => ?_
      cases read with
      | error fault => simp
      | ok before =>
          dsimp only
          have merged := scanned_append earlier result path
            (Rule.convertAll options.rules path before).records
          simp only [scanned] at merged
          split
          · simp [RunResult.append, AmbiguityLog.merge]
          · split
            · rw [merged, replace_append]
            · simp [RunResult.append, AmbiguityLog.merge]

/-- What a run adds to what was done before is what it does on its own. -/
theorem runFrom_append_result (earlier result : RunResult) (paths : List Bytes)
    : runFrom store options (earlier.append result) paths
      = Prod.map earlier.append id <$> runFrom store options result paths := by
  induction paths generalizing result with
  | nil => simp [runFrom]
  | cons path rest ih =>
      simp only [runFrom, step_append, map_bind, bind_map_left]
      refine bind_congr fun outcome => ?_
      obtain ⟨next, stopped⟩ := outcome
      cases stopped with
      | none => exact ih next
      | some e => simp

/-- A run over two lists of files is a run over the first one and, unless that stops, one over the
second one that goes on with its result.
-/
theorem runFrom_append (result : RunResult) (paths others : List Bytes)
    : runFrom store options result (paths ++ others)
      = (do
          match ← runFrom store options result paths with
          | (next, none) => runFrom store options next others
          | (next, some e) => return (next, some e)) := by
  induction paths generalizing result with
  | nil => simp [runFrom]
  | cons path rest ih =>
      simp only [List.cons_append, runFrom, bind_assoc]
      refine bind_congr fun outcome => ?_
      obtain ⟨next, stopped⟩ := outcome
      cases stopped with
      | none => exact ih next
      | some e => simp

end

section

variable {σ Fault : Type} {store : Store (StateM σ) Fault} {options : RunOptions} {s later : σ}

/-- A run that went through leaves the rest of the files to a run of their own. -/
theorem run_append {paths others : List Bytes} {first further : RunResult} {s₁ s₂ : σ}
    {stopped : Option (RunError Fault)} (ran : run store options paths s = ((first, none), s₁))
    (ran' : run store options others s₁ = ((further, stopped), s₂))
    : run store options (paths ++ others) s = ((first.append further, stopped), s₂) := by
  have own : first = first.append {} := by simp [RunResult.append, AmbiguityLog.merge]
  calc run store options (paths ++ others) s
      = runFrom store options first others s₁ := by
        rw [run, runFrom_append]
        exact bind_run ran
    _ = (Prod.map first.append id <$> run store options others) s₁ := by
        rw [own, runFrom_append_result, ← own]
        rfl
    _ = ((first.append further, stopped), s₂) := by
        rw [map_eq_pure_bind, bind_run ran']
        rfl

--------------------------------------------------------------------------------
-- Runs that stop
--------------------------------------------------------------------------------

/-- A run stops in the step of a file, after a run over the files before it that went through. -/
theorem runFrom_stopped {paths : List Bytes} {result next : RunResult} {e : RunError Fault}
    (ran : runFrom store options result paths s = ((next, some e), later))
    : ∃ done path rest reached s₁,
        paths = done ++ path :: rest
        ∧ runFrom store options result done s = ((reached, none), s₁)
        ∧ step store options reached path s₁ = ((next, some e), later) := by
  induction paths generalizing result s with
  | nil => cases ran
  | cons path rest ih =>
      simp only [runFrom] at ran
      obtain ⟨⟨middle, stopped⟩, s₁, stepped, ran⟩ := exists_of_bind_run ran
      cases stopped with
      | some e' =>
          cases ran
          exact ⟨[], path, rest, result, s, rfl, rfl, stepped⟩
      | none =>
          obtain ⟨done, halted, behind, reached, s₂, rfl, through, last⟩ := ih ran
          refine ⟨path :: done, halted, behind, reached, s₂, rfl, ?_, last⟩
          simp only [runFrom]
          rw [bind_run stepped]
          exact through

theorem StepCourse.changed {result : RunResult} {path : Bytes}
    {outcome : RunResult × Option (RunError Fault)}
    (course : StepCourse store options result path s outcome later)
    : ∃ changes,
        outcome.1.changed = result.changed ++ changes
        ∧ (changes.map Change.path).Sublist [path] := by
  have none : ∃ changes,
      result.changed = result.changed ++ changes ∧ (changes.map Change.path).Sublist [path] :=
    ⟨[], (List.append_nil _).symm, List.nil_sublist _⟩
  cases course with
  | cancelled | unread | unchanged => exact none
  | shown => exact ⟨_, rfl, List.Sublist.refl _⟩
  | applied _ _ _ replaces =>
      cases replaces with
      | unbacked | unwritten => exact none
      | replaced => exact ⟨_, rfl, List.Sublist.refl _⟩

/-- The changes that a run records are of files that it has come to, one for each visit at most. -/
theorem RunCourse.changed {result : RunResult} {paths : List Bytes}
    {outcome : RunResult × Option (RunError Fault)}
    (course : RunCourse store options result paths s outcome later)
    : ∃ changes,
        outcome.1.changed = result.changed ++ changes
        ∧ (changes.map Change.path).Sublist paths := by
  induction course with
  | done => exact ⟨[], (List.append_nil _).symm, List.nil_sublist _⟩
  | stopped first =>
      obtain ⟨changes, changed, own⟩ := first.changed
      exact ⟨changes, changed, own.trans (by simp)⟩
  | onward first _ ih =>
      obtain ⟨changes, changed, own⟩ := first.changed
      obtain ⟨further, changed', others⟩ := ih
      refine ⟨changes ++ further, ?_, ?_⟩
      · rw [changed', changed, List.append_assoc]
      · rw [List.map_append]
        exact own.append others

variable {Place : Type} {view : σ → FileView Place}

/-- How making sure of a backup ends: a candidate holds the text, or nothing has changed. -/
inductive BacksUp (options : RunOptions) (path text : Bytes) (before after : FileView Place)
    : Except (RunError Fault) Bytes → Prop
  | done {backup} (candidate : backup ∈ options.backups path)
    (puts : before.Puts backup text after)
    : BacksUp options path text before after (.ok backup)
  | unread {fault} (same : after = before)
    : BacksUp options path text before after
        (.error (.readBackup (options.plainBackup path) fault))
  | uncopied {backup fault} (candidate : backup ∈ options.backups path) (same : after = before)
    : BacksUp options path text before after (.error (.backUp path backup fault))

theorem BackUpCourse.backsUp (keeps : store.Keeps view) {path text : Bytes}
    (held : (view s).held? path = some text) {outcome : Except (RunError Fault) Bytes}
    (course : BackUpCourse store options path text s outcome later)
    : BacksUp options path text (view s) (view later) outcome := by
  -- Copying to a backup, after calls that changed no file.
  have copies {target : Bytes} {s₁ : σ} (candidate : target ∈ options.backups path)
      (same : view s₁ = view s) (copied : copyTo store path target s₁ = (outcome, later))
      : BacksUp options path text (view s) (view later) outcome := by
    rw [← same] at held ⊢
    rcases copyTo_course copied with ⟨rfl, wrote⟩ | ⟨fault, rfl, failed⟩
    · exact .done candidate (keeps.copy_run held wrote)
    · exact .uncopied candidate (keeps.copy_run held failed)
  cases course with
  | unread taken read =>
      exact .unread ((keeps.read_run read).1.trans ((keeps.isPresent _).run taken))
  | reused taken read =>
      have looked := (keeps.isPresent _).run taken
      obtain ⟨same, found⟩ := keeps.read_run read
      refine .done (.head _) ?_
      rw [same, looked]
      exact .refl (looked ▸ found _ rfl)
  | beside taken read _ copied =>
      have same := (keeps.read_run read).1.trans ((keeps.isPresent _).run taken)
      exact copies (.tail _ (.head _)) same copied
  | plain free copied => exact copies (.head _) ((keeps.isPresent _).run free) copied

theorem Reads.keeps (keeps : store.Keeps view) {path text : Bytes}
    (reads : Reads store path s text later)
    : view later = view s ∧ (view s).held? path = some text := by
  obtain ⟨s₁, asked, read⟩ := reads
  have looked := keeps.isCancelled.run asked
  obtain ⟨same, found⟩ := keeps.read_run read
  exact ⟨same.trans looked, looked ▸ found _ rfl⟩

/-- A stop records no change. -/
theorem Halts.changed {path : Bytes} {reached result : RunResult} {e : RunError Fault}
    {before after : FileView Place} (h : Halts options path reached before result e after)
    : result.changed = reached.changed := by
  cases h <;> rfl

/-- A step that stops the run leaves the result at its file, and the files as they were but for a
backup.
-/
theorem StepCourse.halts (keeps : store.Keeps view) {reached next : RunResult} {path : Bytes}
    {e : RunError Fault}
    (course : StepCourse store options reached path s (next, some e) later)
    : Halts options path reached (view s) next e (view later) := by
  cases course with
  | cancelled asked =>
      rw [keeps.isCancelled.run asked]
      exact .cancelled
  | unread asked read =>
      rw [(keeps.read_run read).1, keeps.isCancelled.run asked]
      exact .unread
  | applied reads _ _ replaces =>
      obtain ⟨same, held⟩ := reads.keeps keeps
      rw [← same] at held ⊢
      cases replaces with
      | unbacked backedUp =>
          cases backedUp.backsUp keeps held with
          | unread left =>
              rw [left]
              exact .backupUnread held
          | uncopied candidate left =>
              rw [left]
              exact .uncopied held candidate
      | unwritten backedUp written =>
          cases backedUp.backsUp keeps held with
          | done candidate puts =>
              rw [keeps.write_run written]
              exact .unwritten held candidate puts

--------------------------------------------------------------------------------
-- Composition
--------------------------------------------------------------------------------

/-- Runs compose, and a run that stops at a file is a run over the files before it that went through
and a part of that file's own step, which records no change.
-/
theorem run_composes (keeps : store.Keeps view) (options : RunOptions) (s : σ)
    : (∀ paths others first s₁ further stopped s₂,
          run store options paths s = ((first, none), s₁)
          → run store options others s₁ = ((further, stopped), s₂)
          → run store options (paths ++ others) s = ((first.append further, stopped), s₂))
      ∧ ∀ paths result e later,
          run store options paths s = ((result, some e), later)
          → ∃ done path rest reached s₁,
              paths = done ++ path :: rest
              ∧ run store options done s = ((reached, none), s₁)
              ∧ Halts options path reached (view s₁) result e (view later)
              ∧ result.changed = reached.changed
              ∧ (reached.changed.map Change.path).Sublist done := by
  refine ⟨fun paths others first s₁ further stopped s₂ ran ran' => run_append ran ran', ?_⟩
  intro paths result e later ran
  obtain ⟨done, path, rest, reached, s₁, rfl, through, stepped⟩ := runFrom_stopped ran
  have halts := (step_course stepped).halts keeps
  obtain ⟨changes, changed, visited⟩ := (runFrom_course through).changed
  obtain rfl : reached.changed = changes := changed
  exact ⟨done, path, rest, reached, s₁, rfl, through, halts, halts.changed, visited⟩

end

/-- Two files, the second one of which cannot be written. -/
def refusedStart : Memory := ⟨[("a", "Form::token()"), ("b", "Form::token()")], []⟩

/-- A run over some of the two files. -/
def refusedRun (paths : List Bytes) : (RunResult × Option (RunError MemoryFault)) × Memory :=
  run (Memory.store ⟨(· == .write "b"), none⟩) ⟨[Rule.modelToken], true, [], "T"⟩ paths refusedStart

/-- The run over both files stops at the second one, which is backed up by then; a disk is a store
that keeps its files as well.
-/
theorem run_composes_refused
    : (Memory.store ⟨(· == .write "b"), none⟩).Keeps Memory.view
      ∧ (Disk.workspace "/" false).store.Keeps Disk.view
      ∧ (refusedRun ["a", "b"]).1.2 = some (.write "b" (.refused (.write "b")))
      ∧ (refusedRun ["a", "b"]).1.1.files = [Bytes.ofString "a", "b"]
      ∧ (refusedRun ["a", "b"]).1.1.changed.map Change.path = [Bytes.ofString "a"]
      ∧ (refusedRun ["a", "b"]).2.files
          = ([("a", "csrf_field()"), ("b", "Form::token()"), ("a.bak", "Form::token()"),
              ("b.bak", "Form::token()")] : FileMap)
      ∧ ∃ done path rest reached s₁,
          [Bytes.ofString "a", "b"] = done ++ path :: rest
          ∧ refusedRun done = ((reached, none), s₁)
          ∧ Halts ⟨[Rule.modelToken], true, [], "T"⟩ path reached s₁.view
              (refusedRun ["a", "b"]).1.1 (.write "b" (MemoryFault.refused (.write "b")))
              (refusedRun ["a", "b"]).2.view
          ∧ (refusedRun ["a", "b"]).1.1.changed = reached.changed
          ∧ (reached.changed.map Change.path).Sublist done := by
  have keeps := Memory.store_keeps ⟨(· == .write "b"), none⟩
  have stops : (refusedRun ["a", "b"]).1.2 = some (.write "b" (.refused (.write "b"))) := by
    decide +kernel
  refine ⟨keeps, (Disk.workspace_serves "/" false).keeps, stops, by decide +kernel,
    by decide +kernel, by decide +kernel, ?_⟩
  exact (run_composes keeps ⟨[Rule.modelToken], true, [], "T"⟩ refusedStart).2 ["a", "b"] _ _ _
    (Prod.ext (Prod.ext rfl stops) rfl)

/-- A file that is listed twice may be replaced at the first visit and stop the run at the second
one: its change stays recorded.
-/
theorem changed_names_halted
    : let outcome :=
        run (Memory.store ⟨(· == .copy "a.T.bak"), none⟩) ⟨[Rule.inputs], true, [], "T"⟩ ["a", "a"]
          ⟨[("a", "Form::text(Form::text('a'))")], []⟩
      outcome.1.2 = some (.backUp "a" "a.T.bak" (.refused (.copy "a.T.bak")))
      ∧ ∃ change ∈ outcome.1.1.changed, change.path = "a" := by
  decide +kernel

end Migration

end FormMigrate
