import FormMigrate.Proofs.Run.Recording
import FormMigrate.Proofs.State

/-! Applied runs lose no text. Whatever calls fail and wherever a run is cancelled, what it replaces
is held by a backup before the write and after the run, and it touches nothing else.
-/

namespace FormMigrate

--------------------------------------------------------------------------------
-- Statement
--------------------------------------------------------------------------------

/-- The paths that a file may be backed up to. -/
def RunOptions.backups (options : RunOptions) (path : Bytes) : List Bytes :=
  [options.plainBackup path, options.stampedBackup path]

/-- The paths that are a run's business: its files and what they may be backed up to. -/
def RunOptions.reach (options : RunOptions) (paths : List Bytes) : List Bytes :=
  paths ++ paths.flatMap options.backups

/-- A call that finds, if it is a write, the given content of its path in a backup of that path. -/
def Moment.Guarded (options : RunOptions) (content? : Bytes → Option Bytes) (moment : Moment)
    : Prop :=
  ∀ path,
    moment.call = .write path
      → ∃ backup ∈ options.backups path, ∃ content,
          content? path = some content ∧ moment.found.get? backup = some content

/-- What a run over files does in one stretch, from one recording to a later one. -/
structure Keeps (options : RunOptions) (paths : List Bytes) (before after : Recording)
    (changes : List Change) : Prop where
  /-- The calls stay within reach, and every write finds its file's content backed up. -/
  calls
    : ∃ made,
        after.moments = before.moments ++ made
        ∧ after.memory.calls = before.memory.calls ++ made.map Moment.call
        ∧ ∀ moment ∈ made,
            moment.call.path ∈ options.reach paths ∧ moment.Guarded options before.content?
  /-- A changed file has its new content, and its backup has the content it had. -/
  changed
    : ∀ change ∈ changes,
        change.path ∈ paths
        ∧ change.backup ∈ options.backups change.path
        ∧ before.content? change.path = some change.before
        ∧ after.content? change.path = some change.after
        ∧ after.content? change.backup = some change.before
  /-- Every other file has the content it had. -/
  kept
    : ∀ path ∈ paths,
        (∀ change ∈ changes, change.path ≠ path) → after.content? path = before.content? path
  /-- Nothing out of reach changes. -/
  untouched : ∀ path, path ∉ options.reach paths → after.content? path = before.content? path

--------------------------------------------------------------------------------
-- Stretches of calls
--------------------------------------------------------------------------------

/-- A stretch of calls on some paths: a write among them is guarded, and other paths keep their
content.
-/
structure Stretch (options : RunOptions) (content? : Bytes → Option Bytes) (reach : List Bytes)
    (before after : Recording) : Prop where
  calls
    : ∃ made,
        after.moments = before.moments ++ made
        ∧ after.memory.calls = before.memory.calls ++ made.map Moment.call
        ∧ ∀ moment ∈ made, moment.call.path ∈ reach ∧ moment.Guarded options content?
  untouched : ∀ path, path ∉ reach → after.content? path = before.content? path

namespace Stretch

variable {options : RunOptions} {content? : Bytes → Option Bytes} {reach wider : List Bytes}
  {first second third : Recording}

theorem refl (recording : Recording) : Stretch options content? reach recording recording :=
  ⟨⟨[], by simp, by simp, nofun⟩, fun _ _ => rfl⟩

theorem trans (h : Stretch options content? reach first second)
    (h' : Stretch options content? reach second third)
    : Stretch options content? reach first third := by
  obtain ⟨made, moments, calls, each⟩ := h.calls
  obtain ⟨made', moments', calls', each'⟩ := h'.calls
  refine ⟨⟨made ++ made', ?_, ?_, List.forall_mem_append.mpr ⟨each, each'⟩⟩, ?_⟩
  · rw [moments', moments, List.append_assoc]
  · rw [calls', calls, List.map_append, List.append_assoc]
  · exact fun path apart => (h'.untouched path apart).trans (h.untouched path apart)

theorem widen (h : Stretch options content? reach first second) (within : reach ⊆ wider)
    : Stretch options content? wider first second := by
  obtain ⟨made, moments, calls, each⟩ := h.calls
  exact ⟨⟨made, moments, calls, fun moment member =>
    ⟨within (each moment member).1, (each moment member).2⟩⟩,
    fun path apart => h.untouched path fun member => apart (within member)⟩

end Stretch

--------------------------------------------------------------------------------
-- Single calls
--------------------------------------------------------------------------------

namespace Recording

/-- A recording after a call that left the files as they were. -/
def pass (recording : Recording) (call : Call) : Recording :=
  ⟨recording.memory.note call, recording.moments ++ [⟨call, recording.memory.files⟩]⟩

/-- A recording after a call that set a path. -/
def put (recording : Recording) (call : Call) (path content : Bytes) : Recording :=
  ⟨{ recording.memory.note call with files := recording.memory.files.set path content },
    recording.moments ++ [⟨call, recording.memory.files⟩]⟩

variable (disturbance : Disturbance) (recording : Recording)

theorem track_run {α : Type} {call : Call} {action : StateM Memory α} {recording : Recording} {a : α}
    {memory : Memory} (h : action recording.memory = (a, memory))
    : track call action recording
      = (a, ⟨memory, recording.moments ++ [⟨call, recording.memory.files⟩]⟩) := by
  rw [track, h]

theorem content?_put (call : Call) (path content other : Bytes)
    : (recording.put call path content).content? other
      = if other = path then some content else recording.content? other :=
  FileMap.get?_set recording.memory.files path content other

theorem read_cases (path : Bytes)
    : (∃ fault,
        (store disturbance).read path recording = (.error fault, recording.pass (.read path)))
      ∨ ∃ content,
          recording.content? path = some content
          ∧ (store disturbance).read path recording
            = (.ok content, recording.pass (.read path)) := by
  cases refused : disturbance.refuses (.read path) with
  | true => exact .inl ⟨_, track_run (by simp only [Memory.store, Memory.perform, refused]; rfl)⟩
  | false =>
      cases held : recording.memory.files.get? path with
      | none =>
          refine .inl ⟨.noSuchFile, track_run ?_⟩
          simp only [Memory.store, Memory.perform, refused, held]
          rfl
      | some content =>
          refine .inr ⟨content, held, track_run ?_⟩
          simp only [Memory.store, Memory.perform, refused, held]
          rfl

theorem copy_cases {source target content : Bytes}
    (held : recording.content? source = some content)
    : (∃ fault,
        (store disturbance).copy source target recording
        = (.error fault, recording.pass (.copy target)))
      ∨ (store disturbance).copy source target recording
        = (.ok (), recording.put (.copy target) target content) := by
  cases refused : disturbance.refuses (.copy target) with
  | true => exact .inl ⟨_, track_run (by simp only [Memory.store, Memory.perform, refused]; rfl)⟩
  | false =>
      have held : recording.memory.files.get? source = some content := held
      refine .inr (track_run ?_)
      simp only [Memory.store, Memory.perform, refused, held]
      rfl

theorem write_cases (path content : Bytes)
    : (∃ fault,
        (store disturbance).write path content recording
        = (.error fault, recording.pass (.write path)))
      ∨ (store disturbance).write path content recording
        = (.ok (), recording.put (.write path) path content) := by
  cases refused : disturbance.refuses (.write path) with
  | true => exact .inl ⟨_, track_run (by simp only [Memory.store, Memory.perform, refused]; rfl)⟩
  | false => exact .inr (track_run (by simp only [Memory.store, Memory.perform, refused]; rfl))

variable {recording} {options : RunOptions} {content? : Bytes → Option Bytes} {reach : List Bytes}
  {call : Call}

theorem pass_stretch (within : call.path ∈ reach)
    (guarded : Moment.Guarded options content? ⟨call, recording.memory.files⟩)
    : Stretch options content? reach recording (recording.pass call) :=
  ⟨⟨[⟨call, recording.memory.files⟩], rfl, rfl, by simpa using ⟨within, guarded⟩⟩, fun _ _ => rfl⟩

theorem put_stretch {content : Bytes} (within : call.path ∈ reach)
    (guarded : Moment.Guarded options content? ⟨call, recording.memory.files⟩)
    : Stretch options content? reach recording (recording.put call call.path content) := by
  refine ⟨⟨[⟨call, recording.memory.files⟩], rfl, rfl, by simpa using ⟨within, guarded⟩⟩, ?_⟩
  intro path apart
  rw [content?_put, if_neg]
  rintro rfl
  exact apart within

end Recording

/-- A stretch that leaves a file's content as it was keeps it. -/
theorem Keeps.of_stretch {options : RunOptions} {path : Bytes} {before after : Recording}
    (h : Stretch options before.content? (options.reach [path]) before after)
    (same : after.content? path = before.content? path)
    : Keeps options [path] before after [] where
  calls := h.calls
  changed := nofun
  kept := fun p member _ => by rwa [List.mem_singleton.mp member]
  untouched := h.untouched

/-- A call that changes nothing may stand in front. -/
theorem Keeps.behind_pass {options : RunOptions} {paths : List Bytes} {before after : Recording}
    {changes : List Change} {call : Call} (h : Keeps options paths (before.pass call) after changes)
    (within : call.path ∈ options.reach paths)
    (guarded : Moment.Guarded options before.content? ⟨call, before.memory.files⟩)
    : Keeps options paths before after changes where
  calls := ((Recording.pass_stretch within guarded).trans ⟨h.calls, h.untouched⟩).calls
  changed := h.changed
  kept := h.kept
  untouched := h.untouched

theorem RunOptions.mem_reach_append {options : RunOptions} {paths others : List Bytes} {path : Bytes}
    : path ∈ options.reach (paths ++ others)
      ↔ path ∈ options.reach paths ∨ path ∈ options.reach others := by
  simp only [reach, List.flatMap_append, List.mem_append]
  exact or_or_or_comm

theorem RunOptions.reach_of_mem {options : RunOptions} {paths : List Bytes} {path : Bytes}
    (member : path ∈ paths)
    : path ∈ options.reach paths :=
  List.mem_append_left _ member

theorem RunOptions.reach_of_backup {options : RunOptions} {paths : List Bytes} {path backup : Bytes}
    (member : path ∈ paths) (candidate : backup ∈ options.backups path)
    : backup ∈ options.reach paths :=
  List.mem_append_right _ (List.mem_flatMap.mpr ⟨path, member, candidate⟩)

/-- Files in a row that are apart: the first one is no backup of its own, and has nothing in common
with the others.
-/
theorem RunOptions.apart_cons {options : RunOptions} {path : Bytes} {rest : List Bytes}
    (apart : (options.reach (path :: rest)).Nodup)
    : path ∉ options.backups path
      ∧ (options.reach rest).Nodup
      ∧ ∀ p ∈ options.reach [path], p ∉ options.reach rest := by
  simp only [reach, List.flatMap_cons, List.cons_append, List.nodup_cons, List.nodup_append,
    List.mem_append, not_or] at apart
  obtain ⟨⟨listed, own, backups⟩, files, ⟨-, others, between⟩, across⟩ := apart
  have reached : (options.reach rest).Nodup :=
    List.nodup_append.mpr ⟨files, others, fun a member b member' =>
      across a member b (.inr member')⟩
  refine ⟨own, reached, fun p within => ?_⟩
  simp only [reach, List.flatMap_cons, List.flatMap_nil, List.append_nil, List.mem_append,
    List.mem_singleton] at within
  rw [reach, List.mem_append, not_or]
  rcases within with rfl | backup
  · exact ⟨listed, backups⟩
  · exact ⟨fun member => across p member p (.inl backup) rfl,
      fun member => between p backup p member rfl⟩

/-- A run over files that ends at once keeps them all. -/
theorem Keeps.refl (options : RunOptions) (paths : List Bytes) (recording : Recording)
    : Keeps options paths recording recording [] where
  calls := (@Stretch.refl options recording.content? (options.reach paths) recording).calls
  changed := nofun
  kept := fun _ _ _ => rfl
  untouched := fun _ _ => rfl

/-- Two runs one after another, over files with nothing in common, are one run.
Witness: what the first one wrote is out of reach for the second one, and what the second one reads
is as it was before the first one.
-/
theorem Keeps.append {options : RunOptions} {paths others : List Bytes}
    {first second third : Recording} {changes further : List Change}
    (h : Keeps options paths first second changes) (h' : Keeps options others second third further)
    (apart : ∀ path ∈ options.reach paths, path ∉ options.reach others)
    : Keeps options (paths ++ others) first third (changes ++ further) where
  calls := by
    obtain ⟨made, moments, calls, each⟩ := h.calls
    obtain ⟨made', moments', calls', each'⟩ := h'.calls
    refine ⟨made ++ made', ?_, ?_, List.forall_mem_append.mpr ⟨?_, ?_⟩⟩
    · rw [moments', moments, List.append_assoc]
    · rw [calls', calls, List.map_append, List.append_assoc]
    · intro moment member
      exact ⟨RunOptions.mem_reach_append.mpr (.inl (each moment member).1), (each moment member).2⟩
    · intro moment member
      obtain ⟨within, guarded⟩ := each' moment member
      refine ⟨RunOptions.mem_reach_append.mpr (.inr within), fun path write => ?_⟩
      obtain ⟨backup, candidate, content, held, found⟩ := guarded path write
      rw [write] at within
      have outside : path ∉ options.reach paths := fun member => apart path member within
      exact ⟨backup, candidate, content, (h.untouched path outside) ▸ held, found⟩
  changed := by
    refine List.forall_mem_append.mpr ⟨fun change member => ?_, fun change member => ?_⟩
    · obtain ⟨listed, candidate, was, is, backup⟩ := h.changed change member
      have path := h'.untouched _ (apart _ (RunOptions.reach_of_mem listed))
      have copy := h'.untouched _ (apart _ (RunOptions.reach_of_backup listed candidate))
      exact ⟨List.mem_append_left _ listed, candidate, was, path.trans is, copy.trans backup⟩
    · obtain ⟨listed, candidate, was, is, backup⟩ := h'.changed change member
      have outside : change.path ∉ options.reach paths :=
        fun member => apart _ member (RunOptions.reach_of_mem listed)
      exact ⟨List.mem_append_right _ listed, candidate, (h.untouched _ outside) ▸ was, is, backup⟩
  kept := by
    intro path member unchanged
    rw [List.forall_mem_append] at unchanged
    rcases List.mem_append.mp member with member | member
    · have outside := apart path (RunOptions.reach_of_mem member)
      exact (h'.untouched path outside).trans (h.kept path member unchanged.1)
    · have outside : path ∉ options.reach paths :=
        fun within => apart path within (RunOptions.reach_of_mem member)
      exact (h'.kept path member unchanged.2).trans (h.untouched path outside)
  untouched := by
    intro path outside
    rw [RunOptions.mem_reach_append, not_or] at outside
    exact (h'.untouched path outside.2).trans (h.untouched path outside.1)

--------------------------------------------------------------------------------
-- Backups
--------------------------------------------------------------------------------

namespace Migration

variable (disturbance : Disturbance) (options : RunOptions) {recording : Recording}

theorem copyTo_cases (content? : Bytes → Option Bytes) {path target current : Bytes}
    (held : recording.content? path = some current)
    : ∃ outcome after,
        copyTo (Recording.store disturbance) path target recording = (outcome, after)
        ∧ Stretch options content? [target] recording after
        ∧ ∀ backup,
            outcome = .ok backup → backup = target ∧ after.content? backup = some current := by
  unfold copyTo
  rcases Recording.copy_cases disturbance recording held with ⟨fault, copied⟩ | copied
  · exact ⟨.error (.backUp path target fault), _, bind_run copied,
      Recording.pass_stretch (.head _) nofun, nofun⟩
  · refine ⟨.ok target, _, bind_run copied,
      @Recording.put_stretch _ _ _ _ (.copy target) _ (.head _) nofun, ?_⟩
    intro backup same
    cases same
    exact ⟨rfl, by rw [Recording.content?_put, if_pos rfl]⟩

/-- A backup that a run names holds the file's content. -/
theorem backUp_cases (content? : Bytes → Option Bytes) {path current : Bytes}
    (apart : path ∉ options.backups path) (held : recording.content? path = some current)
    : ∃ outcome after,
        backUp (Recording.store disturbance) options path current recording = (outcome, after)
        ∧ Stretch options content? (options.backups path) recording after
        ∧ ∀ backup,
            outcome = .ok backup
              → backup ∈ options.backups path ∧ after.content? backup = some current := by
  have plain : options.plainBackup path ∈ options.backups path := .head _
  have stamped : options.stampedBackup path ∈ options.backups path := .tail _ (.head _)
  -- Copying to a backup, after calls that changed no file.
  have copies {target : Bytes} {middle : Recording} (backup : target ∈ options.backups path)
      (before : Stretch options content? (options.backups path) recording middle)
      : ∃ outcome after,
          copyTo (Recording.store disturbance) path target middle = (outcome, after)
          ∧ Stretch options content? (options.backups path) recording after
          ∧ ∀ backup,
              outcome = .ok backup
                → backup ∈ options.backups path ∧ after.content? backup = some current := by
    obtain ⟨outcome, after, ran, stretch, copied⟩ :=
      copyTo_cases disturbance options content? ((before.untouched path apart).trans held)
    refine ⟨outcome, after, ran, before.trans (stretch.widen (by simpa using backup)), ?_⟩
    intro backup' same
    obtain ⟨rfl, holds⟩ := copied backup' same
    exact ⟨backup, holds⟩
  have looked : Stretch options content? (options.backups path) recording
      (recording.pass (.exists (options.plainBackup path))) :=
    Recording.pass_stretch plain nofun
  rw [backUp_eq]
  have present
      : (Recording.store disturbance).isPresent (options.plainBackup path) recording
        = ((recording.content? (options.plainBackup path)).isSome,
            recording.pass (.exists (options.plainBackup path))) := rfl
  rw [bind_run present]
  split
  · rcases (recording.pass (.exists (options.plainBackup path))).read_cases disturbance
        (options.plainBackup path) with ⟨fault, read⟩ | ⟨existing, holds, read⟩
    · exact ⟨_, _, bind_run read, looked.trans (Recording.pass_stretch plain nofun), nofun⟩
    · rw [bind_run read]
      dsimp only
      split
      · rename_i same
        refine ⟨_, _, rfl, looked.trans (Recording.pass_stretch plain nofun), ?_⟩
        intro backup named
        cases named
        exact ⟨plain, holds.trans (congrArg some (beq_iff_eq.mp same))⟩
      · exact copies stamped (looked.trans (Recording.pass_stretch plain nofun))
  · exact copies plain looked

--------------------------------------------------------------------------------
-- Files
--------------------------------------------------------------------------------

theorem replace_cases (result : RunResult) {path before after : Bytes}
    (apart : path ∉ options.backups path) (held : recording.content? path = some before)
    : ∃ next stopped later changes,
        replace (Recording.store disturbance) options result path before after recording
          = ((next, stopped), later)
        ∧ next.changed = result.changed ++ changes
        ∧ Keeps options [path] recording later changes := by
  have own : path ∈ options.reach [path] := .head _
  have backups : options.backups path ⊆ options.reach [path] := by
    intro backup member
    simpa [RunOptions.reach] using .inr member
  obtain ⟨outcome, middle, ran, stretch, named⟩ :=
    backUp_cases disturbance options recording.content? apart held
  have untouched : middle.content? path = recording.content? path := stretch.untouched path apart
  unfold replace
  rw [bind_run ran]
  cases outcome with
  | error e =>
      exact ⟨_, _, _, [], rfl, (List.append_nil _).symm, .of_stretch (stretch.widen backups) untouched⟩
  | ok backup =>
      obtain ⟨candidate, holds⟩ := named backup rfl
      have guarded : Moment.Guarded options recording.content? ⟨.write path, middle.memory.files⟩ := by
        rintro _ ⟨⟩
        exact ⟨backup, candidate, before, held, holds⟩
      dsimp only
      rcases middle.write_cases disturbance path after with ⟨fault, written⟩ | written
      · rw [bind_run written]
        exact ⟨_, _, _, [], rfl, (List.append_nil _).symm,
          .of_stretch ((stretch.widen backups).trans (Recording.pass_stretch own guarded)) untouched⟩
      · rw [bind_run written]
        have whole := (stretch.widen backups).trans
          (@Recording.put_stretch _ _ _ _ (.write path) after own guarded)
        refine ⟨_, _, _, [⟨path, before, after, backup⟩], rfl, rfl, whole.calls, ?_, ?_,
          whole.untouched⟩
        · have other : backup ≠ path := fun same => apart (same ▸ candidate)
          refine List.forall_mem_singleton.mpr ⟨.head _, candidate, held, ?_, ?_⟩
          · rw [Recording.content?_put, if_pos rfl]
          · rw [Recording.content?_put, if_neg other, holds]
        · intro p member others
          obtain rfl := List.mem_singleton.mp member
          exact (others _ (.head _) rfl).elim

/-- One file: a stopped run, a file without matches and a failed call leave its text alone, and a
replaced one has its text in its backup.
-/
theorem step_cases (applies : options.apply = true) (result : RunResult) {path : Bytes}
    (apart : path ∉ options.backups path)
    : ∃ next stopped later changes,
        step (Recording.store disturbance) options result path recording = ((next, stopped), later)
        ∧ next.changed = result.changed ++ changes
        ∧ Keeps options [path] recording later changes := by
  have own : path ∈ options.reach [path] := .head _
  have looked : Stretch options recording.content? (options.reach [path]) recording
      (recording.pass (.read path)) :=
    Recording.pass_stretch own nofun
  unfold step
  have asked
      : (Recording.store disturbance).isCancelled recording
        = (((Memory.store disturbance).isCancelled recording.memory).1, recording) := rfl
  rw [bind_run asked]
  split
  · exact ⟨_, _, _, [], rfl, (List.append_nil _).symm, .of_stretch (.refl recording) rfl⟩
  · rcases recording.read_cases disturbance path with ⟨fault, read⟩ | ⟨before, held, read⟩
    · exact ⟨_, _, _, [], bind_run read, (List.append_nil _).symm, .of_stretch looked rfl⟩
    · rw [show _ = _ from bind_run read]
      dsimp only
      split
      · exact ⟨_, _, _, [], rfl, (List.append_nil _).symm, .of_stretch looked rfl⟩
      · have held : (recording.pass (.read path)).content? path = some before := held
        obtain ⟨next, stopped, later, changes, ran, changed, keeps⟩ :=
          replace_cases disturbance options _ apart held
        exact ⟨next, stopped, later, changes, ran, changed, keeps.behind_pass own nofun⟩

/-- A run keeps its files, by induction on them. -/
theorem runFrom_keeps (applies : options.apply = true) (result : RunResult) {paths : List Bytes}
    (apart : (options.reach paths).Nodup)
    : ∃ next stopped later changes,
        runFrom (Recording.store disturbance) options result paths recording
          = ((next, stopped), later)
        ∧ next.changed = result.changed ++ changes
        ∧ Keeps options paths recording later changes := by
  induction paths generalizing result recording with
  | nil => exact ⟨_, _, _, [], rfl, (List.append_nil _).symm, .refl options [] recording⟩
  | cons path rest ih =>
      obtain ⟨own, others, disjoint⟩ := RunOptions.apart_cons apart
      obtain ⟨next, stopped, later, changes, ran, changed, keeps⟩ :=
        step_cases disturbance options applies result own
      rw [runFrom, bind_run ran]
      cases stopped with
      | some e =>
          have whole := keeps.append (.refl options rest later) disjoint
          rw [List.append_nil] at whole
          exact ⟨_, _, _, changes, rfl, changed, whole⟩
      | none =>
          obtain ⟨last, stopped, final, further, ran', changed', keeps'⟩ := ih next others
          refine ⟨last, stopped, final, changes ++ further, ran', ?_,
            keeps.append keeps' disjoint⟩
          rw [changed', changed, List.append_assoc]

/-- An applied run loses no text, whatever calls fail and wherever it is cancelled. It is given
files that are apart from each other and from all their backups.
-/
theorem run_keeps (applies : options.apply = true) {paths : List Bytes}
    (apart : (options.reach paths).Nodup) (before : Memory)
    : ∃ result stopped after,
        run (Recording.store disturbance) options paths ⟨before, []⟩ = ((result, stopped), after)
        ∧ run (Memory.store disturbance) options paths before = ((result, stopped), after.memory)
        ∧ Keeps options paths ⟨before, []⟩ after result.changed := by
  obtain ⟨result, stopped, after, changes, ran, changed, keeps⟩ :=
    runFrom_keeps disturbance options applies {} apart
  have plain := runFrom_records disturbance options {} paths ⟨before, []⟩
  rw [ran] at plain
  exact ⟨result, stopped, after, ran, plain, changed ▸ keeps⟩

/-- An older backup stays beside the new one, and a file whose write is refused stays as it was. -/
theorem run_keeps_refused
    : (⟨[Rule.modelToken], true, [], "T"⟩ : RunOptions).apply = true
      ∧ (RunOptions.reach ⟨[Rule.modelToken], true, [], "T"⟩ ["a", "b"]).Nodup
      ∧ (∃ result stopped after,
          run (Recording.store ⟨(· == .write "b"), none⟩) ⟨[Rule.modelToken], true, [], "T"⟩
              ["a", "b"]
              ⟨⟨[("a", "Form::token()"), ("a.bak", "old"), ("b", "Form::token()")], []⟩, []⟩
            = ((result, stopped), after)
          ∧ run (Memory.store ⟨(· == .write "b"), none⟩) ⟨[Rule.modelToken], true, [], "T"⟩
              ["a", "b"]
              ⟨[("a", "Form::token()"), ("a.bak", "old"), ("b", "Form::token()")], []⟩
            = ((result, stopped), after.memory)
          ∧ Keeps ⟨[Rule.modelToken], true, [], "T"⟩ ["a", "b"]
              ⟨⟨[("a", "Form::token()"), ("a.bak", "old"), ("b", "Form::token()")], []⟩, []⟩ after
              result.changed)
      ∧ (run (Memory.store ⟨(· == .write "b"), none⟩) ⟨[Rule.modelToken], true, [], "T"⟩
            ["a", "b"]
            ⟨[("a", "Form::token()"), ("a.bak", "old"), ("b", "Form::token()")], []⟩).2.files
          = ([("a", "csrf_field()"), ("a.bak", "old"), ("b", "Form::token()"),
              ("a.T.bak", "Form::token()"), ("b.bak", "Form::token()")] : FileMap) :=
  ⟨rfl, by decide +kernel, run_keeps _ _ rfl (by decide +kernel) _, by decide +kernel⟩

end Migration

end FormMigrate
