import FormMigrate.Proofs.File.Writing
import FormMigrate.Proofs.Run.Service

/-! What an applied run leaves of a disk, wherever it stops: each file that it records as changed
can be written again, and a backup that can be read holds the text that it had.
-/

namespace FormMigrate

--------------------------------------------------------------------------------
-- Statement
--------------------------------------------------------------------------------

/-- A file was replaced, and it can be restored from its backup. -/
structure Change.Safe (options : RunOptions) (change : Change) (before after : Disk) : Prop where
  differs : change.after ≠ change.before
  candidate : change.backup ∈ options.backups change.path
  was : before.content? (before.spot change.path) = some change.before
  is : after.read change.path = .ok change.after
  rewritable : after.Rewritable change.path
  held : after.read change.backup = .ok change.before

/-- What an applied run over files leaves of a disk, by the changes that it records: those files and
what they may be backed up to are all that it touches.
-/
structure Migrated (options : RunOptions) (paths : List Bytes) (changes : List Change)
    (before after : Disk) : Prop where
  listed : (changes.map Change.path).Sublist paths
  changed : ∀ change ∈ changes, change.Safe options before after
  touches
    : Disk.Touches (changes.map Change.path ++ paths.flatMap options.backups) before after

/-- Files in a row whose paths lead apart: what the first one leads to is no backup of its own, and
has nothing in common with what the others lead to.
-/
theorem RunOptions.apart_map_cons {ω : Type} {options : RunOptions} {path : Bytes}
    {rest : List Bytes} (f : Bytes → ω) (apart : ((options.reach (path :: rest)).map f).Nodup)
    : f path ∉ (options.backups path).map f
      ∧ ((options.reach rest).map f).Nodup
      ∧ ∀ q ∈ (options.reach [path]).map f, q ∉ (options.reach rest).map f := by
  simp only [reach, List.map_append, List.flatMap_cons, List.map_cons, List.cons_append,
    List.nodup_cons, List.nodup_append, List.mem_append, not_or] at apart
  obtain ⟨⟨listed, own, backups⟩, files, ⟨-, others, between⟩, across⟩ := apart
  refine ⟨own, ?_, fun q within => ?_⟩
  · rw [reach, List.map_append]
    exact List.nodup_append.mpr ⟨files, others, fun a member b member' =>
      across a member b (.inr member')⟩
  · simp only [reach, List.flatMap_cons, List.flatMap_nil, List.append_nil, List.map_append,
      List.map_cons, List.map_nil, List.mem_append, List.mem_singleton] at within
    rw [reach, List.map_append, List.mem_append, not_or]
    rcases within with rfl | backup
    · exact ⟨listed, backups⟩
    · exact ⟨fun member => across q member q (.inl backup) rfl,
        fun member => between q backup q member rfl⟩

namespace Migrated

variable {options : RunOptions} {paths others : List Bytes} {changes further : List Change}
  {first second third : Disk}

/-- A run that only touches what its files may be backed up to changes none of them. -/
theorem of_touches (h : Disk.Touches (paths.flatMap options.backups) first second)
    : Migrated options paths [] first second :=
  ⟨List.nil_sublist _, by simp, h⟩

theorem within (h : Migrated options paths changes first second)
    : changes.map Change.path ++ paths.flatMap options.backups ⊆ options.reach paths :=
  List.append_subset.mpr
    ⟨fun _ member => List.mem_append_left _ (h.listed.subset member),
      List.subset_append_right _ _⟩

/-- Two runs one after another, over files with nothing in common, are one run. -/
theorem append (h : Migrated options paths changes first second)
    (h' : Migrated options others further second third)
    (apart
      : ∀ place ∈ (options.reach paths).map first.spot,
          place ∉ (options.reach others).map first.spot)
    : Migrated options (paths ++ others) (changes ++ further) first third := by
  have spots : second.spot = first.spot := funext h.touches.grows.spot
  have early {path : Bytes} (member : path ∈ options.reach paths)
      : second.spot path
        ∉ (further.map Change.path ++ others.flatMap options.backups).map second.spot := by
    rw [spots]
    exact fun member' =>
      apart _ (List.mem_map_of_mem member) (List.map_subset first.spot h'.within member')
  have late {path : Bytes} (member : path ∈ options.reach others)
      : first.spot path
        ∉ (changes.map Change.path ++ paths.flatMap options.backups).map first.spot := fun member' =>
    apart _ (List.map_subset first.spot h.within member') (List.mem_map_of_mem member)
  refine ⟨?_, List.forall_mem_append.mpr ⟨fun change member => ?_, fun change member => ?_⟩, ?_⟩
  · rw [List.map_append]
    exact h.listed.append h'.listed
  · have safe := h.changed change member
    have path := @RunOptions.reach_of_mem options _ _ (h.listed.subset (List.mem_map_of_mem member))
    have backup :=
      RunOptions.reach_of_backup (h.listed.subset (List.mem_map_of_mem member)) safe.candidate
    exact ⟨safe.differs, safe.candidate, safe.was, h'.touches.read safe.is (early path),
      h'.touches.grows.rewritable safe.rewritable, h'.touches.read safe.held (early backup)⟩
  · have safe := h'.changed change member
    have path := @RunOptions.reach_of_mem options _ _ (h'.listed.subset (List.mem_map_of_mem member))
    refine ⟨safe.differs, safe.candidate, ?_, safe.is, safe.rewritable, safe.held⟩
    rw [← h.touches.content? _ (late path), ← spots]
    exact safe.was
  · rw [List.map_append, List.flatMap_append]
    refine (h.touches.widen fun path member => ?_).trans (h'.touches.widen fun path member => ?_)
    · rcases List.mem_append.mp member with file | backup
      · simp [file]
      · simp only [List.mem_append, backup, true_or, or_true]
    · rcases List.mem_append.mp member with file | backup
      · simp [file]
      · simp only [List.mem_append, backup, or_true]

end Migrated

--------------------------------------------------------------------------------
-- Backups
--------------------------------------------------------------------------------

namespace Migration

variable {σ : Type} {disk : σ → Disk} {workspace : Workspace (StateM σ)} {options : RunOptions}
  {result : RunResult} {path text : Bytes} {s later : σ}

theorem copyTo_writing (serves : workspace.Serves disk) {target : Bytes}
    {outcome : Except (RunError FileFault) Bytes}
    (ran : copyTo workspace.store path target s = (outcome, later))
    : (outcome = .ok target ∧ Disk.Copies path target (disk s) (disk later))
      ∨ (∃ e, outcome = .error e) ∧ Disk.Touches [] (disk s) (disk later) := by
  rcases copyTo_course ran with ⟨named, copied⟩ | ⟨fault, named, copied⟩
  · cases serves.copy_writing copied with
    | done copies => exact .inl ⟨named, copies⟩
  · cases serves.copy_writing copied with
    | failed touches => exact .inr ⟨⟨_, named⟩, touches⟩

/-- A backup that was made sure of holds the text, and only what may be a backup is touched. -/
theorem BackUpCourse.holds (serves : workspace.Serves disk) {backup : Bytes}
    (course : BackUpCourse workspace.store options path text s (.ok backup) later)
    (read : (disk s).read path = .ok text)
    : backup ∈ options.backups path
      ∧ (disk later).read backup = .ok text
      ∧ Disk.Touches (options.backups path) (disk s) (disk later) := by
  cases course with
  | reused taken found =>
      have same := serves.toSees.isPresent_run taken
      obtain ⟨same', held⟩ := serves.toSees.read_run found
      rw [same', same]
      exact ⟨.head _, same ▸ held text rfl, .refl _ _⟩
  | beside taken found differs copied =>
      have same := (serves.toSees.read_run found).1.trans (serves.toSees.isPresent_run taken)
      rcases copyTo_writing serves copied with ⟨named, copies⟩ | ⟨⟨e, named⟩, -⟩
      · cases named
        rw [same] at copies
        have puts := copies.puts read
        exact ⟨.tail _ (.head _), puts.read, puts.touches.widen (by simp [RunOptions.backups])⟩
      · cases named
  | plain free copied =>
      have same := serves.toSees.isPresent_run free
      rcases copyTo_writing serves copied with ⟨named, copies⟩ | ⟨⟨e, named⟩, -⟩
      · cases named
        rw [same] at copies
        have puts := copies.puts read
        exact ⟨.head _, puts.read, puts.touches.widen (by simp [RunOptions.backups])⟩
      · cases named

/-- A backup that could not be made sure of touches nothing. -/
theorem BackUpCourse.touches (serves : workspace.Serves disk) {e : RunError FileFault}
    (course : BackUpCourse workspace.store options path text s (.error e) later)
    : Disk.Touches [] (disk s) (disk later) := by
  cases course with
  | unread taken found =>
      rw [(serves.toSees.read_run found).1, serves.toSees.isPresent_run taken]
      exact .refl _ _
  | beside taken found differs copied =>
      rw [← serves.toSees.isPresent_run taken, ← (serves.toSees.read_run found).1]
      rcases copyTo_writing serves copied with ⟨named, -⟩ | ⟨-, touches⟩
      · cases named
      · exact touches
  | plain free copied =>
      rw [← serves.toSees.isPresent_run free]
      rcases copyTo_writing serves copied with ⟨named, -⟩ | ⟨-, touches⟩
      · cases named
      · exact touches

--------------------------------------------------------------------------------
-- Files
--------------------------------------------------------------------------------

/-- What a run does at a file that none of its own backups is. -/
theorem StepCourse.migrated (serves : workspace.Serves disk)
    {outcome : RunResult × Option (RunError FileFault)}
    (course : StepCourse workspace.store options result path s outcome later)
    (applies : options.apply = true)
    (apart : (disk s).spot path ∉ (options.backups path).map (disk s).spot)
    : ∃ changes,
        outcome.1.changed = result.changed ++ changes
        ∧ Migrated options [path] changes (disk s) (disk later) := by
  have single : [path].flatMap options.backups = options.backups path := List.flatMap_singleton ..
  have still {s' : σ} (same : disk s' = disk s) : Migrated options [path] [] (disk s) (disk s') :=
    same ▸ .of_touches (.refl _ _)
  cases course with
  | cancelled asked =>
      exact ⟨[], (List.append_nil _).symm, still (serves.toSees.isCancelled_run asked)⟩
  | unread asked read =>
      exact ⟨[], (List.append_nil _).symm,
        still ((serves.toSees.read_run read).1.trans (serves.toSees.isCancelled_run asked))⟩
  | unchanged reads => exact ⟨[], (List.append_nil _).symm, still (reads.sees serves.toSees).1⟩
  | shown reads differs shows => cases applies.symm.trans shows
  | applied reads differs applies replaces =>
      obtain ⟨same, read⟩ := reads.sees serves.toSees
      rw [← same] at read apart ⊢
      cases replaces with
      | unbacked backedUp =>
          exact ⟨[], (List.append_nil _).symm,
            .of_touches ((backedUp.touches serves).widen (List.nil_subset _))⟩
      | unwritten backedUp written =>
          obtain ⟨-, -, touches⟩ := backedUp.holds serves read
          cases serves.write_writing written with
          | failed nothing =>
              refine ⟨[], (List.append_nil _).symm, .of_touches ?_⟩
              rw [single]
              exact touches.trans (nothing.widen (List.nil_subset _))
      | replaced backedUp written =>
          obtain ⟨candidate, held, touches⟩ := backedUp.holds serves read
          cases serves.write_writing written with
          | done puts =>
              have spots := touches.grows.spot
              refine ⟨[_], rfl, List.Sublist.refl _, List.forall_mem_singleton.mpr ?_, ?_⟩
              · refine ⟨differs, candidate, Disk.content?_of_read read, puts.read, puts.rewritable,
                  puts.touches.read held ?_⟩
                rw [List.map_singleton, List.mem_singleton, spots, spots]
                exact fun other => apart (other ▸ List.mem_map_of_mem candidate)
              · rw [single]
                exact (touches.widen (by simp)).trans (puts.touches.widen (by simp))

/-- What an applied run leaves of a disk, wherever it stops. -/
theorem RunCourse.migrated (serves : workspace.Serves disk) {files : List Bytes}
    {outcome : RunResult × Option (RunError FileFault)}
    (course : RunCourse workspace.store options result files s outcome later)
    (applies : options.apply = true)
    (apart : ((options.reach files).map (disk s).spot).Nodup)
    : ∃ changes,
        outcome.1.changed = result.changed ++ changes
        ∧ Migrated options files changes (disk s) (disk later) := by
  induction course with
  | done => exact ⟨[], (List.append_nil _).symm, .of_touches (.refl _ _)⟩
  | @stopped result path rest s next e s₁ first =>
      obtain ⟨own, -, others⟩ := RunOptions.apart_map_cons (disk s).spot apart
      obtain ⟨changes, recorded, migrated⟩ := first.migrated serves applies own
      refine ⟨changes, recorded, ?_⟩
      have none : Migrated options rest [] (disk s₁) (disk s₁) := .of_touches (.refl _ _)
      have whole := migrated.append none others
      rwa [List.append_nil] at whole
  | @onward result path rest s next s₁ outcome s₂ first behind ih =>
      obtain ⟨own, apart, others⟩ := RunOptions.apart_map_cons (disk s).spot apart
      obtain ⟨changes, recorded, migrated⟩ := first.migrated serves applies own
      have spots : (disk s₁).spot = (disk s).spot := funext migrated.touches.grows.spot
      obtain ⟨further, recorded', migrated'⟩ := ih (spots ▸ apart)
      refine ⟨changes ++ further, ?_, migrated.append migrated' others⟩
      rw [recorded', recorded, List.append_assoc]

end Migration

end FormMigrate
