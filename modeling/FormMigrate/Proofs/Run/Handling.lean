import FormMigrate.Proofs.Run.Course

/-! What an applied run does to files in memory when it comes to one of them: which backup it takes,
and what the files hold afterwards, whatever calls fail.
-/

namespace FormMigrate

--------------------------------------------------------------------------------
-- Single calls
--------------------------------------------------------------------------------

namespace Memory

variable {disturbance : Disturbance} {memory later : Memory}

theorem perform_ok {α : Type} {call : Call} {action : FileMap → Except MemoryFault (α × FileMap)}
    {a : α} (ran : perform disturbance call action memory = (.ok a, later))
    : action memory.files = .ok (a, later.files) ∧ later.calls = memory.calls ++ [call] := by
  unfold perform at ran
  cases refused : disturbance.refuses call with
  | true =>
      rw [refused] at ran
      cases ran
  | false =>
      rw [refused] at ran
      cases acted : action memory.files with
      | error fault =>
          rw [acted] at ran
          cases ran
      | ok pair =>
          rw [acted] at ran
          cases ran
          exact ⟨rfl, rfl⟩

theorem perform_error {α : Type} {call : Call}
    {action : FileMap → Except MemoryFault (α × FileMap)} {fault : MemoryFault}
    (ran : perform disturbance call action memory = (.error fault, later))
    : later = memory.note call
      ∧ (disturbance.refuses call = true ∨ action memory.files = .error fault) := by
  unfold perform at ran
  cases refused : disturbance.refuses call with
  | true =>
      rw [refused] at ran
      cases ran
      exact ⟨rfl, .inl rfl⟩
  | false =>
      rw [refused] at ran
      cases acted : action memory.files with
      | error fault =>
          rw [acted] at ran
          cases ran
          exact ⟨rfl, .inr rfl⟩
      | ok pair =>
          rw [acted] at ran
          cases ran

theorem read_ok {path content : Bytes}
    (ran : (store disturbance).read path memory = (.ok content, later))
    : memory.files.get? path = some content ∧ later = memory.note (.read path) := by
  dsimp only [store] at ran
  obtain ⟨acted, calls⟩ := perform_ok ran
  obtain ⟨files, made⟩ := later
  cases held : memory.files.get? path with
  | none =>
      rw [held] at acted
      cases acted
  | some found =>
      rw [held] at acted
      cases acted
      exact ⟨rfl, congrArg (Memory.mk memory.files) calls⟩

/-- A read fails only if it is refused or nothing is there. -/
theorem read_error {path : Bytes} {fault : MemoryFault}
    (ran : (store disturbance).read path memory = (.error fault, later))
    : later = memory.note (.read path)
      ∧ (disturbance.refuses (.read path) = true
          ∨ memory.files.get? path = none ∧ fault = .noSuchFile) := by
  dsimp only [store] at ran
  obtain ⟨same, why⟩ := perform_error ran
  refine ⟨same, why.imp_right fun acted => ?_⟩
  cases held : memory.files.get? path with
  | none =>
      rw [held] at acted
      cases acted
      exact ⟨rfl, rfl⟩
  | some found =>
      rw [held] at acted
      cases acted

theorem copy_ok {source target content : Bytes}
    (ran : (store disturbance).copy source target memory = (.ok (), later))
    (held : memory.files.get? source = some content)
    : later.files = memory.files.set target content := by
  dsimp only [store] at ran
  obtain ⟨acted, -⟩ := perform_ok ran
  rw [held] at acted
  exact (congrArg Prod.snd (Except.ok.inj acted)).symm

theorem copy_error {source target : Bytes} {fault : MemoryFault}
    (ran : (store disturbance).copy source target memory = (.error fault, later))
    : later.files = memory.files ∧ disturbance.refuses (.copy target) = true := by
  dsimp only [store] at ran
  obtain ⟨rfl, refused | acted⟩ := perform_error ran
  · exact ⟨rfl, refused⟩
  · cases acted

theorem write_ok {path content : Bytes}
    (ran : (store disturbance).write path content memory = (.ok (), later))
    : later.files = memory.files.set path content := by
  dsimp only [store] at ran
  obtain ⟨acted, -⟩ := perform_ok ran
  exact (congrArg Prod.snd (Except.ok.inj acted)).symm

theorem write_error {path content : Bytes} {fault : MemoryFault}
    (ran : (store disturbance).write path content memory = (.error fault, later))
    : later.files = memory.files ∧ disturbance.refuses (.write path) = true := by
  dsimp only [store] at ran
  obtain ⟨rfl, refused | acted⟩ := perform_error ran
  · exact ⟨rfl, refused⟩
  · cases acted

theorem isPresent_eq {path : Bytes} {present : Bool}
    (ran : (store disturbance).isPresent path memory = (present, later))
    : (memory.files.get? path).isSome = present ∧ later.files = memory.files := by
  cases ran
  exact ⟨rfl, rfl⟩

theorem isCancelled_eq {cancelled : Bool}
    (ran : (store disturbance).isCancelled memory = (cancelled, later))
    : later = memory := by
  cases ran
  rfl

end Memory

--------------------------------------------------------------------------------
-- Backups
--------------------------------------------------------------------------------

theorem RunOptions.suffix_ne_nil (options : RunOptions) : options.suffix ≠ [] := by
  unfold suffix
  split
  · decide
  · rename_i given
    simpa using given

/-- A file is no backup of its own. -/
theorem RunOptions.not_mem_backups (options : RunOptions) (path : Bytes)
    : path ∉ options.backups path := by
  have longer : 0 < options.suffix.length := List.length_pos_iff.mpr options.suffix_ne_nil
  intro member
  simp only [backups, List.mem_cons, List.not_mem_nil, or_false] at member
  rcases member with same | same
  · have lengths := congrArg List.length same
    rw [plainBackup, List.length_append] at lengths
    omega
  · have lengths := congrArg List.length same
    simp only [stampedBackup, List.length_append] at lengths
    omega

/-- A file's text is held by one of its backups, after the text was copied there if need be: the
plain backup if it is free or holds the text already, and the stamped one if it holds another.
-/
inductive Backs (options : RunOptions) (path text : Bytes) (files : FileMap)
    : (later : FileMap) → (backup : Bytes) → Prop
  | reused (held : files.get? (options.plainBackup path) = some text)
    : Backs options path text files files (options.plainBackup path)
  | plain (free : files.get? (options.plainBackup path) = none)
    : Backs options path text files (files.set (options.plainBackup path) text)
        (options.plainBackup path)
  | stamped {other : Bytes} (taken : files.get? (options.plainBackup path) = some other)
    (differs : other ≠ text)
    : Backs options path text files (files.set (options.stampedBackup path) text)
        (options.stampedBackup path)

namespace Backs

variable {options : RunOptions} {path text backup : Bytes} {files later : FileMap}

theorem mem_backups (h : Backs options path text files later backup)
    : backup ∈ options.backups path := by
  cases h with
  | reused | plain => exact .head _
  | stamped => exact .tail _ (.head _)

theorem holds (h : Backs options path text files later backup)
    : later.get? backup = some text := by
  cases h with
  | reused held => exact held
  | plain | stamped => rw [FileMap.get?_set, if_pos rfl]

/-- A file keeps its content if it is not the stamped backup and not a free plain one. -/
theorem keeps (h : Backs options path text files later backup) {other content : Bytes}
    (held : files.get? other = some content) (apart : other ≠ options.stampedBackup path)
    : later.get? other = some content := by
  cases h with
  | reused => exact held
  | plain free =>
      rw [FileMap.get?_set, if_neg, held]
      rintro rfl
      cases held.symm.trans free
  | stamped => rw [FileMap.get?_set, if_neg apart, held]

/-- Only a backup of the file may change. -/
theorem untouched (h : Backs options path text files later backup) {other : Bytes}
    (apart : other ∉ options.backups path)
    : later.get? other = files.get? other := by
  simp only [RunOptions.backups, List.mem_cons, List.not_mem_nil, or_false, not_or] at apart
  cases h with
  | reused => rfl
  | plain => rw [FileMap.get?_set, if_neg apart.1]
  | stamped => rw [FileMap.get?_set, if_neg apart.2]

end Backs

namespace Migration

variable {disturbance : Disturbance} {options : RunOptions} {memory later : Memory}

theorem BackUpCourse.backs {path text backup : Bytes}
    (course : BackUpCourse (Memory.store disturbance) options path text memory (.ok backup) later)
    (held : memory.files.get? path = some text)
    : Backs options path text memory.files later.files backup := by
  cases course with
  | reused taken read =>
      obtain ⟨-, same⟩ := Memory.isPresent_eq taken
      obtain ⟨found, rfl⟩ := Memory.read_ok read
      rw [← same]
      exact .reused found
  | beside taken read differs copied =>
      obtain ⟨-, same⟩ := Memory.isPresent_eq taken
      obtain ⟨found, rfl⟩ := Memory.read_ok read
      rw [← same] at held ⊢
      rcases copyTo_course copied with ⟨named, wrote⟩ | ⟨fault, named, -⟩
      · cases named
        rw [Memory.copy_ok wrote held]
        exact .stamped found differs
      · cases named
  | plain free copied =>
      obtain ⟨free, same⟩ := Memory.isPresent_eq free
      rw [← same] at held free ⊢
      rcases copyTo_course copied with ⟨named, wrote⟩ | ⟨fault, named, -⟩
      · cases named
        rw [Memory.copy_ok wrote held]
        exact .plain (by simpa using free)
      · cases named

/-- A backup fails only if a call is refused, and then no file changes. -/
theorem BackUpCourse.fails {path text : Bytes} {e : RunError MemoryFault}
    (course : BackUpCourse (Memory.store disturbance) options path text memory (.error e) later)
    : later.files = memory.files ∧ ∃ call, disturbance.refuses call = true := by
  cases course with
  | unread taken read =>
      obtain ⟨taken, same⟩ := Memory.isPresent_eq taken
      obtain ⟨rfl, refused | ⟨missing, -⟩⟩ := Memory.read_error read
      · exact ⟨same, _, refused⟩
      · rw [same] at missing
        rw [missing] at taken
        cases taken
  | beside taken read differs copied =>
      obtain ⟨-, same⟩ := Memory.isPresent_eq taken
      obtain ⟨-, rfl⟩ := Memory.read_ok read
      rcases copyTo_course copied with ⟨named, -⟩ | ⟨fault, -, failed⟩
      · cases named
      · obtain ⟨left, refused⟩ := Memory.copy_error failed
        exact ⟨left.trans same, _, refused⟩
  | plain free copied =>
      obtain ⟨-, same⟩ := Memory.isPresent_eq free
      rcases copyTo_course copied with ⟨named, -⟩ | ⟨fault, -, failed⟩
      · cases named
      · obtain ⟨left, refused⟩ := Memory.copy_error failed
        exact ⟨left.trans same, _, refused⟩

--------------------------------------------------------------------------------
-- Files
--------------------------------------------------------------------------------

/-- What an applied run leaves of the files after one of them, and the change that it records: none
unless the file was replaced.
-/
inductive Handles (options : RunOptions) (path : Bytes) (files : FileMap)
    : (later : FileMap) → (changes : List Change) → Prop
  | left : Handles options path files files []
  | backedUp {before later backup} (held : files.get? path = some before)
    (backs : Backs options path before files later backup)
    : Handles options path files later []
  | replaced {before after later backup} (held : files.get? path = some before)
    (backs : Backs options path before files later backup)
    : Handles options path files (later.set path after) [⟨path, before, after, backup⟩]

theorem Reads.held {path text : Bytes}
    (reads : Reads (Memory.store disturbance) path memory text later)
    : memory.files.get? path = some text ∧ later = memory.note (.read path) := by
  obtain ⟨s₁, asked, read⟩ := reads
  obtain rfl := Memory.isCancelled_eq asked
  exact Memory.read_ok read

theorem StepCourse.handles {result : RunResult} {path : Bytes}
    {outcome : RunResult × Option (RunError MemoryFault)}
    (course : StepCourse (Memory.store disturbance) options result path memory outcome later)
    (applies : options.apply = true)
    : ∃ changes,
        outcome.1.changed = result.changed ++ changes
        ∧ Handles options path memory.files later.files changes := by
  cases course with
  | cancelled asked =>
      obtain rfl := Memory.isCancelled_eq asked
      exact ⟨[], (List.append_nil _).symm, .left⟩
  | unread asked read =>
      obtain rfl := Memory.isCancelled_eq asked
      obtain ⟨rfl, -⟩ := Memory.read_error read
      exact ⟨[], (List.append_nil _).symm, .left⟩
  | unchanged reads =>
      obtain ⟨-, rfl⟩ := reads.held
      exact ⟨[], (List.append_nil _).symm, .left⟩
  | shown reads differs shows => cases applies.symm.trans shows
  | applied reads differs applies replaces =>
      obtain ⟨held, rfl⟩ := reads.held
      cases replaces with
      | unbacked backedUp =>
          obtain ⟨same, -⟩ := backedUp.fails
          exact ⟨[], (List.append_nil _).symm, same ▸ .left⟩
      | unwritten backedUp written =>
          obtain ⟨same, -⟩ := Memory.write_error written
          exact ⟨[], (List.append_nil _).symm, same ▸ .backedUp held (backedUp.backs held)⟩
      | replaced backedUp written =>
          rw [Memory.write_ok written]
          exact ⟨_, rfl, .replaced held (backedUp.backs held)⟩

end Migration

end FormMigrate
