import FormMigrate.Run.Memory
import FormMigrate.Run.Migration

/-! Recorded runs: a store that keeps with each call the files that it found. Recording changes
nothing about a run.
-/

namespace FormMigrate

--------------------------------------------------------------------------------
-- Contents
--------------------------------------------------------------------------------

theorem FileMap.get?_cons (p content : Bytes) (rest : FileMap) (other : Bytes)
    : FileMap.get? ((p, content) :: rest) other
      = if other = p then some content else rest.get? other := by
  rw [get?, List.lookup_cons]
  by_cases same : other = p
  · simp [same]
  · simp [same, get?, beq_eq_false_iff_ne.mpr same]

/-- Setting a path changes its own content and no other. -/
theorem FileMap.get?_set (files : FileMap) (path content other : Bytes)
    : (files.set path content).get? other
      = if other = path then some content else files.get? other := by
  induction files with
  | nil => exact get?_cons path content [] other
  | cons entry rest ih =>
      obtain ⟨p, c⟩ := entry
      rw [set]
      split
      · rename_i found
        obtain rfl := beq_iff_eq.mp found
        rw [get?_cons, get?_cons]
        split <;> rfl
      · rename_i found
        rw [get?_cons, get?_cons, ih]
        split
        · rename_i same
          subst same
          rw [if_neg fun same' => found (beq_iff_eq.mpr same')]
        · rfl

--------------------------------------------------------------------------------
-- Recordings
--------------------------------------------------------------------------------

/-- A call together with the files that it found. -/
structure Moment where
  call : Call
  found : FileMap

/-- Files in memory together with the moments that they went through. -/
structure Recording where
  memory : Memory
  moments : List Moment := []

namespace Recording

/-- The content under a path. -/
def content? (recording : Recording) (path : Bytes) : Option Bytes :=
  recording.memory.files.get? path

/-- Makes a call on the files and records what it found. -/
def track {α : Type} (call : Call) (action : StateM Memory α) : StateM Recording α :=
  fun recording =>
    let (a, memory) := action recording.memory
    (a, ⟨memory, recording.moments ++ [⟨call, recording.memory.files⟩]⟩)

/-- Files in memory as a store that records. -/
def store (disturbance : Disturbance) : Store (StateM Recording) MemoryFault where
  read path := track (.read path) ((Memory.store disturbance).read path)
  isPresent path := track (.exists path) ((Memory.store disturbance).isPresent path)
  copy source target := track (.copy target) ((Memory.store disturbance).copy source target)
  write path content := track (.write path) ((Memory.store disturbance).write path content)
  isCancelled := fun recording =>
    (((Memory.store disturbance).isCancelled recording.memory).1, recording)

end Recording

--------------------------------------------------------------------------------
-- Recording does not interfere
--------------------------------------------------------------------------------

/-- A recorded action does to the files what a plain one does, with the same answer. -/
def Records {α : Type} (recorded : StateM Recording α) (plain : StateM Memory α) : Prop :=
  ∀ recording : Recording,
    plain recording.memory = ((recorded recording).1, (recorded recording).2.memory)

namespace Records

variable {α β : Type}

theorem pure (a : α) : Records (pure a) (pure a) := fun _ => rfl

theorem bind {recorded : StateM Recording α} {plain : StateM Memory α}
    {next : α → StateM Recording β} {next' : α → StateM Memory β} (h : Records recorded plain)
    (h' : ∀ a, Records (next a) (next' a))
    : Records (recorded >>= next) (plain >>= next') := by
  intro recording
  calc (plain >>= next') recording.memory
      = next' (plain recording.memory).1 (plain recording.memory).2 := rfl
    _ = next' (recorded recording).1 (recorded recording).2.memory := by rw [h recording]
    _ = _ := h' _ _

theorem track (call : Call) (action : StateM Memory α)
    : Records (Recording.track call action) action :=
  fun _ => rfl

end Records

namespace Migration

/-- Copies a file to one of its backups. -/
def copyTo {m : Type → Type} [Monad m] {Fault : Type} (store : Store m Fault)
    (path target : Bytes) : m (Except (RunError Fault) Bytes) := do
  match ← store.copy path target with
  | .ok () => return .ok target
  | .error fault => return .error (.backUp path target fault)

theorem backUp_eq {m : Type → Type} [Monad m] {Fault : Type} (store : Store m Fault)
    (options : RunOptions) (path current : Bytes)
    : backUp store options path current
      = (do
          if ← store.isPresent (options.plainBackup path) then
            match ← store.read (options.plainBackup path) with
            | .error fault => return .error (.readBackup (options.plainBackup path) fault)
            | .ok existing =>
                if existing == current then return .ok (options.plainBackup path)
                else copyTo store path (options.stampedBackup path)
          else copyTo store path (options.plainBackup path)) :=
  rfl

variable (disturbance : Disturbance) (options : RunOptions)

theorem copyTo_records (path target : Bytes)
    : Records (copyTo (Recording.store disturbance) path target)
        (copyTo (Memory.store disturbance) path target) := by
  refine (Records.track _ _).bind fun copied => ?_
  cases copied <;> exact .pure _

theorem backUp_records (path current : Bytes)
    : Records (backUp (Recording.store disturbance) options path current)
        (backUp (Memory.store disturbance) options path current) := by
  rw [backUp_eq, backUp_eq]
  refine (Records.track _ _).bind fun present => ?_
  cases present with
  | false => exact copyTo_records disturbance path _
  | true =>
      refine (Records.track _ _).bind fun read => ?_
      cases read with
      | error fault => exact .pure _
      | ok existing =>
          dsimp only
          split
          · exact .pure _
          · exact copyTo_records disturbance path _

theorem replace_records (result : RunResult) (path before after : Bytes)
    : Records (replace (Recording.store disturbance) options result path before after)
        (replace (Memory.store disturbance) options result path before after) := by
  unfold replace
  refine (backUp_records disturbance options path before).bind fun backedUp => ?_
  cases backedUp with
  | error e => exact .pure _
  | ok backup =>
      refine (Records.track _ _).bind fun written => ?_
      cases written <;> exact .pure _

theorem step_records (result : RunResult) (path : Bytes)
    : Records (step (Recording.store disturbance) options result path)
        (step (Memory.store disturbance) options result path) := by
  unfold step
  have cancels
      : Records (Recording.store disturbance).isCancelled (Memory.store disturbance).isCancelled :=
    fun _ => rfl
  refine cancels.bind fun cancelled => ?_
  cases cancelled with
  | true => exact .pure _
  | false =>
      refine (Records.track _ _).bind fun read => ?_
      cases read with
      | error fault => exact .pure _
      | ok before =>
          dsimp only
          split
          · exact .pure _
          · split
            · exact replace_records disturbance options _ path before _
            · exact .pure _

/-- A recorded run answers like a plain one and leaves the same files and calls behind. -/
theorem runFrom_records (result : RunResult) (paths : List Bytes)
    : Records (runFrom (Recording.store disturbance) options result paths)
        (runFrom (Memory.store disturbance) options result paths) := by
  induction paths generalizing result with
  | nil => exact .pure _
  | cons path rest ih =>
      unfold runFrom
      refine (step_records disturbance options result path).bind fun outcome => ?_
      obtain ⟨next, stopped⟩ := outcome
      cases stopped with
      | none => exact ih next
      | some e => exact .pure _

end Migration

end FormMigrate
