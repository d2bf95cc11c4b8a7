import FormMigrate.Proofs.File.Service

/-! Writing calls on a disk, one by one: those that succeed leave a file that can be read and
written again, and those that fail leave every file as it was.
-/

namespace FormMigrate

namespace Disk

variable {disk before after : Disk}

/-- Only files under some paths may be new or have other content. -/
structure Touches (paths : List Bytes) (before after : Disk) : Prop where
  grows : Grows before after
  content?
    : ∀ place, place ∉ paths.map before.spot → after.content? place = before.content? place

namespace Touches

variable {paths wider : List Bytes}

theorem refl (paths : List Bytes) (disk : Disk) : Touches paths disk disk :=
  ⟨.refl disk, fun _ _ => rfl⟩

theorem widen (h : Touches paths before after) (within : paths ⊆ wider)
    : Touches wider before after :=
  ⟨h.grows, fun place apart => h.content? place fun member =>
    apart (List.map_subset before.spot within member)⟩

theorem trans {later : Disk} (h : Touches paths before after) (h' : Touches paths after later)
    : Touches paths before later := by
  refine ⟨h.grows.trans h'.grows, fun place apart => ?_⟩
  have spots : after.spot = before.spot := funext h.grows.spot
  exact (h'.content? place (spots ▸ apart)).trans (h.content? place apart)

/-- A file that is not touched is read as before. -/
theorem read {path content : Bytes} (h : Touches paths before after)
    (read : before.read path = .ok content) (apart : before.spot path ∉ paths.map before.spot)
    : after.read path = .ok content :=
  h.grows.read read ((h.content? _ apart).trans (content?_of_read read))

end Touches

/-- A file has a content, and nothing else has changed. -/
structure Puts (path content : Bytes) (before after : Disk) : Prop where
  read : after.read path = .ok content
  touches : Touches [path] before after

/-- A file was written and can be written again. -/
structure Rewrites (path content : Bytes) (before after : Disk) : Prop
    extends Puts path content before after where
  rewritable : Rewritable after path

theorem Makes.touches {path : Bytes} (h : Makes path before after) : Touches [] before after :=
  ⟨h.grows, fun place _ => h.content? place⟩

theorem Alters.touches {path : Bytes} (h : Alters path before after) : Touches [path] before after :=
  ⟨h.grows, fun _ apart => h.content? (by simpa using apart)⟩

/-- A writing call does what it is for, or fails and touches no file. -/
inductive Writing (Written : Disk → Prop) (before : Disk) : Except FileFault Unit → Disk → Prop
  | done {later} (written : Written later) : Writing Written before (.ok ()) later
  | failed {fault later} (touches : Touches [] before later)
    : Writing Written before (.error fault) later

/-- Replacing a file as a whole puts its content there. -/
theorem replace_writing (disk : Disk) (path content : Bytes) (mode : Nat)
    : Writing (Rewrites path content disk) disk (disk.replace path content mode).1
        (disk.replace path content mode).2 := by
  have alters := replace_alters disk path content mode
  rcases replace_cases disk path content mode with
    ⟨fault, failed, makes⟩ | ⟨held, place, -, -, -, -, replaced⟩
  · rw [failed]
    exact .failed makes.touches
  · rw [replaced] at alters ⊢
    obtain ⟨read, rewritable⟩ := replace_ok replaced
    exact .done ⟨⟨read, alters.touches⟩, rewritable⟩

/-- A file holds what another one held. -/
def Copies (source target : Bytes) (before after : Disk) : Prop :=
  ∃ content, before.read source = .ok content ∧ Rewrites target content before after

theorem Copies.puts {source target content : Bytes} (h : Copies source target before after)
    (read : before.read source = .ok content)
    : Puts target content before after := by
  obtain ⟨found, read', rewrites⟩ := h
  cases read.symm.trans read'
  exact rewrites.toPuts

theorem copy_writing (disk : Disk) (source target : Bytes)
    : Writing (Copies source target disk) disk (disk.copy source target).1
        (disk.copy source target).2 := by
  unfold copy
  cases read : disk.read source with
  | error fault => exact .failed (.refl [] disk)
  | ok content =>
      dsimp only
      have writing := replace_writing disk target content (disk.modeOf source)
      generalize disk.replace target content (disk.modeOf source) = left at writing ⊢
      obtain ⟨outcome, after⟩ := left
      cases writing with
      | done puts => exact .done ⟨content, read, puts⟩
      | failed touches => exact .failed touches

/-- An attempt at a call does what the call does, or fails itself. -/
theorem Attempts.writing {Written : Disk → Prop} {path : Bytes} {done : Except FileFault Unit × Disk}
    {outcome : Except FileFault Unit} (attempt : Attempts (Makes path before) done outcome after)
    (whole : Writing Written before done.1 done.2)
    : Writing Written before outcome after := by
  cases attempt with
  | performed => exact whole
  | failed makes => exact .failed makes.touches

end Disk

namespace Workspace.Serves

variable {σ : Type} {workspace : Workspace (StateM σ)} {disk : σ → Disk} {s later : σ}

theorem copy_writing (serves : workspace.Serves disk) {source target : Bytes}
    {outcome : Except FileFault Unit}
    (ran : workspace.store.copy source target s = (outcome, later))
    : Disk.Writing (Disk.Copies source target (disk s)) (disk s) outcome (disk later) :=
  (serves.copy_run ran).writing ((disk s).copy_writing source target)

theorem write_writing (serves : workspace.Serves disk) {path content : Bytes}
    {outcome : Except FileFault Unit}
    (ran : workspace.store.write path content s = (outcome, later))
    : Disk.Writing (Disk.Rewrites path content (disk s)) (disk s) outcome (disk later) :=
  (serves.write_run ran).writing ((disk s).replace_writing path content _)

end Workspace.Serves

/-- A file that was replaced as a whole holds its new content. -/
theorem FileCalls.Serves.replace_puts {σ : Type} {calls : FileCalls (StateM σ)} {disk : σ → Disk}
    (serves : calls.Serves disk) {path content : Bytes} {mode : Nat} {s later : σ}
    (ran : calls.replace path content mode s = (.ok (), later))
    : Disk.Puts path content (disk s) (disk later) := by
  obtain ⟨read, alters⟩ := (serves.replace_leaves ran).puts
  exact ⟨read, alters.touches⟩

end FormMigrate
