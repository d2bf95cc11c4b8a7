import FormMigrate.File.Templates
import FormMigrate.Proofs.File.Service
import FormMigrate.Proofs.State

/-! Workspaces that note which calls fail, so that a statement can speak of runs in which none of
them did. What a run asks of its store may fail without a note.
-/

namespace FormMigrate

variable {σ α : Type}

namespace Workspace

/-- An action beside notes, which it leaves alone. -/
def beside (action : StateM σ α) : StateM (σ × List Bytes) α := fun s =>
  ((action s.1).1, (action s.1).2, s.2)

/-- A call that notes its path unless it succeeds. -/
def noted (path : Bytes) (succeeds : α → Bool) (call : StateM σ α) : StateM (σ × List Bytes) α :=
  fun s =>
    ((call s.1).1, (call s.1).2, if succeeds (call s.1).1 then s.2 else s.2 ++ [path])

/-- A workspace that notes the paths of its failing calls, but for those of its store and for those
whose failure is made nothing of when a file is replaced.
-/
def noting (workspace : Workspace (StateM σ)) : Workspace (StateM (σ × List Bytes)) where
  store := {
    read path := beside (workspace.store.read path)
    isPresent path := beside (workspace.store.isPresent path)
    copy source target := beside (workspace.store.copy source target)
    write path content := beside (workspace.store.write path content)
    isCancelled := beside workspace.store.isCancelled }
  workingDirectory := workspace.workingDirectory
  kind path := noted path Except.isOk (workspace.kind path)
  calls := {
    makeDirectory path := noted path Except.isOk (workspace.calls.makeDirectory path)
    createTemporary directory pattern :=
      noted directory Except.isOk (workspace.calls.createTemporary directory pattern)
    append path content := noted path Except.isOk (workspace.calls.append path content)
    setMode path mode := noted path Except.isOk (workspace.calls.setMode path mode)
    sync path := noted path Except.isOk (workspace.calls.sync path)
    close path := noted path Except.isOk (workspace.calls.close path)
    rename source target := noted target Except.isOk (workspace.calls.rename source target)
    remove path := beside (workspace.calls.remove path)
    openDirectory path := beside (workspace.calls.openDirectory path)
    closeDirectory path := beside (workspace.calls.closeDirectory path) }
  walk path := noted path (List.all · Except.isOk) (workspace.walk path)

/-- Taking notes changes nothing about the disk. -/
theorem Serves.noting {workspace : Workspace (StateM σ)} {disk : σ → Disk}
    (serves : workspace.Serves disk)
    : workspace.noting.Serves fun s => disk s.1 where
  read := fun path s => serves.read path s.1
  isPresent := fun path s => serves.isPresent path s.1
  isCancelled := fun s => serves.isCancelled s.1
  kind := fun path s => serves.kind path s.1
  walk := fun path s => serves.walk path s.1
  copy := fun source target s => serves.copy source target s.1
  write := fun path content s => serves.write path content s.1
  calls := {
    makeDirectory := fun ran => by cases ran; exact serves.calls.makeDirectory rfl
    createTemporary := fun ran => by cases ran; exact serves.calls.createTemporary rfl
    append := fun ran => by cases ran; exact serves.calls.append rfl
    setMode := fun ran => by cases ran; exact serves.calls.setMode rfl
    rename := fun ran => by cases ran; exact serves.calls.rename rfl
    remove := fun ran => by cases ran; exact serves.calls.remove rfl
    sync := fun path s => serves.calls.sync path s.1
    close := fun path s => serves.calls.close path s.1
    openDirectory := fun path s => serves.calls.openDirectory path s.1
    closeDirectory := fun path s => serves.calls.closeDirectory path s.1 }

--------------------------------------------------------------------------------
-- Silent runs
--------------------------------------------------------------------------------

/-- An action that takes back no notes. -/
def Keeps (action : StateM (σ × List Bytes) α) : Prop := ∀ s, (action s).2.2 = [] → s.2 = []

/-- An action that takes back no notes and that leaves one unless it succeeds. -/
def Tells (succeeds : α → Bool) (action : StateM (σ × List Bytes) α) : Prop :=
  ∀ s, (action s).2.2 = [] → s.2 = [] ∧ succeeds (action s).1 = true

variable {β : Type} {succeeds : α → Bool}

theorem Keeps.bind {action : StateM (σ × List Bytes) α} {next : α → StateM (σ × List Bytes) β}
    (h : Keeps action) (h' : ∀ a, Keeps (next a))
    : Keeps (action >>= next) :=
  fun s silent => h s (h' _ _ silent)

theorem keeps_pure (a : α) : Keeps (pure a : StateM (σ × List Bytes) α) := fun _ silent => silent

theorem keeps_beside (action : StateM σ α) : Keeps (beside action) := fun _ silent => silent

namespace Tells

theorem keeps {action : StateM (σ × List Bytes) α} (h : Tells succeeds action) : Keeps action :=
  fun s silent => (h s silent).1

theorem ran {action : StateM (σ × List Bytes) α} {s later : σ × List Bytes} {a : α}
    (h : Tells succeeds action) (ran : action s = (a, later)) (silent : later.2 = [])
    : s.2 = [] ∧ succeeds a = true := by
  have told := h s
  rw [ran] at told
  exact told silent

theorem after {action : StateM (σ × List Bytes) β} {next : β → StateM (σ × List Bytes) α}
    (h : Keeps action) (h' : ∀ b, Tells succeeds (next b))
    : Tells succeeds (action >>= next) :=
  fun s silent => ⟨h s (h' _ _ silent).1, (h' _ _ silent).2⟩

/-- What is done about a failure takes back no note of it. -/
theorem bind {action : StateM (σ × List Bytes) (Except FileFault β)}
    {next : Except FileFault β → StateM (σ × List Bytes) α} (h : Tells Except.isOk action)
    (failed : ∀ fault, Keeps (next (.error fault))) (h' : ∀ b, Tells succeeds (next (.ok b)))
    : Tells succeeds (action >>= next) := by
  intro s silent
  show _ ∧ succeeds (next (action s).1 (action s).2).1 = true
  have silent : (next (action s).1 (action s).2).2.2 = [] := silent
  have told := h s
  cases outcome : (action s).1 with
  | error fault =>
      rw [outcome] at silent told
      cases (told (failed fault _ silent)).2
  | ok b =>
      rw [outcome] at silent
      obtain ⟨silent, succeeded⟩ := h' b _ silent
      exact ⟨(told silent).1, succeeded⟩

end Tells

theorem tells_noted (path : Bytes) (succeeds : α → Bool) (call : StateM σ α)
    : Tells succeeds (noted path succeeds call) := by
  intro s silent
  unfold noted at silent ⊢
  dsimp only at silent ⊢
  split at silent
  · rename_i succeeded
    exact ⟨silent, succeeded⟩
  · simp at silent

theorem tells_ok (b : β)
    : Tells Except.isOk (pure (.ok b) : StateM (σ × List Bytes) (Except FileFault β)) :=
  fun _ silent => ⟨silent, rfl⟩

variable (workspace : Workspace (StateM σ))

theorem tells_fill (path content : Bytes) (mode : Nat)
    : Tells Except.isOk (workspace.noting.calls.fill path content mode) := by
  refine .bind (tells_noted _ _ _) (fun _ => keeps_pure _) fun _ => ?_
  exact .bind (tells_noted _ _ _) (fun _ => keeps_pure _) fun _ => tells_noted _ _ _

theorem tells_syncDirectory (path : Bytes)
    : Tells Except.isOk (workspace.noting.calls.syncDirectory path) := by
  refine .after (keeps_beside _) fun opened => ?_
  cases opened with
  | error fault => exact tells_ok ()
  | ok =>
      refine .bind (tells_noted _ _ _) (fun _ => ?_) fun _ => ?_
      · exact (keeps_beside _).bind fun _ => keeps_pure _
      · exact .after (keeps_beside _) fun _ => tells_ok _

theorem tells_install (temporary path : Bytes)
    : Tells Except.isOk (workspace.noting.calls.install temporary path) := by
  have removes (fault : FileFault)
      : Keeps (do
          let _ ← workspace.noting.calls.remove temporary
          return (.error fault : Except FileFault Unit)) :=
    (keeps_beside _).bind fun _ => keeps_pure _
  refine .bind (tells_noted _ _ _) removes fun _ => ?_
  exact .bind (tells_noted _ _ _) removes fun _ => tells_syncDirectory workspace _

/-- A file that is replaced without a note is replaced. -/
theorem tells_replace (path content : Bytes)
    : Tells Except.isOk (workspace.noting.replace path content) := by
  refine .bind (tells_noted _ _ _) (fun _ => keeps_pure _) fun _ => ?_
  refine .bind (tells_noted _ _ _) (fun _ => keeps_pure _) fun temporary => ?_
  refine .bind (tells_fill workspace _ _ _) (fun _ => ?_) fun _ => tells_install workspace _ _
  exact (tells_noted _ _ _).keeps.bind fun _ => (keeps_beside _).bind fun _ => keeps_pure _

--------------------------------------------------------------------------------
-- Templates
--------------------------------------------------------------------------------

variable {workspace} {disk : σ → Disk} {s later : σ × List Bytes} {path extension : Bytes}

theorem replace_silent {content : Bytes} {outcome : Except FileFault Unit}
    (ran : workspace.noting.replace path content s = (outcome, later)) (silent : later.2 = [])
    : s.2 = [] ∧ outcome = .ok () := by
  obtain ⟨silent, succeeded⟩ := (tells_replace workspace path content).ran ran silent
  cases outcome with
  | error fault => cases succeeded
  | ok done => exact ⟨silent, rfl⟩

namespace Sees

/-- Looking without a note finds what the disk has. -/
theorem kind_silent (sees : workspace.Sees disk) {found : Except FileFault FileKind}
    (ran : workspace.noting.kind path s = (found, later)) (silent : later.2 = [])
    : s.2 = []
      ∧ disk later.1 = disk s.1
      ∧ (Disk.workspace [] false).kind path (disk s.1) = (found, disk s.1) := by
  obtain ⟨blank, succeeded⟩ := (tells_noted path Except.isOk (workspace.kind path)).ran ran silent
  have looks := sees.kind path s.1
  cases ran
  cases found : (workspace.kind path s.1).1 with
  | error fault =>
      rw [found] at succeeded
      cases succeeded
  | ok kind => exact ⟨blank, looks.1, congrArg (·, disk s.1) (looks.2 kind found)⟩

theorem walk_silent (sees : workspace.Sees disk) {visits : List (Except FileFault WalkEntry)}
    (ran : workspace.noting.walk path s = (visits, later)) (silent : later.2 = [])
    : s.2 = []
      ∧ disk later.1 = disk s.1
      ∧ (Disk.workspace [] false).walk path (disk s.1) = (visits, disk s.1) := by
  obtain ⟨blank, succeeded⟩ :=
    (tells_noted path (List.all · Except.isOk) (workspace.walk path)).ran ran silent
  have looks := sees.walk path s.1
  cases ran
  exact ⟨blank, looks.1, congrArg (·, disk s.1) (looks.2 (List.all_eq_true.mp succeeded)).symm⟩

end Sees

end Workspace

namespace Templates

variable {workspace : Workspace (StateM σ)} {disk : σ → Disk} {s later : σ × List Bytes}
  {path extension : Bytes} {listed : Except TemplateError (List Bytes)}

theorem find_silent (sees : workspace.Sees disk)
    (ran : find workspace.noting path extension s = (listed, later)) (silent : later.2 = [])
    : s.2 = []
      ∧ disk later.1 = disk s.1
      ∧ find (Disk.workspace [] false) path extension (disk s.1) = (listed, disk s.1) := by
  unfold find at ran ⊢
  split at ran
  · rename_i blank
    rw [if_pos blank]
    cases ran
    exact ⟨silent, rfl, rfl⟩
  · rename_i named
    rw [if_neg named]
    obtain ⟨visits, s₁, looked, ran⟩ := exists_of_bind_run ran
    cases chosen : visits.foldlM (visit extension) [] with
    | error fault | ok files =>
        rw [chosen] at ran
        cases ran
        obtain ⟨silent, same, found⟩ := sees.walk_silent looked silent
        rw [bind_run found, chosen]
        exact ⟨silent, same, rfl⟩

/-- Templates that are listed without a note are those of the disk. -/
theorem resolve_silent (sees : workspace.Sees disk)
    (ran : resolve workspace.noting path extension s = (listed, later)) (silent : later.2 = [])
    : s.2 = []
      ∧ disk later.1 = disk s.1
      ∧ resolve (Disk.workspace [] false) path extension (disk s.1) = (listed, disk s.1) := by
  rw [resolve] at ran ⊢
  obtain ⟨found, s₁, looked, ran⟩ := exists_of_bind_run ran
  rcases found with fault | kind
  · cases ran
    obtain ⟨silent, same, found⟩ := sees.kind_silent looked silent
    rw [bind_run found]
    exact ⟨silent, same, rfl⟩
  · cases kind with
    | directory =>
        obtain ⟨silent, same, finds⟩ := find_silent sees ran silent
        obtain ⟨silent, same', found⟩ := sees.kind_silent looked silent
        rw [bind_run found]
        exact ⟨silent, same.trans same', same' ▸ finds⟩
    | file =>
        have still : later = s₁ := by
          dsimp only at ran
          split at ran <;> cases ran <;> rfl
        rw [still] at silent ⊢
        obtain ⟨silent, same, found⟩ := sees.kind_silent looked silent
        refine ⟨silent, same, ?_⟩
        rw [bind_run found]
        dsimp only at ran ⊢
        split at ran
        · rename_i ending
          cases ran
          rw [if_pos ending]
          rfl
        · rename_i other
          cases ran
          rw [if_neg other]
          rfl

end Templates

end FormMigrate
