import FormMigrate.Manifest.Rollback
import FormMigrate.Proofs.Manifest.Archive
import FormMigrate.Proofs.Run.Composition
import Mathlib.Data.List.Nodup

/-! Rollbacks go on past failures. Each entry of a manifest is restored or fails on its own account,
and where the files and the backups of the entries are apart, what fails has no effect on what is
restored, so that rolling back once more changes nothing.
-/

namespace FormMigrate

variable {σ Place : Type}

--------------------------------------------------------------------------------
-- Statement
--------------------------------------------------------------------------------

/-- A copy puts what its source holds under its target, or fails and changes nothing. -/
def Store.Copied (view : σ → FileView Place) (source target : Bytes) (s : σ)
    : Except FileFault Unit → σ → Prop
  | .ok (), later =>
      ∃ content, (view s).held? source = some content ∧ (view s).Puts target content (view later)
  | .error _, later => view later = view s

/-- Looking at the files of a store changes none of them, and copying does what it says or fails. -/
structure Store.Copies (store : Store (StateM σ) FileFault) (view : σ → FileView Place) : Prop where
  read : ∀ path, OnlyLooks view (store.read path)
  isPresent : ∀ path, OnlyLooks view (store.isPresent path)
  copy
    : ∀ source target s,
        Store.Copied view source target s (store.copy source target s).1
          (store.copy source target s).2

namespace Rollback

/-- Why an entry is not restored from a state on: its backup does not exist, or its copy fails. -/
inductive Refuses (store : Store (StateM σ) FileFault) (entry : BackupEntry) (s : σ)
    : RestoreError → Prop
  | missing (absent : (store.isPresent entry.backup s).1 = false)
    : Refuses store entry s .missingBackup
  | copy {fault : FileFault} (present : (store.isPresent entry.backup s).1 = true)
    (failed : (store.copy entry.backup entry.file (store.isPresent entry.backup s).2).1 = .error fault)
    : Refuses store entry s (.copy fault)

/-- Every entry is restored or fails, in the order of the manifest, and it fails where it is refused
in the state that the entries before it have led to.
-/
structure Accounts (store : Store (StateM σ) FileFault) (entries : List BackupEntry) (start : σ)
    (result : RollbackResult) : Prop where
  once : (result.restored ++ result.failed.map Prod.fst).Perm entries
  restored : result.restored.Sublist entries
  failed : (result.failed.map Prod.fst).Sublist entries
  listed : result.outcomes.map Restoration.entry = entries
  reasons
    : ∀ (i : Nat) outcome,
        result.outcomes[i]? = some outcome
        → ∀ e,
            outcome.error = some e
            ↔ Refuses store outcome.entry (restoreAll store (entries.take i) start).2 e

/-- The files of entries are distinct, and none of them is a backup. -/
structure Apart (spot : Bytes → Place) (entries : List BackupEntry) : Prop where
  distinct : (entries.map fun entry => spot entry.file).Nodup
  backups : ∀ entry ∈ entries, ∀ other ∈ entries, spot entry.file ≠ spot other.backup

/-- Restored entries leave what their backups held in their files, and all else as it was. -/
structure PutsBack (restored : List BackupEntry) (before after : FileView Place) : Prop where
  spot : after.spot = before.spot
  held
    : ∀ entry ∈ restored,
        ∃ content,
          before.held? entry.backup = some content ∧ after.held? entry.file = some content
  others
    : ∀ place,
        place ∉ restored.map (fun entry => before.spot entry.file)
        → after.content? place = before.content? place

/-- A further rollback of entries from another state meets the failures of a first one: it fails at
an entry as that did, if the backup holds what it held then.
-/
def Repeats (store : Store (StateM σ) FileFault) (view : σ → FileView Place)
    : List BackupEntry → σ → σ → Prop
  | [], _, _ => True
  | entry :: rest, s, s' =>
      ((view s').held? entry.backup = (view s).held? entry.backup
        → (restore store entry s').1.error = (restore store entry s).1.error)
      ∧ Repeats store view rest (restore store entry s).2 (restore store entry s').2

--------------------------------------------------------------------------------
-- Outcomes
--------------------------------------------------------------------------------

/-- How restoring one entry goes. -/
inductive RestoreCourse (store : Store (StateM σ) FileFault) (entry : BackupEntry) (s : σ)
    : Restoration → σ → Prop
  | missing {later} (absent : store.isPresent entry.backup s = (false, later))
    : RestoreCourse store entry s ⟨entry, some .missingBackup⟩ later
  | failed {s₁ later fault} (present : store.isPresent entry.backup s = (true, s₁))
    (copied : store.copy entry.backup entry.file s₁ = (.error fault, later))
    : RestoreCourse store entry s ⟨entry, some (.copy fault)⟩ later
  | restored {s₁ later} (present : store.isPresent entry.backup s = (true, s₁))
    (copied : store.copy entry.backup entry.file s₁ = (.ok (), later))
    : RestoreCourse store entry s ⟨entry, none⟩ later

variable {store : Store (StateM σ) FileFault} {entry : BackupEntry} {entries : List BackupEntry}
  {s s' later : σ} {outcome : Restoration}

theorem restore_course (store : Store (StateM σ) FileFault) (entry : BackupEntry) (s : σ)
    : RestoreCourse store entry s (restore store entry s).1 (restore store entry s).2 := by
  rcases asked : store.isPresent entry.backup s with ⟨present, s₁⟩
  rw [restore, bind_run asked]
  cases present with
  | false => exact .missing asked
  | true =>
      rcases copied : store.copy entry.backup entry.file s₁ with ⟨fault | ⟨⟩, later⟩
      · rw [if_pos rfl, bind_run copied]
        exact .failed asked copied
      · rw [if_pos rfl, bind_run copied]
        exact .restored asked copied

theorem RestoreCourse.eq_mk (course : RestoreCourse store entry s outcome later)
    : outcome = ⟨entry, outcome.error⟩ := by
  cases course <;> rfl

theorem RestoreCourse.entry_eq (course : RestoreCourse store entry s outcome later)
    : outcome.entry = entry :=
  congrArg Restoration.entry course.eq_mk

/-- An entry fails for the reasons that it is refused for. -/
theorem RestoreCourse.refuses (course : RestoreCourse store entry s outcome later) {e : RestoreError}
    : outcome.error = some e ↔ Refuses store entry s e := by
  cases course with
  | missing absent =>
      refine ⟨?_, fun refused => ?_⟩
      · rintro ⟨⟩
        exact .missing (by rw [absent])
      · cases refused with
        | missing => rfl
        | copy present => cases absent ▸ present
  | failed present copied =>
      refine ⟨?_, fun refused => ?_⟩
      · rintro ⟨⟩
        exact .copy (by rw [present]) (by rw [present, copied])
      · cases refused with
        | missing absent => cases present ▸ absent
        | copy _ failed =>
            rw [present, copied] at failed
            cases failed
            rfl
  | restored present copied =>
      refine ⟨nofun, fun refused => ?_⟩
      cases refused with
      | missing absent => cases present ▸ absent
      | copy _ failed =>
          rw [present, copied] at failed
          cases failed

theorem restoreAll_cons (store : Store (StateM σ) FileFault) (entry : BackupEntry)
    (rest : List BackupEntry) (s : σ)
    : restoreAll store (entry :: rest) s
      = ((restore store entry s).1 :: (restoreAll store rest (restore store entry s).2).1,
          (restoreAll store rest (restore store entry s).2).2) :=
  rfl

theorem entries_restoreAll (store : Store (StateM σ) FileFault) (entries : List BackupEntry) (s : σ)
    : (restoreAll store entries s).1.map Restoration.entry = entries := by
  induction entries generalizing s with
  | nil => rfl
  | cons entry rest ih =>
      rw [restoreAll_cons, List.map_cons, (restore_course store entry s).entry_eq, ih]

/-- Each entry is restored in the state that the entries before it have led to. -/
theorem getElem?_restoreAll {i : Nat} (found : (restoreAll store entries s).1[i]? = some outcome)
    : outcome = (restore store outcome.entry (restoreAll store (entries.take i) s).2).1 := by
  induction entries generalizing s i with
  | nil => cases found
  | cons entry rest ih =>
      cases i with
      | zero =>
          have here : (restore store entry s).1 = outcome := Option.some.inj found
          have same : outcome.entry = entry := here ▸ (restore_course store entry s).entry_eq
          rw [same]
          exact here.symm
      | succ i => exact ih found

section

variable (path : Bytes) (outcomes : List Restoration)

/-- The entries that were restored and those that failed are all entries. -/
theorem perm_outcomes
    : (RollbackResult.restored ⟨path, outcomes⟩
        ++ (RollbackResult.failed ⟨path, outcomes⟩).map Prod.fst).Perm
          (outcomes.map Restoration.entry) := by
  induction outcomes with
  | nil => exact .nil
  | cons outcome rest ih =>
      obtain ⟨entry, error⟩ := outcome
      cases error with
      | none => exact ih.cons entry
      | some e => exact List.perm_middle.trans (ih.cons entry)

theorem restored_sublist
    : (RollbackResult.restored ⟨path, outcomes⟩).Sublist (outcomes.map Restoration.entry) := by
  induction outcomes with
  | nil => exact .slnil
  | cons outcome rest ih =>
      obtain ⟨entry, error⟩ := outcome
      cases error with
      | none => exact ih.cons_cons entry
      | some e => exact ih.cons entry

theorem failed_sublist
    : ((RollbackResult.failed ⟨path, outcomes⟩).map Prod.fst).Sublist
        (outcomes.map Restoration.entry) := by
  induction outcomes with
  | nil => exact .slnil
  | cons outcome rest ih =>
      obtain ⟨entry, error⟩ := outcome
      cases error with
      | none => exact ih.cons entry
      | some e => exact ih.cons_cons entry

theorem restored_cons_done (done : outcome.error = none)
    : RollbackResult.restored ⟨path, outcome :: outcomes⟩
      = outcome.entry :: RollbackResult.restored ⟨path, outcomes⟩ :=
  List.filterMap_cons_some (by rw [done]; rfl)

theorem restored_cons_failed (failed : outcome.error ≠ none)
    : RollbackResult.restored ⟨path, outcome :: outcomes⟩
      = RollbackResult.restored ⟨path, outcomes⟩ := by
  obtain ⟨e, failed⟩ := Option.ne_none_iff_exists'.mp failed
  exact List.filterMap_cons_none (by rw [failed]; rfl)

end

/-- The result of restoring entries. -/
def resultOf (store : Store (StateM σ) FileFault) (path : Bytes) (entries : List BackupEntry) (s : σ)
    : RollbackResult :=
  ⟨path, (restoreAll store entries s).1⟩

/-- Restoring entries accounts for each of them. -/
theorem restoreAll_accounts (store : Store (StateM σ) FileFault) (path : Bytes)
    (entries : List BackupEntry) (s : σ)
    : Accounts store entries s (resultOf store path entries s) := by
  have listed := entries_restoreAll store entries s
  have once := perm_outcomes path (restoreAll store entries s).1
  have restored := restored_sublist path (restoreAll store entries s).1
  have failed := failed_sublist path (restoreAll store entries s).1
  rw [listed] at once restored failed
  refine ⟨once, restored, failed, listed, fun i outcome found e => ?_⟩
  have course := restore_course store outcome.entry (restoreAll store (entries.take i) s).2
  rw [← getElem?_restoreAll found] at course
  exact course.refuses

--------------------------------------------------------------------------------
-- Files
--------------------------------------------------------------------------------

variable {view : σ → FileView Place}

namespace Apart

variable {spot : Bytes → Place}

theorem tail {rest : List BackupEntry} (apart : Apart spot (entry :: rest)) : Apart spot rest where
  distinct := (List.nodup_cons.mp apart.distinct).2
  backups other member another member' :=
    apart.backups other (.tail _ member) another (.tail _ member')

end Apart

namespace PutsBack

variable {before middle after : FileView Place} {restored : List BackupEntry}

theorem refl (view : FileView Place) : PutsBack [] view view where
  spot := rfl
  held := List.forall_mem_nil _
  others _ _ := rfl

/-- A file that no restored entry has is left alone. -/
theorem held_eq (puts : PutsBack restored before after) {path : Bytes}
    (other : ∀ entry ∈ restored, before.spot entry.file ≠ before.spot path)
    : after.held? path = before.held? path := by
  rw [FileView.held?, FileView.held?, puts.spot]
  refine puts.others _ fun member => ?_
  obtain ⟨entry, inside, same⟩ := List.mem_map.mp member
  exact other entry inside same

/-- An entry that is restored before others, whose files and backups are apart from its file. -/
theorem cons {content : Bytes} (held : before.held? entry.backup = some content)
    (puts : before.Puts entry.file content middle) (h : PutsBack restored middle after)
    (distinct : ∀ other ∈ restored, before.spot other.file ≠ before.spot entry.file)
    (backups : ∀ other ∈ restored, before.spot entry.file ≠ before.spot other.backup)
    : PutsBack (entry :: restored) before after where
  spot := h.spot.trans puts.spot
  held := by
    refine List.forall_mem_cons.mpr ⟨⟨content, held, ?_⟩, fun other member => ?_⟩
    · rw [h.held_eq fun other member => puts.spot ▸ distinct other member]
      exact puts.held
    · obtain ⟨found, was, is⟩ := h.held other member
      refine ⟨found, ?_, is⟩
      rw [← was, FileView.held?, FileView.held?, puts.spot]
      exact (puts.others _ (Ne.symm (backups other member))).symm
  others place member := by
    rw [List.map_cons, List.mem_cons, not_or] at member
    rw [h.others place (puts.spot ▸ member.2), puts.others place member.1]

end PutsBack

/-- What restoring an entry does to the files of a store: it fails and they stay, or its file holds
what its backup holds.
-/
theorem RestoreCourse.files (copies : store.Copies view)
    (course : RestoreCourse store entry s outcome later)
    : (outcome.error ≠ none ∧ view later = view s)
      ∨ (outcome.error = none
        ∧ ∃ content,
            (view s).held? entry.backup = some content
            ∧ (view s).Puts entry.file content (view later)) := by
  cases course with
  | missing absent => exact .inl ⟨nofun, (copies.isPresent _).run absent⟩
  | @failed s₁ _ fault present copied =>
      have done := copies.copy entry.backup entry.file s₁
      rw [copied] at done
      exact .inl ⟨nofun, done.trans ((copies.isPresent _).run present)⟩
  | @restored s₁ _ present copied =>
      have done := copies.copy entry.backup entry.file s₁
      rw [copied] at done
      exact .inr ⟨rfl, (copies.isPresent _).run present ▸ done⟩

theorem RestoreCourse.spot (copies : store.Copies view)
    (course : RestoreCourse store entry s outcome later)
    : (view later).spot = (view s).spot := by
  rcases course.files copies with ⟨-, stays⟩ | ⟨-, _, -, puts⟩
  · rw [stays]
  · exact puts.spot

/-- Restoring entries whose files are apart puts back those that do not fail, by induction on the
entries.
-/
theorem restoreAll_putsBack (copies : store.Copies view) (path : Bytes)
    (apart : Apart (view s).spot entries)
    : PutsBack (resultOf store path entries s).restored (view s)
        (view (restoreAll store entries s).2) := by
  induction entries generalizing s with
  | nil => exact .refl _
  | cons entry rest ih =>
      have course := restore_course store entry s
      have same := course.entry_eq
      have members (other : BackupEntry)
          (member : other ∈ (resultOf store path rest (restore store entry s).2).restored)
          : other ∈ rest :=
        (restoreAll_accounts store path rest _).restored.subset member
      rw [resultOf, restoreAll_cons]
      rcases course.files copies with ⟨failed, stays⟩ | ⟨done, content, held, puts⟩
      · rw [restored_cons_failed _ _ failed, ← stays]
        exact ih (stays ▸ apart.tail)
      · rw [restored_cons_done _ _ done, same]
        refine .cons held puts (ih (puts.spot ▸ apart.tail)) (fun other member led => ?_)
          fun other member => apart.backups _ (.head _) _ (.tail _ (members other member))
        have new := (List.nodup_cons.mp apart.distinct).1
        exact new (List.mem_map.mpr ⟨other, members other member, led⟩)

/-- What was put back is put back again without a change. -/
theorem puts_again {before after : FileView Place} {path content : Bytes}
    (puts : before.Puts path content after) (held : before.held? path = some content)
    : after = before := by
  obtain ⟨spot, contents⟩ := before
  obtain ⟨spot', contents'⟩ := after
  obtain rfl : spot' = spot := puts.spot
  refine congrArg (FileView.mk spot') (funext fun place => ?_)
  by_cases here : place = spot' path
  · rw [here]
    exact puts.held.trans held.symm
  · exact puts.others place here

/-- Restoring entries once more, with the failures of the first time, changes nothing and ends
alike.
Witness: at each entry the backup holds what it held at first, as no file is a backup, and the file
holds that already.
-/
theorem restoreAll_again (copies : store.Copies view) (apart : Apart (view s).spot entries)
    (same : view s' = view (restoreAll store entries s).2)
    (repeats : Repeats store view entries s s')
    : (restoreAll store entries s').1 = (restoreAll store entries s).1
      ∧ view (restoreAll store entries s').2 = view s' := by
  induction entries generalizing s s' with
  | nil => exact ⟨rfl, rfl⟩
  | cons entry rest ih =>
      obtain ⟨alike, later⟩ := repeats
      have course := restore_course store entry s
      have course' := restore_course store entry s'
      have whole := restoreAll_putsBack copies [] apart
      have backup : (view s').held? entry.backup = (view s).held? entry.backup := by
        rw [same]
        exact whole.held_eq fun other member =>
          apart.backups other ((restoreAll_accounts store [] _ _).restored.subset member) entry
            (.head _)
      have outcome : (restore store entry s').1 = (restore store entry s).1 := by
        rw [course'.eq_mk, alike backup, ← course.eq_mk]
      have step : view (restore store entry s').2 = view s' := by
        rcases course'.files copies with ⟨-, stays⟩ | ⟨done, content, held, puts⟩
        · exact stays
        · have member : entry ∈ (resultOf store [] (entry :: rest) s).restored := by
            rw [resultOf, restoreAll_cons, restored_cons_done _ _ (outcome ▸ done), course.entry_eq]
            exact .head _
          obtain ⟨content', was, is⟩ := whole.held entry member
          obtain rfl : content' = content :=
            Option.some.inj ((was.symm.trans backup.symm).trans held)
          exact puts_again puts (same ▸ is)
      obtain ⟨outcomes, files⟩ :=
        @ih (restore store entry s).2 (restore store entry s').2 (course.spot copies ▸ apart.tail)
          (step.trans same) later
      refine ⟨?_, files.trans step⟩
      rw [restoreAll_cons, restoreAll_cons, outcome, outcomes]

--------------------------------------------------------------------------------
-- Rollbacks
--------------------------------------------------------------------------------

variable {workspace : Workspace (StateM σ)} {path : Bytes} {manifest : Manifest} {start : σ}

theorem load_looks (copies : workspace.store.Copies view)
    (loads : Manifest.load workspace path s = (.ok manifest, start))
    : view start = view s := by
  have looks : OnlyLooks view (Manifest.load workspace path) :=
    (copies.read path).bind fun read => by
      cases read with
      | error fault => exact .pure _
      | ok content =>
          dsimp only
          split <;> exact .pure _
  exact looks.run loads

theorem run_eq (loads : Manifest.load workspace path s = (.ok manifest, start))
    : run workspace path s
      = (.ok (resultOf workspace.store path manifest.entries start),
          (restoreAll workspace.store manifest.entries start).2) := by
  rw [run, bind_run loads]
  rfl

/-- A rollback by a manifest goes through, whatever fails, and accounts for each entry. Where the
files of the entries are distinct and none of them is a backup, the restored files hold what their
backups held at the start, nothing else has changed, and a second rollback by the manifest with the
same failures changes nothing and ends alike.
Witness: an entry leaves the files and the backups of all others alone.
-/
theorem run_isolates (loads : Manifest.load workspace path s = (.ok manifest, start))
    : ∃ result later,
        run workspace path s = (.ok result, later)
        ∧ Accounts workspace.store manifest.entries start result
        ∧ (workspace.store.Copies view
            → Apart (view s).spot manifest.entries
            → PutsBack result.restored (view s) (view later)
              ∧ ∀ s' start',
                  view s' = view later
                  → Manifest.load workspace path s' = (.ok manifest, start')
                  → Repeats workspace.store view manifest.entries start start'
                  → ∃ later',
                      run workspace path s' = (.ok result, later') ∧ view later' = view later) := by
  refine ⟨_, _, run_eq loads, restoreAll_accounts _ _ _ _, fun copies apart => ?_⟩
  have looked := load_looks copies loads
  rw [← looked] at apart ⊢
  refine ⟨restoreAll_putsBack copies path apart, fun s' start' same loads' repeats => ?_⟩
  have same' := (load_looks copies loads').trans same
  obtain ⟨outcomes, files⟩ := restoreAll_again copies apart same' repeats
  refine ⟨_, ?_, files.trans same'⟩
  rw [run_eq loads', resultOf, resultOf, outcomes]

end Rollback

/-- A workspace that serves a disk copies its files, whatever calls fail. -/
theorem Workspace.Serves.copies {workspace : Workspace (StateM σ)} {disk : σ → Disk}
    (serves : workspace.Serves disk)
    : workspace.store.Copies fun s => (disk s).view where
  read := fun path s => congrArg Disk.view (serves.read path s).1
  isPresent := fun path s => congrArg Disk.view (serves.isPresent path s)
  copy := by
    intro source target s
    rcases ran : workspace.store.copy source target s with ⟨outcome, later⟩
    cases serves.copy_writing ran with
    | done copies =>
        obtain ⟨content, read, puts⟩ := copies
        exact ⟨content, Disk.content?_of_read read, puts.view⟩
    | failed touches => exact touches.view

namespace Rollback

/-- A manifest of three files, the first one without a backup and the last one with a directory for
it.
-/
def partialManifest : Manifest where
  timestamp := "T"
  files := some [⟨"/p/a", "/p/a.bak"⟩, ⟨"/p/b", "/p/b.bak"⟩, ⟨"/p/c", "/p/d"⟩]
  apply := true

/-- The files of the manifest beside it. -/
def partialDisk : Disk where
  nodes := [
    (["p"], .directory 0o755),
    (["p", "m"], .file 0o644 (Json.print .markup partialManifest.toJson)),
    (["p", "a"], .file 0o644 "new a"),
    (["p", "b"], .file 0o644 "new b"),
    (["p", "b.bak"], .file 0o644 "old b"),
    (["p", "c"], .file 0o644 "new c"),
    (["p", "d"], .directory 0o755)]

/-- A rollback by the manifest on a disk with these files. -/
def partialRun (disk : Disk) : Except ManifestError RollbackResult × Disk :=
  run (Disk.workspace "/" false) "/p/m" disk

/-- The file between those that fail is restored, and a second rollback finds it so. -/
theorem run_isolates_partial
    : ∃ result later,
        partialRun partialDisk = (.ok result, later)
        ∧ result.restored = [⟨"/p/b", "/p/b.bak"⟩]
        ∧ result.failed.map Prod.fst = [⟨"/p/a", "/p/a.bak"⟩, ⟨"/p/c", "/p/d"⟩]
        ∧ Accounts (Disk.workspace "/" false).store partialManifest.entries partialDisk result
        ∧ PutsBack result.restored partialDisk.view later.view
        ∧ later.read "/p/b" = .ok "old b"
        ∧ ∃ later', partialRun later = (.ok result, later') ∧ later'.view = later.view := by
  have copies : (Disk.workspace "/" false).store.Copies Disk.view :=
    (Disk.workspace_serves "/" false).copies
  have loads {disk : Disk} (read : disk.read "/p/m" = .ok (Json.print .markup partialManifest.toJson))
      : Manifest.load (Disk.workspace "/" false) "/p/m" disk = (.ok partialManifest, disk) := by
    rw [Manifest.load_eq read]
    exact congrArg (fun found => (Except.ok found, disk)) (by decide +kernel)
  have first
      : Manifest.load (Disk.workspace "/" false) "/p/m" partialDisk
        = (.ok partialManifest, partialDisk) :=
    loads (by decide +kernel)
  have apart : Apart partialDisk.view.spot partialManifest.entries :=
    ⟨by decide +kernel, by decide +kernel⟩
  obtain ⟨result, later, ran, accounts, files⟩ :=
    @run_isolates Disk Place partialDisk Disk.view (Disk.workspace "/" false) "/p/m" partialManifest
      partialDisk first
  have split
      : (partialRun partialDisk).1.toOption.map (fun found =>
          (found.restored, found.failed.map Prod.fst))
        = some ([⟨"/p/b", "/p/b.bak"⟩], [⟨"/p/a", "/p/a.bak"⟩, ⟨"/p/c", "/p/d"⟩]) := by
    decide +kernel
  obtain rfl : (partialRun partialDisk).2 = later := congrArg Prod.snd ran
  rw [show (partialRun partialDisk).1 = .ok result from congrArg Prod.fst ran] at split
  obtain ⟨restored, failed⟩ := Prod.mk.inj (Option.some.inj split)
  obtain ⟨puts, again⟩ := files copies apart
  exact ⟨result, _, ran, restored, failed, accounts, puts, by decide +kernel,
    again _ _ rfl (loads (by decide +kernel))
      ⟨fun _ => by decide +kernel, fun _ => by decide +kernel, fun _ => by decide +kernel, trivial⟩⟩

end Rollback

end FormMigrate
