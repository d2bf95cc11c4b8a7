import FormMigrate.Proofs.File.Disk
import FormMigrate.Proofs.State

/-! What the calls that replace a file leave behind, whichever of them fail: the file with its new
content, or nothing but directories, or a temporary file that the system refused to remove.
-/

namespace FormMigrate

--------------------------------------------------------------------------------
-- A file of its own
--------------------------------------------------------------------------------

namespace Disk

variable {before after later : Disk} {place target : Place} {node : Node} {mode : Nat}
  {content path : Bytes}

/-- Disks with the same nodes. -/
structure Same (before after : Disk) : Prop where
  workingDirectory : after.workingDirectory = before.workingDirectory
  node? : ∀ place, after.node? place = before.node? place

theorem Makes.same (h : Makes path before after) (same : Same after later)
    : Makes path before later := by
  refine ⟨same.workingDirectory.trans h.workingDirectory, fun place => ?_⟩
  rw [same.node? place]
  exact h.nodes place

theorem Grows.same (h : Grows before after) (same : Same after later) : Grows before later := by
  refine ⟨same.workingDirectory.trans h.workingDirectory, fun stands => ?_⟩
  obtain ⟨node, stands, kind⟩ := h.kinds stands
  exact ⟨node, (same.node? _).trans stands, kind⟩

theorem Alters.same (h : Alters path before after) (same : Same after later)
    : Alters path before later := by
  refine ⟨h.grows.same same, fun place apart => ?_⟩
  rw [same.node? place]
  exact h.others place apart

/-- A node stands where nothing was before, and all else is the same. -/
structure Adds (place : Place) (node : Node) (before after : Disk) : Prop where
  workingDirectory : after.workingDirectory = before.workingDirectory
  free : before.node? place = none
  node? : ∀ other, after.node? other = if other = place then some node else before.node? other

/-- The root is never free. -/
theorem ne_nil_of_free (free : before.node? place = none) : place ≠ [] := by
  intro root
  rw [root, node?_nil] at free
  cases free

theorem adds_put (free : before.node? place = none) (node : Node)
    : Adds place node before (before.put place node) :=
  ⟨rfl, free, node?_put before (ne_nil_of_free free) node⟩

namespace Adds

theorem stands (h : Adds place node before after) : after.node? place = some node := by
  rw [h.node?, if_pos rfl]

/-- The node itself may be set again. -/
theorem put (h : Adds place node before after) (node' : Node)
    : Adds place node' before (after.put place node') := by
  refine ⟨h.workingDirectory, h.free, fun other => ?_⟩
  rw [node?_put after (ne_nil_of_free h.free)]
  split
  · rfl
  · rename_i elsewhere
    rw [h.node?, if_neg elsewhere]

theorem erase (h : Adds place node before after) : Same before (after.erase place) := by
  refine ⟨h.workingDirectory, fun other => ?_⟩
  rw [node?_erase after (ne_nil_of_free h.free)]
  split
  · rename_i same
    rw [same, h.free]
  · rename_i elsewhere
    rw [h.node?, if_neg elsewhere]

theorem leads (h : Adds place node before after) : Leads before after := by
  refine ⟨h.workingDirectory, @fun other mode stands => ⟨mode, ?_⟩⟩
  rw [h.node?, if_neg, stands]
  intro same
  rw [same, h.free] at stands
  cases stands

/-- A file is on the way to nothing. -/
theorem leads_back (h : Adds place (.file mode content) before after) : Leads after before := by
  refine ⟨h.workingDirectory.symm, @fun other mode' stands => ⟨mode', ?_⟩⟩
  rw [h.node?] at stands
  split at stands
  · cases stands
  · exact stands

theorem find (h : Adds place node before after) (led : before.place path = .ok place)
    : after.find path = .ok (place, node) :=
  find_ok.mpr ⟨h.leads.place led, h.stands⟩

section File

variable (h : Adds place (.file mode content) before after) (led : before.place path = .ok place)

include h led

theorem append_eq (more : Bytes)
    : after.append path more = (.ok (), after.put place (.file mode (content ++ more))) := by
  rw [append, h.find led]

theorem setMode_eq (mode' : Nat)
    : after.setMode path mode' = (.ok (), after.put place (.file (mode' % 0o1000) content)) := by
  rw [setMode, h.find led]

theorem removeFile_eq : after.removeFile path = (.ok (), after.erase place) := by
  rw [removeFile, h.find led]

/-- Under another path the file is all that is new. It takes the place of a file, or one that was
free.
-/
theorem rename_cases (other : Bytes)
    : (∃ fault, after.rename path other = (.error fault, after))
      ∨ ∃ target later,
          after.rename path other = (.ok (), later)
          ∧ before.place other = .ok target
          ∧ (∀ mode, before.node? target ≠ some (.directory mode))
          ∧ Same (before.put target (.file mode content)) later := by
  unfold rename
  rw [h.find led]
  dsimp only
  cases found : after.place other with
  | error errno => exact .inl ⟨_, rfl⟩
  | ok target =>
      dsimp only
      split
      · exact .inl ⟨_, rfl⟩
      · rename_i blocked
        have other : ∀ mode', before.node? target ≠ some (.directory mode') := by
          intro mode' stands
          obtain ⟨mode'', stands⟩ := h.leads.directory stands
          exact blocked mode'' stands
        have below : target ≠ [] := by
          intro root
          exact other 0o755 (root ▸ before.node?_nil)
        refine .inr ⟨target, _, rfl, h.leads_back.place found, other, h.workingDirectory,
          fun q => ?_⟩
        rw [node?_put _ below, node?_put _ below]
        split
        · rfl
        · exact h.erase.node? q

end File

end Adds

end Disk

--------------------------------------------------------------------------------
-- Calls that may fail
--------------------------------------------------------------------------------

/-- What a call that changes a disk comes to: what the disk makes of it, or a failure with something
left behind.
-/
inductive Disk.Attempts (Left : Disk → Prop) (done : Except FileFault Unit × Disk)
    : Except FileFault Unit → Disk → Prop
  | performed : Disk.Attempts Left done done.1 done.2
  | failed {fault later} (left : Left later) : Disk.Attempts Left done (.error fault) later

theorem Disk.Attempts.of_eq {Left : Disk → Prop} {done : Except FileFault Unit × Disk}
    {outcome : Except FileFault Unit} {later : Disk} (ran : done = (outcome, later))
    : Disk.Attempts Left done outcome later := by
  subst ran
  exact .performed

/-- Making a temporary file comes to an empty file under a new name, or to nothing. -/
inductive Disk.Creates (directory pattern : Bytes) (before : Disk)
    : Except FileFault Bytes → Disk → Prop
  | made {number : Bytes} {place : Place} {mode : Nat} (plain : (0x2f : Byte) ∉ number)
      (led
        : before.place (Path.inside directory (pattern.dropLast ++ number)) = .ok place)
      (free : before.node? place = none)
    : Disk.Creates directory pattern before
        (.ok (Path.inside directory (pattern.dropLast ++ number)))
        (before.put place (.file mode []))
  | failed {fault} : Disk.Creates directory pattern before (.error fault) before

section Served

variable {σ : Type} {disk : σ → Disk} {calls : FileCalls (StateM σ)}

/-- Calls that do to a disk what they are for, unless they fail, which each of them may do at any
time. A failing call changes nothing, but for a directory of which some parents were made and for a
content of which a part was added.
-/
structure FileCalls.Serves (calls : FileCalls (StateM σ)) (disk : σ → Disk) : Prop where
  makeDirectory
    : ∀ {path s outcome later},
        calls.makeDirectory path s = (outcome, later)
        → Disk.Attempts (Disk.Makes path (disk s)) ((disk s).makeDirectory path) outcome
            (disk later)
  createTemporary
    : ∀ {directory pattern s outcome later},
        calls.createTemporary directory pattern s = (outcome, later)
        → Disk.Creates directory pattern (disk s) outcome (disk later)
  append
    : ∀ {path content s outcome later},
        calls.append path content s = (outcome, later)
        → Disk.Attempts
            (fun left => ∃ part, part <+: content ∧ left = ((disk s).append path part).2)
            ((disk s).append path content) outcome (disk later)
  setMode
    : ∀ {path mode s outcome later},
        calls.setMode path mode s = (outcome, later)
        → Disk.Attempts (· = disk s) ((disk s).setMode path mode) outcome (disk later)
  rename
    : ∀ {source target s outcome later},
        calls.rename source target s = (outcome, later)
        → Disk.Attempts (· = disk s) ((disk s).rename source target) outcome (disk later)
  remove
    : ∀ {path s outcome later},
        calls.remove path s = (outcome, later)
        → Disk.Attempts (· = disk s) ((disk s).removeFile path) outcome (disk later)
  sync : ∀ path, OnlyLooks disk (calls.sync path)
  close : ∀ path, OnlyLooks disk (calls.close path)
  openDirectory : ∀ path, OnlyLooks disk (calls.openDirectory path)
  closeDirectory : ∀ path, OnlyLooks disk (calls.closeDirectory path)

--------------------------------------------------------------------------------
-- What is left
--------------------------------------------------------------------------------

/-- A name and a place for the temporary file of a path, on a disk on which nothing but directories
on the way to them is new.
-/
structure Disk.Beside (path name : Bytes) (place : Place) (before held : Disk) : Prop where
  makes : Disk.Makes (Path.directory path) before held
  named
    : ∃ number : Bytes,
        (0x2f : Byte) ∉ number
        ∧ name = Path.inside (Path.directory path) (FileCalls.temporaryFront path ++ number)
  led : held.place name = .ok place

/-- The temporary file of a path stays where nothing was before, since the system refused to remove
it. Directories on the way to it may be new too, and all else is as it was.
-/
inductive FileCalls.Strands (calls : FileCalls (StateM σ)) (disk : σ → Disk) (path : Bytes)
    (before : Disk)
    : Disk → Prop
  | refused {name place held mode content s fault later}
      (beside : Disk.Beside path name place before held)
      (adds : Disk.Adds place (.file mode content) held (disk s))
      (refuses : calls.remove name s = (.error fault, later))
    : calls.Strands disk path before (disk s)

/-- Calls that remove every file that is there. -/
def FileCalls.Removes (calls : FileCalls (StateM σ)) (disk : σ → Disk) : Prop :=
  ∀ {name content s},
    (disk s).read name = .ok content → ∃ later, calls.remove name s = (.ok (), later)

theorem FileCalls.Removes.not_strands (removes : calls.Removes disk) {path : Bytes}
    {before after : Disk}
    : ¬ calls.Strands disk path before after := by
  intro strands
  cases strands with
  | refused beside adds refuses =>
      have there := Disk.read_ok.mpr ⟨_, _, adds.leads.place beside.led, adds.stands⟩
      obtain ⟨later, removed⟩ := removes there
      cases removed.symm.trans refuses

/-- What is left of a disk once a file was to be replaced. -/
inductive FileCalls.Leaves (calls : FileCalls (StateM σ)) (disk : σ → Disk) (path content : Bytes)
    (mode : Nat) (before : Disk)
    : Except FileFault Unit → Disk → Prop
  | unchanged {fault later} (makes : Disk.Makes (Path.directory path) before later)
    : calls.Leaves disk path content mode before (.error fault) later
  /-- The file may be there although the call fails. -/
  | replaced {outcome held place later} (makes : Disk.Makes (Path.directory path) before held)
      (led : held.place path = .ok place)
      (other : ∀ mode, held.node? place ≠ some (.directory mode))
      (same : Disk.Same (held.put place (.file mode content)) later)
    : calls.Leaves disk path content mode before outcome later
  | stranded {fault later} (strands : calls.Strands disk path before later)
    : calls.Leaves disk path content mode before (.error fault) later

namespace FileCalls.Leaves

variable {path content : Bytes} {mode : Nat} {before left : Disk} {outcome : Except FileFault Unit}

/-- Only the file itself may have changed, but for a temporary file that stays. -/
theorem alters (h : calls.Leaves disk path content mode before outcome left)
    : Disk.Alters path before left ∨ calls.Strands disk path before left := by
  cases h with
  | unchanged makes => exact .inl makes.alters
  | replaced makes led other same => exact .inl ((makes.alters_put led other).same same)
  | stranded strands => exact .inr strands

/-- A file that could be replaced has its new content, and nothing else has changed. -/
theorem puts (h : calls.Leaves disk path content mode before (.ok ()) left)
    : left.read path = .ok content ∧ Disk.Alters path before left := by
  cases h with
  | replaced makes led other same =>
      obtain ⟨below, grows⟩ := Disk.grows_put_file other
      refine ⟨Disk.read_ok.mpr ⟨_, mode, (grows.same same).place led, ?_⟩,
        (makes.alters_put led other).same same⟩
      rw [same.node?, Disk.node?_put _ below, if_pos rfl]

end FileCalls.Leaves

namespace FileCalls.Serves

variable (serves : calls.Serves disk) {path name content old : Bytes} {place : Place}
  {mode bits : Nat} {before held : Disk} {s later : σ} {outcome : Except FileFault Unit}

include serves

--------------------------------------------------------------------------------
-- The temporary file
--------------------------------------------------------------------------------

/-- Only directories are made on the way to a file, whether or not all of them can be. -/
theorem makeDirectory_makes (ran : calls.makeDirectory path s = (outcome, later))
    : Disk.Makes path (disk s) (disk later) := by
  have attempt := serves.makeDirectory ran
  generalize disk later = left at attempt ⊢
  cases attempt with
  | performed => exact Disk.makeDirectory_makes _ _
  | failed makes => exact makes

theorem createTemporary_failed {directory pattern : Bytes} {fault : FileFault}
    (ran : calls.createTemporary directory pattern s = (.error fault, later))
    : disk later = disk s := by
  have created := serves.createTemporary ran
  generalize disk later = left at created ⊢
  cases created
  rfl

theorem createTemporary_adds (makes : Disk.Makes (Path.directory path) before (disk s))
    (ran
      : calls.createTemporary (Path.directory path) (temporaryFront path ++ "*") s
        = (.ok name, later))
    : ∃ place bits,
        Disk.Beside path name place before (disk s)
        ∧ Disk.Adds place (.file bits []) (disk s) (disk later) := by
  have created := serves.createTemporary ran
  have front : (temporaryFront path ++ ("*" : Bytes)).dropLast = temporaryFront path :=
    List.dropLast_concat
  generalize disk later = left at created ⊢
  cases created with
  | @made number place bits plain led free =>
      rw [front] at led ⊢
      exact ⟨place, bits, ⟨makes, ⟨number, plain, rfl⟩, led⟩, Disk.adds_put free _⟩

/-- Writing to a temporary file changes that file only, even if not all is written. -/
theorem append_adds (adds : Disk.Adds place (.file bits old) held (disk s))
    (led : held.place name = .ok place) (ran : calls.append name content s = (outcome, later))
    : ∃ found,
        Disk.Adds place (.file bits found) held (disk later)
        ∧ (outcome = .ok () → found = old ++ content) := by
  have attempt := serves.append ran
  simp only [adds.append_eq led] at attempt
  generalize disk later = left at attempt ⊢
  cases attempt with
  | performed => exact ⟨_, adds.put _, fun _ => rfl⟩
  | failed partly =>
      obtain ⟨part, -, rfl⟩ := partly
      exact ⟨_, adds.put _, fun no => by cases no⟩

theorem setMode_adds (adds : Disk.Adds place (.file bits content) held (disk s))
    (led : held.place name = .ok place) (ran : calls.setMode name mode s = (outcome, later))
    : ∃ bits',
        Disk.Adds place (.file bits' content) held (disk later)
        ∧ (outcome = .ok () → bits' = mode % 0o1000) := by
  have attempt := serves.setMode ran
  rw [adds.setMode_eq led] at attempt
  generalize disk later = left at attempt ⊢
  cases attempt with
  | performed => exact ⟨_, adds.put _, fun _ => rfl⟩
  | failed same => exact ⟨_, same ▸ adds, fun no => by cases no⟩

/-- Filling a temporary file changes that file only. -/
theorem fill_adds (adds : Disk.Adds place (.file bits old) held (disk s))
    (led : held.place name = .ok place) (ran : calls.fill name content mode s = (outcome, later))
    : ∃ bits' found,
        Disk.Adds place (.file bits' found) held (disk later)
        ∧ (outcome = .ok () → bits' = mode % 0o1000 ∧ found = old ++ content) := by
  obtain ⟨written, s₁, appended, ran⟩ := exists_of_bind_run ran
  obtain ⟨found, adds, whole⟩ := serves.append_adds adds led appended
  cases written with
  | error fault =>
      cases ran
      exact ⟨bits, found, adds, fun no => by cases no⟩
  | ok done =>
      obtain ⟨set, s₂, moded, ran⟩ := exists_of_bind_run ran
      obtain ⟨bits', adds, bits⟩ := serves.setMode_adds adds led moded
      cases set with
      | error fault =>
          cases ran
          exact ⟨bits', found, adds, fun no => by cases no⟩
      | ok done =>
          rw [← (serves.sync name).run ran] at adds
          exact ⟨bits', found, adds, fun _ => ⟨bits rfl, whole rfl⟩⟩

/-- A temporary file that is of no use any more is removed, unless the system refuses that. -/
theorem remove_leaves (adds : Disk.Adds place (.file bits old) held (disk s))
    (beside : Disk.Beside path name place before held) (fault : FileFault)
    (ran : calls.remove name s = (outcome, later))
    : calls.Leaves disk path content mode before (.error fault) (disk later) := by
  have attempt := serves.remove ran
  rw [adds.removeFile_eq beside.led] at attempt
  cases outcome with
  | ok done =>
      have same : Disk.Same held (disk later) := by
        generalize disk later = left at attempt ⊢
        cases attempt
        exact adds.erase
      exact .unchanged (beside.makes.same same)
  | error refusal =>
      have same : disk later = disk s := by
        generalize disk later = left at attempt ⊢
        cases attempt with
        | failed same => exact same
      rw [same]
      exact .stranded (.refused beside adds ran)

theorem syncDirectory_looks (path : Bytes) : OnlyLooks disk (calls.syncDirectory path) := by
  refine (serves.openDirectory path).bind fun opened => ?_
  cases opened with
  | error fault => exact .pure _
  | ok done =>
      exact (serves.sync path).bind fun synced => (serves.closeDirectory path).bind fun _ => .pure _

/-- A renaming moves the temporary file, or it changes nothing. -/
theorem rename_adds (adds : Disk.Adds place (.file mode content) held (disk s))
    (led : held.place name = .ok place) (ran : calls.rename name path s = (outcome, later))
    : (∃ fault, outcome = .error fault ∧ disk later = disk s)
      ∨ outcome = .ok ()
        ∧ ∃ target,
            held.place path = .ok target
            ∧ (∀ mode, held.node? target ≠ some (.directory mode))
            ∧ Disk.Same (held.put target (.file mode content)) (disk later) := by
  have attempt := serves.rename ran
  generalize disk later = left at attempt ⊢
  rcases adds.rename_cases led path with ⟨fault, stays⟩ | ⟨target, moved, moves, puts⟩
  · rw [stays] at attempt
    cases attempt with
    | performed => exact .inl ⟨_, rfl, rfl⟩
    | failed same => exact .inl ⟨_, rfl, same⟩
  · rw [moves] at attempt
    cases attempt with
    | performed => exact .inr ⟨rfl, target, puts⟩
    | failed same => exact .inl ⟨_, rfl, same⟩

/-- A temporary file that is filled takes the place of the file that it was made for, or it goes. -/
theorem install_leaves (adds : Disk.Adds place (.file mode content) held (disk s))
    (beside : Disk.Beside path name place before held)
    (ran : calls.install name path s = (outcome, later))
    : calls.Leaves disk path content mode before outcome (disk later) := by
  obtain ⟨shut, s₁, closed, ran⟩ := exists_of_bind_run ran
  rw [← (serves.close name).run closed] at adds
  cases shut with
  | error fault =>
      obtain ⟨gone, s₂, removed, ran⟩ := exists_of_bind_run ran
      cases ran
      exact serves.remove_leaves adds beside fault removed
  | ok done =>
      obtain ⟨moved, s₂, renamed, ran⟩ := exists_of_bind_run ran
      rcases serves.rename_adds adds beside.led renamed with
        ⟨fault, rfl, same⟩ | ⟨rfl, target, led, other, same⟩
      · obtain ⟨gone, s₃, removed, ran⟩ := exists_of_bind_run ran
        cases ran
        rw [← same] at adds
        exact serves.remove_leaves adds beside fault removed
      · rw [(serves.syncDirectory_looks _).run ran]
        exact .replaced beside.makes led other same

--------------------------------------------------------------------------------
-- The whole
--------------------------------------------------------------------------------

/-- Wherever the calls that replace a file fail, they leave the file with its new content, or no
more than directories, or a temporary file that could not be removed.
-/
theorem replace_leaves (ran : calls.replace path content mode s = (outcome, later))
    : calls.Leaves disk path content (mode % 0o1000) (disk s) outcome (disk later) := by
  obtain ⟨making, s₁, made, ran⟩ := exists_of_bind_run ran
  have makes := serves.makeDirectory_makes made
  cases making with
  | error fault =>
      cases ran
      exact .unchanged makes
  | ok done =>
      obtain ⟨creating, s₂, created, ran⟩ := exists_of_bind_run ran
      cases creating with
      | error fault =>
          cases ran
          rw [serves.createTemporary_failed created]
          exact .unchanged makes
      | ok name =>
          obtain ⟨place, bits, beside, adds⟩ := serves.createTemporary_adds makes created
          obtain ⟨filling, s₃, filled, ran⟩ := exists_of_bind_run ran
          obtain ⟨bits', found, adds, whole⟩ := serves.fill_adds adds beside.led filled
          cases filling with
          | error fault =>
              obtain ⟨shut, s₄, closed, ran⟩ := exists_of_bind_run ran
              obtain ⟨gone, s₅, removed, ran⟩ := exists_of_bind_run ran
              cases ran
              rw [← (serves.close name).run closed] at adds
              exact serves.remove_leaves adds beside _ removed
          | ok done =>
              obtain ⟨set, written⟩ := whole rfl
              rw [set, written] at adds
              exact serves.install_leaves adds beside ran

end FileCalls.Serves

end Served

--------------------------------------------------------------------------------
-- Disks
--------------------------------------------------------------------------------

namespace Disk

theorem inside_append (directory name more : Bytes)
    : Path.inside directory name ++ more = Path.inside directory (name ++ more) := by
  unfold Path.inside
  split <;> simp

theorem createNumbered_creates (directory pattern : Bytes) (tries : Nat) (before : Disk)
    {number : Bytes} (plain : (0x2f : Byte) ∉ number)
    : Creates directory pattern before
        (before.createNumbered tries (Path.inside directory (pattern.dropLast ++ number))).1
        (before.createNumbered tries (Path.inside directory (pattern.dropLast ++ number))).2 := by
  induction tries generalizing number with
  | zero => exact .failed
  | succ tries ih =>
      rw [createNumbered]
      cases led : before.place (Path.inside directory (pattern.dropLast ++ number)) with
      | error errno => exact .failed
      | ok place =>
          dsimp only
          split
          · have star : (0x2f : Byte) ∉ Bytes.ofString "*" := by decide
            rw [inside_append, List.append_assoc]
            refine ih fun slash => ?_
            rcases List.mem_append.mp slash with slash | slash
            · exact plain slash
            · exact star slash
          · rename_i free
            exact .made plain led free

theorem createTemporary_creates (directory pattern : Bytes) (before : Disk)
    : Creates directory pattern before (before.createTemporary directory pattern).1
        (before.createTemporary directory pattern).2 := by
  unfold createTemporary
  split
  · exact .failed
  · rename_i nameable
    have plain : (0x2f : Byte) ∉ pattern := by
      intro slash
      rw [temporaryFault?, if_pos (by simpa using slash)] at nameable
      cases nameable
    have plain : (0x2f : Byte) ∉ pattern.getLast?.toList := fun slash =>
      plain (List.mem_of_getLast? (Option.mem_toList.mp slash))
    have creates := createNumbered_creates directory pattern 10000 before plain
    have whole : pattern.dropLast ++ pattern.getLast?.toList = pattern := by
      cases last : pattern.getLast? with
      | none => rw [List.getLast?_eq_none_iff.mp last, List.dropLast_nil, Option.toList_none,
          List.append_nil]
      | some c =>
          obtain ⟨front, rfl⟩ := List.getLast?_eq_some_iff.mp last
          rw [List.dropLast_concat, Option.toList_some]
    rwa [whole] at creates

/-- The calls on a disk in memory do to it what they are for. -/
theorem calls_serves : Disk.calls.Serves id where
  makeDirectory := .of_eq
  createTemporary := by
    intro directory pattern s outcome later ran
    have creates := createTemporary_creates directory pattern s
    rw [show s.createTemporary directory pattern = (outcome, later) from ran] at creates
    exact creates
  append := .of_eq
  setMode := .of_eq
  rename := .of_eq
  remove := .of_eq
  sync _ _ := rfl
  close _ _ := rfl
  openDirectory _ _ := rfl
  closeDirectory _ _ := rfl

/-- A disk in memory removes files, so that nothing temporary stays. -/
theorem calls_removes : Disk.calls.Removes id := by
  intro name content s read
  obtain ⟨place, mode, led, stands⟩ := read_ok.mp read
  have found : s.find name = .ok (place, .file mode content) := find_ok.mpr ⟨led, stands⟩
  refine ⟨s.erase place, ?_⟩
  show s.removeFile name = _
  rw [removeFile, found]

theorem setNode_setNode (nodes : List (Place × Node)) (place : Place) (node node' : Node)
    : setNode (setNode nodes place node) place node' = setNode nodes place node' := by
  induction nodes with
  | nil => simp [setNode]
  | cons entry rest ih =>
      obtain ⟨p, n⟩ := entry
      by_cases found : p = place
      · simp [setNode, found]
      · simp [setNode, found, ih]

theorem put_put (disk : Disk) (place : Place) (node node' : Node)
    : (disk.put place node).put place node' = disk.put place node' :=
  congrArg (fun nodes => { disk with nodes }) (setNode_setNode disk.nodes place node node')

theorem erase_put {disk : Disk} {place : Place} (free : disk.node? place = none) (node : Node)
    : (disk.put place node).erase place = disk := by
  have lookup : disk.nodes.lookup place = none := by
    rwa [node?, if_neg (by simpa using ne_nil_of_free free)] at free
  have same : ∀ nodes : List (Place × Node), nodes.lookup place = none →
      (setNode nodes place node).filter (fun entry => entry.1 != place) = nodes := by
    intro nodes free
    induction nodes with
    | nil => simp [setNode]
    | cons entry rest ih =>
        obtain ⟨p, n⟩ := entry
        rw [lookup_cons] at free
        split at free
        · cases free
        · rename_i other
          have other : p ≠ place := fun found => other found.symm
          simp [setNode, other, ih free]
  exact congrArg (fun nodes => { disk with nodes }) (same disk.nodes lookup)

section Free

variable {before later : Disk} {place target : Place} {path content : Bytes} {mode : Nat}
  (named : before.place (temporary path) = .ok place) (free : before.node? place = none)

include named free

/-- A temporary file gets the first name that is tried. -/
theorem createTemporary_free (nameable : Nameable path)
    : before.createTemporary (Path.directory path) (FileCalls.temporaryFront path ++ "*")
      = (.ok (temporary path), before.put place (.file 0o600 [])) := by
  unfold Nameable at nameable
  rw [createTemporary, nameable]
  dsimp only
  rw [createNumbered, ← temporary, named]
  dsimp only
  rw [free]

theorem calls_fill (content : Bytes) (mode : Nat)
    : Disk.calls.fill (temporary path) content mode (before.put place (.file 0o600 []))
      = (.ok (), before.put place (.file (mode % 0o1000) content)) := by
  have added := adds_put free (.file 0o600 [])
  have appended := added.append_eq named content
  have moded := (added.put (.file 0o600 content)).setMode_eq named mode
  rw [List.nil_append, put_put] at appended
  rw [put_put, put_put] at moded
  rw [FileCalls.fill,
    bind_run (show Disk.calls.append (temporary path) content _ = _ from appended)]
  dsimp only
  rw [bind_run (show Disk.calls.setMode (temporary path) mode _ = _ from moded)]
  rfl

/-- A temporary file under another path is gone from its own. -/
theorem rename_free (led : before.place path = .ok target)
    (other : ∀ mode, before.node? target ≠ some (.directory mode))
    : (before.put place (.file mode content)).rename (temporary path) path
      = (.ok (), before.put target (.file mode content)) := by
  have adds := adds_put free (.file mode content)
  rw [rename, adds.find named]
  dsimp only
  rw [adds.leads.place led]
  dsimp only
  split
  · rename_i bits blocked
    obtain ⟨bits, blocked⟩ := adds.leads_back.directory blocked
    exact absurd blocked (other bits)
  · rw [erase_put free]

end Free

theorem calls_syncDirectory (disk : Disk) (path : Bytes)
    : Disk.calls.syncDirectory path disk = (.ok (), disk) := by
  have opened
      : Disk.calls.openDirectory path disk = (disk.openDirectory path, disk) := rfl
  rw [FileCalls.syncDirectory, bind_run opened]
  cases disk.openDirectory path <;> rfl

/-- The calls put a file in the place of another one as a whole, if the first name that is tried for
the temporary file is free.
-/
theorem calls_replace {disk later : Disk} {path content : Bytes} {mode : Nat}
    (replaced : disk.replace path content mode = (.ok (), later))
    (free
      : ∀ held,
          disk.makeDirectory (Path.directory path) = (.ok (), held)
          → ∃ place, held.place (temporary path) = .ok place ∧ held.node? place = none)
    : Disk.calls.replace path content mode disk = (.ok (), later) := by
  rcases replace_cases disk path content mode with
    ⟨fault, failed, -⟩ | ⟨held, target, nameable, made, led, other, done⟩
  · rw [replaced] at failed
    cases failed
  · obtain ⟨place, named, free⟩ := free held made
    have made : Disk.calls.makeDirectory (Path.directory path) disk = (.ok (), held) := made
    have created
        : Disk.calls.createTemporary (Path.directory path)
            (FileCalls.temporaryFront path ++ "*") held
          = (.ok (temporary path), held.put place (.file 0o600 [])) :=
      createTemporary_free named free nameable
    have closed
        : Disk.calls.close (temporary path) (held.put place (.file (mode % 0o1000) content))
          = (.ok (), held.put place (.file (mode % 0o1000) content)) := rfl
    have moved
        : Disk.calls.rename (temporary path) path (held.put place (.file (mode % 0o1000) content))
          = (.ok (), held.put target (.file (mode % 0o1000) content)) :=
      rename_free named free led other
    rw [FileCalls.replace, bind_run made]
    dsimp only
    rw [bind_run created]
    dsimp only
    rw [bind_run (calls_fill named free content mode)]
    dsimp only
    rw [FileCalls.install, bind_run closed]
    dsimp only
    rw [bind_run moved]
    dsimp only
    rw [calls_syncDirectory, ← done, replaced]

end Disk

end FormMigrate
