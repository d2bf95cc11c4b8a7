import FormMigrate.Manifest.Rollback
import FormMigrate.Proofs.File.Noting
import FormMigrate.Proofs.File.Writing
import FormMigrate.Proofs.Manifest.Document
import FormMigrate.Proofs.State

/-! A manifest that was written is the newest one of its directory and loads from there. -/

namespace FormMigrate

/-- Whether a text is a time stamp: digits, and a letter between date and time. -/
def isStamp (timestamp : Bytes) : Bool := timestamp.all fun c => c.isDigit || c == 0x54

namespace Manifest

/-- The path of a run's manifest. -/
def pathOf (directory timestamp : Bytes) : Bytes := Path.join [directory, fileName timestamp]

/-- The path of the pointer to the newest manifest. -/
def pointerOf (directory : Bytes) : Bytes := Path.join [directory, pointerName]

variable {timestamp : Bytes}

--------------------------------------------------------------------------------
-- Names
--------------------------------------------------------------------------------

theorem stamp_ascii (stamp : isStamp timestamp = true) : ∀ b ∈ timestamp, b < 0x80 ∧ b ≠ 0x2f := by
  have stamped : ∀ b : Byte, (b.isDigit || b == 0x54) = true → b < 0x80 ∧ b ≠ 0x2f := by
    decide
  exact fun b member => stamped b (List.all_eq_true.mp stamp b member)

theorem fileName_ascii (stamp : isStamp timestamp = true)
    : ∀ b ∈ fileName timestamp, b < 0x80 ∧ b ≠ 0x2f := by
  have opening : (Bytes.ofString "convert_manifest_").all (fun b => b < 0x80 && b != 0x2f) = true := by
    decide
  have ending : (Bytes.ofString ".json").all (fun b => b < 0x80 && b != 0x2f) = true := by decide
  intro b member
  rw [fileName, List.mem_append, List.mem_append] at member
  rcases member with (member | member) | member
  · simpa using List.all_eq_true.mp opening b member
  · exact stamp_ascii stamp b member
  · simpa using List.all_eq_true.mp ending b member

theorem fileName_ne {name : Bytes} (short : name.length < 17) : fileName timestamp ≠ name := by
  have opening : (Bytes.ofString "convert_manifest_").length = 17 := by decide
  rintro rfl
  rw [fileName, List.length_append, List.length_append, opening] at short
  omega

/-- A manifest's path ends in its file name. -/
theorem getLast?_names_pathOf (directory : Bytes) (stamp : isStamp timestamp = true)
    : (Path.names (pathOf directory timestamp)).getLast? = some (fileName timestamp) :=
  Path.getLast?_names_below directory (fileName_ne (by decide))
    (fun slash => (fileName_ascii stamp _ slash).2 rfl) (fileName_ne (by decide))
    (fileName_ne (by decide))

theorem base_pathOf (directory : Bytes) (stamp : isStamp timestamp = true)
    : Path.base (pathOf directory timestamp) = fileName timestamp :=
  Path.base_eq (getLast?_names_pathOf directory stamp)

--------------------------------------------------------------------------------
-- Reading
--------------------------------------------------------------------------------

variable {disk : Disk} {directory workingDirectory : Bytes} {cancelled : Bool}

theorem readDocument_eq {α : Type} {ofJson? : Json → Option α} {path content : Bytes} {found : α}
    (read : disk.read path = .ok content) (parsed : (Json.parse? content).bind ofJson? = some found)
    : readDocument (Disk.workspace workingDirectory cancelled) ofJson? path disk
      = (.ok found, disk) := by
  have read
      : (Disk.workspace workingDirectory cancelled).store.read path disk = (.ok content, disk) :=
    congrArg (·, disk) read
  rw [readDocument, bind_run read]
  dsimp only
  rw [parsed]
  rfl

/-- A manifest loads from where its text is. -/
theorem load_eq {path : Bytes} {manifest : Manifest}
    (read : disk.read path = .ok (Json.print .markup manifest.toJson))
    : load (Disk.workspace workingDirectory cancelled) path disk = (.ok manifest.sanitized, disk) :=
  readDocument_eq read manifest.parse_print

/-- The newest manifest is the one that the pointer names. -/
theorem resolve_latest (stamp : isStamp timestamp = true)
    (read
      : disk.read (pointerOf directory)
        = .ok (Json.print .markup
            (ManifestPointer.toJson ⟨Path.base (pathOf directory timestamp), timestamp⟩)))
    : resolve (Disk.workspace workingDirectory cancelled) directory latestReference disk
      = (.ok (pathOf directory timestamp), disk) := by
  have valid : Utf8.sanitized (fileName timestamp) = fileName timestamp :=
    Utf8.valid_ascii fun b member => (fileName_ascii stamp b member).1
  have found := @readDocument_eq disk workingDirectory cancelled _ _ _ _ _ read
    (ManifestPointer.parse_print _)
  unfold pointerOf at found
  rw [resolve, if_pos (beq_self_eq_true _), latest, bind_run found]
  dsimp only [ManifestPointer.sanitized]
  rw [base_pathOf directory stamp, valid, if_neg]
  · rfl
  · rw [List.isEmpty_iff]
    exact fileName_ne (by decide)

--------------------------------------------------------------------------------
-- Writing
--------------------------------------------------------------------------------

/-- The text of the pointer to a manifest. -/
def pointerText (directory timestamp : Bytes) : Bytes :=
  Json.print .markup
    (ManifestPointer.toJson ⟨Path.base (pathOf directory timestamp), timestamp⟩)

/-- A manifest was put into a directory, and then the pointer to it. -/
def Stores (directory : Bytes) (manifest : Manifest) (before after : Disk) : Prop :=
  ∃ held,
    Disk.Puts (pathOf directory manifest.timestamp) (Json.print .markup manifest.toJson) before held
    ∧ Disk.Puts (pointerOf directory) (pointerText directory manifest.timestamp) held after

section

variable {σ : Type}

/-- A manifest is written before the pointer to it, and either call may fail. -/
theorem write_cases {workspace : Workspace (StateM σ)} {manifest : Manifest} {s later : σ}
    {outcome : Except ManifestError Bytes}
    (ran : write workspace directory manifest s = (outcome, later))
    : (∃ path content s₁ fault,
        workspace.replace path content s₁ = (.error fault, later) ∧ ∃ e, outcome = .error e)
      ∨ outcome = .ok (pathOf directory manifest.timestamp)
        ∧ ∃ held,
            workspace.replace (pathOf directory manifest.timestamp)
                (Json.print .markup manifest.toJson) s
              = (.ok (), held)
            ∧ workspace.replace (pointerOf directory)
                (pointerText directory manifest.timestamp) held
              = (.ok (), later) := by
  rw [write] at ran
  obtain ⟨written, held, stored, ran⟩ := exists_of_bind_run ran
  cases written with
  | error fault =>
      cases ran
      exact .inl ⟨_, _, _, fault, stored, _, rfl⟩
  | ok done =>
      obtain ⟨pointing, s₂, pointed, ran⟩ := exists_of_bind_run ran
      cases pointing with
      | error fault =>
          cases ran
          exact .inl ⟨_, _, _, fault, pointed, _, rfl⟩
      | ok done =>
          cases ran
          exact .inr ⟨rfl, held, stored, pointed⟩

variable {workspace : Workspace (StateM σ)} {disk : σ → Disk} {manifest : Manifest}

/-- A manifest that was written is there, and so is the pointer to it. -/
theorem write_ok (serves : workspace.Serves disk) {s later : σ} {path : Bytes}
    (ran : write workspace directory manifest s = (.ok path, later))
    : path = pathOf directory manifest.timestamp
      ∧ Stores directory manifest (disk s) (disk later) := by
  obtain ⟨_, _, _, _, -, _, no⟩ | ⟨named, held, stored, pointed⟩ := write_cases ran
  · cases no
  · exact ⟨Except.ok.inj named, disk held, serves.calls.replace_puts stored,
      serves.calls.replace_puts pointed⟩

/-- A manifest that is written without notes is there, and so is the pointer to it. -/
theorem write_silent (serves : workspace.Serves disk) {s later : σ × List Bytes}
    {outcome : Except ManifestError Bytes}
    (ran : write workspace.noting directory manifest s = (outcome, later)) (silent : later.2 = [])
    : s.2 = [] ∧ Stores directory manifest (disk s.1) (disk later.1) := by
  obtain ⟨_, _, _, _, failed, -⟩ | ⟨rfl, held, stored, pointed⟩ := write_cases ran
  · obtain ⟨-, no⟩ := Workspace.replace_silent failed silent
    cases no
  · obtain ⟨silent, -⟩ := Workspace.replace_silent pointed silent
    obtain ⟨silent, -⟩ := Workspace.replace_silent stored silent
    exact ⟨silent, (write_ok serves.noting ran).2⟩

end

end Manifest

end FormMigrate
