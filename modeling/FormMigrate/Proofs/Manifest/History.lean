import FormMigrate.Proofs.Manifest.Archive

/-! Manifests that are written one after another. The pointer names the newest one, and each time
stamp keeps the last manifest that was written under it.
-/

namespace FormMigrate.Manifest

--------------------------------------------------------------------------------
-- Statement
--------------------------------------------------------------------------------

/-- Stores manifests one after another, up to the first one that cannot be stored, and returns their
paths.
-/
def writeAll {m : Type → Type} [Monad m] (workspace : Workspace m) (directory : Bytes)
    : List Manifest → m (Except ManifestError (List Bytes))
  | [] => return .ok []
  | manifest :: rest => do
      match ← write workspace directory manifest with
      | .error e => return .error e
      | .ok path =>
          match ← writeAll workspace directory rest with
          | .error e => return .error e
          | .ok paths => return .ok (path :: paths)

/-- The last one of some manifests under a time stamp. -/
def lastUnder (written : List Manifest) (timestamp : Bytes) : Option Manifest :=
  written.reverse.find? (·.timestamp == timestamp)

/-- The texts that a manifest holds. -/
def texts (manifest : Manifest) : List Bytes :=
  manifest.timestamp :: manifest.focus
    :: manifest.entries.flatMap fun entry => [entry.file, entry.backup]

/-- A directory as it is read after manifests were written to it: the newest one is the last one
that was written, and each time stamp has its last manifest, with the replacement character for each
stray byte of its texts.
-/
structure Returns (workingDirectory : Bytes) (cancelled : Bool) (directory : Bytes)
    (written : List Manifest) (disk : Disk) : Prop where
  newest
    : ∀ manifest ∈ written.getLast?,
        resolve (Disk.workspace workingDirectory cancelled) directory latestReference disk
        = (.ok (pathOf directory manifest.timestamp), disk)
  loads
    : ∀ timestamp,
        ∀ manifest ∈ lastUnder written timestamp,
          load (Disk.workspace workingDirectory cancelled) (pathOf directory timestamp) disk
          = (.ok
                { timestamp
                  files := some (manifest.entries.map BackupEntry.sanitized)
                  apply := manifest.apply
                  focus := Utf8.sanitized manifest.focus },
              disk)
  /-- A manifest without stray bytes is the same when it is loaded. -/
  loadsSame
    : ∀ timestamp,
        ∀ manifest ∈ lastUnder written timestamp,
          (∀ text ∈ manifest.texts, Utf8.Valid text)
          → load (Disk.workspace workingDirectory cancelled) (pathOf directory timestamp) disk
            = (.ok { manifest with files := some manifest.entries }, disk)

--------------------------------------------------------------------------------
-- Places of manifests
--------------------------------------------------------------------------------

variable {directory timestamp other : Bytes}

theorem fileName_inj (same : fileName timestamp = fileName other) : timestamp = other := by
  rw [fileName, fileName] at same
  exact List.append_cancel_left (List.append_cancel_right same)

theorem fileName_ne_pointerName (stamp : isStamp timestamp = true)
    : fileName timestamp ≠ pointerName := by
  intro same
  have latest : pointerName = fileName latestReference := by decide
  rw [fileName_inj (same.trans latest)] at stamp
  exact absurd stamp (by decide)

theorem getLast?_spot_pathOf (disk : Disk) (directory : Bytes) (stamp : isStamp timestamp = true)
    : (disk.spot (pathOf directory timestamp)).getLast? = some (fileName timestamp) :=
  disk.getLast?_spot (getLast?_names_pathOf directory stamp) (fileName_ne (by decide))
    (fileName_ne (by decide))

theorem getLast?_spot_pointerOf (disk : Disk) (directory : Bytes)
    : (disk.spot (pointerOf directory)).getLast? = some pointerName :=
  disk.getLast?_spot
    (Path.getLast?_names_below directory (by decide) (by decide) (by decide) (by decide))
    (by decide) (by decide)

/-- Manifests under different time stamps are in different places. -/
theorem spot_pathOf_ne (disk : Disk) (directory : Bytes) (stamp : isStamp timestamp = true)
    (stamp' : isStamp other = true) (differs : timestamp ≠ other)
    : disk.spot (pathOf directory timestamp) ≠ disk.spot (pathOf directory other) := by
  intro same
  have last := getLast?_spot_pathOf disk directory stamp
  rw [same, getLast?_spot_pathOf disk directory stamp'] at last
  exact differs (fileName_inj (Option.some.inj last)).symm

/-- No manifest is in the place of the pointer. -/
theorem spot_pathOf_ne_pointerOf (disk : Disk) (directory : Bytes) (stamp : isStamp timestamp = true)
    : disk.spot (pathOf directory timestamp) ≠ disk.spot (pointerOf directory) := by
  intro same
  have last := getLast?_spot_pathOf disk directory stamp
  rw [same, getLast?_spot_pointerOf disk directory] at last
  exact fileName_ne_pointerName stamp (Option.some.inj last).symm

--------------------------------------------------------------------------------
-- What is there
--------------------------------------------------------------------------------

theorem lastUnder_concat (written : List Manifest) (manifest : Manifest) (timestamp : Bytes)
    : lastUnder (written ++ [manifest]) timestamp
      = if manifest.timestamp = timestamp then some manifest else lastUnder written timestamp := by
  rw [lastUnder, List.reverse_concat, List.find?_cons]
  by_cases same : manifest.timestamp = timestamp
  · rw [if_pos same, beq_iff_eq.mpr same]
  · rw [if_neg same, beq_eq_false_iff_ne.mpr same, lastUnder]

theorem mem_of_lastUnder {written : List Manifest} {manifest : Manifest}
    (found : manifest ∈ lastUnder written timestamp)
    : manifest ∈ written ∧ manifest.timestamp = timestamp := by
  rw [lastUnder, Option.mem_def] at found
  have stamped := List.find?_some found
  exact ⟨List.mem_reverse.mp (List.mem_of_find?_eq_some found), beq_iff_eq.mp stamped⟩

/-- The texts of the manifests that were written are there, and so is that of the last pointer. -/
structure Holds (directory : Bytes) (written : List Manifest) (disk : Disk) : Prop where
  pointer
    : ∀ manifest ∈ written.getLast?,
        disk.read (pointerOf directory) = .ok (pointerText directory manifest.timestamp)
  files
    : ∀ timestamp,
        ∀ manifest ∈ lastUnder written timestamp,
          disk.read (pathOf directory timestamp) = .ok (Json.print .markup manifest.toJson)

namespace Holds

variable {written : List Manifest} {manifest : Manifest} {disk later : Disk}

/-- A manifest that is stored replaces the pointer and the manifest under its own time stamp. -/
theorem stores (holds : Holds directory written disk)
    (stamps : ∀ manifest ∈ written, isStamp manifest.timestamp = true)
    (stamp : isStamp manifest.timestamp = true) (stored : Stores directory manifest disk later)
    : Holds directory (written ++ [manifest]) later := by
  obtain ⟨held, puts, points⟩ := stored
  refine ⟨?_, fun timestamp found last => ?_⟩
  · rw [List.getLast?_concat]
    rintro _ ⟨⟩
    exact points.read
  · rw [lastUnder_concat] at last
    have beside (known : isStamp timestamp = true)
        (read : held.read (pathOf directory timestamp) = .ok (Json.print .markup found.toJson))
        : later.read (pathOf directory timestamp) = .ok (Json.print .markup found.toJson) := by
      refine points.touches.read read ?_
      rw [List.map_singleton, List.mem_singleton]
      exact spot_pathOf_ne_pointerOf held directory known
    split at last
    · rename_i own
      subst own
      cases last
      exact beside stamp puts.read
    · rename_i differs
      obtain ⟨member, rfl⟩ := mem_of_lastUnder last
      refine beside (stamps found member) (puts.touches.read (holds.files _ found last) ?_)
      rw [List.map_singleton, List.mem_singleton]
      exact spot_pathOf_ne disk directory (stamps found member) stamp (Ne.symm differs)

theorem sanitized_of_valid (valid : ∀ text ∈ manifest.texts, Utf8.Valid text)
    : manifest.entries.map BackupEntry.sanitized = manifest.entries
      ∧ Utf8.sanitized manifest.focus = manifest.focus := by
  rw [texts, List.forall_mem_cons, List.forall_mem_cons, List.forall_mem_flatMap] at valid
  obtain ⟨-, focus, entries⟩ := valid
  have same : ∀ entry ∈ manifest.entries, entry.sanitized = id entry := by
    intro entry listed
    have file : Utf8.sanitized entry.file = entry.file := entries entry listed _ (.head _)
    have backup : Utf8.sanitized entry.backup = entry.backup :=
      entries entry listed _ (.tail _ (.head _))
    rw [BackupEntry.sanitized, file, backup, id]
  exact ⟨(List.map_congr_left same).trans (List.map_id _), focus⟩

/-- What is there is returned. -/
theorem returns (holds : Holds directory written disk)
    (stamps : ∀ manifest ∈ written, isStamp manifest.timestamp = true) (workingDirectory : Bytes)
    (cancelled : Bool)
    : Returns workingDirectory cancelled directory written disk := by
  have loads (timestamp : Bytes) (manifest : Manifest) (last : manifest ∈ lastUnder written timestamp)
      : manifest.timestamp = timestamp
        ∧ load (Disk.workspace workingDirectory cancelled) (pathOf directory timestamp) disk
          = (.ok
                { timestamp
                  files := some (manifest.entries.map BackupEntry.sanitized)
                  apply := manifest.apply
                  focus := Utf8.sanitized manifest.focus },
              disk) := by
    obtain ⟨member, rfl⟩ := mem_of_lastUnder last
    have valid : Utf8.sanitized manifest.timestamp = manifest.timestamp :=
      Utf8.valid_ascii fun b listed => (stamp_ascii (stamps manifest member) b listed).1
    have loaded := @load_eq disk workingDirectory cancelled _ _ (holds.files _ manifest last)
    rw [sanitized, valid] at loaded
    exact ⟨rfl, loaded⟩
  refine ⟨fun manifest last => ?_, fun timestamp manifest last => (loads timestamp manifest last).2,
    fun timestamp manifest last valid => ?_⟩
  · exact resolve_latest (stamps manifest (List.mem_of_getLast? last)) (holds.pointer manifest last)
  · obtain ⟨rfl, loaded⟩ := loads timestamp manifest last
    obtain ⟨entries, focus⟩ := sanitized_of_valid valid
    rw [loaded, entries, focus]

end Holds

--------------------------------------------------------------------------------
-- One after another
--------------------------------------------------------------------------------

variable {workingDirectory : Bytes} {cancelled : Bool} {disk later : Disk}

theorem writeAll_cons {manifest : Manifest} {rest : List Manifest} {paths : List Bytes}
    (wrote
      : writeAll (Disk.workspace workingDirectory cancelled) directory (manifest :: rest) disk
        = (.ok paths, later))
    : ∃ path paths' middle,
        paths = path :: paths'
        ∧ write (Disk.workspace workingDirectory cancelled) directory manifest disk
          = (.ok path, middle)
        ∧ writeAll (Disk.workspace workingDirectory cancelled) directory rest middle
          = (.ok paths', later) := by
  rw [writeAll] at wrote
  obtain ⟨named, middle, first, wrote⟩ := exists_of_bind_run wrote
  cases named with
  | error e => cases wrote
  | ok path =>
      obtain ⟨behind, after, others, wrote⟩ := exists_of_bind_run wrote
      cases behind with
      | error e => cases wrote
      | ok paths' =>
          cases wrote
          exact ⟨path, paths', middle, rfl, first, others⟩

/-- Manifests that are written behind others leave all of them there, at every moment. -/
theorem Holds.writeAll {past written : List Manifest} {paths : List Bytes}
    (holds : Holds directory past disk)
    (stamps : ∀ manifest ∈ past ++ written, isStamp manifest.timestamp = true)
    (wrote
      : writeAll (Disk.workspace workingDirectory cancelled) directory written disk
        = (.ok paths, later))
    : ∀ earlier rest,
        written = earlier ++ rest
        → ∃ middle,
            Manifest.writeAll (Disk.workspace workingDirectory cancelled) directory earlier disk
              = (.ok (earlier.map fun manifest => pathOf directory manifest.timestamp), middle)
            ∧ Holds directory (past ++ earlier) middle := by
  induction written generalizing past disk paths with
  | nil =>
      intro earlier rest split
      obtain ⟨rfl, -⟩ := List.append_eq_nil_iff.mp split.symm
      exact ⟨disk, rfl, (List.append_nil past).symm ▸ holds⟩
  | cons manifest more ih =>
      intro earlier rest split
      cases earlier with
      | nil => exact ⟨disk, rfl, (List.append_nil past).symm ▸ holds⟩
      | cons first earlier =>
          obtain ⟨rfl, rfl⟩ := List.cons.inj split
          obtain ⟨path, paths', next, -, wrote, behind⟩ := writeAll_cons wrote
          rw [List.append_cons] at stamps ⊢
          have stored := write_ok (Disk.workspace_serves workingDirectory cancelled) wrote
          obtain ⟨rfl, stored⟩ : _ ∧ Stores directory manifest disk next := stored
          have stamped : ∀ other ∈ past ++ [manifest], isStamp other.timestamp = true :=
            fun other listed => stamps other (List.mem_append_left _ listed)
          have holds := holds.stores
            (fun other listed => stamped other (List.mem_append_left _ listed))
            (stamped manifest (List.mem_append_right _ (.head _))) stored
          obtain ⟨middle, wrote', holds⟩ := ih holds stamps behind earlier rest rfl
          refine ⟨middle, ?_, holds⟩
          rw [Manifest.writeAll, bind_run wrote]
          dsimp only
          rw [bind_run wrote']
          rfl

/-- Manifests that are all written are returned at every moment: after each of them, it is the
newest one, and it loads as it was written until another one is written under its time stamp.
-/
theorem writeAll_returns {written : List Manifest} {paths : List Bytes}
    (stamps : ∀ manifest ∈ written, isStamp manifest.timestamp = true)
    (wrote
      : writeAll (Disk.workspace workingDirectory cancelled) directory written disk
        = (.ok paths, later))
    : ∀ earlier rest,
        written = earlier ++ rest
        → ∃ middle,
            writeAll (Disk.workspace workingDirectory cancelled) directory earlier disk
              = (.ok (earlier.map fun manifest => pathOf directory manifest.timestamp), middle)
            ∧ Returns workingDirectory cancelled directory earlier middle := by
  intro earlier rest split
  have start : Holds directory [] disk := ⟨nofun, nofun⟩
  obtain ⟨middle, wrote', holds⟩ := start.writeAll stamps wrote earlier rest split
  subst split
  exact ⟨middle, wrote', holds.returns
    (fun manifest listed => stamps manifest (List.mem_append_left _ listed)) _ _⟩

/-- Three manifests, the last one of which replaces the first one. -/
def threeManifests : List Manifest := [
  ⟨"20250131T142501", none, true, []⟩,
  ⟨"20250131T142502", some [⟨"/v/a", "/v/a.bak"⟩], true, "\"<OPEN>\""⟩,
  ⟨"20250131T142501", some [⟨[0x61, 0xff], "a\n"⟩], false, []⟩]

/-- The last manifest is the newest one and has lost its stray byte, and the second one is as it was
written.
-/
theorem writeAll_returns_three
    : pathOf "d" "20250131T142501" = "d/convert_manifest_20250131T142501.json"
      ∧ ∃ disk,
          writeAll (Disk.workspace "/" false) "d" threeManifests {}
            = (.ok [pathOf "d" "20250131T142501", pathOf "d" "20250131T142502",
                pathOf "d" "20250131T142501"], disk)
          ∧ resolve (Disk.workspace "/" false) "d" latestReference disk
            = (.ok (pathOf "d" "20250131T142501"), disk)
          ∧ load (Disk.workspace "/" false) (pathOf "d" "20250131T142501") disk
            = (.ok ⟨"20250131T142501", some [⟨[0x61, 0xef, 0xbf, 0xbd], "a\n"⟩], false, []⟩, disk)
          ∧ load (Disk.workspace "/" false) (pathOf "d" "20250131T142502") disk
            = (.ok ⟨"20250131T142502", some [⟨"/v/a", "/v/a.bak"⟩], true, "\"<OPEN>\""⟩, disk) := by
  refine ⟨by decide +kernel, ?_⟩
  have through : (writeAll (Disk.workspace "/" false) "d" threeManifests {}).1.isOk = true := by
    decide +kernel
  rcases wrote : writeAll (Disk.workspace "/" false) "d" threeManifests {} with ⟨e | paths, later⟩
  · rw [wrote] at through
    cases through
  · obtain ⟨disk, wrote', returns⟩ :=
      writeAll_returns (by decide +kernel) wrote threeManifests [] (List.append_nil _).symm
    refine ⟨disk, wrote.symm.trans wrote', ?_, ?_, ?_⟩
    · exact returns.newest ⟨"20250131T142501", some [⟨[0x61, 0xff], "a\n"⟩], false, []⟩ rfl
    · refine (returns.loads "20250131T142501" ⟨_, some [⟨[0x61, 0xff], "a\n"⟩], false, []⟩
        rfl).trans (congrArg (fun found => (Except.ok found, disk)) ?_)
      decide +kernel
    · exact returns.loadsSame "20250131T142502" ⟨_, some [⟨"/v/a", "/v/a.bak"⟩], true, _⟩ rfl
        (by decide +kernel)

end FormMigrate.Manifest
