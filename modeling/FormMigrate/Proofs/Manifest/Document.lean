import FormMigrate.Manifest.Document
import FormMigrate.Proofs.Json.RoundTrip

/-! Manifests and pointers read back from their documents, with the replacement character for the
stray bytes of their texts.
-/

namespace FormMigrate

--------------------------------------------------------------------------------
-- Sanitized records
--------------------------------------------------------------------------------

/-- An entry whose paths are sanitized. -/
def BackupEntry.sanitized (entry : BackupEntry) : BackupEntry :=
  ⟨Utf8.sanitized entry.file, Utf8.sanitized entry.backup⟩

/-- A manifest whose texts are sanitized. It has files even if there were none. -/
def Manifest.sanitized (manifest : Manifest) : Manifest where
  timestamp := Utf8.sanitized manifest.timestamp
  files := some (manifest.entries.map BackupEntry.sanitized)
  apply := manifest.apply
  focus := Utf8.sanitized manifest.focus

/-- A pointer whose texts are sanitized. -/
def ManifestPointer.sanitized (pointer : ManifestPointer) : ManifestPointer :=
  ⟨Utf8.sanitized pointer.manifest, Utf8.sanitized pointer.timestamp⟩

--------------------------------------------------------------------------------
-- Fields
--------------------------------------------------------------------------------

/-- The member names of manifests, pointers and records of the ambiguity log. -/
def memberNames : List String :=
  ["timestamp", "files", "options", "apply", "focus", "file", "bak", "manifest", "pos", "line",
    "snippet", "reason"]

/-- A member name means the field that it is written for, and no other one. -/
theorem names_memberNames
    : ∀ name ∈ memberNames,
        Utf8.sanitized name = name
        ∧ ∀ field ∈ memberNames, Document.names field name = (field == name) := by
  decide

namespace Document

variable {α : Type} {fields : List (ObjectField α)}

/-- Fields with member names, no two of them the same. -/
structure Spelled (fields : List (ObjectField α)) : Prop where
  known : ∀ field ∈ fields, field.name ∈ memberNames
  distinct : (fields.map ObjectField.name).Nodup

/-- The members of fields with their values, in order. -/
def members (fields : List (ObjectField α)) (values : List Json) : List (Bytes × Json) :=
  List.zipWith (fun field value => (Bytes.ofString field.name, value)) fields values

/-- A record after values for its fields, in order. -/
def fill (record : α) (entries : List (ObjectField α × Json)) : Option α :=
  entries.foldlM (fun record entry => entry.1.set record entry.2) record

theorem Spelled.find? (spelled : Spelled fields) {field : ObjectField α} (member : field ∈ fields)
    : fields.find? (fun other => names other.name field.name) = some field := by
  have means : ∀ other ∈ fields, names other.name field.name = (other.name == field.name) :=
    fun other member' =>
      (names_memberNames field.name (spelled.known field member)).2 other.name
        (spelled.known other member')
  obtain ⟨front, back, rfl⟩ := List.append_of_mem member
  have distinct := spelled.distinct
  rw [List.map_append, List.nodup_append] at distinct
  refine List.find?_eq_some_iff_append.mpr ⟨?_, front, back, rfl, fun other member' => ?_⟩
  · rw [means field member, beq_self_eq_true]
  · rw [means other (List.mem_append_left _ member'), Bool.not_eq_true', beq_eq_false_iff_ne]
    exact distinct.2.2 other.name (List.mem_map_of_mem member') field.name (.head _)

/-- A member that is written for a field sets that field. -/
theorem Spelled.setField (spelled : Spelled fields) {field : ObjectField α} (member : field ∈ fields)
    (record : α) (value : Json)
    : setField fields record (field.name, value) = field.set record value := by
  rw [Document.setField, spelled.find? member]

/-- An object with a member for each field reads back field by field, by induction on the fields
that are left.
-/
theorem Spelled.record? (spelled : Spelled fields) (record : α) (values : List Json)
    : record? fields record (.object (members fields values)) = fill record (fields.zip values) := by
  have each (part : List (ObjectField α)) (within : part ⊆ fields)
      : ∀ record values,
          (members part values).foldlM (Document.setField fields) record
          = fill record (part.zip values) := by
    induction part with
    | nil => exact fun _ _ => rfl
    | cons field rest ih =>
        intro record values
        cases values with
        | nil => rfl
        | cons value values =>
            obtain ⟨own, others⟩ := List.cons_subset.mp within
            rw [members, List.zipWith_cons_cons, List.foldlM_cons, spelled.setField own, fill,
              List.zip_cons_cons, List.foldlM_cons]
            exact congrArg (field.set record value >>= ·) (funext fun next => ih others next values)
  exact each fields (List.Subset.refl _) record values

/-- Sanitizing the members of fields leaves their names. -/
theorem Spelled.sanitized_members (spelled : Spelled fields) (values : List Json)
    : Json.sanitizedMembers (members fields values)
      = members fields (Json.sanitizedElements values) := by
  have known := spelled.known
  clear spelled
  induction fields generalizing values with
  | nil => rfl
  | cons field rest ih =>
      cases values with
      | nil => rfl
      | cons value values =>
          obtain ⟨own, others⟩ := List.forall_mem_cons.mp known
          rw [members, List.zipWith_cons_cons, Json.sanitizedMembers, (names_memberNames _ own).1,
            Json.sanitizedElements, members, List.zipWith_cons_cons]
          exact congrArg (_ :: ·) (ih values others)

/-- A sanitized object with a member for each field reads back as its sanitized values. -/
theorem Spelled.record?_sanitized (spelled : Spelled fields) (record : α) (values : List Json)
    : Document.record? fields record (Json.object (members fields values)).sanitized
      = fill record (fields.zip (Json.sanitizedElements values)) := by
  rw [Json.sanitized, spelled.sanitized_members, spelled.record?]

end Document

open Document

--------------------------------------------------------------------------------
-- Entries
--------------------------------------------------------------------------------

theorem BackupEntry.toJson_eq (entry : BackupEntry)
    : entry.toJson = .object (members fields [.text entry.file, .text entry.backup]) :=
  rfl

/-- An entry reads back, whatever it starts from. -/
theorem BackupEntry.record?_toJson (start entry : BackupEntry)
    : record? fields start entry.toJson.sanitized = some entry.sanitized := by
  rw [toJson_eq, Spelled.record?_sanitized ⟨by decide, by decide⟩]
  rfl

theorem ManifestDraft.entriesOf?_toJson (slots entries : List BackupEntry)
    : entriesOf? slots (Json.sanitizedElements (entries.map BackupEntry.toJson))
      = some (entries.map BackupEntry.sanitized) := by
  induction entries generalizing slots with
  | nil => rfl
  | cons entry rest ih =>
      rw [List.map_cons, Json.sanitizedElements, entriesOf?, BackupEntry.record?_toJson, ih]
      rfl

--------------------------------------------------------------------------------
-- Manifests
--------------------------------------------------------------------------------

/-- The run options as an object. -/
def Manifest.optionsJson (manifest : Manifest) : Json :=
  .object (members options [.bool manifest.apply, .text manifest.focus])

theorem Manifest.toJson_eq (manifest : Manifest)
    : manifest.toJson
      = .object
          (members ManifestDraft.fields
            [.text manifest.timestamp, .array (manifest.entries.map BackupEntry.toJson),
              manifest.optionsJson]) :=
  rfl

theorem ManifestDraft.setFiles_toJson (draft : ManifestDraft) (entries : List BackupEntry)
    : ∃ slots,
        draft.setFiles (Json.array (entries.map BackupEntry.toJson)).sanitized
        = some
            { manifest :=
                { draft.manifest with files := some (entries.map BackupEntry.sanitized) }
              slots } := by
  have read := entriesOf?_toJson draft.slots entries
  rw [Json.sanitized]
  cases entries with
  | nil => exact ⟨_, rfl⟩
  | cons entry rest =>
      rw [List.map_cons, Json.sanitizedElements] at read ⊢
      rw [setFiles, read]
      · exact ⟨_, rfl⟩
      · simp

/-- The run options read back, whatever the manifest starts from. -/
theorem ManifestDraft.setOptions_toJson (draft : ManifestDraft) (manifest : Manifest)
    : draft.setOptions manifest.optionsJson.sanitized
      = some
          { draft with
            manifest :=
              { draft.manifest with
                apply := manifest.apply
                focus := Utf8.sanitized manifest.focus } } := by
  rw [setOptions, Manifest.optionsJson, Spelled.record?_sanitized ⟨by decide, by decide⟩]
  rfl

/-- A manifest reads back from its document. -/
theorem Manifest.ofJson?_toJson (manifest : Manifest)
    : ofJson? manifest.toJson.sanitized = some manifest.sanitized := by
  obtain ⟨slots, files⟩ :=
    ManifestDraft.setFiles_toJson { manifest := { timestamp := Utf8.sanitized manifest.timestamp } }
      manifest.entries
  rw [toJson_eq, ofJson?, Spelled.record?_sanitized ⟨by decide, by decide⟩]
  show Option.map ManifestDraft.manifest (Option.bind (ManifestDraft.setFiles _ _) fun draft =>
    Option.bind (draft.setOptions manifest.optionsJson.sanitized) some) = _
  rw [files, Option.bind_some, ManifestDraft.setOptions_toJson]
  rfl

--------------------------------------------------------------------------------
-- Pointers
--------------------------------------------------------------------------------

theorem ManifestPointer.toJson_eq (pointer : ManifestPointer)
    : pointer.toJson = .object (members fields [.text pointer.manifest, .text pointer.timestamp]) :=
  rfl

/-- A pointer reads back from its document. -/
theorem ManifestPointer.ofJson?_toJson (pointer : ManifestPointer)
    : ofJson? pointer.toJson.sanitized = some pointer.sanitized := by
  rw [toJson_eq, ofJson?, Spelled.record?_sanitized ⟨by decide, by decide⟩]
  rfl

--------------------------------------------------------------------------------
-- Printed documents
--------------------------------------------------------------------------------

theorem BackupEntry.fits_toJson (entry : BackupEntry) {depth : Nat}
    : Json.Fits (depth + 1) entry.toJson := by
  refine .object fun member listed => ?_
  simp only [Json.textMember, List.mem_cons, List.not_mem_nil, or_false] at listed
  rcases listed with rfl | rfl <;> exact .text

theorem Manifest.fits_toJson (manifest : Manifest) : Json.Fits Json.depthLimit manifest.toJson := by
  refine .object fun member listed => ?_
  simp only [Json.textMember, List.mem_cons, List.not_mem_nil, or_false] at listed
  rcases listed with rfl | rfl | rfl
  · exact .text
  · refine .array fun element written => ?_
    obtain ⟨entry, -, rfl⟩ := List.mem_map.mp written
    exact entry.fits_toJson
  · refine .object fun option listed => ?_
    simp only [List.mem_cons, List.not_mem_nil, or_false] at listed
    rcases listed with rfl | rfl
    · exact .bool
    · exact .text

theorem ManifestPointer.fits_toJson (pointer : ManifestPointer)
    : Json.Fits Json.depthLimit pointer.toJson := by
  refine .object fun member listed => ?_
  simp only [Json.textMember, List.mem_cons, List.not_mem_nil, or_false] at listed
  rcases listed with rfl | rfl <;> exact .text

/-- A manifest is read from its text. -/
theorem Manifest.parse_print (manifest : Manifest)
    : (Json.parse? (Json.print .markup manifest.toJson)).bind ofJson? = some manifest.sanitized := by
  rw [Json.parse?_print manifest.fits_toJson, Option.bind_some, ofJson?_toJson]

/-- A pointer is read from its text. -/
theorem ManifestPointer.parse_print (pointer : ManifestPointer)
    : (Json.parse? (Json.print .markup pointer.toJson)).bind ofJson? = some pointer.sanitized := by
  rw [Json.parse?_print pointer.fits_toJson, Option.bind_some, ofJson?_toJson]

end FormMigrate
