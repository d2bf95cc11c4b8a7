import FormMigrate.Json.Reader

/-! Manifests: which files a run replaced and where their backups are, as JSON documents. -/

namespace FormMigrate

/-- A replaced file and its backup. -/
structure BackupEntry where
  file : Bytes := []
  backup : Bytes := []
  deriving DecidableEq, Repr

/-- The record of one applied run. A document may leave the files out. -/
structure Manifest where
  timestamp : Bytes := []
  files : Option (List BackupEntry) := none
  apply : Bool := false
  focus : Bytes := []
  deriving DecidableEq, Repr

/-- The content of the file that names the newest manifest. -/
structure ManifestPointer where
  manifest : Bytes := []
  timestamp : Bytes := []
  deriving DecidableEq, Repr

/-- The entries of a manifest in order. -/
def Manifest.entries (manifest : Manifest) : List BackupEntry := manifest.files.getD []

/-- An entry as an object. -/
def BackupEntry.toJson (entry : BackupEntry) : Json :=
  .object [Json.textMember "file" entry.file, Json.textMember "bak" entry.backup]

/-- A manifest as an object. -/
def Manifest.toJson (manifest : Manifest) : Json :=
  .object [
    Json.textMember "timestamp" manifest.timestamp,
    ("files", .array (manifest.entries.map BackupEntry.toJson)),
    ("options", .object [("apply", .bool manifest.apply), Json.textMember "focus" manifest.focus])]

/-- A pointer as an object. -/
def ManifestPointer.toJson (pointer : ManifestPointer) : Json :=
  .object [
    Json.textMember "manifest" pointer.manifest,
    Json.textMember "timestamp" pointer.timestamp]

namespace Document

/-- A character as it counts in a member name: in lower case, the long s and the Kelvin sign being
the letters they are forms of.
-/
def foldChar (c : Char) : Char :=
  if c.toNat == 0x17f then 's' else if c.toNat == 0x212a then 'k' else c.toLower

/-- Whether a member name means a field. -/
def names (field : String) (member : Bytes) : Bool :=
  (Utf8.chars member).map foldChar == field.toList

/-- A text field after a member; null leaves it as it is. -/
def text? (current : Bytes) : Json → Option Bytes
  | .null => some current
  | .text s => some s
  | _ => none

/-- A truth field after a member; null leaves it as it is. -/
def bool? (current : Bool) : Json → Option Bool
  | .null => some current
  | .bool b => some b
  | _ => none

/-- A field of a record, under the name that it has in documents. -/
structure ObjectField (α : Type) where
  name : String
  /-- The record after a value for the field. -/
  set : α → Json → Option α

variable {α : Type}

/-- A field for a text. -/
def ObjectField.text (name : String) (get : α → Bytes) (put : α → Bytes → α) : ObjectField α :=
  ⟨name, fun record value => (text? (get record) value).map (put record)⟩

/-- A field for a truth value. -/
def ObjectField.bool (name : String) (get : α → Bool) (put : α → Bool → α) : ObjectField α :=
  ⟨name, fun record value => (bool? (get record) value).map (put record)⟩

/-- A record after a member, which sets the field that its name means, if there is one. -/
def setField (fields : List (ObjectField α)) (record : α) (member : Bytes × Json) : Option α :=
  match fields.find? fun field => names field.name member.1 with
  | some field => field.set record member.2
  | none => some record

/-- A record after the members of an object; null leaves it as it is. -/
def record? (fields : List (ObjectField α)) (current : α) : Json → Option α
  | .null => some current
  | .object members => members.foldlM (setField fields) current
  | _ => none

end Document

open Document

/-- The fields of an entry. -/
def BackupEntry.fields : List (ObjectField BackupEntry) := [
  .text "file" BackupEntry.file fun entry file => { entry with file },
  .text "bak" BackupEntry.backup fun entry backup => { entry with backup }]

/-- A manifest while its members are read. The slots hold the entries of earlier arrays for the
files, also those beyond the end of the latest one, from which the entries of the next one start.
-/
structure ManifestDraft where
  manifest : Manifest := {}
  slots : List BackupEntry := []
  deriving DecidableEq, Repr

/-- The entries of an array, each of which starts from the slot in its place. -/
def ManifestDraft.entriesOf? : (slots : List BackupEntry) → List Json → Option (List BackupEntry)
  | _, [] => some []
  | slots, element :: rest => do
      let entry ← record? BackupEntry.fields (slots.head?.getD {}) element
      return entry :: (← entriesOf? slots.tail rest)

/-- The draft after a member for the files. Null and an empty array clear the slots. -/
def ManifestDraft.setFiles (draft : ManifestDraft) : Json → Option ManifestDraft
  | .null => some { manifest := { draft.manifest with files := none } }
  | .array [] => some { manifest := { draft.manifest with files := some [] } }
  | .array elements =>
      (entriesOf? draft.slots elements).map fun found => {
        manifest := { draft.manifest with files := some found }
        slots := found ++ draft.slots.drop found.length }
  | _ => none

/-- The fields of the run options in a manifest. -/
def Manifest.options : List (ObjectField Manifest) := [
  .bool "apply" Manifest.apply fun manifest apply => { manifest with apply },
  .text "focus" Manifest.focus fun manifest focus => { manifest with focus }]

/-- The draft after a member for the run options. -/
def ManifestDraft.setOptions (draft : ManifestDraft) (value : Json) : Option ManifestDraft :=
  (record? Manifest.options draft.manifest value).map fun manifest => { draft with manifest }

/-- The fields of a manifest. -/
def ManifestDraft.fields : List (ObjectField ManifestDraft) := [
  .text "timestamp" (·.manifest.timestamp) fun draft timestamp =>
    { draft with manifest := { draft.manifest with timestamp } },
  ⟨"files", ManifestDraft.setFiles⟩,
  ⟨"options", ManifestDraft.setOptions⟩]

/-- The manifest that a document describes. Unknown members are ignored, and of two members for one
field the last one counts.
-/
def Manifest.ofJson? (document : Json) : Option Manifest :=
  (record? ManifestDraft.fields {} document).map ManifestDraft.manifest

/-- The fields of a pointer. -/
def ManifestPointer.fields : List (ObjectField ManifestPointer) := [
  .text "manifest" ManifestPointer.manifest fun pointer manifest => { pointer with manifest },
  .text "timestamp" ManifestPointer.timestamp fun pointer timestamp => { pointer with timestamp }]

/-- The pointer that a document describes. -/
def ManifestPointer.ofJson? (document : Json) : Option ManifestPointer :=
  record? ManifestPointer.fields {} document

end FormMigrate
