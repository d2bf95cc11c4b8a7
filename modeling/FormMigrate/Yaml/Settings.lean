import FormMigrate.Environment
import FormMigrate.Settings
import FormMigrate.Yaml.Meaning

/-! Settings from indented documents. -/

namespace FormMigrate

namespace Expansion

/-- Bytes that are names by themselves. -/
def isSpecial (c : Byte) : Bool :=
  c.isDigit || ("*#$@!?-" : Bytes).contains c

/-- Bytes of other names. -/
def isWordByte (c : Byte) : Bool := c.isLetter || c.isDigit || c == 0x5f

/-- What follows a dollar sign. -/
inductive Reference where
  /-- The value of a name, and what follows it. -/
  | name (n rest : Bytes)
  /-- Nothing, for a malformed reference, and what follows it. -/
  | malformed (rest : Bytes)
  /-- No reference at all. -/
  | absent
  deriving DecidableEq, Repr

/-- The reference after a dollar sign: a name in braces, a special byte or a word. -/
def reference : Bytes → Reference
  | [] => .absent
  | 0x7b :: rest =>
      match Bytes.cut? 0x7d rest with
      | some (n, after) => if n.isEmpty then .malformed after else .name n after
      | none => .malformed rest
  | c :: rest =>
      if isSpecial c then .name [c] rest
      else
        let word := (c :: rest).takeWhile isWordByte
        if word.isEmpty then .absent else .name word ((c :: rest).dropWhile isWordByte)

/-- The text with every reference replaced; the fuel bounds its length. -/
def expandFrom (value : Bytes → Bytes) : (fuel : Nat) → Bytes → Bytes
  | 0, s => s
  | _, [] => []
  | fuel + 1, c :: rest =>
      if c != 0x24 then c :: expandFrom value fuel rest
      else
        match reference rest with
        | .name n after => value n ++ expandFrom value fuel after
        | .malformed after => expandFrom value fuel after
        | .absent => c :: expandFrom value fuel rest

/-- The text with every reference replaced by the value of its name. -/
def expand (value : Bytes → Bytes) (s : Bytes) : Bytes := expandFrom value s.length s

end Expansion

namespace Yaml

/-- The value of a part that is a scalar, perhaps by its name. -/
def Node.value? : Node → Option ScalarValue
  | .scalar s | .alias _ (some (.scalar s)) => s.value?
  | _ => none

/-- A text setting after a member; nothing leaves it as it is. -/
def textSetting? (current : Bytes) (node : Node) : Option Bytes :=
  match node.value? with
  | some .null => some current
  | some (.text s _) => some s
  | none => none

/-- A number setting after a member; nothing leaves it as it is. -/
def numberSetting? (current : Int) (node : Node) : Option Int :=
  match node.value? with
  | some .null => some current
  | some (.text _ whole) => whole
  | none => none

/-- The focus tokens of the elements of a sequence. Elements that mean nothing are left out. -/
def focusTokens? : List Node → Option (List Bytes)
  | [] => some []
  | element :: rest =>
      match element.value?, focusTokens? rest with
      | some .null, found => found
      | some (.text s _), some found => some (s :: found)
      | _, _ => none

/-- The focus tokens after a member; nothing sets none. -/
def focusSetting? : Node → Option (Option (List Bytes))
  | .sequence elements | .alias _ (some (.sequence elements)) => (focusTokens? elements).map some
  | node =>
      match node.value? with
      | some .null => some none
      | _ => none

/-- The settings after a member. Every key has to be a setting. -/
def set? (settings : Settings) (key : Bytes) (node : Node) : Option Settings :=
  if key == Bytes.ofString "views_dir" then
    (textSetting? settings.viewsDir node).map fun s => { settings with viewsDir := s }
  else if key == Bytes.ofString "extension" then
    (textSetting? settings.extension node).map fun s => { settings with extension := s }
  else if key == Bytes.ofString "focus" then
    (focusSetting? node).map fun focus => { settings with focus }
  else if key == Bytes.ofString "backup_suffix" then
    (textSetting? settings.backupSuffix node).map fun s => { settings with backupSuffix := s }
  else if key == Bytes.ofString "manifest_dir" then
    (textSetting? settings.manifestDir node).map fun s => { settings with manifestDir := s }
  else if key == Bytes.ofString "ambiguous_log" then
    (textSetting? settings.ambiguousLog node).map fun s => { settings with ambiguousLog := s }
  else if key == Bytes.ofString "sample_diffs" then
    (numberSetting? settings.sampleDiffs node).map fun n => { settings with sampleDiffs := n }
  else if key == Bytes.ofString "diff_lines" then
    (numberSetting? settings.diffLines node).map fun n => { settings with diffLines := n }
  else none

/-- What two keys of one mapping may not have in common: their kind and their text or name. -/
inductive Label where
  | scalar (text : Bytes)
  | alias (name : Bytes)
  | sequence
  | mapping
  deriving DecidableEq, Repr

/-- The label of a part. -/
def Node.label : Node → Label
  | .scalar s => .scalar s.text
  | .alias name _ => .alias name
  | .sequence _ => .sequence
  | .mapping _ => .mapping

/-- Whether the keys of all members have different labels. -/
def areDistinct : List (Node × Node) → Bool
  | [] => true
  | (key, _) :: rest =>
      !(rest.any fun member => member.1.label == key.label) && areDistinct rest

/-- Whether a key stands for the members of other mappings. -/
def Node.isMerge : Node → Bool
  | .scalar s =>
      s.text == Bytes.ofString "<<"
        && match s.tag with
          | none => s.isPlain
          | some tag => tag == Bytes.ofString "!!merge"
  | _ => false

/-- Settings while the members of mappings are read, with the names that were given. -/
structure Draft where
  settings : Settings := {}
  given : List Bytes := []

/-- The settings after members other than merged ones. A key that means nothing is ignored. Of the
members of a merged mapping those are left out whose names were given before; otherwise no name may
be given twice.
-/
def setAll? (merged : Bool) : (draft : Draft) → List (Node × Node) → Option Draft
  | draft, [] => some draft
  | draft, (key, node) :: rest =>
      if key.isMerge then setAll? merged draft rest
      else
        match key.value? with
        | none => none
        | some .null => setAll? merged draft rest
        | some (.text name _) =>
            if draft.given.contains name then
              if merged then setAll? merged draft rest else none
            else
              match set? draft.settings name node with
              | none => none
              | some settings => setAll? merged ⟨settings, name :: draft.given⟩ rest

/-- The settings after the own members of a mapping, whose keys are distinct. -/
def setOwn? (merged : Bool) (draft : Draft) (members : List (Node × Node)) : Option Draft :=
  if areDistinct members then setAll? merged draft members else none

mutual

/-- The settings after what the members of a mapping merge into it. -/
def mergeMembers? (draft : Draft) : List (Node × Node) → Option Draft
  | [] => some draft
  | (key, node) :: rest =>
      if key.isMerge then mergeNode? true draft node else mergeMembers? draft rest

/-- The settings after what is merged: a mapping, perhaps by its name, or a sequence of mappings. -/
def mergeNode? (several : Bool) (draft : Draft) : Node → Option Draft
  | .mapping members | .alias _ (some (.mapping members)) =>
      match setOwn? true draft members with
      | some draft => mergeMembers? draft members
      | none => none
  | .sequence elements => if several then mergeEach? draft elements else none
  | _ => none

/-- The settings after some merged mappings, the first of which go first. -/
def mergeEach? (draft : Draft) : List Node → Option Draft
  | [] => some draft
  | node :: rest =>
      match mergeNode? false draft node with
      | some draft => mergeEach? draft rest
      | none => none

end

/-- The settings of a document on top of the defaults. -/
def settings? : Node → Option Settings
  | .mapping members =>
      ((setOwn? false {} members).bind fun draft => mergeMembers? draft members).map Draft.settings
  | node =>
      match node.value? with
      | some .null => some {}
      | _ => none

/-- The settings with the references in their texts replaced; the focus tokens stay. -/
def expand (root : Bytes) (environment : Environment) (settings : Settings) : Settings :=
  let value (name : Bytes) : Bytes :=
    if name == Bytes.ofString "root" then root else environment.get name
  { settings with
    viewsDir := Expansion.expand value settings.viewsDir
    extension := Expansion.expand value settings.extension
    backupSuffix := Expansion.expand value settings.backupSuffix
    manifestDir := Expansion.expand value settings.manifestDir
    ambiguousLog := Expansion.expand value settings.ambiguousLog }

/-- The settings of a file on top of the defaults. -/
def load? (root : Bytes) (environment : Environment) (content : Bytes) : Option Settings :=
  ((document? content).bind settings?).map (expand root environment)

end Yaml

end FormMigrate
