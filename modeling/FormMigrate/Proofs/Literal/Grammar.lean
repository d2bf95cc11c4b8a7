import FormMigrate.Literal.Reader

/-! The grammar of static literals: which texts spell which values. Strings, words and arrays are
said without their readers; a numeral is whatever the reader of numerals takes as a whole.
-/

namespace FormMigrate.Literal

--------------------------------------------------------------------------------
-- Tokens
--------------------------------------------------------------------------------

/-- A text of ASCII blanks. -/
def Blank (s : Bytes) : Prop := ∀ c ∈ s, c.isBlank = true

/-- What may stand between two quotes: a backslash takes the byte behind it along, and no other
byte is the delimiter. In double quotes a dollar sign without a backslash starts no variable.
-/
inductive StringBody (delimiter : Byte) : Bytes → Prop
  | nil : StringBody delimiter []
  | plain {c : Byte} {rest : Bytes} (inside : c ≠ delimiter) (bare : c ≠ 0x5c)
    (static : delimiter = 0x22 → c = 0x24 → startsVariable rest = false)
    (behind : StringBody delimiter rest)
    : StringBody delimiter (c :: rest)
  | escaped (c : Byte) {rest : Bytes} (behind : StringBody delimiter rest)
    : StringBody delimiter (0x5c :: c :: rest)

/-- The text that stands in single quotes. -/
def singleContent : Bytes → Bytes
  | [] => []
  | 0x5c :: 0x27 :: rest => 0x27 :: singleContent rest
  | 0x5c :: 0x5c :: rest => 0x5c :: singleContent rest
  | c :: rest => c :: singleContent rest

/-- The text that stands in double quotes, where the given number of bytes belongs to an escape
already decoded.
-/
def doubleContentFrom : (skip : Nat) → Bytes → Bytes
  | _, [] => []
  | skip + 1, _ :: rest => doubleContentFrom skip rest
  | 0, c :: rest =>
      if c == 0x5c then (escape rest).1 ++ doubleContentFrom (escape rest).2 rest
      else c :: doubleContentFrom 0 rest

/-- The text that stands in double quotes. -/
def doubleContent (body : Bytes) : Bytes := doubleContentFrom 0 body

--------------------------------------------------------------------------------
-- Literals
--------------------------------------------------------------------------------

/-- An array entry as it is written: its value, and the key that is given for it, if any. -/
structure Item where
  key : Option Key
  value : Value

end Literal

/-- A value stands for a key. An array and an infinite number stand for none. -/
inductive Value.StandsFor : Value → Key → Prop
  | int (n : Int64) : Value.StandsFor (.int n) (.int n)
  | text (s : Bytes) : Value.StandsFor (.text s) (Key.ofText s)
  | bool (b : Bool) : Value.StandsFor (.bool b) (.int (if b then 1 else 0))
  | null : Value.StandsFor .null (.text [])
  | float (x : Finite64) : Value.StandsFor (.float (.finite x)) (.int (wordOfFinite x))

/-- A value casts to the key that it stands for. -/
theorem Value.standsFor_iff {v : Value} {key : Key} : v.StandsFor key ↔ v.toKey = .ok key := by
  constructor
  · intro stands
    cases stands <;> rfl
  · intro cast
    unfold Value.toKey at cast
    split at cast <;> cases cast
    · exact .int _
    · exact .text _
    · exact .bool _
    · exact .null
    · exact .float _

/-- All values but arrays and infinite numbers stand for keys. -/
theorem Value.exists_standsFor_iff {v : Value}
    : (∃ key, v.StandsFor key)
      ↔ (∀ entries, v ≠ .array entries) ∧ ∀ negative, v ≠ .float (.infinity negative) := by
  constructor
  · intro ⟨key, stands⟩
    cases stands <;> exact ⟨nofun, nofun⟩
  · intro ⟨scalar, finite⟩
    cases v with
    | int n => exact ⟨_, .int n⟩
    | text s => exact ⟨_, .text s⟩
    | bool b => exact ⟨_, .bool b⟩
    | null => exact ⟨_, .null⟩
    | array entries => exact absurd rfl (scalar entries)
    | float x =>
        cases x with
        | finite x => exact ⟨_, .float x⟩
        | infinity negative => exact absurd rfl (finite negative)

/-- Adds an entry under its key, or under the counter when it has none. -/
def Table.add (table : Table) (item : Literal.Item) : Table :=
  match item.key with
  | some key => table.insert key item.value
  | none => table.push item.value

namespace Literal

/-- The array that entries in order make up. -/
def arrayOf (items : List Item) : Value := .array (items.foldl Table.add {}).entries

mutual

/-- A text spells a value. -/
inductive Spells : Bytes → Value → Prop
  | single {body : Bytes} (inside : StringBody 0x27 body)
    : Spells (0x27 :: (body ++ [0x27])) (.text (singleContent body))
  | double {body : Bytes} (inside : StringBody 0x22 body)
    : Spells (0x22 :: (body ++ [0x22])) (.text (doubleContent body))
  | word {s : Bytes} {v : Value} (names : constant? (Bytes.lowerAscii s) = some v) : Spells s v
  | numeral {s : Bytes} {v : Value} (starts : startsNumber s = true) (whole : number s = .ok (v, []))
    : Spells s v
  | brackets {inner : Bytes} {items : List Item} (inside : SpellsItems inner items)
    : Spells (0x5b :: (inner ++ [0x5d])) (arrayOf items)
  | parentheses {word gap inner : Bytes} {items : List Item}
    (names : Bytes.lowerAscii word = Bytes.ofString "array") (blank : Blank gap)
    (inside : SpellsItems inner items)
    : Spells (word ++ (gap ++ 0x28 :: (inner ++ [0x29]))) (arrayOf items)

/-- A text spells one entry of an array: a value, or a value that stands for a key, an arrow and a
value.
-/
inductive SpellsItem : Bytes → Item → Prop
  | positional {front s back : Bytes} {v : Value} (before : Blank front) (spells : Spells s v)
    (after : Blank back)
    : SpellsItem (front ++ (s ++ back)) ⟨none, v⟩
  | keyed {front k gap gap' s back : Bytes} {given v : Value} {key : Key} (before : Blank front)
    (spellsKey : Spells k given) (stands : given.StandsFor key) (between : Blank gap)
    (between' : Blank gap') (spells : Spells s v) (after : Blank back)
    : SpellsItem (front ++ (k ++ (gap ++ 0x3d :: 0x3e :: (gap' ++ (s ++ back))))) ⟨some key, v⟩

/-- A text spells the entries of an array, separated by commas. A comma may follow the last one. -/
inductive SpellsItems : Bytes → List Item → Prop
  | none {gap : Bytes} (blank : Blank gap) : SpellsItems gap []
  | last {s : Bytes} {item : Item} (spells : SpellsItem s item) : SpellsItems s [item]
  | more {s rest : Bytes} {item : Item} {items : List Item} (spells : SpellsItem s item)
    (behind : SpellsItems rest items)
    : SpellsItems (s ++ 0x2c :: rest) (item :: items)

end

/-- A text is a static expression for a value: no code marker is in it, whatever the case of its
letters, and it is a literal with blanks around.
-/
structure Denotes (expr : Bytes) (v : Value) : Prop where
  static : ∀ marker ∈ codeMarkers, Bytes.occursIn marker (Bytes.lower expr) = false
  padded
    : ∃ front s back, Blank front ∧ Spells s v ∧ Blank back ∧ expr = front ++ (s ++ back)

end Literal

end FormMigrate
