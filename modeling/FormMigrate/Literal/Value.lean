import FormMigrate.Number.Decimal
import FormMigrate.Number.Numeral
import FormMigrate.Number.Word

/-! Static values of template code: scalars, and arrays in insertion order. -/

namespace FormMigrate

/-- An array key: a word, or a text that spells no word. -/
inductive Key where
  | int (n : Int64)
  | text (s : Bytes)
  deriving DecidableEq, Repr

/-- A value without code in it. Arrays keep their entries in order of insertion. -/
inductive Value where
  | null
  | bool (b : Bool)
  | int (n : Int64)
  | float (x : Binary64)
  | text (s : Bytes)
  | array (entries : List (Key × Value))
  deriving Repr

/-- The entries of an array in order. -/
abbrev Entries := List (Key × Value)

/-- A key as a value. -/
def Key.value : Key → Value
  | .int n => .int n
  | .text s => .text s

/-- Why a value is no array key. -/
inductive KeyError where
  | infinite (negative : Bool)
  | array
  deriving DecidableEq, Repr

/-- The wording of a key error. -/
def KeyError.message : KeyError → Bytes
  | .infinite negative => "illegal array key " ++ Binary64.shortestText (.infinity negative)
  | .array => "illegal array key of type dict"

/-- The integer as a word, if one holds it. -/
def wordOfInt? (n : Int) : Option Int64 :=
  if Word.holds n then some (Int64.ofInt n) else none

/-- The natural number that a digit text without leading zeros spells. -/
def canonicalNat? : Bytes → Option Nat
  | [] => none
  | c :: rest =>
      if 0x31 ≤ c && c ≤ 0x39 && rest.all Byte.isDigit then some (Numeral.digitsValue (c :: rest))
      else none

/-- The word that a text spells in the one way a word is printed. -/
def canonicalWord? : Bytes → Option Int64
  | [0x30] => some 0
  | 0x2d :: rest => (canonicalNat? rest).bind fun n => wordOfInt? (-(n : Int))
  | s => (canonicalNat? s).bind fun n => wordOfInt? n

/-- The key that a text casts to. -/
def Key.ofText (s : Bytes) : Key :=
  match canonicalWord? s with
  | some n => .int n
  | none => .text s

/-- The word that a finite number casts to: its whole part, or the least word when that is out of
range.
-/
def wordOfFinite (x : Finite64) : Int64 := (wordOfInt? x.truncate).getD (Int64.ofInt Word.least)

/-- The key that a value casts to. -/
def Value.toKey : Value → Except KeyError Key
  | .int n => .ok (.int n)
  | .text s => .ok (Key.ofText s)
  | .bool b => .ok (.int (if b then 1 else 0))
  | .null => .ok (.text [])
  | .float (.finite x) => .ok (.int (wordOfFinite x))
  | .float (.infinity negative) => .error (.infinite negative)
  | .array _ => .error .array

namespace Entries

/-- The value under a key. -/
def get? (entries : Entries) (key : Key) : Option Value :=
  match entries with
  | [] => none
  | (k, v) :: rest => if k = key then some v else get? rest key

/-- Sets the value under a key, in place when the key is present and at the end otherwise. -/
def insert (entries : Entries) (key : Key) (value : Value) : Entries :=
  match entries with
  | [] => [(key, value)]
  | (k, v) :: rest => if k = key then (k, value) :: rest else (k, v) :: insert rest key value

/-- Whether the key that a text casts to is present, be it with a null value. -/
def has (entries : Entries) (name : Bytes) : Bool := (get? entries (Key.ofText name)).isSome

/-- The value under the key that a text casts to, unless it is null. -/
def lookup? (entries : Entries) (name : Bytes) : Option Value :=
  match get? entries (Key.ofText name) with
  | some .null => none
  | found => found

/-- Whether the keys are the words from a number on, in order. -/
def isListFrom : (index : Nat) → Entries → Bool
  | _, [] => true
  | index, (.int n, _) :: rest => n.toInt == index && isListFrom (index + 1) rest
  | _, (.text _, _) :: _ => false

/-- Whether the keys are exactly `0, 1, 2, …` in order. -/
def isList (entries : Entries) : Bool := isListFrom 0 entries

end Entries

/-- An array under construction and the word that the next entry without a key gets. -/
structure Table where
  entries : Entries := []
  next : Int64 := 0

namespace Table

/-- The largest word, after which the counter stands still. -/
def maxWord : Int64 := Int64.ofInt (Word.bound - 1)

/-- Sets the value under a key. A word at or beyond the counter moves the counter behind it. -/
def insert (table : Table) (key : Key) (value : Value) : Table :=
  let next := match key with
    | .int n => if table.next ≤ n && n < maxWord then n + 1 else table.next
    | .text _ => table.next
  ⟨table.entries.insert key value, next⟩

/-- Sets the value under the counter. -/
def push (table : Table) (value : Value) : Table := table.insert (.int table.next) value

/-- Adds an entry again: under its text key, or under the counter in place of a word. -/
def readd (table : Table) : Key × Value → Table
  | (.int _, value) => table.push value
  | (.text s, value) => table.insert (Key.ofText s) value

end Table

/-- The entries with their words renumbered from zero and their texts kept. -/
def Entries.reindex (entries : Entries) : Entries := (entries.foldl Table.readd {}).entries

end FormMigrate
