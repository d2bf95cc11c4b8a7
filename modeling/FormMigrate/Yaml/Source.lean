import FormMigrate.Text.Utf8

/-! The characters of a document file. A file is read in blocks, and what no document may contain
spoils the whole block that it ends in and everything after it.
-/

namespace FormMigrate.Yaml

/-- Characters that a document may contain. -/
def isAllowed (c : Char) : Bool :=
  let n := c.toNat
  n == 0x09 || n == 0x0a || n == 0x0d || (0x20 ≤ n && n ≤ 0x7e) || n == 0x85
    || (0xa0 ≤ n && n ≤ 0xfffd) || 0x10000 ≤ n

/-- The byte order mark. -/
def byteOrderMark : Char := Char.ofNat 0xfeff

/-- A piece of a file with the number of its bytes: a character, or bytes that spell none. -/
structure Piece where
  char? : Option Char
  size : Nat
  deriving DecidableEq, Repr

/-- The number of two bytes, the low one first unless asked otherwise. -/
def pair (highFirst : Bool) (a b : Byte) : Nat :=
  if highFirst then a.toNat * 0x100 + b.toNat else b.toNat * 0x100 + a.toNat

/-- The pieces of a text of 16-bit units, up to the first that spells no character. -/
def pieces16 (highFirst : Bool) : Bytes → List Piece
  | [] => []
  | [_] => [⟨none, 1⟩]
  | a :: b :: rest =>
      let high := pair highFirst a b
      if high < 0xd800 || 0xe000 ≤ high then
        ⟨some (Char.ofNat high), 2⟩ :: pieces16 highFirst rest
      else
        match rest with
        | c :: d :: rest =>
            let low := pair highFirst c d
            if high < 0xdc00 && 0xdc00 ≤ low && low < 0xe000 then
              ⟨some (Char.ofNat (0x10000 + (high - 0xd800) * 0x400 + (low - 0xdc00))), 4⟩
                :: pieces16 highFirst rest
            else [⟨none, 2⟩]
        | _ => [⟨none, 2⟩]
termination_by s => s.length

/-- The pieces of a text of bytes. -/
def pieces8 (s : Bytes) : List Piece :=
  (Utf8.units s).map fun
    | .char c => ⟨some c, (String.utf8EncodeChar c).length⟩
    | .stray _ => ⟨none, 1⟩

/-- The size of the mark at the front of a file that tells its encoding, and the pieces after it. -/
def pieces : Bytes → Nat × List Piece
  | 0xff :: 0xfe :: rest => (2, pieces16 false rest)
  | 0xfe :: 0xff :: rest => (2, pieces16 true rest)
  | 0xef :: 0xbb :: 0xbf :: rest => (3, pieces8 rest)
  | s => (0, pieces8 s)

/-- The number of bytes in a block. -/
def blockSize : Nat := 512

/-- The allowed characters of pieces with the block that each of them ends in, from an offset on. -/
def placed : (offset : Nat) → List Piece → List (Option Char × Nat)
  | _, [] => []
  | offset, p :: rest =>
      (p.char?.filter isAllowed, (offset + p.size - 1) / blockSize) :: placed (offset + p.size) rest

/-- The characters of a file. -/
structure Source where
  /-- The characters before the first spoilt block. -/
  chars : List Char
  /-- Whether no block is spoilt. -/
  isWhole : Bool
  /-- The number of characters in the first block, if they start with a byte order mark. -/
  marked : Nat
  deriving DecidableEq, Repr

/-- The characters of a file with the given bytes. A mark that tells the encoding is none of
them.
-/
def Source.ofBytes (s : Bytes) : Source :=
  let (size, found) := pieces s
  let all := placed size found
  let good := match all.find? fun p => p.1.isNone with
    | none => all
    | some (_, block) => all.filter fun p => p.2 < block
  let chars := good.filterMap Prod.fst
  let marked := if chars.head? == some byteOrderMark then (good.filter (·.2 == 0)).length else 0
  ⟨chars, all.all fun p => p.1.isSome, marked⟩

end FormMigrate.Yaml
