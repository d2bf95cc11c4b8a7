import FormMigrate.Text.Utf8

/-! White space of texts: the characters with the White_Space property, and trimming by them. -/

namespace FormMigrate

/-- Characters with the White_Space property. Zero-width spaces are not among them. -/
def isWhiteSpace (c : Char) : Bool :=
  let n := c.toNat
  (0x09 ≤ n && n ≤ 0x0d) || n == 0x20 || n == 0x85 || n == 0xa0 || n == 0x1680
    || (0x2000 ≤ n && n ≤ 0x200a) || n == 0x2028 || n == 0x2029 || n == 0x202f
    || n == 0x205f || n == 0x3000

/-- Units that are white space; a stray byte never is. -/
def Unit8.isWhiteSpace : Unit8 → Bool
  | .char c => FormMigrate.isWhiteSpace c
  | .stray _ => false

namespace Bytes

/-- The text without white space at its two ends. -/
def trim (s : Bytes) : Bytes :=
  let front := (Utf8.units s).dropWhile Unit8.isWhiteSpace
  Utf8.spell (front.reverse.dropWhile Unit8.isWhiteSpace).reverse

/-- The text without any white space. -/
def compact (s : Bytes) : Bytes :=
  Utf8.spell ((Utf8.units s).filter fun u => !u.isWhiteSpace)

end Bytes

end FormMigrate
