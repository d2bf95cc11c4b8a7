import FormMigrate.Text.Bytes

/-! Bytes written in the 64 letters of the usual alphabet, four letters for three bytes. -/

namespace FormMigrate.Base64

/-- The number of a letter. -/
def letterValue? (c : Byte) : Option Nat :=
  if 0x41 ≤ c && c ≤ 0x5a then some (c.toNat - 0x41)
  else if 0x61 ≤ c && c ≤ 0x7a then some (c.toNat - 0x61 + 26)
  else if c.isDigit then some (c.toNat - 0x30 + 52)
  else if c == 0x2b then some 62
  else if c == 0x2f then some 63
  else none

/-- The number of some letters. -/
def value? (letters : Bytes) : Option Nat :=
  (letters.mapM letterValue?).map fun values => values.foldl (fun n v => n * 64 + v) 0

/-- The lowest bytes of a number, the highest of them first. -/
def bytesOf : (count n : Nat) → Bytes
  | 0, _ => []
  | count + 1, n => bytesOf count (n / 256) ++ [n.toUInt8]

/-- The bytes of groups of four letters. The last group may be padded with one or two equals signs,
and the bits that are left over do not count.
-/
def groups? : Bytes → Option Bytes
  | [] => some []
  | [a, b, 0x3d, 0x3d] => (value? [a, b]).map fun n => bytesOf 1 (n / 16)
  | [a, b, c, 0x3d] => (value? [a, b, c]).map fun n => bytesOf 2 (n / 4)
  | a :: b :: c :: d :: rest =>
      match value? [a, b, c, d], groups? rest with
      | some n, some bytes => some (bytesOf 3 n ++ bytes)
      | _, _ => none
  | _ => none

/-- The bytes that a text spells. Line breaks do not count. -/
def decode? (s : Bytes) : Option Bytes := groups? (s.filter fun c => c != 0x0a && c != 0x0d)

end FormMigrate.Base64
