import FormMigrate.Text.CaseRange
import FormMigrate.Text.Utf8

/-! Case mapping of texts, character by character. -/

namespace FormMigrate

/-- The simple lower case of a character. -/
def lowerChar (c : Char) : Char := Char.ofNat (CaseRange.image lowerRanges c.toNat)

/-- The simple upper case of a character. -/
def upperChar (c : Char) : Char := Char.ofNat (CaseRange.image upperRanges c.toNat)

namespace Bytes

/-- Whether every byte is an ASCII character. -/
def isAscii (s : Bytes) : Bool := s.all (· < 0x80)

/-- The text in lower case. Text beyond ASCII is repaired on the way. -/
def lower (s : Bytes) : Bytes :=
  if isAscii s then s.map Byte.lower else Utf8.encode ((Utf8.chars s).map lowerChar)

/-- The text in upper case. Text beyond ASCII is repaired on the way. -/
def upper (s : Bytes) : Bytes :=
  if isAscii s then s.map Byte.upper else Utf8.encode ((Utf8.chars s).map upperChar)

end Bytes

end FormMigrate
