import FormMigrate.Text.Printable
import FormMigrate.Text.Utf8

/-! Quoted text in diagnostics: printable characters stand for themselves, all else is escaped. -/

namespace FormMigrate.Quoted

/-- The escape letter of a control character that has one. -/
def controlLetter? (n : Nat) : Option Char :=
  match n with
  | 0x07 => some 'a'
  | 0x08 => some 'b'
  | 0x0c => some 'f'
  | 0x0a => some 'n'
  | 0x0d => some 'r'
  | 0x09 => some 't'
  | 0x0b => some 'v'
  | _ => none

/-- A character inside the given quotes. -/
def character (quote c : Char) : Bytes :=
  if c == quote || c == '\\' then 0x5c :: String.utf8EncodeChar c
  else if isPrintable c then String.utf8EncodeChar c
  else
    match controlLetter? c.toNat with
    | some letter => [0x5c, letter.toUInt8]
    | none =>
        if c.toNat < 0x20 || c.toNat == 0x7f then "\\x" ++ Bytes.hex 2 c.toNat
        else if c.toNat < 0x10000 then "\\u" ++ Bytes.hex 4 c.toNat
        else "\\U" ++ Bytes.hex 8 c.toNat

/-- A unit inside double quotes; a stray byte is always escaped. -/
def unit : Unit8 → Bytes
  | .char c => character '"' c
  | .stray b => "\\x" ++ Bytes.hex 2 b.toNat

/-- A text in double quotes. -/
def text (s : Bytes) : Bytes := 0x22 :: (Utf8.units s).flatMap unit ++ [0x22]

/-- The character whose code point is a byte's value, in single quotes. -/
def byte (b : Byte) : Bytes := 0x27 :: character '\'' (Char.ofNat b.toNat) ++ [0x27]

end FormMigrate.Quoted
