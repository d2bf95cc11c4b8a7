import FormMigrate.Number.Numeral
import FormMigrate.Number.Word

/-! Integers as people write them: a sign, a mark for the base, and digits in groups. -/

namespace FormMigrate.Integer

/-- The base that a text announces, the text after the mark and whether digit groups may follow the
mark at once. A leading zero announces octal digits and is one of them.
-/
def base : Bytes → Nat × Bytes × Bool
  | 0x30 :: mark :: c :: rest =>
      if mark.lower == 0x62 then (2, c :: rest, true)
      else if mark.lower == 0x6f then (8, c :: rest, true)
      else if mark.lower == 0x78 then (16, c :: rest, true)
      else (8, 0x30 :: mark :: c :: rest, false)
  | 0x30 :: rest => (8, 0x30 :: rest, false)
  | s => (10, s, false)

/-- Whether every underscore stands between two digits. The flag tells whether a digit, or a mark
that counts as one, stands before the text.
-/
def isGrouped : (afterDigit : Bool) → Bytes → Bool
  | afterDigit, [] => afterDigit
  | afterDigit, c :: rest =>
      if c == 0x5f then afterDigit && isGrouped false rest else isGrouped true rest

/-- The number of an unsigned text. -/
def magnitude (s : Bytes) : Except Numeral.WordError Nat := do
  let (base, digits, marked) := base s
  if digits.isEmpty then .error .malformed
  else
    let value ← Numeral.wordFrom base 0 (digits.filter (· != 0x5f))
    if isGrouped marked digits then .ok value else .error .malformed

/-- The sign of a text and the text after it. -/
def sign : Bytes → Bool × Bytes
  | 0x2d :: rest => (true, rest)
  | 0x2b :: rest => (false, rest)
  | s => (false, s)

/-- The integer of 64 bits that a text spells. -/
def read (s : Bytes) : Except Numeral.WordError Int := do
  let (negative, body) := sign s
  let n ← magnitude body
  let value : Int := if negative then -n else n
  if Word.holds value then .ok value else .error .overflow

end FormMigrate.Integer
