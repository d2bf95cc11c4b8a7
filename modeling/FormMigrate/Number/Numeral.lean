import FormMigrate.Number.Binary64
import FormMigrate.Text.Bytes

/-! Reading numerals: words in a base and decimal fractions with an exponent. -/

namespace FormMigrate.Numeral

/-- Why a digit text is no word. -/
inductive WordError where
  | malformed
  | overflow
  deriving DecidableEq, Repr

/-- The number of words of 64 bits, `2 ^ 64`. -/
abbrev wordCount : Nat := 18446744073709551616

/-- Continues reading a word. The first fault decides: a digit outside the base, or a value that no
word of 64 bits holds.
-/
def wordFrom (base : Nat) : (value : Nat) → Bytes → Except WordError Nat
  | value, [] => .ok value
  | value, c :: rest =>
      match c.digitValue? with
      | none => .error .malformed
      | some d =>
          if base ≤ d then .error .malformed
          else if wordCount ≤ value * base + d then .error .overflow
          else wordFrom base (value * base + d) rest

/-- The word that a non-empty digit text spells in a base. -/
def word (base : Nat) (s : Bytes) : Except WordError Nat :=
  if s.isEmpty then .error .malformed else wordFrom base 0 s

/-- The value of a text of decimal digits. -/
def digitsValue (s : Bytes) : Nat := s.foldl (fun n c => n * 10 + (c.toNat - 0x30)) 0

/-- The value of exponent digits, which stops growing once it has five digits. -/
def exponentValue (s : Bytes) : Nat :=
  s.foldl (fun n c => if n < 10000 then n * 10 + (c.toNat - 0x30) else n) 0

/-- The exponent part of a fraction: nothing, or a mark, an optional sign and digits. -/
def exponentPart? : Bytes → Option Int
  | [] => some 0
  | mark :: rest =>
      if mark.lower == 0x65 then
        let (negative, digits) := match rest with
          | 0x2d :: digits => (true, digits)
          | 0x2b :: digits => (false, digits)
          | digits => (false, digits)
        if digits.isEmpty || !digits.all Byte.isDigit then none
        else some (if negative then -(exponentValue digits : Int) else exponentValue digits)
      else none

/-- The number nearest to an unsigned decimal fraction: digits with at most one point among them,
at least one digit, and an optional exponent.
-/
def fraction? (s : Bytes) : Option Binary64 := do
  let whole := s.takeWhile Byte.isDigit
  let afterWhole := s.dropWhile Byte.isDigit
  let (part, afterPart) := match afterWhole with
    | 0x2e :: rest => (rest.takeWhile Byte.isDigit, rest.dropWhile Byte.isDigit)
    | rest => ([], rest)
  if whole.isEmpty && part.isEmpty then none
  else
    let exponent ← exponentPart? afterPart
    some (Binary64.ofDecimal false (digitsValue (whole ++ part)) (exponent - part.length))

end FormMigrate.Numeral
