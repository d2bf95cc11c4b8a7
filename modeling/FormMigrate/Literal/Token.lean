import FormMigrate.Literal.Failure
import FormMigrate.Text.Case

/-! Scalar tokens of literals: quoted texts, numerals and words. Each reader returns what it read
and the text after it.
-/

namespace FormMigrate.Literal

/-- The text after its leading ASCII blanks. -/
def skipBlank (s : Bytes) : Bytes := s.dropWhile Byte.isBlank

/-- The text up to the closing single quote and what follows it. A backslash is dropped before a
quote or a backslash and kept before anything else.
-/
def singleQuoted : Bytes → Option (Bytes × Bytes)
  | [] => none
  | 0x27 :: rest => some ([], rest)
  | 0x5c :: 0x27 :: rest => (singleQuoted rest).map fun (s, after) => (0x27 :: s, after)
  | 0x5c :: 0x5c :: rest => (singleQuoted rest).map fun (s, after) => (0x5c :: s, after)
  | c :: rest => (singleQuoted rest).map fun (s, after) => (c :: s, after)

/-- The byte that a letter after a backslash stands for. -/
def simpleEscape? (c : Byte) : Option Byte :=
  match Char.ofNat c.toNat with
  | 'n' => some 0x0a
  | 't' => some 0x09
  | 'r' => some 0x0d
  | 'v' => some 0x0b
  | 'e' => some 0x1b
  | 'f' => some 0x0c
  | '\\' => some 0x5c
  | '$' => some 0x24
  | '"' => some 0x22
  | _ => none

/-- The value of a digit text in a base, digits outside the base counting as zero. -/
def digitsIn (base : Nat) (s : Bytes) : Nat :=
  s.foldl (fun n c => n * base + c.digitValue?.getD 0) 0

/-- The character that hexadecimal digits in braces name. -/
def namedCharacter? (digits : Bytes) : Option Char :=
  let n := digitsIn 16 digits
  if !digits.isEmpty && digits.all Byte.isHex && n < 0x110000 && !(0xd800 ≤ n && n < 0xe000) then
    some (Char.ofNat n)
  else none

/-- What the text after a backslash stands for, and how many of its bytes take part. When no
escape starts there, the backslash stands for itself.
-/
def escape (s : Bytes) : Bytes × Nat :=
  match s with
  | [] => ([0x5c], 0)
  | c :: rest =>
      match simpleEscape? c with
      | some b => ([b], 1)
      | none =>
          if c.isOctal then
            let digits := (s.take 3).takeWhile Byte.isOctal
            ([(digitsIn 8 digits).toUInt8], digits.length)
          else if c == 0x78 then
            let digits := (rest.take 2).takeWhile Byte.isHex
            if digits.isEmpty then ([0x5c], 0)
            else ([(digitsIn 16 digits).toUInt8], 1 + digits.length)
          else if c == 0x75 then
            match rest with
            | 0x7b :: inBraces =>
                match Bytes.cut? 0x7d inBraces with
                | some (digits, _) =>
                    match namedCharacter? digits with
                    | some named => (String.utf8EncodeChar named, 3 + digits.length)
                    | none => ([0x5c], 0)
                | none => ([0x5c], 0)
            | _ => ([0x5c], 0)
          else ([0x5c], 0)

/-- Whether a variable starts right after a dollar sign. -/
def startsVariable : Bytes → Bool
  | [] => false
  | c :: _ => c.isNameStart || c == 0x7b

/-- The text up to the closing double quote and what follows it, where the given number of bytes
belongs to an escape already read.
-/
def doubleQuotedFrom : (skip : Nat) → Bytes → Except Failure (Bytes × Bytes)
  | _, [] => .error ⟨[], .unterminated⟩
  | skip + 1, _ :: rest => doubleQuotedFrom skip rest
  | 0, c :: rest =>
      if c == 0x22 then .ok ([], rest)
      else if c == 0x24 && startsVariable rest then .error ⟨c :: rest, .interpolated⟩
      else if c == 0x5c then
        let (bytes, used) := escape rest
        (doubleQuotedFrom used rest).map fun (s, after) => (bytes ++ s, after)
      else (doubleQuotedFrom 0 rest).map fun (s, after) => (c :: s, after)

/-- The text up to the closing double quote and what follows it. -/
def doubleQuoted (s : Bytes) : Except Failure (Bytes × Bytes) := doubleQuotedFrom 0 s

/-- A sign, if one stands in front. -/
def sign : Bytes → Bytes × Bytes
  | c :: rest => if c == 0x2d || c == 0x2b then ([c], rest) else ([], c :: rest)
  | [] => ([], [])

/-- The base that a letter after a zero selects. -/
def baseOfMark? (c : Byte) : Option Nat :=
  if c.lower == 0x78 then some 16
  else if c.lower == 0x62 then some 2
  else if c.lower == 0x6f then some 8
  else none

/-- A base mark, if one stands in front: the mark, the base it selects and what follows it. -/
def baseMark : Bytes → Bytes × Nat × Bytes
  | 0x30 :: c :: rest =>
      match baseOfMark? c with
      | some base => ([0x30, c], base, rest)
      | none => ([], 10, 0x30 :: c :: rest)
  | s => ([], 10, s)

/-- The bytes of a decimal numeral, whether they make it a fraction, and what follows. Digits and
underscores always belong to it, one point does before any exponent, and so does every exponent
mark with the sign right after it.
-/
def decimalSpan : (fraction afterMark : Bool) → Bytes → Bytes × Bool × Bytes
  | fraction, _, [] => ([], fraction, [])
  | fraction, afterMark, c :: rest =>
      if c == 0x5f || c.isDigit then
        let (span, isFraction, after) := decimalSpan fraction false rest
        (c :: span, isFraction, after)
      else if c == 0x2e && !fraction then
        let (span, isFraction, after) := decimalSpan true false rest
        (c :: span, isFraction, after)
      else if c.lower == 0x65 then
        let (span, isFraction, after) := decimalSpan true true rest
        (c :: span, isFraction, after)
      else if afterMark && (c == 0x2b || c == 0x2d) then
        let (span, isFraction, after) := decimalSpan fraction false rest
        (c :: span, isFraction, after)
      else ([], fraction, c :: rest)

/-- Bytes that belong to a numeral after a base mark. -/
def inMarkedNumeral (base : Nat) (c : Byte) : Bool :=
  c == 0x5f || c.isDigit || (base == 16 && c.isHex)

/-- A numeral as it stands in the text. -/
structure Numeral where
  sign : Bytes
  mark : Bytes
  base : Nat
  body : Bytes
  isFraction : Bool
  deriving DecidableEq, Repr

/-- The longest numeral at the front of a text and what follows it. -/
def numeralSpan (s : Bytes) : Numeral × Bytes :=
  let (sign, unsigned) := sign s
  let (mark, base, digits) := baseMark unsigned
  if base == 10 then
    let (body, isFraction, after) := decimalSpan false false digits
    (⟨sign, mark, base, body, isFraction⟩, after)
  else
    (⟨sign, mark, base, digits.takeWhile (inMarkedNumeral base), false⟩,
      digits.dropWhile (inMarkedNumeral base))

namespace Numeral

/-- The bytes of a numeral. -/
def text (n : Numeral) : Bytes := n.sign ++ n.mark ++ n.body

/-- The digits of a numeral without underscores. -/
def digits (n : Numeral) : Bytes := n.body.filter (· != 0x5f)

/-- Whether the sign is a minus. -/
def isNegative (n : Numeral) : Bool := n.sign == [0x2d]

/-- The base the digits are read in: a leading zero makes an unmarked whole numeral octal. -/
def readingBase (n : Numeral) : Nat :=
  match n.base, n.digits with
  | 10, 0x30 :: _ :: _ => 8
  | base, _ => base

/-- A magnitude with the sign of the numeral. -/
def signed (n : Numeral) (x : Binary64) : Value := .float (if n.isNegative then x.neg else x)

/-- The value of a fraction, unless its digits are malformed or beyond the largest number. -/
def fractionValue? (n : Numeral) : Option Value :=
  match FormMigrate.Numeral.fraction? n.digits with
  | some (.finite x) => some (n.signed (.finite x))
  | _ => none

/-- The value of a whole numeral. A magnitude that no word holds becomes a number: the nearest one
while 64 bits hold it, beyond that the one its digits spell as a decimal fraction, and zero when
they spell none.
-/
def wholeValue? (n : Numeral) : Option Value :=
  match FormMigrate.Numeral.word n.readingBase n.digits with
  | .ok magnitude =>
      let value : Int := if n.isNegative then -(magnitude : Int) else magnitude
      match wordOfInt? value with
      | some w => some (.int w)
      | none => some (n.signed (Binary64.ofRatio false magnitude 1))
  | .error .overflow =>
      some (n.signed ((FormMigrate.Numeral.fraction? n.digits).getD (Binary64.zero false)))
  | .error .malformed => none

/-- The value of a numeral. -/
def value? (n : Numeral) : Option Value :=
  if n.digits.isEmpty then none
  else if n.isFraction then n.fractionValue?
  else n.wholeValue?

end Numeral

/-- The value of the numeral at the front of a text and what follows it. -/
def number (s : Bytes) : Except Failure (Value × Bytes) :=
  let (numeral, after) := numeralSpan s
  match after with
  | c :: _ =>
      if c.isNamePart then .error ⟨after, .malformedNumber (numeral.text ++ [c])⟩
      else
        match numeral.value? with
        | some v => .ok (v, after)
        | none => .error ⟨after, .malformedNumber numeral.text⟩
  | [] =>
      match numeral.value? with
      | some v => .ok (v, after)
      | none => .error ⟨after, .malformedNumber numeral.text⟩

/-- Whether a numeral starts at the front of a text. -/
def startsNumber : Bytes → Bool
  | [] => false
  | c :: rest =>
      c == 0x2d || c == 0x2b || c.isDigit
        || (c == 0x2e && match rest with
            | d :: _ => d.isDigit
            | [] => false)

/-- The constant that a word names in lower case. -/
def constant? (word : Bytes) : Option Value :=
  if word == Bytes.ofString "true" then some (.bool true)
  else if word == Bytes.ofString "false" then some (.bool false)
  else if word == Bytes.ofString "null" then some .null
  else none

end FormMigrate.Literal
