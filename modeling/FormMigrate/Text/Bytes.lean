/-! Byte texts. Every offset, length and comparison of the migration is about bytes. -/

namespace FormMigrate

/-- One byte of a text. -/
abbrev Byte := UInt8

/-- A text as the list of its bytes. Nothing is assumed about its encoding. -/
abbrev Bytes := List Byte

namespace Byte

/-- Decimal digits. -/
def isDigit (c : Byte) : Bool := 0x30 ≤ c && c ≤ 0x39

/-- Octal digits. -/
def isOctal (c : Byte) : Bool := 0x30 ≤ c && c ≤ 0x37

/-- Hexadecimal digits of either case. -/
def isHex (c : Byte) : Bool :=
  c.isDigit || (0x61 ≤ c && c ≤ 0x66) || (0x41 ≤ c && c ≤ 0x46)

/-- ASCII letters of either case. -/
def isLetter (c : Byte) : Bool := (0x61 ≤ c && c ≤ 0x7a) || (0x41 ≤ c && c ≤ 0x5a)

/-- Bytes that may start a name: a letter, an underscore, or any byte beyond ASCII. -/
def isNameStart (c : Byte) : Bool := c == 0x5f || c.isLetter || 0x80 ≤ c

/-- Bytes that may continue a name. -/
def isNamePart (c : Byte) : Bool := c.isNameStart || c.isDigit

/-- The six ASCII blanks: space, tab, line feed, carriage return, vertical tab, form feed. -/
def isBlank (c : Byte) : Bool :=
  c == 0x20 || c == 0x09 || c == 0x0a || c == 0x0d || c == 0x0b || c == 0x0c

/-- The ASCII lower case of a byte; every other byte is itself. -/
def lower (c : Byte) : Byte := if 0x41 ≤ c && c ≤ 0x5a then c + 0x20 else c

/-- The ASCII upper case of a byte; every other byte is itself. -/
def upper (c : Byte) : Byte := if 0x61 ≤ c && c ≤ 0x7a then c - 0x20 else c

/-- The value of a digit in any base up to 36, letters counting from ten. -/
def digitValue? (c : Byte) : Option Nat :=
  if c.isDigit then some (c.toNat - 0x30)
  else if c.isLetter then some (c.lower.toNat - 0x61 + 10)
  else none

end Byte

namespace Bytes

/-- The UTF-8 bytes of a string. -/
def ofString (s : String) : Bytes := s.toByteArray.data.toList

instance : Coe String Bytes := ⟨ofString⟩

/-- Whether a text occurs in another one. -/
def occursIn (needle : Bytes) : Bytes → Bool
  | [] => needle.isEmpty
  | c :: rest => needle.isPrefixOf (c :: rest) || occursIn needle rest

/-- Whether a text ends with another one. -/
def endsWith (s ending : Bytes) : Bool := ending.isSuffixOf s

/-- What stands before the first occurrence of a byte and what follows it. -/
def cut? (sep : Byte) : Bytes → Option (Bytes × Bytes)
  | [] => none
  | c :: rest =>
      if c == sep then some ([], rest)
      else (cut? sep rest).map fun (before, after) => (c :: before, after)

/-- Every piece between two occurrences of a byte; there is always at least one. -/
def split (sep : Byte) (s : Bytes) : List Bytes := s.splitOn sep

/-- The texts one after another with a separator between neighbours. -/
def join (sep : Bytes) (parts : List Bytes) : Bytes := List.intercalate sep parts

/-- The text with ASCII letters in lower case. -/
def lowerAscii (s : Bytes) : Bytes := s.map Byte.lower

/-- Equality up to the case of ASCII letters. -/
def sameFold (a b : Bytes) : Bool := lowerAscii a == lowerAscii b

/-- Whether a text starts with another one up to the case of ASCII letters. -/
def startsWithFold : (opening s : Bytes) → Bool
  | [], _ => true
  | _ :: _, [] => false
  | a :: opening, b :: s => a.lower == b.lower && startsWithFold opening s

/-- The offset of the first occurrence of a text up to the case of ASCII letters. -/
def indexFold? (needle : Bytes) : Bytes → Option Nat
  | [] => if needle.isEmpty then some 0 else none
  | c :: rest =>
      if startsWithFold needle (c :: rest) then some 0
      else (indexFold? needle rest).map (· + 1)

/-- A text is no longer than what it starts. -/
theorem startsWithFold_length_le {opening s : Bytes} (h : startsWithFold opening s = true)
    : opening.length ≤ s.length := by
  induction opening generalizing s with
  | nil => simp
  | cons a opening ih =>
      cases s with
      | nil => simp [startsWithFold] at h
      | cons b s =>
          simp only [startsWithFold, Bool.and_eq_true] at h
          simpa using ih h.2

/-- An occurrence ends inside the text. -/
theorem indexFold?_add_length_le {needle s : Bytes} {pos : Nat}
    (h : indexFold? needle s = some pos)
    : pos + needle.length ≤ s.length := by
  induction s generalizing pos with
  | nil =>
      simp only [indexFold?, Option.ite_none_right_eq_some, Option.some.injEq,
        List.isEmpty_iff] at h
      simp [h.1, ← h.2]
  | cons c rest ih =>
      simp only [indexFold?] at h
      split at h
      · rename_i starts
        cases h
        simpa using startsWithFold_length_le starts
      · obtain ⟨k, found, rfl⟩ := Option.map_eq_some_iff.mp h
        have := ih found
        simp only [List.length_cons]
        omega

/-- The text without the given bytes at its front. -/
def trimFront (drop : Byte → Bool) (s : Bytes) : Bytes := s.dropWhile drop

/-- The text without the given bytes at its end. -/
def trimBack (drop : Byte → Bool) (s : Bytes) : Bytes := (s.reverse.dropWhile drop).reverse

/-- The decimal digits of a natural number. -/
def ofNat (n : Nat) : Bytes := (Nat.toDigits 10 n).map Char.toUInt8

/-- The decimal text of an integer, with a minus sign when it is negative. -/
def ofInt : Int → Bytes
  | .ofNat n => ofNat n
  | .negSucc n => 0x2d :: ofNat (n + 1)

/-- Lower-case hexadecimal digits, padded with zeros to a width. -/
def hex (width n : Nat) : Bytes :=
  let digits := (Nat.toDigits 16 n).map Char.toUInt8
  List.replicate (width - digits.length) 0x30 ++ digits

/-- The byte order of texts, a shorter text before its extensions. -/
def le : Bytes → Bytes → Bool
  | [], _ => true
  | _ :: _, [] => false
  | a :: s, b :: t => a < b || (a == b && le s t)

/-- The texts in increasing byte order. -/
def sort (texts : List Bytes) : List Bytes := texts.mergeSort le

end Bytes

end FormMigrate
