import FormMigrate.Json.Printer

/-! Reading JSON documents. -/

namespace FormMigrate.Json

/-- The escaped content of a text up to its closing quote, and what follows it. -/
def rawText : Bytes → Option (Bytes × Bytes)
  | [] => none
  | 0x22 :: rest => some ([], rest)
  | [0x5c] => none
  | 0x5c :: c :: rest => (rawText rest).map fun (s, after) => (0x5c :: c :: s, after)
  | c :: rest =>
      if c < 0x20 then none else (rawText rest).map fun (s, after) => (c :: s, after)

/-- The value of a hexadecimal digit. -/
def hexDigit? (c : Char) : Option Nat :=
  if c.toNat < 0x80 && Byte.isHex c.toUInt8 then Byte.digitValue? c.toUInt8 else none

/-- The number that four hexadecimal digits at the front spell. -/
def fourDigits? : List Char → Option Nat
  | a :: b :: c :: d :: _ => do
      return ((← hexDigit? a) * 16 + (← hexDigit? b)) * 256 + (← hexDigit? c) * 16 + (← hexDigit? d)
  | _ => none

/-- The number of an escape by code at the front. -/
def codeUnit? : List Char → Option Nat
  | '\\' :: 'u' :: rest => fourDigits? rest
  | _ => none

/-- The character that two surrogates make up. -/
def pair? (high low : Nat) : Option Char :=
  if 0xd800 ≤ high && high < 0xdc00 && 0xdc00 ≤ low && low < 0xe000 then
    some (Char.ofNat ((high - 0xd800) * 0x400 + (low - 0xdc00) + 0x10000))
  else none

/-- The character that a letter after a backslash stands for. -/
def letterEscape? (c : Char) : Option Char :=
  match c with
  | '"' => some '"'
  | '\\' => some '\\'
  | '/' => some '/'
  | 'b' => some (Char.ofNat 0x08)
  | 'f' => some (Char.ofNat 0x0c)
  | 'n' => some '\n'
  | 'r' => some '\r'
  | 't' => some '\t'
  | _ => none

/-- The characters of escaped content, where so many characters belong to an escape already read.
A surrogate without its partner reads as the replacement character.
-/
def unescapeFrom : (skip : Nat) → List Char → Option (List Char)
  | _, [] => some []
  | skip + 1, _ :: rest => unescapeFrom skip rest
  | 0, c :: rest =>
      if c != '\\' then (unescapeFrom 0 rest).map (c :: ·)
      else
        match rest with
        | [] => none
        | 'u' :: digits => do
            let n ← fourDigits? digits
            if 0xd800 ≤ n && n < 0xe000 then
              match (codeUnit? (digits.drop 4)).bind (pair? n) with
              | some paired => (unescapeFrom 11 rest).map (paired :: ·)
              | none => (unescapeFrom 5 rest).map (Utf8.replacement :: ·)
            else (unescapeFrom 5 rest).map (Char.ofNat n :: ·)
        | letter :: _ => do
            let meant ← letterEscape? letter
            (unescapeFrom 1 rest).map (meant :: ·)

/-- The text that escaped content stands for. -/
def unescape? (raw : Bytes) : Option Bytes :=
  (unescapeFrom 0 (Utf8.chars raw)).map Utf8.encode

/-- The text after an opening quote, and what follows it. -/
def text? (s : Bytes) : Option (Bytes × Bytes) := do
  let (raw, after) ← rawText s
  return (← unescape? raw, after)

/-- At least one digit, and what follows the digits. -/
def digits? (s : Bytes) : Option (Bytes × Bytes) :=
  let span := s.takeWhile Byte.isDigit
  if span.isEmpty then none else some (span, s.dropWhile Byte.isDigit)

/-- The whole part of a number: a lone zero or digits that start with none. -/
def wholePart? : Bytes → Option (Bytes × Bytes)
  | 0x30 :: rest => some ([0x30], rest)
  | s => digits? s

/-- The fraction of a number, if there is one. -/
def fractionPart? : Bytes → Option (Bytes × Bytes)
  | 0x2e :: rest => (digits? rest).map fun (span, after) => (0x2e :: span, after)
  | s => some ([], s)

/-- The exponent of a number, if there is one. -/
def exponentPart? : Bytes → Option (Bytes × Bytes)
  | mark :: rest =>
      if mark.lower == 0x65 then
        match rest with
        | sign :: unsigned =>
            if sign == 0x2b || sign == 0x2d then
              (digits? unsigned).map fun (span, after) => (mark :: sign :: span, after)
            else (digits? rest).map fun (span, after) => (mark :: span, after)
        | [] => none
      else some ([], mark :: rest)
  | [] => some ([], [])

/-- A number and what follows it. -/
def number? (s : Bytes) : Option (Bytes × Bytes) := do
  let (sign, unsigned) : Bytes × Bytes := match s with
    | 0x2d :: rest => ([0x2d], rest)
    | _ => ([], s)
  let (whole, s) ← wholePart? unsigned
  let (fraction, s) ← fractionPart? s
  let (exponent, s) ← exponentPart? s
  return (sign ++ whole ++ fraction ++ exponent, s)

/-- The blanks of the format. -/
def isBlank (c : Byte) : Bool := c == 0x20 || c == 0x09 || c == 0x0a || c == 0x0d

/-- The text after leading blanks. -/
def skipBlank (s : Bytes) : Bytes := s.dropWhile isBlank

/-- What follows a word at the front of a text. -/
def after? (word : String) (s : Bytes) : Option Bytes :=
  let bytes := Bytes.ofString word
  if bytes.isPrefixOf s then some (s.drop bytes.length) else none

mutual

/-- The document at the front of a text, whose arrays and objects nest to a depth at most, and what
follows it. The fuel bounds nesting and length.
-/
def documentFrom : (fuel depth : Nat) → Bytes → Option (Json × Bytes)
  | 0, _, _ => none
  | fuel + 1, depth, s =>
      match skipBlank s with
      | [] => none
      | 0x22 :: rest => (text? rest).map fun (content, after) => (.text content, after)
      | 0x5b :: rest =>
          match depth, skipBlank rest with
          | 0, _ => none
          | _ + 1, 0x5d :: after => some (.array [], after)
          | depth + 1, _ =>
              (elementsFrom fuel depth rest).map fun (found, after) => (.array found, after)
      | 0x7b :: rest =>
          match depth, skipBlank rest with
          | 0, _ => none
          | _ + 1, 0x7d :: after => some (.object [], after)
          | depth + 1, _ =>
              (membersFrom fuel depth rest).map fun (found, after) => (.object found, after)
      | s =>
          match after? "null" s, after? "true" s, after? "false" s with
          | some after, _, _ => some (.null, after)
          | _, some after, _ => some (.bool true, after)
          | _, _, some after => some (.bool false, after)
          | _, _, _ => (number? s).map fun (numeral, after) => (.number numeral, after)

/-- One or more elements up to the closing bracket, and what follows it. -/
def elementsFrom : (fuel depth : Nat) → Bytes → Option (List Json × Bytes)
  | 0, _, _ => none
  | fuel + 1, depth, s =>
      match documentFrom fuel depth s with
      | none => none
      | some (element, after) =>
          match skipBlank after with
          | 0x2c :: rest =>
              (elementsFrom fuel depth rest).map fun (found, after) => (element :: found, after)
          | 0x5d :: rest => some ([element], rest)
          | _ => none

/-- One or more members up to the closing brace, and what follows it. -/
def membersFrom : (fuel depth : Nat) → Bytes → Option (List (Bytes × Json) × Bytes)
  | 0, _, _ => none
  | fuel + 1, depth, s =>
      match skipBlank s with
      | 0x22 :: rest =>
          match text? rest with
          | none => none
          | some (name, after) =>
              match skipBlank after with
              | 0x3a :: rest =>
                  match documentFrom fuel depth rest with
                  | none => none
                  | some (value, after) =>
                      match skipBlank after with
                      | 0x2c :: rest =>
                          (membersFrom fuel depth rest).map fun (found, after) =>
                            ((name, value) :: found, after)
                      | 0x7d :: rest => some ([(name, value)], rest)
                      | _ => none
              | _ => none
      | _ => none

end

/-- How deep arrays and objects may nest. -/
def depthLimit : Nat := 10000

/-- The document that makes up a text, blanks around it aside. -/
def parse? (s : Bytes) : Option Json :=
  match documentFrom (2 * s.length + 2) depthLimit s with
  | some (document, after) => if (skipBlank after).isEmpty then some document else none
  | none => none

end FormMigrate.Json
