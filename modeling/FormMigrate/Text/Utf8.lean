import FormMigrate.Text.Bytes

/-! UTF-8 structure of byte texts: characters where the bytes spell one, stray bytes elsewhere. -/

namespace FormMigrate

/-- A character together with its spelling, or a byte that belongs to no character. -/
inductive Unit8 where
  | char (c : Char)
  | stray (b : Byte)
  deriving DecidableEq, Repr

/-- The bytes a unit stands for. -/
def Unit8.bytes : Unit8 → Bytes
  | .char c => String.utf8EncodeChar c
  | .stray b => [b]

namespace Utf8

/-- The replacement character, which a stray byte is read as. -/
def replacement : Char := Char.ofNat 0xfffd

/-- Bytes that only continue a character. -/
def isContinuation (b : Byte) : Bool := 0x80 ≤ b && b ≤ 0xbf

/-- The low six bits of a continuation byte. -/
def payload (b : Byte) : Nat := b.toNat % 0x40

/-- The character spelled at the front of a text and the number of its bytes. Overlong spellings,
surrogates and values beyond the last code point spell nothing.
-/
def front? : Bytes → Option (Char × Nat)
  | [] => none
  | a :: rest =>
      if a < 0x80 then some (Char.ofNat a.toNat, 1)
      else if a < 0xc2 then none
      else if a < 0xe0 then
        match rest with
        | b :: _ =>
            if isContinuation b then some (Char.ofNat (a.toNat % 0x20 * 0x40 + payload b), 2)
            else none
        | _ => none
      else if a < 0xf0 then
        match rest with
        | b :: c :: _ =>
            let n := a.toNat % 0x10 * 0x1000 + payload b * 0x40 + payload c
            if isContinuation b && isContinuation c && 0x800 ≤ n && !(0xd800 ≤ n && n < 0xe000) then
              some (Char.ofNat n, 3)
            else none
        | _ => none
      else if a < 0xf5 then
        match rest with
        | b :: c :: d :: _ =>
            let n := a.toNat % 0x08 * 0x40000 + payload b * 0x1000 + payload c * 0x40 + payload d
            if isContinuation b && isContinuation c && isContinuation d
                && 0x10000 ≤ n && n < 0x110000 then
              some (Char.ofNat n, 4)
            else none
        | _ => none
      else none

/-- Units from the front on, where the given number of bytes belongs to the unit before. -/
def unitsFrom : (skip : Nat) → Bytes → List Unit8
  | _, [] => []
  | skip + 1, _ :: rest => unitsFrom skip rest
  | 0, b :: rest =>
      match front? (b :: rest) with
      | some (c, size) => .char c :: unitsFrom (size - 1) rest
      | none => .stray b :: unitsFrom 0 rest

/-- The units of a text in order. -/
def units (s : Bytes) : List Unit8 := unitsFrom 0 s

/-- The text that a list of units spells. -/
def spell (us : List Unit8) : Bytes := us.flatMap Unit8.bytes

/-- The characters of a text, each stray byte read as the replacement character. -/
def chars (s : Bytes) : List Char :=
  (units s).map fun
    | .char c => c
    | .stray _ => replacement

/-- The bytes of a list of characters. -/
def encode (cs : List Char) : Bytes := cs.flatMap String.utf8EncodeChar

end Utf8

end FormMigrate
