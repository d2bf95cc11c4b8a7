import FormMigrate.Text.Utf8

/-! Cutting texts: to a number of bytes at a character boundary, and into lines. -/

namespace FormMigrate.Bytes

/-- Whether the last bytes of a text complete a character. The argument is the reversed text. -/
def endsInCharacter (reversed : Bytes) : Bool :=
  [1, 2, 3, 4].any fun size =>
    size ≤ reversed.length &&
      (Utf8.front? (reversed.take size).reverse).any fun (_, width) => width == size

/-- Drops bytes from the end of a reversed text until a character ends it. -/
def dropPartial : Bytes → Bytes
  | [] => []
  | b :: rest => if endsInCharacter (b :: rest) then b :: rest else dropPartial rest

/-- At most a number of bytes of a text. A cut text loses further bytes until it ends in a
complete character.
-/
def clip (s : Bytes) (n : Nat) : Bytes :=
  if s.length ≤ n then s else (dropPartial (s.take n).reverse).reverse

/-- Clipping to a signed length; no text has a negative one. -/
def clip? (s : Bytes) (n : Int) : Option Bytes :=
  if n < 0 then none else some (clip s n.toNat)

/-- The number, from one, of the line that holds an offset. Offsets outside the text count as
its nearest end.
-/
def lineAt (s : Bytes) (pos : Int) : Nat := (s.take pos.toNat).count 0x0a + 1

/-- The lines of a text, which a line feed, a carriage return or the pair of them ends. -/
def lines : Bytes → List Bytes
  | [] => [[]]
  | 0x0d :: 0x0a :: rest => [] :: lines rest
  | c :: rest =>
      if c == 0x0a || c == 0x0d then [] :: lines rest
      else
        match lines rest with
        | [] => [[c]]
        | line :: others => (c :: line) :: others

end FormMigrate.Bytes
