import FormMigrate.Text.Utf8

/-! Places in the characters of a document, and the blanks, line breaks and comments between its
parts.
-/

namespace FormMigrate.Yaml

/-- Blanks within a line. -/
def isBlank (c : Char) : Bool := c == ' ' || c == '\t'

/-- The line and the paragraph separator, line breaks that stay what they are. -/
def isSeparator (c : Char) : Bool := c.toNat == 0x2028 || c.toNat == 0x2029

/-- Characters that end a line. -/
def isBreak (c : Char) : Bool := c == '\n' || c == '\r' || c.toNat == 0x85 || isSeparator c

/-- Blanks and line breaks. -/
def isGap (c : Char) : Bool := isBlank c || isBreak c

/-- Whether a text is at its end or goes on with a blank or a line break. -/
def atGap (s : List Char) : Bool := s.head?.all isGap

/-- Whether a text is at its end or goes on with a line break. -/
def atBreak (s : List Char) : Bool := s.head?.all isBreak

/-- Letters, digits, underscore and dash, of which names are made. -/
def isWordChar (c : Char) : Bool := c.isAlphanum || c == '_' || c == '-'

/-- Hexadecimal digits. -/
def isHexChar (c : Char) : Bool := c.toNat < 0x80 && Byte.isHex c.toUInt8

/-- The number that hexadecimal digits spell. -/
def hexValue (digits : List Char) : Nat :=
  digits.foldl (fun n c => n * 16 + (Byte.digitValue? c.toUInt8).getD 0) 0

/-- Whether three dashes or dots stand here by themselves, which at the start of a line open or end
a document.
-/
def isMarker : List Char → Bool
  | '-' :: '-' :: '-' :: rest => atGap rest
  | '.' :: '.' :: '.' :: rest => atGap rest
  | _ => false

/-- A place in a text: what follows, and the numbers of the characters before it, of its line and
of its column.
-/
structure Cursor where
  rest : List Char
  index : Nat := 0
  line : Nat := 0
  column : Nat := 0
  deriving DecidableEq, Repr

namespace Cursor

/-- The place some characters later on the same line. -/
def skip (count : Nat) (c : Cursor) : Cursor :=
  { c with rest := c.rest.drop count, index := c.index + count, column := c.column + count }

/-- The place after the characters that have a property, on the same line. -/
def skipWhile (p : Char → Bool) (c : Cursor) : Cursor := c.skip (c.rest.takeWhile p).length

/-- The place at the end of the line. -/
def skipLine (c : Cursor) : Cursor := c.skipWhile fun x => !isBreak x

/-- The place at the start of the next line. A carriage return and a line feed are one break. -/
def skipBreak (c : Cursor) : Cursor :=
  match c.rest with
  | '\r' :: '\n' :: rest => ⟨rest, c.index + 2, c.line + 1, 0⟩
  | _ :: rest => ⟨rest, c.index + 1, c.line + 1, 0⟩
  | [] => c

/-- The text of the line break here. -/
def breakText (c : Cursor) : List Char :=
  match c.rest with
  | x :: _ => if isSeparator x then [x] else if isBreak x then ['\n'] else []
  | [] => []

/-- Whether a line starts here that opens or ends a document. -/
def isAtMarker (c : Cursor) : Bool := c.column == 0 && isMarker c.rest

end Cursor

/-- A run of blanks and line breaks: the blanks before its first break, its breaks, and the place
after it.
-/
structure Gap where
  blanks : List Char := []
  breaks : List Char := []
  after : Cursor
  deriving Repr

namespace Gap

/-- What a run inside a scalar stands for: itself within a line, a blank for one break, and one
break less for several. A separator in front stays.
-/
def text (gap : Gap) : List Char :=
  match gap.breaks with
  | [] => gap.blanks
  | ['\n'] => [' ']
  | '\n' :: more => more
  | breaks => breaks

/-- The run from a place on; the fuel bounds its length. A tab before the least column of a later
line is refused.
-/
def readFrom? (least : Nat) : (fuel : Nat) → (broken : Bool) → Cursor → Option Gap
  | 0, _, c => some { after := c }
  | fuel + 1, broken, c =>
      match c.rest with
      | [] => some { after := c }
      | x :: _ =>
          if isBlank x then
            if broken && c.column < least && x == '\t' then none
            else
              (readFrom? least fuel broken (c.skip 1)).map fun gap =>
                if broken then gap else { gap with blanks := x :: gap.blanks }
          else if isBreak x then
            (readFrom? least fuel true c.skipBreak).map fun gap =>
              { gap with breaks := c.breakText ++ gap.breaks }
          else some { after := c }

/-- The run at a place. -/
def read? (least : Nat) (c : Cursor) : Option Gap :=
  readFrom? least (c.rest.takeWhile isGap).length false c

/-- The run at a place after an escaped line break, where blanks do not count. -/
def readBroken? (c : Cursor) : Option Gap :=
  readFrom? 0 (c.rest.takeWhile isGap).length true c

end Gap

/-- How many characters are searched for a comment. -/
def commentReach : Nat := 512

/-- The gap characters that may stand between comments. -/
def isCommentGap (c : Char) : Bool := isBlank c || c == '\n' || c == '\r'

/-- The place at the end of the last of some comments that follow one another, where tabs may stand
in front of the later ones. The fuel bounds their number.
-/
def skipCommentsFrom : (fuel : Nat) → Cursor → Cursor
  | 0, c => c
  | fuel + 1, c =>
      let last := c.skipLine
      let gap := last.rest.takeWhile isCommentGap
      if !gap.isEmpty && gap.length < commentReach
          && (last.rest.drop gap.length).head? == some '#' then
        match Gap.read? 0 last with
        | some found => skipCommentsFrom fuel found.after
        | none => last
      else last

/-- The place at the end of the comments that start here. -/
def skipComments (c : Cursor) : Cursor := skipCommentsFrom c.rest.length c

/-- The place after a comment on the rest of the line. -/
def skipLineComment (c : Cursor) : Cursor :=
  let after := c.skipWhile isBlank
  if after.rest.head? == some '#' && after.index < c.index + commentReach then after.skipLine else c

/-- Whether a key may start at the next part after a place, and the place of that part. Tabs may
stand between parts only inside brackets and where no key may start, and outside brackets one may
start on every new line. While a byte order mark is in force, the first character of a line does not
count. The fuel bounds the number of lines.
-/
def nextPartFrom (inFlow : Bool) (marked : Nat) : (fuel : Nat) → (allowsKey : Bool) → Cursor
    → Bool × Cursor
  | 0, allowsKey, c => (allowsKey, c)
  | fuel + 1, allowsKey, c =>
      let c := if c.column == 0 && c.index < marked then c.skip 1 else c
      let c := c.skipWhile fun x => x == ' ' || (x == '\t' && (inFlow || !allowsKey))
      let c := if c.rest.head? == some '#' then skipComments c else c
      match c.rest with
      | x :: _ =>
          if isBreak x then nextPartFrom inFlow marked fuel (allowsKey || !inFlow) c.skipBreak
          else (allowsKey, c)
      | [] => (allowsKey, c)

/-- Whether a key may start at the next part after a place, and the place of that part. -/
def nextPart (inFlow : Bool) (marked : Nat) (allowsKey : Bool) (c : Cursor) : Bool × Cursor :=
  nextPartFrom inFlow marked (c.rest.length + 1) allowsKey c

end FormMigrate.Yaml
