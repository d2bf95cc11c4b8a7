import FormMigrate.Yaml.Cursor

/-! The texts of scalars: quoted, plain, and in blocks of indented lines. -/

namespace FormMigrate.Yaml

/-- The code point that a letter after a backslash stands for. -/
def letterEscape? (c : Char) : Option Nat :=
  match c with
  | '0' => some 0x00
  | 'a' => some 0x07
  | 'b' => some 0x08
  | 't' | '\t' => some 0x09
  | 'n' => some 0x0a
  | 'v' => some 0x0b
  | 'f' => some 0x0c
  | 'r' => some 0x0d
  | 'e' => some 0x1b
  | ' ' | '"' | '\'' | '\\' => some c.toNat
  | 'N' => some 0x85
  | '_' => some 0xa0
  | 'L' => some 0x2028
  | 'P' => some 0x2029
  | _ => none

/-- The number of digits after a letter that announces a code point. -/
def codeLength? (c : Char) : Option Nat :=
  match c with
  | 'x' => some 2
  | 'u' => some 4
  | 'U' => some 8
  | _ => none

/-- The character that a backslash and the text after it stand for, and the number of characters
after the backslash.
-/
def escape? : List Char → Option (Char × Nat)
  | [] => none
  | c :: rest =>
      match codeLength? c with
      | some count =>
          let digits := rest.take count
          let n := hexValue digits
          if digits.length == count && digits.all isHexChar
              && (n < 0xd800 || (0xe000 ≤ n && n < 0x110000)) then
            some (Char.ofNat n, count + 1)
          else none
      | none => (letterEscape? c).map fun n => (Char.ofNat n, 1)

/-- The text up to a closing quote and the place after it. In double quotes a backslash escapes and
joins lines, in single quotes a doubled quote stands for one. No line in it may open or end a
document. The fuel bounds the length.
-/
def quotedFrom? (quote : Char) : (fuel : Nat) → Cursor → Option (List Char × Cursor)
  | 0, _ => none
  | fuel + 1, c =>
      match c.rest with
      | [] => none
      | x :: rest =>
          if c.isAtMarker then none
          else if x == quote then
            if quote == '\'' && rest.head? == some '\'' then
              (quotedFrom? quote fuel (c.skip 2)).map fun (s, after) => ('\'' :: s, after)
            else some ([], c.skip 1)
          else if quote == '"' && x == '\\' then
            if !rest.isEmpty && atBreak rest then
              match Gap.readBroken? (c.skip 1).skipBreak with
              | none => none
              | some gap =>
                  (quotedFrom? quote fuel gap.after).map fun (s, after) => (gap.breaks ++ s, after)
            else
              match escape? rest with
              | none => none
              | some (meant, count) =>
                  (quotedFrom? quote fuel (c.skip (count + 1))).map fun (s, after) =>
                    (meant :: s, after)
          else if isGap x then
            match Gap.read? 0 c with
            | none => none
            | some gap =>
                (quotedFrom? quote fuel gap.after).map fun (s, after) => (gap.text ++ s, after)
          else (quotedFrom? quote fuel (c.skip 1)).map fun (s, after) => (x :: s, after)

/-- The text from an opening quote to its closing one, and the place after it. -/
def quoted? (quote : Char) (c : Cursor) : Option (List Char × Cursor) :=
  quotedFrom? quote (c.rest.length + 1) (c.skip 1)

/-- Characters that end a plain scalar inside brackets. -/
def isFlowIndicator (c : Char) : Bool :=
  c == ',' || c == '?' || c == '[' || c == ']' || c == '{' || c == '}'

/-- Characters that no plain scalar starts with, unless something else says so. -/
def isIndicator (c : Char) : Bool := "-?:,[]\x7b\x7d#&*!|>'\"%@`".toList.contains c

/-- Whether a plain scalar can start here. -/
def startsPlain (inFlow : Bool) (s : List Char) : Bool :=
  match s with
  | [] => false
  | c :: rest =>
      (!isGap c && !isIndicator c)
        || (c == '-' && !rest.head?.any isBlank)
        || (!inFlow && (c == '?' || c == ':') && !atGap rest)

/-- The characters up to a gap, a colon before a gap, or inside brackets an indicator. -/
def word (inFlow : Bool) : List Char → List Char
  | [] => []
  | c :: rest =>
      if isGap c || (c == ':' && atGap rest) || (inFlow && isFlowIndicator c) then []
      else c :: word inFlow rest

/-- A plain scalar with the place after it and after the gap behind it, and whether that gap has a
line break.
-/
structure Plain where
  text : List Char := []
  after : Cursor
  isBroken : Bool := false
  deriving Repr

/-- The plain scalar at a place that follows a gap. In the block context its later lines have to
reach the least column. The fuel bounds the number of words.
-/
def plainFrom? (inFlow : Bool) (least : Nat) : (fuel : Nat) → (before : Gap) → Option Plain
  | 0, _ => none
  | fuel + 1, before =>
      let c := before.after
      let first := word inFlow c.rest
      if c.isAtMarker || c.rest.head? == some '#' || first.isEmpty then
        some { after := c, isBroken := !before.breaks.isEmpty }
      else
        match Gap.read? least (c.skip first.length) with
        | none => none
        | some gap =>
            let rest := if !inFlow && gap.after.column < least then
                some { after := gap.after, isBroken := !gap.breaks.isEmpty }
              else plainFrom? inFlow least fuel gap
            rest.map fun more => { more with text := before.text ++ first ++ more.text }

/-- The plain scalar at a place. -/
def plain? (inFlow : Bool) (least : Nat) (c : Cursor) : Option Plain :=
  plainFrom? inFlow least (c.rest.length + 1) { after := c }

/-- What becomes of the line breaks at the end of a block. -/
inductive Chomping where
  | strip
  | clip
  | keep
  deriving DecidableEq, Repr

/-- The chomping that a character asks for. -/
def Chomping.ofChar? (c : Char) : Option Chomping :=
  if c == '-' then some .strip else if c == '+' then some .keep else none

/-- The digit from one to nine that a character is. -/
def increment? (c : Char) : Option Nat :=
  if '1' ≤ c && c ≤ '9' then some (c.toNat - 0x30) else none

/-- The chomping and the increment at the front of a text, in either order, and the number of their
characters.
-/
def blockHeader (s : List Char) : Chomping × Option Nat × Nat :=
  let first := s.head?
  let second := s.tail.head?
  match first.bind Chomping.ofChar? with
  | some chomping =>
      match second.bind increment? with
      | some n => (chomping, some n, 2)
      | none => (chomping, none, 1)
  | none =>
      match first.bind increment? with
      | some n =>
          match second.bind Chomping.ofChar? with
          | some chomping => (chomping, some n, 2)
          | none => (.clip, some n, 1)
      | none => (.clip, none, 0)

/-- The line breaks before the next line of a block, the greatest column on the way, and the place
after its indentation. An indentation that is not known yet takes all blanks. The fuel bounds the
number of lines.
-/
def blockBreaksFrom? (indent : Option Nat) : (fuel greatest : Nat) → Cursor
    → Option (List Char × Nat × Cursor)
  | 0, greatest, c => some ([], greatest, c)
  | fuel + 1, greatest, c =>
      let blanks := (c.rest.takeWhile (· == ' ')).length
      let c := c.skip (match indent with
        | some n => min blanks (n - c.column)
        | none => blanks)
      let greatest := max greatest c.column
      match c.rest with
      | x :: _ =>
          if x == '\t' && indent.all (c.column < ·) then none
          else if isBreak x then
            (blockBreaksFrom? indent fuel greatest c.skipBreak).map fun (breaks, found) =>
              (c.breakText ++ breaks, found)
          else some ([], greatest, c)
      | [] => some ([], greatest, c)

/-- The line breaks before the next line of a block, the greatest column on the way, and the place
after its indentation.
-/
def blockBreaks? (indent : Option Nat) (c : Cursor) : Option (List Char × Nat × Cursor) :=
  blockBreaksFrom? indent (c.rest.length + 1) 0 c

/-- The lines of a block from a place at its indentation on. Folded lines are joined by a blank,
except next to lines that start with one. The lines before left a break and empty lines behind them.
The fuel bounds the number of lines.
-/
def blockLines? (folded : Bool) (chomping : Chomping) (indent : Nat)
    : (fuel : Nat) → (afterBlank : Bool) → (last empty : List Char) → Cursor
    → Option (List Char × Cursor)
  | 0, _, _, _, _ => none
  | fuel + 1, afterBlank, last, empty, c =>
      if c.column != indent || c.rest.isEmpty then
        match chomping with
        | .strip => some ([], c)
        | .clip => some (last, c)
        | .keep => some (last ++ empty, c)
      else
        let startsBlank := c.rest.head?.any isBlank
        let joint :=
          if folded && !afterBlank && !startsBlank && last == ['\n'] then
            if empty.isEmpty then [' '] else empty
          else last ++ empty
        let line := c.rest.takeWhile fun x => !isBreak x
        let c := c.skip line.length
        match blockBreaks? (some indent) c.skipBreak with
        | none => none
        | some (breaks, _, next) =>
            (blockLines? folded chomping indent fuel startsBlank c.breakText breaks next).map
              fun (text, after) => (joint ++ line ++ text, after)

/-- The text of a block from its indicator on, and the place after it. A block is indented deeper
than what surrounds it.
-/
def blockText? (folded : Bool) (outer : Int) (c : Cursor) : Option (List Char × Cursor) :=
  let c := c.skip 1
  let (chomping, increment, count) := blockHeader c.rest
  let c := (c.skip count).skipWhile isBlank
  let c := if c.rest.head? == some '#' then c.skipLine else c
  if !atBreak c.rest then none
  else
    let c := c.skipBreak
    let wanted := increment.map fun n => outer.toNat + n
    match blockBreaks? wanted c with
    | none => none
    | some (breaks, greatest, c) =>
        let indent := wanted.getD (max (max greatest (outer + 1).toNat) 1)
        blockLines? folded chomping indent (c.rest.length + 2) false [] breaks c

end FormMigrate.Yaml
