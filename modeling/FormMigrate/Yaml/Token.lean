import FormMigrate.Yaml.Scalar
import FormMigrate.Yaml.Source
import FormMigrate.Yaml.Tag

/-! Tokens of documents. Indentation opens and closes blocks, and a colon turns what stands before
it into a key, so that a token is settled only when the ones after it are known.
-/

namespace FormMigrate.Yaml

/-- A token. -/
inductive Token where
  | streamEnd
  | directive (d : Directive)
  | documentStart
  | documentEnd
  | sequenceStart
  | mappingStart
  | blockEnd
  | openBracket
  | closeBracket
  | openBrace
  | closeBrace
  | comma
  | dash
  | key
  | value
  | alias (name : Bytes)
  | anchor (name : Bytes)
  | tag (t : Tag)
  | scalar (isPlain : Bool) (text : Bytes)
  deriving DecidableEq, Repr

/-- A part that becomes a key when a colon follows: whether one has to follow, the number of its
first token and its place.
-/
structure PendingKey where
  isRequired : Bool
  number : Nat
  index : Nat
  line : Nat
  column : Nat
  deriving DecidableEq, Repr

/-- How far a key may reach. -/
def keyReach : Nat := 1024

/-- Whether a colon at a place still makes a key: on the same line and not too far away. -/
def PendingKey.reaches (key : PendingKey) (c : Cursor) : Bool :=
  key.line == c.line && c.index ≤ key.index + keyReach

/-- How deep brackets or blocks may be nested. -/
def depthLimit : Nat := 10000

/-- The tokens of a text up to a place. -/
structure Scanner where
  cursor : Cursor
  /-- Whether the text can be read to its end. -/
  isWhole : Bool
  /-- Up to which character a byte order mark is in force. -/
  marked : Nat
  /-- More than the number of tokens before a key is settled. -/
  fuel : Nat
  /-- Whether a key may start here. -/
  allowsKey : Bool := true
  /-- The column of the innermost block, and those of the blocks around it. -/
  indent : Int := -1
  indents : List Int := []
  /-- The key that may be inside the innermost brackets, and those outside of each bracket. -/
  pending : Option PendingKey := none
  outer : List (Option PendingKey) := []
  /-- The tokens that are found and not taken, and the number of those taken. -/
  queue : List Token := []
  taken : Nat := 0

namespace Scanner

/-- The start of a text. -/
def ofSource (source : Source) : Scanner where
  cursor := { rest := source.chars }
  isWhole := source.isWhole
  marked := source.marked
  fuel := source.chars.length + 4

/-- Whether the place is inside brackets. -/
def inFlow (s : Scanner) : Bool := !s.outer.isEmpty

/-- Adds a token. -/
def push (s : Scanner) (token : Token) : Scanner := { s with queue := s.queue ++ [token] }

/-- Adds a token that reaches up to a place. -/
def pushTo (s : Scanner) (token : Token) (after : Cursor) : Scanner :=
  { s.push token with cursor := after }

/-- Adds a token of one character. -/
def pushMark (s : Scanner) (token : Token) : Scanner := s.pushTo token (s.cursor.skip 1)

/-- Adds a token in front of the one with a number. -/
def insert (s : Scanner) (number : Nat) (token : Token) : Scanner :=
  { s with queue := s.queue.insertIdx (number - s.taken) token }

--------------------------------------------------------------------------------
-- Keys and blocks
--------------------------------------------------------------------------------

/-- Gives up the pending key, unless a colon has to follow it. -/
def dropKey? (s : Scanner) : Option Scanner :=
  match s.pending with
  | none => some s
  | some key => if key.isRequired then none else some { s with pending := none }

/-- Takes the part at the place for a key that may be, if one may start there. At the column of the
innermost block nothing else may stand.
-/
def saveKey? (s : Scanner) : Option Scanner :=
  if s.allowsKey then
    (dropKey? s).map fun s =>
      let c := s.cursor
      { s with pending := some {
          isRequired := !s.inFlow && s.indent == c.column
          number := s.taken + s.queue.length
          index := c.index
          line := c.line
          column := c.column } }
  else some s

/-- Opens a block at a column outside of brackets if that is deeper than the innermost one. Its
token goes in front of the one with a number, or last.
-/
def openBlock? (s : Scanner) (column : Nat) (number : Option Nat) (token : Token)
    : Option Scanner :=
  if s.inFlow || column ≤ s.indent then some s
  else if depthLimit ≤ s.indents.length then none
  else
    let deeper := { s with indent := column, indents := s.indent :: s.indents }
    match number with
    | some n => some (deeper.insert n token)
    | none => some (deeper.push token)

/-- Adds the ends of all blocks deeper than a column. -/
def closeBlocksFrom (column : Int) : List Int → Scanner → Scanner
  | [], s => s
  | next :: rest, s =>
      if column < s.indent then
        closeBlocksFrom column rest ({ s with indent := next, indents := rest }.push .blockEnd)
      else s

/-- Ends all blocks deeper than a column, outside of brackets. -/
def closeBlocks (s : Scanner) (column : Int) : Scanner :=
  if s.inFlow then s else closeBlocksFrom column s.indents s

--------------------------------------------------------------------------------
-- Single tokens
--------------------------------------------------------------------------------

/-- Ends the text. -/
def finish? (s : Scanner) : Option Scanner :=
  let c := s.cursor
  let fresh := if c.column == 0 then c else { c with line := c.line + 1, column := 0 }
  (dropKey? ({ s with cursor := fresh }.closeBlocks (-1))).map fun s =>
    { s with allowsKey := false }.push .streamEnd

/-- Takes a directive. -/
def directiveToken? (s : Scanner) : Option Scanner :=
  (dropKey? (s.closeBlocks (-1))).bind fun s =>
    (directive? s.cursor).map fun (found, after) =>
      { s with allowsKey := false }.pushTo (.directive found) after

/-- Takes a marker that opens or ends a document. -/
def markerToken? (s : Scanner) (token : Token) : Option Scanner :=
  (dropKey? (s.closeBlocks (-1))).map fun s =>
    { s with allowsKey := false }.pushTo token (s.cursor.skip 3)

/-- Takes an opening bracket, which may start a key. -/
def openToken? (s : Scanner) (token : Token) : Option Scanner :=
  (saveKey? s).bind fun s =>
    if depthLimit ≤ s.outer.length then none
    else
      some ({ s with outer := s.pending :: s.outer, pending := none, allowsKey := true }.pushMark
        token)

/-- Takes a closing bracket, whether or not one is open. -/
def closeToken? (s : Scanner) (token : Token) : Option Scanner :=
  (dropKey? s).map fun s =>
    let s := match s.outer with
      | [] => s
      | key :: rest => { s with pending := key, outer := rest }
    { s with allowsKey := false }.pushMark token

/-- Takes a comma. -/
def commaToken? (s : Scanner) : Option Scanner :=
  (dropKey? s).map fun s => { s with allowsKey := true }.pushMark .comma

/-- Takes the dash of an element. -/
def dashToken? (s : Scanner) : Option Scanner :=
  if !s.inFlow && !s.allowsKey then none
  else
    ((s.openBlock? s.cursor.column none .sequenceStart).bind dropKey?).map fun s =>
      { s with allowsKey := true }.pushMark .dash

/-- Takes the question mark of a key. -/
def keyToken? (s : Scanner) : Option Scanner :=
  if !s.inFlow && !s.allowsKey then none
  else
    ((s.openBlock? s.cursor.column none .mappingStart).bind dropKey?).map fun s =>
      { s with allowsKey := !s.inFlow }.pushMark .key

/-- Takes the colon of a value whose key stands by itself. -/
def bareValueToken? (s : Scanner) : Option Scanner :=
  if !s.inFlow && !s.allowsKey then none
  else
    (s.openBlock? s.cursor.column none .mappingStart).map fun s =>
      { s with allowsKey := !s.inFlow }.pushMark .value

/-- Takes the colon of a value. What may be a key before it becomes one. -/
def valueToken? (s : Scanner) : Option Scanner :=
  match s.pending with
  | none => s.bareValueToken?
  | some key =>
      if key.reaches s.cursor then
        ((s.insert key.number .key).openBlock? key.column (some key.number) .mappingStart).map
          fun s => { s with pending := none, allowsKey := false }.pushMark .value
      else if key.isRequired then none
      else { s with pending := none }.bareValueToken?

/-- Takes a token that may start a key, with the reader of its text. -/
def startToken? (s : Scanner) (read : Cursor → Option (Token × Cursor)) : Option Scanner :=
  (saveKey? s).bind fun s =>
    (read s.cursor).map fun (token, after) => { s with allowsKey := false }.pushTo token after

/-- Takes a plain scalar, and tells whether it ended on its last line. -/
def plainToken? (s : Scanner) : Option (Scanner × Bool) :=
  (saveKey? s).bind fun s =>
    (plain? s.inFlow (s.indent + 1).toNat s.cursor).map fun found =>
      ({ s with allowsKey := found.isBroken }.pushTo (.scalar true (Utf8.encode found.text))
        found.after, !found.isBroken)

/-- Takes a scalar in a block of lines. -/
def blockToken? (s : Scanner) (folded : Bool) : Option Scanner :=
  (dropKey? s).bind fun s =>
    (blockText? folded s.indent s.cursor).map fun (text, after) =>
      { s with allowsKey := true }.pushTo (.scalar false (Utf8.encode text)) after

/-- Takes the token that starts with a character, and tells whether a comment may follow on its
line.
-/
def partToken? (s : Scanner) (x : Char) (rest : List Char) : Option (Scanner × Bool) :=
  let commented (found : Option Scanner) : Option (Scanner × Bool) := found.map (·, true)
  let uncommented (found : Option Scanner) : Option (Scanner × Bool) := found.map (·, false)
  if x == '[' then commented (s.openToken? .openBracket)
  else if x == '{' then commented (s.openToken? .openBrace)
  else if x == ']' then commented (s.closeToken? .closeBracket)
  else if x == '}' then commented (s.closeToken? .closeBrace)
  else if x == ',' then commented s.commaToken?
  else if x == '-' && atGap rest then uncommented s.dashToken?
  else if x == '?' && (s.inFlow || atGap rest) then commented s.keyToken?
  else if x == ':' && (s.inFlow || atGap rest) then commented s.valueToken?
  else if x == '*' then
    commented (s.startToken? fun c =>
      (anchorName? c).map fun (name, after) => (.alias name, after))
  else if x == '&' then
    commented (s.startToken? fun c =>
      (anchorName? c).map fun (name, after) => (.anchor name, after))
  else if x == '!' then
    commented (s.startToken? fun c => (tag? c).map fun (found, after) => (.tag found, after))
  else if x == '|' && !s.inFlow then uncommented (s.blockToken? false)
  else if x == '>' && !s.inFlow then uncommented (s.blockToken? true)
  else if x == '\'' || x == '"' then
    commented (s.startToken? fun c => (quoted? x c).map fun (text, after) =>
      (.scalar false (Utf8.encode text), after))
  else if startsPlain s.inFlow (x :: rest) then s.plainToken?
  else none

/-- Takes the next token. -/
def fetch? (s : Scanner) : Option Scanner :=
  let (allowsKey, cursor) := nextPart s.inFlow s.marked s.allowsKey s.cursor
  let s := { s with allowsKey, cursor }.closeBlocks cursor.column
  if !s.isWhole && (cursor.rest.drop 3).isEmpty then none
  else
    match cursor.rest with
    | [] => s.finish?
    | x :: rest =>
        if x == '%' && cursor.column == 0 then s.directiveToken?
        else if cursor.isAtMarker then
          s.markerToken? (if x == '-' then .documentStart else .documentEnd)
        else
          (s.partToken? x rest).map fun (s, mayComment) =>
            if mayComment then { s with cursor := skipLineComment s.cursor } else s

--------------------------------------------------------------------------------
-- Taking tokens
--------------------------------------------------------------------------------

/-- The key that the first token may start. -/
def headKey? (s : Scanner) : Option PendingKey :=
  ((s.pending :: s.outer).find? fun key => key.any (·.number == s.taken)).join

/-- Whether the first token may still become part of a key. It fails for one that has to and
cannot.
-/
def headIsOpen? (s : Scanner) : Option Bool :=
  match s.headKey? with
  | none => some false
  | some key =>
      if key.reaches s.cursor then some true else if key.isRequired then none else some false

/-- Finds tokens until the first one is settled and two more are known. -/
def fillFrom? : (fuel : Nat) → Scanner → Option Scanner
  | 0, _ => none
  | fuel + 1, s =>
      match s.queue with
      | _ :: _ :: _ :: _ =>
          match s.headIsOpen? with
          | none => none
          | some false => some s
          | some true => s.fetch?.bind (fillFrom? fuel)
      | _ => s.fetch?.bind (fillFrom? fuel)

/-- The first token, when it is settled. -/
def peek? (s : Scanner) : Option (Token × Scanner) :=
  (fillFrom? s.fuel s).bind fun s => s.queue.head?.map (·, s)

/-- Drops the first token. -/
def drop (s : Scanner) : Scanner := { s with queue := s.queue.tail, taken := s.taken + 1 }

end Scanner

end FormMigrate.Yaml
