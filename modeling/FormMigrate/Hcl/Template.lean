import FormMigrate.Hcl.Syntax
import FormMigrate.Text.Blank
import FormMigrate.Text.Normal

/-! Templates: texts with values and directives among them. -/

namespace FormMigrate.Hcl

/-- A piece of a template in the order it is written. -/
inductive Piece where
  | literal (s : Bytes)
  | value (e : Expr)
  | openIf (condition : Expr)
  | openFor (key : Option Bytes) (value : Bytes) (collection : Expr)
  | otherwise
  | endIf
  | endFor

namespace Template

/-- A text without white space at its front. -/
def trimFront (s : Bytes) : Bytes := Utf8.spell ((Utf8.units s).dropWhile Unit8.isWhiteSpace)

/-- A text without white space at its end. -/
def trimBack (s : Bytes) : Bytes :=
  Utf8.spell ((Utf8.units s).reverse.dropWhile Unit8.isWhiteSpace).reverse

/-- Whether a text ends its line. -/
def endsLine (s : Bytes) : Bool := s.getLast? == some 0x0a

/-- The units of a text as a reader counts them; a carriage return and the line feed after it are
one.
-/
def clusters : List Unit8 → List Bytes
  | .char '\r' :: .char '\n' :: rest => [0x0d, 0x0a] :: clusters rest
  | u :: rest => u.bytes :: clusters rest
  | [] => []

/-- The number of white space characters that indent a line, unless it is blank. -/
def indent? (s : Bytes) : Option Nat :=
  let blank := (Utf8.units s).takeWhile Unit8.isWhiteSpace
  if endsLine s && (Utf8.spell blank).length == s.length then none
  else some (clusters blank).length

/-- The smallest of two indents, of which either may be missing. -/
def leastIndent : Option Nat → Option Nat → Option Nat
  | some a, some b => some (min a b)
  | none, b => b
  | a, none => a

/-- The smallest indent of the lines of a template, given whether a line starts. A line that starts
with anything but text has none.
-/
def indentOf : (starts : Bool) → List Piece → Option Nat
  | _, [] => none
  | starts, .literal s :: rest =>
      leastIndent (if starts then indent? s else none) (indentOf (endsLine s) rest)
  | starts, _ :: rest => leastIndent (if starts then some 0 else none) (indentOf false rest)

/-- The pieces without so many characters at the start of each line that is not blank. -/
def unindent (count : Nat) : (starts : Bool) → List Piece → List Piece
  | _, [] => []
  | starts, .literal s :: rest =>
      let kept :=
        if starts && (indent? s).isSome then ((clusters (Utf8.units s)).drop count).flatten else s
      .literal kept :: unindent count (endsLine s) rest
  | _, piece :: rest => piece :: unindent count false rest

/-- The pieces without the indent that all lines share. -/
def flush (pieces : List Piece) : List Piece :=
  match indentOf true pieces with
  | some count => unindent count true pieces
  | none => pieces

/-- The pieces with neighbouring texts put together. -/
def melded : List Piece → List Piece
  | [] => []
  | .literal s :: rest =>
      match melded rest with
      | .literal t :: rest => .literal (s ++ t) :: rest
      | rest => .literal s :: rest
  | piece :: rest => piece :: melded rest

/-- The expression of parts one after another; text alone is text. -/
def ofParts : List Expr → Expr
  | [] => .text []
  | [.text s] => .text s
  | parts => .template parts

/-- The expressions up to the end or to a directive that belongs to an outer one, and the pieces
from there on. The fuel bounds the number of pieces.
-/
def parts? : (fuel : Nat) → List Piece → Option (List Expr × List Piece)
  | 0, _ => none
  | fuel + 1, pieces =>
      let following (e : Expr) (rest : List Piece) : Option (List Expr × List Piece) :=
        (parts? fuel rest).map fun (es, rest) => (e :: es, rest)
      match pieces with
      | .literal s :: rest => following (.text (Bytes.normal s)) rest
      | .value e :: rest => following e rest
      | .openIf condition :: rest =>
          match parts? fuel rest with
          | some (yes, .endIf :: rest) =>
              following (.choice condition (ofParts yes) (.text [])) rest
          | some (yes, .otherwise :: rest) =>
              match parts? fuel rest with
              | some (no, .endIf :: rest) =>
                  following (.choice condition (ofParts yes) (ofParts no)) rest
              | _ => none
          | _ => none
      | .openFor key value collection :: rest =>
          match parts? fuel rest with
          | some (content, .endFor :: rest) =>
              following (.join (.forTuple key value collection (ofParts content) (.bool true))) rest
          | _ => none
      | _ => some ([], pieces)

/-- The expression of a template. A value alone keeps its type. -/
def expr? (pieces : List Piece) : Option Expr :=
  match melded pieces with
  | [.value e] => some (.group e)
  | pieces =>
      match parts? (pieces.length + 1) pieces with
      | some (parts, []) => some (ofParts parts)
      | _ => none

end Template

end FormMigrate.Hcl
