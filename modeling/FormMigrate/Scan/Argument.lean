import FormMigrate.Scan.Quote
import FormMigrate.Text.Blank

/-! Argument lists: cutting a text at the commas that no bracket and no string holds. -/

namespace FormMigrate.Argument

/-- How a bracket of any family changes the nesting depth. -/
def depthChange (c : Byte) : Int :=
  if c == 0x28 || c == 0x5b || c == 0x7b then 1
  else if c == 0x29 || c == 0x5d || c == 0x7d then -1
  else 0

/-- Puts a byte in front of the first segment. -/
def consHead (c : Byte) : List Bytes → List Bytes
  | [] => [[c]]
  | segment :: others => (c :: segment) :: others

/-- The segments between top-level commas, from a quote state and a depth on. The families share
one depth, which a malformed text may drive below zero.
-/
def segmentsFrom : QuoteState → (depth : Int) → Bytes → List Bytes
  | _, _, [] => [[]]
  | q, depth, c :: rest =>
      if q.isInert c then consHead c (segmentsFrom (q.next c) depth rest)
      else if c == 0x2c && depth == 0 then [] :: segmentsFrom (q.next c) depth rest
      else consHead c (segmentsFrom (q.next c) (depth + depthChange c) rest)

/-- The segments of a text between its top-level commas. -/
def segments (s : Bytes) : List Bytes := segmentsFrom .outside 0 s

/-- Removes the last text when it is empty. -/
def dropBlankLast : List Bytes → List Bytes
  | [] => []
  | [last] => if last.isEmpty then [] else [last]
  | first :: second :: others => first :: dropBlankLast (second :: others)

/-- The trimmed arguments of a call. A blank last one, after a trailing comma, is no argument. -/
def split (s : Bytes) : List Bytes := dropBlankLast ((segments s).map Bytes.trim)

end FormMigrate.Argument
