import FormMigrate.Text.Bytes

/-! Quoted regions of source text, tracked one byte at a time. -/

namespace FormMigrate

/-- Whether a scan stands outside quotes or inside a string with the given delimiter, and there
possibly right after a backslash.
-/
inductive QuoteState where
  | outside
  | inside (delimiter : Byte) (escaped : Bool)
  deriving DecidableEq, Repr

namespace QuoteState

/-- Bytes that open and close a string. -/
def isDelimiter (c : Byte) : Bool := c == 0x27 || c == 0x22

/-- The state after one more byte. -/
def next : QuoteState → Byte → QuoteState
  | .outside, c => if isDelimiter c then .inside c false else .outside
  | .inside d true, _ => .inside d false
  | .inside d false, c =>
      if c == 0x5c then .inside d true else if c == d then .outside else .inside d false

/-- Whether a byte read in a state belongs to a string, its delimiters included, and so has no
meaning as punctuation.
-/
def isInert : QuoteState → Byte → Bool
  | .outside, c => isDelimiter c
  | .inside _ _, _ => true

/-- The state after a text. -/
def after (q : QuoteState) (s : Bytes) : QuoteState := s.foldl next q

end QuoteState

end FormMigrate
