import FormMigrate.Literal.Value
import FormMigrate.Text.Quoted

/-! Why an expression is no static literal. -/

namespace FormMigrate

/-- What stopped the reader. -/
inductive LiteralCause where
  | endOfInput
  | unexpected (c : Byte)
  | trailing (c : Byte)
  | noParenthesis
  | identifier (word : Bytes)
  | noSeparator (closer : Byte)
  | key (error : KeyError)
  | unterminated
  | interpolated
  | malformedNumber (numeral : Bytes)
  deriving DecidableEq, Repr

/-- The wording of a cause. -/
def LiteralCause.message : LiteralCause → Bytes
  | .endOfInput => "unexpected end of input"
  | .unexpected c => "unexpected " ++ Quoted.byte c
  | .trailing c => "unexpected " ++ Quoted.byte c ++ " after literal"
  | .noParenthesis => "expected '(' after array"
  | .identifier word => "identifier " ++ Quoted.text word ++ " is not a literal"
  | .noSeparator closer => "expected ',' or " ++ Quoted.byte closer ++ " in array"
  | .key error => error.message
  | .unterminated => "unterminated string"
  | .interpolated => "interpolated string"
  | .malformedNumber numeral => "malformed number " ++ Quoted.text numeral

/-- A cause together with the text that was still unread when it arose. -/
structure Failure where
  rest : Bytes
  cause : LiteralCause
  deriving DecidableEq, Repr

/-- Why an expression is no static literal: it looks like code, or the reader stopped at an
offset.
-/
inductive LiteralError where
  | code (marker : Bytes)
  | stopped (offset : Nat) (cause : LiteralCause)
  deriving DecidableEq, Repr

/-- The wording of a literal error. -/
def LiteralError.message : LiteralError → Bytes
  | .code marker => "not a static literal: contains " ++ Quoted.text marker
  | .stopped offset cause =>
      "not a static literal: offset " ++ Bytes.ofNat offset ++ ": " ++ cause.message

end FormMigrate
