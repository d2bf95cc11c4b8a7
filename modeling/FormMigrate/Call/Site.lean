import FormMigrate.Scan.Argument
import FormMigrate.Scan.Bracket

/-! Call sites of the legacy facade: where a keyword is called, and with which arguments. -/

namespace FormMigrate

/-- The class whose static calls are converted, with the operator that follows it. -/
def facade : Bytes := "Form::"

/-- A matched call: its keyword as the rules spell it and its argument text. -/
structure CallSite where
  keyword : Bytes
  inner : Bytes
  deriving DecidableEq, Repr

/-- The arguments of a call. -/
def CallSite.args (site : CallSite) : List Bytes := Argument.split site.inner

namespace CallSite

/-- Blanks that may stand between a keyword and its parenthesis. -/
def isGap (c : Byte) : Bool := c == 0x20 || c == 0x09 || c == 0x0a || c == 0x0d

/-- How many blanks may stand there. -/
def maxGap : Nat := 16

/-- The number of blanks before a parenthesis, if it follows at most so many of them. -/
def gap? : (limit : Nat) → Bytes → Option Nat
  | _, [] => none
  | 0, c :: _ => if c == 0x28 then some 0 else none
  | limit + 1, c :: rest =>
      if c == 0x28 then some 0 else if isGap c then (gap? limit rest).map (· + 1) else none

/-- The offset of the parenthesis that follows an offset, with few enough blanks between. -/
def opening? (text : Bytes) (start : Nat) : Option Nat :=
  (gap? maxGap (text.drop start)).map (start + ·)

end CallSite

end FormMigrate
