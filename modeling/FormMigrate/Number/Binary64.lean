/-! Binary64 numbers as exact data: a sign, a significand and a scale, or an infinity. -/

namespace FormMigrate

/-- The first natural number beyond all significands, `2 ^ 53`. -/
abbrev Finite64.significandBound : Nat := 9007199254740992

/-- The least significand of a number whose scale could not be smaller, `2 ^ 52`. -/
abbrev Finite64.normalBound : Nat := 4503599627370496

/-- The number of smallest steps that make up one, `2 ^ 1074`. -/
def Finite64.unit : Nat := Nat.pow 2 1074

/-- A finite binary64 number, read as `± significand · 2 ^ scale / 2 ^ 1074`. The bounds make the
representation unique, so equality of data is equality of numbers and of signs of zero.
-/
structure Finite64 where
  negative : Bool
  significand : Nat
  scale : Nat
  significand_lt : significand < Finite64.significandBound
  scale_le : scale ≤ 2045
  normal : scale = 0 ∨ Finite64.normalBound ≤ significand
  deriving DecidableEq, Repr

/-- A binary64 number that is not an invalid result. -/
inductive Binary64 where
  | finite (x : Finite64)
  | infinity (negative : Bool)
  deriving DecidableEq, Repr

namespace Binary64

/-- The number with a significand and a scale; beyond the largest scale it is infinite. -/
def ofParts (negative : Bool) (significand scale : Nat) : Binary64 :=
  if h : significand < Finite64.significandBound ∧ scale ≤ 2045
      ∧ (scale = 0 ∨ Finite64.normalBound ≤ significand) then
    .finite ⟨negative, significand, scale, h.1, h.2.1, h.2.2⟩
  else .infinity negative

/-- Zero with a sign. -/
def zero (negative : Bool) : Binary64 := ofParts negative 0 0

/-- The number of opposite sign. -/
def neg : Binary64 → Binary64
  | .finite x => .finite { x with negative := !x.negative }
  | .infinity negative => .infinity !negative

/-- A quotient rounded to the nearest natural number, a half going to the even neighbour. -/
def roundDiv (num den : Nat) : Nat :=
  let floor := num / den
  let rest := num % den
  if 2 * rest < den then floor
  else if den < 2 * rest then floor + 1
  else if floor % 2 == 0 then floor else floor + 1

/-- The binary64 number nearest to a quotient, ties going to the even significand. -/
def ofRatio (negative : Bool) (num den : Nat) : Binary64 :=
  let scaled := num * Finite64.unit
  let scale := (scaled / den).log2 + 1 - 53
  let significand := roundDiv scaled (den * Nat.pow 2 scale)
  if significand == Finite64.significandBound then
    ofParts negative Finite64.normalBound (scale + 1)
  else ofParts negative significand scale

/-- The binary64 number nearest to `digits · 10 ^ exponent`. Exponents far outside the range are
decided by the position of the first digit alone.
-/
def ofDecimal (negative : Bool) (digits : Nat) (exponent : Int) : Binary64 :=
  if digits == 0 then zero negative
  else
    let point := (Nat.toDigits 10 digits).length + exponent
    if 310 < point then .infinity negative
    else if point < -330 then zero negative
    else
      match exponent with
      | .ofNat e => ofRatio negative (digits * Nat.pow 10 e) 1
      | .negSucc e => ofRatio negative digits (Nat.pow 10 (e + 1))

end Binary64

namespace Finite64

/-- The numerator of the magnitude over `2 ^ 1074`. -/
def numerator (x : Finite64) : Nat := x.significand * Nat.pow 2 x.scale

/-- The magnitude without its fraction. -/
def wholePart (x : Finite64) : Nat := x.numerator / unit

/-- Whether the number has no fraction. -/
def isWhole (x : Finite64) : Bool := x.numerator % unit == 0

/-- The number without its fraction. -/
def truncate (x : Finite64) : Int := if x.negative then -(x.wholePart : Int) else x.wholePart

end Finite64

end FormMigrate
