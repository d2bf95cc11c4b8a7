import FormMigrate.Number.Binary64
import FormMigrate.Text.Bytes

/-! Decimal text of binary64 numbers: fewest digits that read back, digits to a precision, and the
choice between positional and exponent form.
-/

namespace FormMigrate

/-- The decimal fraction `digits · 10 ^ exponent`. -/
structure Decimal where
  digits : Nat
  exponent : Int
  deriving DecidableEq, Repr

namespace Decimal

/-- The decimal digits, most significant first. -/
def digitText (d : Decimal) : Bytes := Bytes.ofNat d.digits

/-- The power of ten of the place before the first digit. -/
def point (d : Decimal) : Int := d.digitText.length + d.exponent

/-- Moves trailing zeros of the digits into the exponent; the fuel bounds their number. -/
def stripZeros : (fuel digits : Nat) → (exponent : Int) → Decimal
  | 0, digits, exponent => ⟨digits, exponent⟩
  | fuel + 1, digits, exponent =>
      if digits % 10 == 0 && digits != 0 then stripZeros fuel (digits / 10) (exponent + 1)
      else ⟨digits, exponent⟩

/-- The same decimal without trailing zeros. -/
def strip (d : Decimal) : Decimal := stripZeros d.digitText.length d.digits d.exponent

/-- The power of ten of the place before the first digit of a positive number. -/
def pointOf (x : Finite64) : Int :=
  (Bytes.ofNat (x.numerator * Nat.pow 10 330 / Finite64.unit)).length - 330

/-- The magnitude as a quotient after moving the point so that `count` digits stand before it. -/
def shifted (x : Finite64) (count : Nat) : Nat × Nat :=
  match (count : Int) - pointOf x with
  | .ofNat up => (x.numerator * Nat.pow 10 up, Finite64.unit)
  | .negSucc down => (x.numerator, Finite64.unit * Nat.pow 10 (down + 1))

/-- The magnitude with every one of its digits. -/
def exact (x : Finite64) : Decimal := strip ⟨x.numerator * Nat.pow 5 1074, -1074⟩

/-- The magnitude rounded to a number of digits, a half going to the even neighbour. -/
def rounded (x : Finite64) (count : Nat) : Decimal :=
  let (num, den) := shifted x count
  strip ⟨Binary64.roundDiv num den, pointOf x - count⟩

/-- Whether a decimal reads back as a number. -/
def readsBack (x : Finite64) (d : Decimal) : Bool :=
  Binary64.ofDecimal x.negative d.digits d.exponent == .finite x

/-- The two whole numbers beside a quotient, the nearer one first. -/
def neighbours (num den : Nat) : List Nat :=
  let nearest := Binary64.roundDiv num den
  [nearest, if nearest == num / den then num / den + 1 else num / den]

/-- A decimal of at most a number of digits that reads back: the nearer neighbour if it does,
else the other one.
-/
def neighbour? (x : Finite64) (count : Nat) : Option Decimal :=
  let quotient := shifted x count
  let exponent := pointOf x - count
  (neighbours quotient.1 quotient.2).findSome? fun digits =>
    if readsBack x ⟨digits, exponent⟩ then some (strip ⟨digits, exponent⟩) else none

/-- The decimal with the fewest digits that reads back as a number. -/
def shortest (x : Finite64) : Decimal :=
  if x.significand == 0 then ⟨0, 0⟩
  else
    ((List.range 17).findSome? fun count => neighbour? x (count + 1)).getD (exact x)

/-- Where exponent form starts, and the letter that marks an exponent. -/
structure Layout where
  exponentFrom : Int
  mark : Byte

/-- An exponent with its sign and at least two digits. -/
def exponentText (mark : Byte) (e : Int) : Bytes :=
  let digits := Bytes.ofNat e.natAbs
  mark :: (if e < 0 then 0x2d else 0x2b) :: (if digits.length < 2 then 0x30 :: digits else digits)

/-- Exponent form, with one digit before the point. -/
def scientific (mark : Byte) (d : Decimal) : Bytes :=
  let fraction := d.digitText.drop 1
  d.digitText.take 1 ++ (if fraction.isEmpty then [] else 0x2e :: fraction)
    ++ exponentText mark (d.point - 1)

/-- Positional form. -/
def positional (d : Decimal) : Bytes :=
  match d.point with
  | .ofNat 0 => "0." ++ d.digitText
  | .ofNat whole =>
      let digits := d.digitText
      if digits.length ≤ whole then digits ++ List.replicate (whole - digits.length) 0x30
      else digits.take whole ++ 0x2e :: digits.drop whole
  | .negSucc zeros => Bytes.ofString "0." ++ List.replicate (zeros + 1) 0x30 ++ d.digitText

/-- A magnitude in the form that the exponent of its first digit selects. -/
def render (layout : Layout) (d : Decimal) : Bytes :=
  if d.digits == 0 then "0"
  else if d.point - 1 < -4 || layout.exponentFrom ≤ d.point - 1 then scientific layout.mark d
  else positional d

end Decimal

namespace Binary64

/-- The text of a number from its digits; infinities always carry their sign. -/
def textWith (layout : Decimal.Layout) (digits : Finite64 → Decimal) : Binary64 → Bytes
  | .finite x => (if x.negative then "-" else "") ++ Decimal.render layout (digits x)
  | .infinity true => "-Inf"
  | .infinity false => "+Inf"

/-- The fewest digits that read back, exponents from a million on marked by `e`. -/
def shortestText : Binary64 → Bytes := textWith ⟨6, 0x65⟩ Decimal.shortest

/-- At most fourteen digits, exponents from the fifteenth place on marked by `E`. -/
def preciseText : Binary64 → Bytes :=
  textWith ⟨14, 0x45⟩ fun x => if x.significand == 0 then ⟨0, 0⟩ else Decimal.rounded x 14

end Binary64

end FormMigrate
