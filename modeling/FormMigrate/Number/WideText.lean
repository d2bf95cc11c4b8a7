import FormMigrate.Number.Decimal
import FormMigrate.Number.Numeral
import FormMigrate.Number.WideFloat

/-! Decimal text of wide floating-point numbers: reading it, and the fewest digits that read
back.
-/

namespace FormMigrate.WideFloat

/-- The product of two numbers rounded to a precision. -/
def productTo (precision : Nat) : WideFloat → WideFloat → WideFloat
  | .finite x, .finite y =>
      rounded (x.negative != y.negative) (x.mantissa * y.mantissa) (x.exponent + y.exponent)
        precision
  | _, _ => .infinite false

/-- Multiplies a number with the powers of a base whose exponents are the bits of another one. The
base is squared at each step. The fuel bounds the number of bits.
-/
def powerFrom (precision : Nat) : (fuel n : Nat) → (product base : WideFloat) → WideFloat
  | 0, _, product, _ => product
  | fuel + 1, n, product, base =>
      if n == 0 then product
      else
        powerFrom precision fuel (n / 2)
          (if n % 2 == 1 then productTo precision product base else product)
          (productTo (precision + 64) base base)

/-- A power of five to a precision. Up to the exponent 27 it fits a word and is exact. -/
def powerOfFive (precision n : Nat) : WideFloat :=
  let start := min n 27
  powerFrom precision 64 (n - start) (rounded false (Nat.pow 5 start) 0 precision)
    (.finite ⟨false, 5, 0, precision + 64⟩)

/-- The number `± digits · 5 ^ fives · 2 ^ twos` to a precision. -/
def ofScaled (negative : Bool) (digits : Nat) (twos fives : Int) (precision : Nat) : WideFloat :=
  let x : WideFinite := ⟨negative, digits, twos, precision⟩
  match fives with
  | .ofNat 0 => rounded negative digits twos precision
  | .ofNat n =>
      match powerOfFive (precision + 64) n with
      | .finite p => rounded negative (digits * p.mantissa) (twos + p.exponent) precision
      | .infinite _ => .infinite negative
  | .negSucc n =>
      match powerOfFive (precision + 64) (n + 1) with
      | .finite p => quotient x p precision
      | .infinite _ => .finite ⟨negative, 0, 0, precision⟩

/-- The exponent after a number's digits: its base, ten or two, and its value, which fits a word. -/
def exponentPart? : Bytes → Option (Nat × Int)
  | [] => some (10, 0)
  | mark :: rest =>
      let base := if mark.lower == 0x65 then 10 else if mark.lower == 0x70 then 2 else 0
      let (negative, digits) : Bool × Bytes := match rest with
        | 0x2d :: digits => (true, digits)
        | 0x2b :: digits => (false, digits)
        | digits => (false, digits)
      if base == 0 || digits.isEmpty || !digits.all Byte.isDigit then none
      else
        let n : Int := Numeral.digitsValue digits
        let value := if negative then -n else n
        if -9223372036854775808 ≤ value && value < 9223372036854775808 then some (base, value)
        else none

/-- How many bits a number that is read keeps. -/
def readPrecision : Nat := 512

/-- The number that an unsigned text spells: digits with at most one point among them, and an
optional exponent of ten or two. Its power of two has to be in range.
-/
def magnitude? (negative : Bool) (s : Bytes) : Option WideFloat := do
  let whole := s.takeWhile Byte.isDigit
  let (fraction, rest) : Bytes × Bytes := match s.dropWhile Byte.isDigit with
    | 0x2e :: rest => (rest.takeWhile Byte.isDigit, rest.dropWhile Byte.isDigit)
    | rest => ([], rest)
  if whole.isEmpty && fraction.isEmpty then none
  else
    let (base, exponent) ← exponentPart? rest
    let digits := Numeral.digitsValue (whole ++ fraction)
    let fives := (if base == 10 then exponent else 0) - fraction.length
    let twos := exponent - fraction.length
    let top := twos + bitLength digits
    if digits == 0 then some (.finite ⟨negative, 0, 0, readPrecision⟩)
    else if top < -exponentLimit || exponentLimit ≤ top then none
    else some (ofScaled negative digits twos fives readPrecision)

/-- The number that a text spells. -/
def ofText? (s : Bytes) : Option WideFloat :=
  let (negative, body) : Bool × Bytes := match s with
    | 0x2d :: rest => (true, rest)
    | 0x2b :: rest => (false, rest)
    | rest => (false, rest)
  if body == Bytes.ofString "Inf" || body == Bytes.ofString "inf" then some (.infinite negative)
  else magnitude? negative body

/-- The exact decimal of `mantissa · 2 ^ exponent`. -/
def exactDecimal (mantissa : Nat) : (exponent : Int) → Decimal
  | .ofNat n => Decimal.strip ⟨mantissa * Nat.pow 2 n, 0⟩
  | .negSucc n => Decimal.strip ⟨mantissa * Nat.pow 5 (n + 1), -((n + 1 : Nat) : Int)⟩

/-- Which neighbours of cut digits lie between two bounds. -/
inductive Cut where
  | down
  | up
  | nearest
  deriving DecidableEq, Repr

/-- The length at which digits can be cut, and how, so that the result stays between two bounds
given by their digits; bounds count if they are inclusive.
-/
def cutFrom (inclusive : Bool) (lower upper : Bytes)
    : (index : Nat) → (digits : Bytes) → Option (Nat × Cut)
  | _, [] => none
  | index, digit :: rest =>
      let low := (lower[index]?).getD 0x30
      let high := (upper[index]?).getD 0x30
      let down := low != digit || (inclusive && index + 1 == lower.length)
      let up := digit != high
        && (inclusive || digit.toNat + 1 < high.toNat || index + 1 < upper.length)
      if down && up then some (index + 1, .nearest)
      else if down then some (index + 1, .down)
      else if up then some (index + 1, .up)
      else cutFrom inclusive lower upper (index + 1) rest

/-- A decimal cut to so many digits. An exact half goes to the even neighbour. -/
def cutDecimal (d : Decimal) (count : Nat) (how : Cut) : Decimal :=
  let digits := d.digitText
  if digits.length ≤ count then d
  else
    let kept := Numeral.digitsValue (digits.take count)
    let dropped := digits.drop count
    let half := dropped == [0x35]
    let raise := match how with
      | .down => false
      | .up => true
      | .nearest => if half then kept % 2 == 1 else 0x35 ≤ (dropped.head?.getD 0x30)
    Decimal.strip ⟨if raise then kept + 1 else kept, d.exponent + dropped.length⟩

/-- The decimal with the fewest digits that lies between the two halfway points beside a number,
each of which counts if it reads back.
-/
def shortestDecimal (x : WideFinite) : Decimal :=
  let exact := exactDecimal x.mantissa x.exponent
  let shift := x.precision + 1 - bitLength x.mantissa
  let mantissa := x.mantissa * Nat.pow 2 shift
  let exponent := x.exponent - shift
  let lower := exactDecimal (mantissa - 1) exponent
  let upper := exactDecimal (mantissa + 1) exponent
  let inclusive := mantissa / 2 % 2 == 0
  match cutFrom inclusive lower.digitText upper.digitText 0 exact.digitText with
  | some (count, how) => cutDecimal exact count how
  | none => exact

/-- The text of a number without exponent, in the fewest digits that read back. -/
def text : WideFloat → Bytes
  | .infinite negative => if negative then "-Inf" else "+Inf"
  | .finite x =>
      (if x.negative then [0x2d] else [])
        ++ if x.mantissa == 0 then [0x30] else Decimal.positional (shortestDecimal x)

/-- Whether two numbers are the same to a reader of their texts. Zeros are equal whatever their
sign.
-/
def same (a b : WideFloat) : Bool :=
  if a.isZero || b.isZero then a.isZero && b.isZero else a.text == b.text

end FormMigrate.WideFloat
