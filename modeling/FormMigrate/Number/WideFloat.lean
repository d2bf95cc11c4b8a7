/-! Binary floating-point numbers of any precision, rounded to the nearest with ties to even. -/

namespace FormMigrate

/-- A number `± mantissa · 2 ^ exponent` that results are rounded to so many bits for. Zero keeps
its sign.
-/
structure WideFinite where
  negative : Bool
  mantissa : Nat
  exponent : Int
  precision : Nat
  deriving DecidableEq, Repr

/-- A floating-point number. -/
inductive WideFloat where
  | finite (x : WideFinite)
  | infinite (negative : Bool)
  deriving DecidableEq, Repr

namespace WideFloat

/-- The number of binary digits of a natural number. -/
def bitLength (n : Nat) : Nat := if n == 0 then 0 else Nat.log2 n + 1

/-- A mantissa without so many of its low bits, rounded to the nearest with ties to even. -/
def dropBits (mantissa count : Nat) : Nat :=
  let unit := Nat.pow 2 count
  let quotient := mantissa / unit
  let rest := mantissa % unit
  if unit < 2 * rest || (unit == 2 * rest && quotient % 2 == 1) then quotient + 1 else quotient

/-- The bound of the power of two above a number. -/
def exponentLimit : Int := 2147483648

/-- The number `± mantissa · 2 ^ exponent` rounded to a precision. Past the largest exponent it is
infinite, and past the smallest one zero.
-/
def rounded (negative : Bool) (mantissa : Nat) (exponent : Int) (precision : Nat) : WideFloat :=
  let excess := bitLength mantissa - precision
  let kept := if excess == 0 then mantissa else dropBits mantissa excess
  let exponent := exponent + excess
  let top := exponent + bitLength kept
  if kept == 0 || top < -exponentLimit then .finite ⟨negative, 0, 0, precision⟩
  else if exponentLimit ≤ top then .infinite negative
  else .finite ⟨negative, kept, exponent, precision⟩

/-- A whole number as it counts places. -/
def ofNat (n : Nat) : WideFloat := .finite ⟨false, n, 0, 64⟩

/-- Whether a number has a minus sign. -/
def isNegative : WideFloat → Bool
  | .finite x => x.negative
  | .infinite negative => negative

/-- Whether a number is zero. -/
def isZero : WideFloat → Bool
  | .finite x => x.mantissa == 0
  | .infinite _ => false

/-- The number with the other sign. -/
def negate : WideFloat → WideFloat
  | .finite x => .finite { x with negative := !x.negative }
  | .infinite negative => .infinite !negative

/-- The power of two just above the magnitude of a number. -/
def top (x : WideFinite) : Int := x.exponent + bitLength x.mantissa

/-- The mantissa of a number at an exponent. What the exponent cuts off leaves a last bit. -/
def scaledTo (exponent : Int) (x : WideFinite) : Nat :=
  match x.exponent - exponent with
  | .ofNat up => x.mantissa * Nat.pow 2 up
  | .negSucc down =>
      if x.mantissa == 0 then 0
      else if bitLength x.mantissa ≤ down then 1
      else
        let kept := x.mantissa / Nat.pow 2 (down + 1)
        if x.mantissa % Nat.pow 2 (down + 1) == 0 then kept else 2 * (kept / 2) + 1

/-- The signed mantissa of a number at an exponent. -/
def signedAt (exponent : Int) (x : WideFinite) : Int :=
  if x.negative then -(scaledTo exponent x : Int) else scaledTo exponent x

/-- An exponent at which both numbers show all bits that a rounded sum of theirs depends on. -/
def commonExponent (x y : WideFinite) : Int :=
  if x.mantissa == 0 then y.exponent
  else if y.mantissa == 0 then x.exponent
  else
    max (min x.exponent y.exponent)
      (max (top x) (top y) - 2 * (max x.precision y.precision : Nat) - 64)

/-- Whether a number is below another one. -/
def less : WideFloat → WideFloat → Bool
  | .infinite a, .infinite b => a && !b
  | .infinite a, .finite _ => a
  | .finite _, .infinite b => !b
  | .finite x, .finite y => signedAt (commonExponent x y) x < signedAt (commonExponent x y) y

/-- The sum of two numbers; opposite infinities have none. A sum of opposite numbers is a zero
without sign, and two zeros keep a sign that they share.
-/
def add? : WideFloat → WideFloat → Option WideFloat
  | .infinite a, .infinite b => if a == b then some (.infinite a) else none
  | .infinite a, .finite _ | .finite _, .infinite a => some (.infinite a)
  | .finite x, .finite y =>
      let precision := max x.precision y.precision
      let exponent := commonExponent x y
      let sum := signedAt exponent x + signedAt exponent y
      some (
        if sum == 0 then
          .finite ⟨x.mantissa == 0 && y.mantissa == 0 && x.negative && y.negative, 0, 0, precision⟩
        else rounded (sum < 0) sum.natAbs exponent precision)

/-- The difference of two numbers. -/
def subtract? (a b : WideFloat) : Option WideFloat := add? a b.negate

/-- The product of two numbers; zero and an infinity have none. -/
def multiply? : WideFloat → WideFloat → Option WideFloat
  | .infinite a, .infinite b => some (.infinite (a != b))
  | .infinite a, .finite x | .finite x, .infinite a =>
      if x.mantissa == 0 then none else some (.infinite (a != x.negative))
  | .finite x, .finite y =>
      some (rounded (x.negative != y.negative) (x.mantissa * y.mantissa) (x.exponent + y.exponent)
        (max x.precision y.precision))

/-- The quotient of two numbers of which neither is zero. Enough bits are computed for one rounding,
and a last bit says whether anything follows them.
-/
def quotient (x y : WideFinite) (precision : Nat) : WideFloat :=
  let shift := precision + 2 + bitLength y.mantissa - bitLength x.mantissa
  let numerator := x.mantissa * Nat.pow 2 shift
  let digits := 2 * (numerator / y.mantissa) + if numerator % y.mantissa == 0 then 0 else 1
  rounded (x.negative != y.negative) digits (x.exponent - y.exponent - shift - 1) precision

/-- The quotient of two numbers; two zeros and two infinities have none. -/
def divide? : WideFloat → WideFloat → Option WideFloat
  | .infinite _, .infinite _ => none
  | .infinite a, .finite y => some (.infinite (a != y.negative))
  | .finite x, .infinite b => some (.finite ⟨x.negative != b, 0, 0, x.precision⟩)
  | .finite x, .finite y =>
      let negative := x.negative != y.negative
      let precision := max x.precision y.precision
      if y.mantissa == 0 then if x.mantissa == 0 then none else some (.infinite negative)
      else if x.mantissa == 0 then some (.finite ⟨negative, 0, 0, precision⟩)
      else some (quotient x y precision)

/-- The magnitude of a number without its fraction. -/
def wholePart (x : WideFinite) : WideFinite :=
  match x.exponent with
  | .ofNat _ => x
  | .negSucc down =>
      let kept := if bitLength x.mantissa ≤ down then 0 else x.mantissa / Nat.pow 2 (down + 1)
      { x with negative := x.negative && kept != 0, mantissa := kept, exponent := 0 }

/-- The remainder of a division that rounds towards zero. A number divided by zero is its own
remainder.
-/
def modulo? (a b : WideFloat) : Option WideFloat :=
  if b.isZero then some a
  else
    match divide? a b with
    | some (.finite q) => (multiply? b (.finite (wholePart q))).bind (subtract? a)
    | _ => none

/-- The whole number that a number is, if it has at most so many bits. -/
def toInt? (bits : Nat) : WideFloat → Option Int
  | .infinite _ => none
  | .finite x =>
      let whole := wholePart x
      if (bits : Int) < top whole
          || (x.exponent < 0 && scaledTo x.exponent whole != x.mantissa) then none
      else
        let magnitude := scaledTo 0 whole
        some (if x.negative then -(magnitude : Int) else magnitude)

end WideFloat

end FormMigrate
