import FormMigrate.Number.Binary64

/-! Rounding quotients and decimals to binary64: a common factor and trailing zeros do not matter,
signs pass through, and every number is the one nearest to its own magnitude.
-/

namespace FormMigrate.Binary64

--------------------------------------------------------------------------------
-- Quotients
--------------------------------------------------------------------------------

/-- A common factor does not matter to a rounded quotient. -/
theorem roundDiv_scale (num den : Nat) {factor : Nat} (positive : 0 < factor)
    : roundDiv (num * factor) (den * factor) = roundDiv num den := by
  have floor : num * factor / (den * factor) = num / den := Nat.mul_div_mul_right num den positive
  have rest : num * factor % (den * factor) = num % den * factor :=
    Nat.mul_mod_mul_right factor num den
  have below : 2 * (num % den * factor) < den * factor ↔ 2 * (num % den) < den := by
    rw [← Nat.mul_assoc]
    exact Nat.mul_lt_mul_right positive
  have above : den * factor < 2 * (num % den * factor) ↔ den < 2 * (num % den) := by
    rw [← Nat.mul_assoc]
    exact Nat.mul_lt_mul_right positive
  simp only [roundDiv, floor, rest, below, above]

/-- A common factor does not matter to the nearest number. -/
theorem ofRatio_scale (negative : Bool) (num den : Nat) {factor : Nat} (positive : 0 < factor)
    : ofRatio negative (num * factor) (den * factor) = ofRatio negative num den := by
  have scaled : num * factor * Finite64.unit = num * Finite64.unit * factor := Nat.mul_right_comm ..
  have floor : num * Finite64.unit * factor / (den * factor) = num * Finite64.unit / den :=
    Nat.mul_div_mul_right _ den positive
  have bound (scale : Nat) : den * factor * Nat.pow 2 scale = den * Nat.pow 2 scale * factor :=
    Nat.mul_right_comm ..
  simp only [ofRatio, scaled, floor, bound, roundDiv_scale _ _ positive]

--------------------------------------------------------------------------------
-- Signs
--------------------------------------------------------------------------------

theorem ofParts_true (significand scale : Nat)
    : ofParts true significand scale = (ofParts false significand scale).neg := by
  unfold ofParts
  split <;> rfl

theorem ofRatio_true (num den : Nat) : ofRatio true num den = (ofRatio false num den).neg := by
  simp only [ofRatio, ofParts_true]
  split <;> rfl

/-- The opposite decimal reads as the opposite number. -/
theorem ofDecimal_true (digits : Nat) (exponent : Int)
    : ofDecimal true digits exponent = (ofDecimal false digits exponent).neg := by
  simp only [ofDecimal, ofRatio_true, zero, ofParts_true]
  split
  · rfl
  · split
    · rfl
    · split
      · rfl
      · split <;> rfl

--------------------------------------------------------------------------------
-- Trailing zeros
--------------------------------------------------------------------------------

/-- Ten times a number is written with one more digit. -/
theorem toDigits_mul_ten {n : Nat} (nonzero : n ≠ 0)
    : Nat.toDigits 10 (n * 10) = Nat.toDigits 10 n ++ ['0'] := by
  have appended :=
    Nat.toDigits_append_toDigits (b := 10) (d := 0) (by decide) (Nat.pos_of_ne_zero nonzero)
      (by decide)
  rw [Nat.add_zero, Nat.mul_comm] at appended
  exact appended.symm

/-- Inside the range of exponents, a decimal fraction reads as the quotient that it is. -/
theorem ofDecimal_fraction (negative : Bool) {digits places : Nat} (nonzero : digits ≠ 0)
    (most : (Nat.toDigits 10 digits).length ≤ 310 + (places + 1))
    (least : places + 1 ≤ (Nat.toDigits 10 digits).length + 330)
    : ofDecimal negative digits (.negSucc places)
      = ofRatio negative digits (Nat.pow 10 (places + 1)) := by
  have point : ((Nat.toDigits 10 digits).length : Int) + .negSucc places
      = (Nat.toDigits 10 digits).length - (places + 1) := by
    rw [Int.negSucc_eq, Int.sub_eq_add_neg]
  simp only [ofDecimal, point, beq_eq_false_iff_ne.mpr nonzero, Bool.false_eq_true, ↓reduceIte]
  rw [if_neg (by omega), if_neg (by omega)]

/-- A zero behind the digits may be counted in the exponent. -/
theorem ofDecimal_mul_ten (negative : Bool) {digits : Nat} (nonzero : digits ≠ 0) (exponent : Int)
    : ofDecimal negative (digits * 10) exponent = ofDecimal negative digits (exponent + 1) := by
  have point : ((Nat.toDigits 10 (digits * 10)).length : Int) + exponent
      = (Nat.toDigits 10 digits).length + (exponent + 1) := by
    rw [toDigits_mul_ten nonzero, List.length_append, List.length_singleton]
    omega
  have nonzero' : digits * 10 ≠ 0 := by omega
  simp only [ofDecimal, point, beq_eq_false_iff_ne.mpr nonzero, beq_eq_false_iff_ne.mpr nonzero',
    Bool.false_eq_true, ↓reduceIte]
  split
  · rfl
  · split
    · rfl
    · match exponent with
      | .ofNat e =>
          have shift : digits * 10 * Nat.pow 10 e = digits * Nat.pow 10 (e + 1) := by
            rw [Nat.mul_assoc, Nat.mul_comm 10]
            rfl
          show ofRatio negative (digits * 10 * Nat.pow 10 e) 1
            = ofRatio negative (digits * Nat.pow 10 (e + 1)) 1
          rw [shift]
      | .negSucc 0 =>
          show ofRatio negative (digits * 10) (1 * 10) = ofRatio negative (digits * 1) 1
          rw [ofRatio_scale negative digits 1 (by decide), Nat.mul_one]
      | .negSucc (e + 1) =>
          show ofRatio negative (digits * 10) (Nat.pow 10 (e + 1) * 10)
            = ofRatio negative digits (Nat.pow 10 (e + 1))
          exact ofRatio_scale negative digits _ (by decide)

/-- Zeros behind the digits may be counted in the exponent. -/
theorem ofDecimal_mul_pow (negative : Bool) {digits : Nat} (nonzero : digits ≠ 0) (zeros : Nat)
    (exponent : Int)
    : ofDecimal negative (digits * Nat.pow 10 zeros) exponent
      = ofDecimal negative digits (exponent + zeros) := by
  induction zeros generalizing exponent with
  | zero => simp
  | succ zeros ih =>
      have shifted : digits * Nat.pow 10 zeros ≠ 0 := Nat.mul_ne_zero nonzero (by simp)
      have power : Nat.pow 10 (zeros + 1) = Nat.pow 10 zeros * 10 := rfl
      rw [power, ← Nat.mul_assoc, ofDecimal_mul_ten negative shifted, ih]
      congr 1
      omega

--------------------------------------------------------------------------------
-- Numbers are nearest to themselves
--------------------------------------------------------------------------------

theorem roundDiv_one (n : Nat) : roundDiv n 1 = n := by
  simp [roundDiv, Nat.mod_one]

/-- The scale of a number is the number of its bits beyond the fifty-third. -/
theorem scale_eq (x : Finite64) : x.numerator.log2 + 1 - 53 = x.scale := by
  have magnitude : x.numerator = x.significand * 2 ^ x.scale := rfl
  rcases x.normal with least | normal
  · have small : x.numerator.log2 < 53 := by
      rw [magnitude, least, Nat.pow_zero, Nat.mul_one]
      by_cases zero : x.significand = 0
      · rw [zero]
        decide
      · exact (Nat.log2_lt zero).mpr x.significand_lt
    omega
  · have power : 0 < 2 ^ x.scale := Nat.two_pow_pos x.scale
    have nonzero : x.numerator ≠ 0 := by
      rw [magnitude]
      exact Nat.mul_ne_zero (Nat.ne_of_gt (Nat.lt_of_lt_of_le (by decide) normal))
        (Nat.ne_of_gt power)
    have bits : x.numerator.log2 = 52 + x.scale := by
      rw [Nat.log2_eq_iff nonzero, magnitude, Nat.add_right_comm, Nat.pow_add, Nat.pow_add]
      exact ⟨Nat.mul_le_mul_right _ normal, (Nat.mul_lt_mul_right power).mpr x.significand_lt⟩
    omega

/-- A number is the one nearest to its own magnitude. -/
theorem ofRatio_numerator (x : Finite64)
    : ofRatio x.negative x.numerator Finite64.unit = .finite x := by
  have unit : 0 < Finite64.unit := by decide +kernel
  have power : 0 < Nat.pow 2 x.scale := Nat.two_pow_pos x.scale
  have significand
      : roundDiv (x.numerator * Finite64.unit) (Finite64.unit * Nat.pow 2 x.scale)
        = x.significand := by
    have parts : x.numerator * Finite64.unit
        = x.significand * (Finite64.unit * Nat.pow 2 x.scale) := by
      rw [Finite64.numerator, Nat.mul_assoc, Nat.mul_comm (Nat.pow 2 x.scale)]
    have whole := roundDiv_scale x.significand 1 (Nat.mul_pos unit power)
    rwa [Nat.one_mul, ← parts, roundDiv_one] at whole
  have below : x.significand ≠ Finite64.significandBound := Nat.ne_of_lt x.significand_lt
  simp only [ofRatio, Nat.mul_div_cancel _ unit, scale_eq, significand,
    beq_eq_false_iff_ne.mpr below, Bool.false_eq_true, ↓reduceIte, ofParts]
  rw [dif_pos ⟨x.significand_lt, x.scale_le, x.normal⟩]

end FormMigrate.Binary64
