import FormMigrate.Number.Decimal
import FormMigrate.Proofs.Number.Digits
import FormMigrate.Proofs.Number.Rounding
import Mathlib

/-! The decimal with the fewest digits reads back: it is a candidate that was checked, and if none
of them reads back, the exact decimal does.
-/

namespace FormMigrate.Decimal

open Binary64

--------------------------------------------------------------------------------
-- Stripping zeros
--------------------------------------------------------------------------------

/-- Moving zeros into the exponent does not change what a decimal reads as. -/
theorem ofDecimal_stripZeros (negative : Bool) (fuel digits : Nat) (exponent : Int)
    : ofDecimal negative (stripZeros fuel digits exponent).digits
        (stripZeros fuel digits exponent).exponent
      = ofDecimal negative digits exponent := by
  fun_induction stripZeros fuel digits exponent with
  | case1 => rfl
  | case2 fuel digits exponent trailing ih =>
      simp only [Bool.and_eq_true, beq_iff_eq, bne_iff_ne] at trailing
      have parts : digits / 10 * 10 = digits := by omega
      have nonzero : digits / 10 ≠ 0 := by omega
      rw [ih, ← ofDecimal_mul_ten negative nonzero, parts]
  | case3 => rfl

theorem ofDecimal_strip (negative : Bool) (d : Decimal)
    : ofDecimal negative d.strip.digits d.strip.exponent
      = ofDecimal negative d.digits d.exponent :=
  ofDecimal_stripZeros negative _ d.digits d.exponent

--------------------------------------------------------------------------------
-- Reading back
--------------------------------------------------------------------------------

theorem readsBack_iff {x : Finite64} {d : Decimal}
    : readsBack x d = true ↔ ofDecimal x.negative d.digits d.exponent = .finite x :=
  beq_iff_eq

theorem readsBack_strip {x : Finite64} {d : Decimal}
    : readsBack x d.strip = true ↔ readsBack x d = true := by
  rw [readsBack_iff, readsBack_iff, ofDecimal_strip]

theorem readsBack_of_neighbour? {x : Finite64} {count : Nat} {d : Decimal}
    (h : neighbour? x count = some d)
    : readsBack x d = true := by
  unfold neighbour? at h
  obtain ⟨digits, -, found⟩ := List.exists_of_findSome?_eq_some h
  rw [Option.ite_none_right_eq_some] at found
  obtain ⟨reads, found⟩ := found
  rw [← Option.some.inj found]
  exact readsBack_strip.mpr reads

/-- A number that is not zero is at least the smallest step and below `2 ^ 1024`. -/
theorem numerator_bounds {x : Finite64} (nonzero : x.significand ≠ 0)
    : 1 ≤ x.numerator ∧ x.numerator < 2 ^ 53 * 2 ^ 2045 := by
  have magnitude : x.numerator = x.significand * 2 ^ x.scale := rfl
  have power : 0 < 2 ^ x.scale := Nat.two_pow_pos x.scale
  have most : 2 ^ x.scale ≤ 2 ^ 2045 := Nat.pow_le_pow_right (by decide) x.scale_le
  rw [magnitude]
  refine ⟨Nat.mul_pos (Nat.pos_of_ne_zero nonzero) power, ?_⟩
  calc x.significand * 2 ^ x.scale
      < 2 ^ 53 * 2 ^ x.scale := (Nat.mul_lt_mul_right power).mpr x.significand_lt
    _ ≤ 2 ^ 53 * 2 ^ 2045 := Nat.mul_le_mul_left _ most

theorem pow_ten (n : Nat) : Nat.pow 10 n = Nat.pow 2 n * Nat.pow 5 n :=
  Nat.mul_pow 2 5 n

/-- All digits of a number read back as it. -/
theorem exact_readsBack {x : Finite64} (nonzero : x.significand ≠ 0)
    : readsBack x (exact x) = true := by
  obtain ⟨least, most⟩ := numerator_bounds nonzero
  have five : 0 < Nat.pow 5 1074 := by decide +kernel
  have positive : x.numerator * Nat.pow 5 1074 ≠ 0 :=
    Nat.mul_ne_zero (Nat.ne_of_gt least) (Nat.ne_of_gt five)
  have above : x.numerator * Nat.pow 5 1074 < Nat.pow 10 1384 :=
    calc x.numerator * Nat.pow 5 1074
        < 2 ^ 53 * 2 ^ 2045 * Nat.pow 5 1074 := (Nat.mul_lt_mul_right five).mpr most
      _ ≤ Nat.pow 10 1384 := by decide +kernel
  have below : Nat.pow 10 743 ≤ x.numerator * Nat.pow 5 1074 :=
    calc Nat.pow 10 743
        ≤ 1 * Nat.pow 5 1074 := by decide +kernel
      _ ≤ x.numerator * Nat.pow 5 1074 := Nat.mul_le_mul_right _ least
  have length : (Nat.toDigits 10 (x.numerator * Nat.pow 5 1074)).length ≤ 1384 :=
    (Nat.length_toDigits_le_iff (by decide) (by decide)).mpr above
  have length' : ¬ (Nat.toDigits 10 (x.numerator * Nat.pow 5 1074)).length ≤ 743 := by
    rw [Nat.length_toDigits_le_iff (by decide) (by decide)]
    exact Nat.not_lt.mpr below
  rw [exact, readsBack_strip, readsBack_iff]
  calc ofDecimal x.negative (x.numerator * Nat.pow 5 1074) (-1074)
      = ofRatio x.negative (x.numerator * Nat.pow 5 1074) (Nat.pow 10 1074) :=
        @ofDecimal_fraction x.negative _ 1073 positive length (by omega)
    _ = ofRatio x.negative (x.numerator * Nat.pow 5 1074) (Finite64.unit * Nat.pow 5 1074) := by
        rw [pow_ten, Finite64.unit]
    _ = ofRatio x.negative x.numerator Finite64.unit := ofRatio_scale _ _ _ five
    _ = .finite x := ofRatio_numerator x

/-- The decimal with the fewest digits reads back. -/
theorem shortest_readsBack {x : Finite64} (nonzero : x.significand ≠ 0)
    : readsBack x (shortest x) = true := by
  rw [shortest, if_neg (by simpa using nonzero)]
  cases found : (List.range 17).findSome? fun count => neighbour? x (count + 1) with
  | none =>
      rw [Option.getD_none]
      exact exact_readsBack nonzero
  | some d =>
      obtain ⟨count, -, candidate⟩ := List.exists_of_findSome?_eq_some found
      rw [Option.getD_some]
      exact readsBack_of_neighbour? candidate

--------------------------------------------------------------------------------
-- What reads back
--------------------------------------------------------------------------------

theorem zero_eq (negative : Bool)
    : zero negative = .finite ⟨negative, 0, 0, by decide, by decide, .inl rfl⟩ :=
  rfl

/-- A decimal that reads back as another number than zero has digits, and its first digit is in
range.
-/
theorem bounds_of_readsBack {x : Finite64} {d : Decimal} (nonzero : x.significand ≠ 0)
    (reads : readsBack x d = true)
    : d.digits ≠ 0 ∧ -330 ≤ d.point ∧ d.point ≤ 310 := by
  have notZero : zero x.negative ≠ .finite x := by
    intro same
    rw [zero_eq, Binary64.finite.injEq] at same
    exact nonzero (congrArg Finite64.significand same).symm
  rw [readsBack_iff] at reads
  unfold ofDecimal at reads
  rw [point, digitText, Bytes.length_ofNat]
  split at reads
  · exact (notZero reads).elim
  · rename_i digits
    dsimp only at reads
    split at reads
    · cases reads
    · split at reads
      · exact (notZero reads).elim
      · exact ⟨by simpa using digits, by omega, by omega⟩

end FormMigrate.Decimal
