import FormMigrate.Proofs.Number.Digits
import FormMigrate.Proofs.Number.Rounding
import Mathlib.Data.List.TakeWhile

/-! Digits of any base: what digit texts are worth there, how far they are read as a word, and that
the nearest number to a whole one does not depend on how it was spelled.
-/

namespace FormMigrate

namespace Numeral

/-- Digits of a base, letters counting from ten. -/
def isDigitIn (base : Nat) (c : Byte) : Bool := c.digitValue?.any fun d => decide (d < base)

/-- The value of digits of a base behind digits of a value. -/
def valueFrom (base n : Nat) (s : Bytes) : Nat :=
  s.foldl (fun n c => n * base + c.digitValue?.getD 0) n

theorem valueFrom_cons (base n : Nat) (c : Byte) (s : Bytes)
    : valueFrom base n (c :: s) = valueFrom base (n * base + c.digitValue?.getD 0) s :=
  List.foldl_cons ..

/-- A digit has a value below its base. -/
theorem digitValue?_of_isDigitIn {base : Nat} {c : Byte} (digit : isDigitIn base c = true)
    : ∃ d, c.digitValue? = some d ∧ d < base := by
  cases value : c.digitValue? with
  | none => simp [isDigitIn, value] at digit
  | some d => exact ⟨d, rfl, by simpa [isDigitIn, value] using digit⟩

theorem le_valueFrom {base : Nat} {s : Bytes} (each : ∀ c ∈ s, isDigitIn base c = true) (n : Nat)
    : n ≤ valueFrom base n s := by
  induction s generalizing n with
  | nil => exact Nat.le_refl n
  | cons c rest ih =>
      rw [List.forall_mem_cons] at each
      obtain ⟨d, -, below⟩ := digitValue?_of_isDigitIn each.1
      have positive : 0 < base := Nat.lt_of_le_of_lt (Nat.zero_le d) below
      rw [valueFrom_cons]
      calc n
          ≤ n * base := Nat.le_mul_of_pos_right n positive
        _ ≤ n * base + c.digitValue?.getD 0 := Nat.le_add_right _ _
        _ ≤ valueFrom base (n * base + c.digitValue?.getD 0) rest := ih each.2 _

/-- A word is read up to the end of its digits, unless 64 bits hold it no more: then what follows
the digits does not matter.
Witness: induction on the digits, whose value never falls.
-/
theorem wordFrom_append {base : Nat} {digits : Bytes}
    (each : ∀ c ∈ digits, isDigitIn base c = true) {n : Nat} (small : n < wordCount) (rest : Bytes)
    : wordFrom base n (digits ++ rest)
      = if valueFrom base n digits < wordCount then wordFrom base (valueFrom base n digits) rest
        else .error .overflow := by
  induction digits generalizing n with
  | nil => exact (if_pos small).symm
  | cons c digits ih =>
      rw [List.forall_mem_cons] at each
      obtain ⟨d, value, below⟩ := digitValue?_of_isDigitIn each.1
      rw [List.cons_append, valueFrom_cons]
      simp only [wordFrom, value, Option.getD_some]
      rw [if_neg (Nat.not_le_of_lt below)]
      split
      · rename_i large
        have grown := le_valueFrom each.2 (n * base + d)
        rw [if_neg (Nat.not_lt_of_le (Nat.le_trans large grown))]
      · rename_i fits
        exact ih each.2 (Nat.lt_of_not_le fits)

/-- Digits of a base are the word that they are worth, if 64 bits hold it. -/
theorem wordFrom_digits {base : Nat} {digits : Bytes}
    (each : ∀ c ∈ digits, isDigitIn base c = true)
    : wordFrom base 0 digits
      = if valueFrom base 0 digits < wordCount then .ok (valueFrom base 0 digits)
        else .error .overflow := by
  have whole := wordFrom_append each (by decide : 0 < wordCount) []
  rwa [List.append_nil] at whole

/-- A byte outside the base spoils a word, unless the digits before it are too many already. -/
theorem wordFrom_fault {base : Nat} {front back : Bytes} {c : Byte}
    (each : ∀ c ∈ front, isDigitIn base c = true) (fault : isDigitIn base c = false)
    : wordFrom base 0 (front ++ c :: back)
      = if valueFrom base 0 front < wordCount then .error .malformed else .error .overflow := by
  have stops (n : Nat) : wordFrom base n (c :: back) = .error .malformed := by
    cases value : c.digitValue? with
    | none => simp only [wordFrom, value]
    | some d =>
        have outside : base ≤ d := by simpa [isDigitIn, value] using fault
        simp only [wordFrom, value]
        rw [if_pos outside]
  rw [wordFrom_append each (by decide : 0 < wordCount), stops]

/-- Decimal digits have the same value in either reading. -/
theorem valueFrom_ten {s : Bytes} (digits : ∀ c ∈ s, c.isDigit = true) (n : Nat)
    : valueFrom 10 n s = digitsFrom n s := by
  have value : ∀ c : Byte, c.isDigit = true → c.digitValue?.getD 0 = c.toNat - 0x30 := by
    decide
  induction s generalizing n with
  | nil => rfl
  | cons c rest ih =>
      rw [List.forall_mem_cons] at digits
      rw [valueFrom_cons, digitsFrom_cons, value c digits.1, ih digits.2]

/-- Decimal digits alone read as the number nearest to what they are worth. -/
theorem fraction?_digits {s : Bytes} (digits : ∀ c ∈ s, c.isDigit = true) (nonempty : s ≠ [])
    : fraction? s = some (Binary64.ofDecimal false (digitsValue s) 0) := by
  have all : s.takeWhile Byte.isDigit = s := List.takeWhile_eq_self_iff.mpr digits
  have none : s.dropWhile Byte.isDigit = [] := List.dropWhile_eq_nil_iff.mpr digits
  simp [fraction?, all, none, nonempty, exponentPart?]

end Numeral

/-- The number nearest to a whole one that 64 bits hold, as a quotient and as a decimal. -/
theorem Binary64.ofDecimal_whole {n : Nat} (nonzero : n ≠ 0) (small : n < Numeral.wordCount)
    : ofDecimal false n 0 = ofRatio false n 1 := by
  have below : n < 10 ^ 20 := Nat.lt_trans small (by decide)
  have length : (Nat.toDigits 10 n).length ≤ 20 :=
    (Nat.length_toDigits_le_iff (by decide) (by decide)).mpr below
  have digits : 0 < (Nat.toDigits 10 n).length := List.length_pos_iff.mpr Nat.toDigits_ne_nil
  simp only [ofDecimal, beq_eq_false_iff_ne.mpr nonzero, Bool.false_eq_true, ↓reduceIte]
  rw [if_neg (by omega), if_neg (by omega)]
  show ofRatio false (n * 1) 1 = ofRatio false n 1
  rw [Nat.mul_one]

end FormMigrate
