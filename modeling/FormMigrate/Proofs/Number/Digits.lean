import FormMigrate.Number.Numeral
import FormMigrate.Proofs.Text.Byte

/-! Decimal digits: what digit texts are worth, and that the digits of a number read back as it. -/

namespace FormMigrate

--------------------------------------------------------------------------------
-- Values of digit texts
--------------------------------------------------------------------------------

namespace Numeral

/-- The value of digits behind digits of a value. -/
def digitsFrom (n : Nat) (s : Bytes) : Nat := s.foldl (fun n c => n * 10 + (c.toNat - 0x30)) n

theorem digitsFrom_cons (n : Nat) (c : Byte) (s : Bytes)
    : digitsFrom n (c :: s) = digitsFrom (n * 10 + (c.toNat - 0x30)) s :=
  List.foldl_cons ..

theorem digitsFrom_append (n : Nat) (s t : Bytes)
    : digitsFrom n (s ++ t) = digitsFrom (digitsFrom n s) t :=
  List.foldl_append

theorem le_digitsFrom (n : Nat) (s : Bytes) : n ≤ digitsFrom n s := by
  induction s generalizing n with
  | nil => exact Nat.le_refl n
  | cons c rest ih =>
      rw [digitsFrom_cons]
      have further := ih (n * 10 + (c.toNat - 0x30))
      omega

/-- Zeros behind the digits. -/
theorem digitsFrom_zeros (n zeros : Nat)
    : digitsFrom n (List.replicate zeros 0x30) = n * Nat.pow 10 zeros := by
  induction zeros generalizing n with
  | zero => exact (Nat.mul_one n).symm
  | succ zeros ih =>
      have power : Nat.pow 10 (zeros + 1) = 10 * Nat.pow 10 zeros := Nat.pow_succ'
      rw [List.replicate_succ, digitsFrom_cons, ih, power, ← Nat.mul_assoc]
      rfl

/-- Zeros in front of the digits do not matter. -/
theorem digitsValue_zeros_append (zeros : Nat) (s : Bytes)
    : digitsValue (List.replicate zeros 0x30 ++ s) = digitsValue s := by
  show digitsFrom 0 (List.replicate zeros 0x30 ++ s) = digitsFrom 0 s
  rw [digitsFrom_append, digitsFrom_zeros, Nat.zero_mul]

/-- The value of exponent digits is exact below the point where it stops growing. -/
theorem exponentValue_eq {s : Bytes} (small : digitsValue s < 10000)
    : exponentValue s = digitsValue s := by
  have each (n : Nat) (s : Bytes) (small : digitsFrom n s < 10000)
      : s.foldl (fun n c => if n < 10000 then n * 10 + (c.toNat - 0x30) else n) n
        = digitsFrom n s := by
    induction s generalizing n with
    | nil => rfl
    | cons c rest ih =>
        have front := le_digitsFrom n (c :: rest)
        rw [List.foldl_cons, if_pos (Nat.lt_of_le_of_lt front small), ih _ small]
        rfl
  exact each 0 s small

/-- Decimal digits are read as the word that they are worth. -/
theorem wordFrom_ten {s : Bytes} (digits : ∀ c ∈ s, c.isDigit = true) {n : Nat}
    (small : digitsFrom n s < wordCount)
    : wordFrom 10 n s = .ok (digitsFrom n s) := by
  have value : ∀ c : Byte, c.isDigit = true → c.digitValue? = some (c.toNat - 0x30)
      ∧ c.toNat - 0x30 < 10 := by
    decide
  induction s generalizing n with
  | nil => rfl
  | cons c rest ih =>
      rw [List.forall_mem_cons] at digits
      obtain ⟨found, below⟩ := value c digits.1
      have front := le_digitsFrom (n * 10 + (c.toNat - 0x30)) rest
      rw [digitsFrom_cons] at small
      simp only [wordFrom, found]
      rw [if_neg (by omega), if_neg (by omega), ih digits.2 small, digitsFrom_cons]

end Numeral

--------------------------------------------------------------------------------
-- The digits of a number
--------------------------------------------------------------------------------

namespace Bytes

theorem toNat_toUInt8 {c : Char} (digit : c.isDigit = true) : c.toUInt8.toNat = c.toNat := by
  rw [Char.isDigit, Bool.and_eq_true, decide_eq_true_eq, decide_eq_true_eq] at digit
  have high : c.val.toNat ≤ 0x39 := UInt32.le_iff_toNat_le.mp digit.2
  rw [Char.toUInt8, UInt32.toNat_toUInt8, Nat.mod_eq_of_lt (by omega)]
  rfl

theorem isDigit_toUInt8 {c : Char} (digit : c.isDigit = true) : Byte.isDigit c.toUInt8 = true := by
  have value := toNat_toUInt8 digit
  rw [Char.isDigit, Bool.and_eq_true, decide_eq_true_eq, decide_eq_true_eq] at digit
  have low : 0x30 ≤ c.toNat := UInt32.le_iff_toNat_le.mp digit.1
  have high : c.toNat ≤ 0x39 := UInt32.le_iff_toNat_le.mp digit.2
  rw [Byte.isDigit, Bool.and_eq_true, decide_eq_true_eq, decide_eq_true_eq,
    UInt8.le_iff_toNat_le, UInt8.le_iff_toNat_le, value]
  exact ⟨low, high⟩

theorem isDigit_of_mem_ofNat {n : Nat} : ∀ c ∈ ofNat n, c.isDigit = true := by
  intro b member
  obtain ⟨c, digit, rfl⟩ := List.mem_map.mp member
  exact isDigit_toUInt8 (Nat.isDigit_of_mem_toDigits (by decide) (Nat.le_refl 10) digit)

theorem length_ofNat (n : Nat) : (ofNat n).length = (Nat.toDigits 10 n).length :=
  List.length_map ..

theorem ofNat_ne_nil (n : Nat) : ofNat n ≠ [] := by
  rw [ofNat, ne_eq, List.map_eq_nil_iff]
  exact Nat.toDigits_ne_nil

/-- The digits of a number are worth it. -/
theorem digitsValue_ofNat (n : Nat) : Numeral.digitsValue (ofNat n) = n := by
  have each (chars : List Char) (digits : ∀ c ∈ chars, c.isDigit = true) (value : Nat)
      : Numeral.digitsFrom value (chars.map Char.toUInt8) = Nat.ofDigitChars 10 chars value := by
    induction chars generalizing value with
    | nil => rfl
    | cons c rest ih =>
        rw [List.forall_mem_cons] at digits
        rw [List.map_cons, Numeral.digitsFrom_cons, Nat.ofDigitChars_cons, ih digits.2,
          toNat_toUInt8 digits.1, Nat.mul_comm]
        rfl
  have digits : ∀ c ∈ Nat.toDigits 10 n, c.isDigit = true :=
    fun c member => Nat.isDigit_of_mem_toDigits (by decide) (Nat.le_refl 10) member
  exact (each _ digits 0).trans Nat.ofDigitChars_ten_toDigits

/-- Only zero is written with a zero in front, by induction on the digits. -/
theorem eq_zero_of_ofNat_eq_cons {n : Nat} {rest : Bytes} (h : ofNat n = 0x30 :: rest) : n = 0 := by
  induction n using Nat.strongRecOn generalizing rest with
  | ind n ih =>
      by_cases single : n < 10
      · have each : ∀ n < 10, ofNat n = [(0x30 : Byte)] → n = 0 := by decide
        rw [ofNat, Nat.toDigits_of_lt_base single, List.map_singleton, List.cons.injEq] at h
        apply each n single
        rw [ofNat, Nat.toDigits_of_lt_base single, List.map_singleton, h.1]
      · have front : ofNat (n / 10) ≠ [] := ofNat_ne_nil _
        rw [ofNat, Nat.toDigits_of_base_le (by decide) (by omega), List.map_append] at h
        obtain ⟨c, others, parts⟩ := List.exists_cons_of_ne_nil front
        rw [show (Nat.toDigits 10 (n / 10)).map Char.toUInt8 = c :: others from parts,
          List.cons_append, List.cons.injEq] at h
        have zero := ih (n / 10) (by omega) (h.1 ▸ parts)
        omega

end Bytes

end FormMigrate
