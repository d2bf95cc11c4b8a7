import FormMigrate.Proofs.Json.RoundTrip
import FormMigrate.Proofs.Number.Digits

/-! Integers in JSON documents read back as they were written. -/

namespace FormMigrate.Json

/-- The number that decimal digits spell. -/
def natural? (digits : Bytes) : Option Nat :=
  if !digits.isEmpty && digits.all Byte.isDigit then some (Numeral.digitsValue digits) else none

/-- The integer that a numeral without fraction and exponent spells. -/
def integer? : Bytes → Option Int
  | 0x2d :: digits => (natural? digits).map fun n => -(n : Int)
  | digits => (natural? digits).map fun n => (n : Int)

theorem natural?_ofNat (n : Nat) : natural? (Bytes.ofNat n) = some n := by
  have digits : (Bytes.ofNat n).all Byte.isDigit = true :=
    List.all_eq_true.mpr Bytes.isDigit_of_mem_ofNat
  simp [natural?, digits, Bytes.ofNat_ne_nil, Bytes.digitsValue_ofNat]

/-- The digits of a number start with a digit, not with a sign. -/
theorem ofNat_front (n : Nat) : ∃ first tail, Bytes.ofNat n = first :: tail ∧ first.isDigit = true := by
  obtain ⟨first, tail, parts⟩ := List.exists_cons_of_ne_nil (Bytes.ofNat_ne_nil n)
  exact ⟨first, tail, parts,
    Bytes.isDigit_of_mem_ofNat first (show first ∈ Bytes.ofNat n by simp [parts])⟩

theorem integer?_unsigned {digits : Bytes} (unsigned : ∀ rest, digits ≠ 0x2d :: rest)
    : integer? digits = (natural? digits).map fun n => (n : Int) := by
  unfold integer?
  split
  · rename_i rest
    exact absurd rfl (unsigned rest)
  · rfl

theorem ofNat_unsigned (n : Nat) (rest : Bytes) : Bytes.ofNat n ≠ 0x2d :: rest := by
  obtain ⟨first, tail, parts, digit⟩ := ofNat_front n
  rw [parts]
  rintro same
  cases same
  exact absurd digit (by decide)

/-- An integer reads back from its numeral, by the cases of its sign. -/
theorem integer?_ofInt (n : Int) : integer? (Bytes.ofInt n) = some n := by
  cases n with
  | ofNat n => simp [Bytes.ofInt, integer?_unsigned (ofNat_unsigned n), natural?_ofNat]
  | negSucc n =>
      simp only [Bytes.ofInt, integer?, natural?_ofNat]
      rfl

--------------------------------------------------------------------------------
-- Numerals of integers
--------------------------------------------------------------------------------

/-- What ends a number is none of its bytes. -/
theorem Ends.apart {rest : Bytes} (ends : Ends rest)
    : rest = []
      ∨ ∃ b tail, rest = b :: tail ∧ b.isDigit = false ∧ b ≠ 0x2e ∧ (b.lower == 0x65) = false := by
  cases rest with
  | nil => exact .inl rfl
  | cons b tail =>
      refine .inr ⟨b, tail, rfl, ?_⟩
      rcases ends b rfl with rfl | rfl <;> decide

theorem digits?_append {digits rest : Bytes} (some : digits ≠ [])
    (each : ∀ b ∈ digits, b.isDigit = true) (ends : Ends rest)
    : digits? (digits ++ rest) = .some (digits, rest) := by
  have stops : rest.takeWhile Byte.isDigit = [] ∧ rest.dropWhile Byte.isDigit = rest := by
    rcases ends.apart with rfl | ⟨b, tail, rfl, digit, -⟩ <;> simp [*]
  simp [digits?, List.takeWhile_append_of_pos each, List.dropWhile_append_of_pos each, stops, some]

/-- The digits of a number are its whole part; one that starts with a zero is zero. -/
theorem wholePart?_ofNat (n : Nat) {rest : Bytes} (ends : Ends rest)
    : wholePart? (Bytes.ofNat n ++ rest) = some (Bytes.ofNat n, rest) := by
  have digits := digits?_append (Bytes.ofNat_ne_nil n) Bytes.isDigit_of_mem_ofNat ends
  unfold wholePart?
  split
  · rename_i tail same
    obtain ⟨first, others, parts, -⟩ := ofNat_front n
    obtain ⟨rfl, same⟩ := List.cons_eq_cons.mp ((congrArg (· ++ rest) parts).symm.trans same)
    obtain rfl := Bytes.eq_zero_of_ofNat_eq_cons parts
    obtain rfl : others = [] := (List.cons_eq_cons.mp parts).2.symm
    simp [parts, ← same]
  · exact digits

/-- Nothing follows the whole part of an integer. -/
theorem parts_of_ends {rest : Bytes} (ends : Ends rest)
    : fractionPart? rest = some ([], rest) ∧ exponentPart? rest = some ([], rest) := by
  rcases ends.apart with rfl | ⟨b, tail, rfl, -, point, mark⟩
  · exact ⟨rfl, rfl⟩
  · refine ⟨?_, by simp [exponentPart?, mark]⟩
    unfold fractionPart?
    split
    · rename_i same
      exact absurd (List.cons_eq_cons.mp same).1 point
    · rfl

/-- An integer is written as a numeral. -/
theorem numeral_ofInt (n : Int) : Numeral (Bytes.ofInt n) := by
  cases n with
  | ofNat n =>
      obtain ⟨first, tail, parts, digit⟩ := ofNat_front n
      refine ⟨⟨first, tail, parts, .inl digit⟩, ?_⟩
      intro rest ends
      have whole := wholePart?_ofNat n ends
      have unsigned : ∀ after, Bytes.ofNat n ++ rest ≠ 0x2d :: after := by
        intro after same
        rw [parts] at same
        obtain ⟨rfl, -⟩ := List.cons_eq_cons.mp same
        exact absurd digit (by decide)
      simp [Bytes.ofInt, number?, whole, parts_of_ends ends]
  | negSucc n =>
      refine ⟨⟨0x2d, Bytes.ofNat (n + 1), rfl, .inr rfl⟩, ?_⟩
      intro rest ends
      simp [Bytes.ofInt, number?, wholePart?_ofNat (n + 1) ends, parts_of_ends ends]

end FormMigrate.Json
