import FormMigrate.Proofs.Literal.Decimals
import FormMigrate.Proofs.Literal.Tables

/-! Which key a text casts to: the word that is printed as it, and the text itself where there is no
such word. So keys are told apart by their texts.
-/

namespace FormMigrate

--------------------------------------------------------------------------------
-- Printed numbers
--------------------------------------------------------------------------------

/-- Digits behind a positive number are the digits of what they are worth there. -/
theorem Bytes.ofNat_digitsFrom {digits : Bytes} (each : ∀ c ∈ digits, c.isDigit = true) {n : Nat}
    (positive : 0 < n)
    : ofNat (Numeral.digitsFrom n digits) = ofNat n ++ digits := by
  have single
      : ∀ c : Byte, c.isDigit = true → c.toNat - 0x30 < 10 ∧ ofNat (c.toNat - 0x30) = [c] := by
    decide
  induction digits generalizing n with
  | nil => exact (List.append_nil _).symm
  | cons c rest ih =>
      rw [List.forall_mem_cons] at each
      obtain ⟨small, last⟩ := single c each.1
      have grown : ofNat (10 * n + (c.toNat - 0x30)) = ofNat n ++ [c] := by
        rw [ofNat, ← Nat.toDigits_append_toDigits (by decide) positive small, List.map_append,
          ← ofNat, ← ofNat, last]
      calc ofNat (Numeral.digitsFrom n (c :: rest))
          = ofNat (Numeral.digitsFrom (10 * n + (c.toNat - 0x30)) rest) := by
            rw [Numeral.digitsFrom_cons, Nat.mul_comm]
        _ = ofNat n ++ [c] ++ rest := by rw [ih each.2 (by omega), grown]
        _ = ofNat n ++ c :: rest := List.append_cons .. |>.symm

/-- Digits without a zero in front are the digits of what they are worth. -/
theorem Bytes.ofNat_digitsValue {c : Byte} {rest : Bytes} (digit : c.isDigit = true)
    (nonzero : c ≠ 0x30) (each : ∀ d ∈ rest, d.isDigit = true)
    : ofNat (Numeral.digitsValue (c :: rest)) = c :: rest := by
  have single : ∀ c : Byte, c.isDigit = true → c ≠ 0x30
      → 0 < 0 * 10 + (c.toNat - 0x30) ∧ ofNat (0 * 10 + (c.toNat - 0x30)) = [c] := by
    decide
  obtain ⟨positive, first⟩ := single c digit nonzero
  show ofNat (Numeral.digitsFrom (0 * 10 + (c.toNat - 0x30)) rest) = c :: rest
  rw [ofNat_digitsFrom each positive, first, List.singleton_append]

/-- The texts that spell a natural number without leading zeros are the printed positive numbers. -/
theorem canonicalNat?_eq_some_iff {s : Bytes} {n : Nat}
    : canonicalNat? s = some n ↔ n ≠ 0 ∧ s = Bytes.ofNat n := by
  have front : ∀ c : Byte, (0x31 ≤ c && c ≤ 0x39) = true ↔ c.isDigit = true ∧ c ≠ 0x30 := by
    decide
  constructor
  · intro spelled
    cases s with
    | nil => cases spelled
    | cons c rest =>
        rw [canonicalNat?, Option.ite_none_right_eq_some, Bool.and_eq_true, front,
          List.all_eq_true] at spelled
        obtain ⟨⟨⟨digit, nonzero⟩, behind⟩, value⟩ := spelled
        have same := Bytes.ofNat_digitsValue digit nonzero behind
        obtain rfl := Option.some.inj value
        refine ⟨fun zero => ?_, same.symm⟩
        rw [zero] at same
        exact nonzero (List.cons.inj same).1.symm
  · rintro ⟨nonzero, rfl⟩
    have digits := @Bytes.isDigit_of_mem_ofNat n
    have value := Bytes.digitsValue_ofNat n
    obtain ⟨c, rest, parts⟩ := List.exists_cons_of_ne_nil (Bytes.ofNat_ne_nil n)
    rw [parts, List.forall_mem_cons] at digits
    have shown : c ≠ 0x30 := by
      rintro rfl
      exact nonzero (Bytes.eq_zero_of_ofNat_eq_cons parts)
    have accepted : (0x31 ≤ c && c ≤ 0x39 && rest.all Byte.isDigit) = true := by
      rw [Bool.and_eq_true, front, List.all_eq_true]
      exact ⟨⟨digits.1, shown⟩, digits.2⟩
    rw [parts, canonicalNat?, if_pos accepted, ← parts, value]

/-- The texts that spell a word are the printed words: a minus only before a positive number, no
leading zeros, and no number out of range.
-/
theorem canonicalWord?_eq_some_iff {s : Bytes} {n : Int64}
    : canonicalWord? s = some n ↔ s = Bytes.ofInt n.toInt := by
  constructor
  · intro spelled
    unfold canonicalWord? at spelled
    split at spelled
    · cases spelled
      rfl
    · rename_i rest
      obtain ⟨k, digits, held⟩ := Option.bind_eq_some_iff.mp spelled
      obtain ⟨nonzero, rfl⟩ := canonicalNat?_eq_some_iff.mp digits
      obtain ⟨k, rfl⟩ := Nat.exists_eq_succ_of_ne_zero nonzero
      rw [Literal.wordOfInt?_eq_some_iff.mp held]
      rfl
    · obtain ⟨k, digits, held⟩ := Option.bind_eq_some_iff.mp spelled
      obtain ⟨-, rfl⟩ := canonicalNat?_eq_some_iff.mp digits
      rw [Literal.wordOfInt?_eq_some_iff.mp held]
      rfl
  · rintro rfl
    have held := Literal.wordOfInt?_toInt n
    cases value : n.toInt with
    | negSucc k =>
        rw [value] at held
        have digits := canonicalNat?_eq_some_iff.mpr ⟨Nat.succ_ne_zero k, rfl⟩
        rw [Int.negSucc_eq, ← Int.natCast_succ] at held
        rw [Bytes.ofInt, canonicalWord?, digits, Option.bind_some, held]
    | ofNat k =>
        rw [value] at held
        have front : ∀ c ∈ Bytes.ofNat k, c ≠ 0x2d := by
          intro c member
          exact Byte.ne_of_class (Bytes.isDigit_of_mem_ofNat c member) rfl
        rw [Bytes.ofInt]
        unfold canonicalWord?
        split
        · rename_i zero
          obtain rfl := Bytes.eq_zero_of_ofNat_eq_cons zero
          rw [← held]
          rfl
        · rename_i rest minus
          rw [minus] at front
          exact (front 0x2d List.mem_cons_self rfl).elim
        · rename_i other _
          have nonzero : k ≠ 0 := by
            rintro rfl
            exact other rfl
          rw [canonicalNat?_eq_some_iff.mpr ⟨nonzero, rfl⟩, Option.bind_some]
          exact held

--------------------------------------------------------------------------------
-- Casts
--------------------------------------------------------------------------------

namespace Key

/-- A text stands for a key: it is printed for the word, or it is the text of the key and printed
for no word.
-/
def IsCast (s : Bytes) : Key → Prop
  | .int n => s = Bytes.ofInt n.toInt
  | .text t => s = t ∧ ∀ n : Int64, s ≠ Bytes.ofInt n.toInt

/-- A text casts to the one key that it stands for. -/
theorem ofText_eq_iff {s : Bytes} {key : Key} : ofText s = key ↔ IsCast s key := by
  cases spelled : canonicalWord? s with
  | some n =>
      have cast : ofText s = .int n := by rw [ofText, spelled]
      have printed := canonicalWord?_eq_some_iff.mp spelled
      rw [cast]
      cases key with
      | int m =>
          rw [Key.int.injEq, IsCast, ← canonicalWord?_eq_some_iff, spelled, Option.some.injEq]
      | text t =>
          simp only [reduceCtorEq, false_iff]
          exact fun other => other.2 n printed
  | none =>
      have cast : ofText s = .text s := by rw [ofText, spelled]
      have unprinted (n : Int64) : s ≠ Bytes.ofInt n.toInt := fun printed => by
        rw [canonicalWord?_eq_some_iff.mpr printed] at spelled
        cases spelled
      rw [cast]
      cases key with
      | int m =>
          simp only [reduceCtorEq, false_iff]
          exact unprinted m
      | text t =>
          rw [Key.text.injEq]
          exact ⟨fun same => ⟨same, unprinted⟩, And.left⟩

/-- A key that casts to itself is the one that its own text casts to. -/
theorem Settled.ofText_plain {key : Key} (settled : key.Settled) : ofText key.plain = key := by
  cases key with
  | int n => exact ofText_eq_iff.mpr rfl
  | text s => exact Except.ok.inj settled

/-- Keys are told apart by their texts. -/
theorem Settled.plain_inj {key other : Key} (settled : key.Settled) (settled' : other.Settled)
    (same : key.plain = other.plain)
    : key = other := by
  rw [← settled.ofText_plain, same, settled'.ofText_plain]

end Key

end FormMigrate
