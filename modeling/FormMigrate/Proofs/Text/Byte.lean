import FormMigrate.Text.Bytes

/-! Deciding what holds of every byte, telling bytes apart by a class of bytes, and the case of
ASCII letters.
-/

namespace FormMigrate.Byte

/-- The byte with two hexadecimal digits. -/
def ofHex (high low : Fin 16) : Byte := UInt8.ofNat (16 * high + low)

/-- All bytes are those with two hexadecimal digits. -/
theorem forall_iff {p : Byte → Prop} : (∀ c, p c) ↔ ∀ high low : Fin 16, p (ofHex high low) := by
  refine ⟨fun h high low => h _, fun h c => ?_⟩
  have bound := c.toNat_lt
  have whole := h ⟨c.toNat / 16, by omega⟩ ⟨c.toNat % 16, by omega⟩
  rwa [ofHex, Nat.div_add_mod, UInt8.ofNat_toNat] at whole

-- Digit by digit, so that no case of a decision stands deeper than the digits do.
instance {p : Byte → Prop} [DecidablePred p] : Decidable (∀ c, p c) :=
  decidable_of_iff (∀ high low : Fin 16, p (ofHex high low)) forall_iff.symm

/-- A byte inside a class is none outside of it. -/
theorem ne_of_class {p : Byte → Bool} {c b : Byte} (inside : p c = true) (outside : p b = false)
    : c ≠ b := by
  rintro rfl
  rw [inside] at outside
  cases outside

/-- Blanks are ASCII. -/
theorem lt_of_isBlank {b : Byte} (blank : b.isBlank = true) : b < 0x80 := by
  grind [isBlank]

theorem lower_lt {b : Byte} (ascii : b < 0x80) : b.lower < 0x80 := by
  grind [lower]

theorem upper_lt {b : Byte} (ascii : b < 0x80) : b.upper < 0x80 := by
  grind [upper]

theorem upper_lower (b : Byte) : b.lower.upper = b.upper := by
  grind [lower, upper]

/-- Bytes beyond ASCII are the lower case of themselves alone. -/
theorem eq_of_le_lower {b : Byte} (beyond : 0x80 ≤ b.lower) : b.lower = b := by
  grind [lower]

theorem lower_of_le {b : Byte} (beyond : 0x80 ≤ b) : b.lower = b := by
  grind [lower]

end FormMigrate.Byte
