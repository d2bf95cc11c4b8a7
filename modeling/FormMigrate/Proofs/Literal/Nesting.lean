import FormMigrate.Literal.Printer
import FormMigrate.Proofs.Scan.Segments

/-! Printed values are well nested, whatever bytes their texts have. -/

namespace FormMigrate

theorem Nesting.after?_quoteByte (c : Byte) (awaited : Bytes)
    : Nesting.after? ⟨.inside 0x27 false, awaited⟩ (quoteByte c)
      = some ⟨.inside 0x27 false, awaited⟩ := by
  unfold quoteByte
  split
  · rfl
  · rename_i plain
    simp only [Bool.or_eq_true, beq_iff_eq, not_or] at plain
    simp [after?, next?, QuoteState.isInert, QuoteState.next, plain]

/-- Escaped text does not end the string that it stands in, by induction on the bytes. -/
theorem Nesting.after?_escaped (s awaited : Bytes)
    : Nesting.after? ⟨.inside 0x27 false, awaited⟩ (s.flatMap quoteByte)
      = some ⟨.inside 0x27 false, awaited⟩ := by
  induction s with
  | nil => rfl
  | cons c rest ih =>
      rw [List.flatMap_cons, after?_append, after?_quoteByte, Option.bind_some, ih]

/-- A quoted text is well nested, for any bytes. -/
theorem quote_nested (s : Bytes) : WellNested (quote s) := by
  have opens : Nesting.outset.next? 0x27 = some ⟨.inside 0x27 false, []⟩ := by decide
  rw [wellNested_iff, quote, List.cons_append, Nesting.after?, opens, Option.bind_some,
    Nesting.after?_append, Nesting.after?_escaped, Option.bind_some]
  rfl

namespace Bytes

theorem Neutral.replicate {c : Byte} (h : c.isNeutral = true) (n : Nat)
    : Neutral (List.replicate n c) := by
  intro b member
  rwa [List.eq_of_mem_replicate member]

theorem ofNat_neutral (n : Nat) : (ofNat n).Neutral := by
  intro b member
  obtain ⟨c, digit, rfl⟩ := List.mem_map.mp member
  have decimal := Nat.isDigit_of_mem_toDigits (by decide) (Nat.le_refl 10) digit
  rw [Char.isDigit, Bool.and_eq_true, decide_eq_true_eq, decide_eq_true_eq] at decimal
  have low : 0x30 ≤ c.val.toNat := UInt32.le_iff_toNat_le.mp decimal.1
  have high : c.val.toNat ≤ 0x39 := UInt32.le_iff_toNat_le.mp decimal.2
  have value : c.toUInt8.toNat = c.val.toNat := by
    rw [Char.toUInt8, UInt32.toNat_toUInt8, Nat.mod_eq_of_lt (by omega)]
  have inside : Byte.isDigit c.toUInt8 = true := by
    rw [Byte.isDigit, Bool.and_eq_true, decide_eq_true_eq, decide_eq_true_eq]
    exact ⟨UInt8.le_iff_toNat_le.mpr (value ▸ low), UInt8.le_iff_toNat_le.mpr (value ▸ high)⟩
  exact Byte.isNeutral_of_class inside rfl

theorem ofInt_neutral (n : Int) : (ofInt n).Neutral := by
  cases n with
  | ofNat n => exact ofNat_neutral n
  | negSucc n => exact neutral_cons.mpr ⟨rfl, ofNat_neutral (n + 1)⟩

end Bytes

namespace Decimal

theorem digitText_neutral (d : Decimal) : d.digitText.Neutral := Bytes.ofNat_neutral _

theorem exponentText_neutral {mark : Byte} (h : mark.isNeutral = true) (e : Int)
    : (exponentText mark e).Neutral := by
  have digits := Bytes.ofNat_neutral e.natAbs
  unfold exponentText
  refine Bytes.neutral_cons.mpr ⟨h, Bytes.neutral_cons.mpr ⟨?_, ?_⟩⟩
  · split <;> rfl
  · split
    · exact Bytes.neutral_cons.mpr ⟨rfl, digits⟩
    · exact digits

/-- A decimal in any form does not matter to nesting. -/
theorem render_neutral {layout : Layout} (h : layout.mark.isNeutral = true) (d : Decimal)
    : (d.render layout).Neutral := by
  have digits := d.digitText_neutral
  have front (n : Nat) : Bytes.Neutral (d.digitText.take n) :=
    fun c member => digits c (List.mem_of_mem_take member)
  have back (n : Nat) : Bytes.Neutral (d.digitText.drop n) :=
    fun c member => digits c (List.mem_of_mem_drop member)
  unfold render
  split
  · exact .of_all rfl
  · split
    · unfold scientific
      refine ((front 1).append ?_).append (exponentText_neutral h _)
      split
      · exact .of_all rfl
      · exact Bytes.neutral_cons.mpr ⟨rfl, back 1⟩
    · unfold positional
      split
      · exact Bytes.Neutral.append (.of_all rfl) digits
      · dsimp only
        split
        · exact digits.append (.replicate rfl _)
        · exact (front _).append (Bytes.neutral_cons.mpr ⟨rfl, back _⟩)
      · exact (Bytes.Neutral.append (.of_all rfl) (.replicate rfl _)).append digits

end Decimal

theorem Binary64.code_neutral (x : Binary64) : x.code.Neutral := by
  unfold Binary64.code
  split
  · exact .of_all rfl
  · exact .of_all rfl
  · rename_i x
    have digits : (Binary64.shortestText (.finite x)).Neutral := by
      unfold shortestText textWith
      refine Bytes.Neutral.append ?_ (Decimal.render_neutral rfl _)
      split <;> exact .of_all rfl
    dsimp only
    split
    · exact digits
    · exact digits.append (.of_all rfl)

theorem Key.code_nested (key : Key) : WellNested key.code := by
  cases key with
  | int n => exact .of_neutral (Bytes.ofInt_neutral _)
  | text s => exact quote_nested s

mutual

/-- The code of a value is well nested, by induction on values and their entries. -/
theorem Value.code_nested : (value : Value) → WellNested value.code
  | .null => .of_scan rfl
  | .bool true => .of_scan rfl
  | .bool false => .of_scan rfl
  | .int n => .of_neutral (Bytes.ofInt_neutral _)
  | .float x => .of_neutral x.code_neutral
  | .text s => quote_nested s
  | .array entries => by
      have parts := entriesCode_nested (Entries.isList entries) entries
      exact @WellNested.insert [0x5b] _ [0x5d] rfl (.of_scan rfl)
        (.join (.of_scan rfl) parts)

theorem entriesCode_nested (bare : Bool)
    : (entries : List (Key × Value)) → ∀ part ∈ entriesCode bare entries, WellNested part
  | [] => nofun
  | (key, value) :: rest => by
      have code := Value.code_nested value
      rw [entriesCode]
      refine List.forall_mem_cons.mpr ⟨?_, entriesCode_nested bare rest⟩
      split
      · exact code
      · exact (key.code_nested.append (.of_scan rfl)).append code

end

end FormMigrate
