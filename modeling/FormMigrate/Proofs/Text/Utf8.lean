import FormMigrate.Proofs.Text.Byte
import FormMigrate.Text.Utf8

/-! Units of a text spell it: characters are read as they are written, stray bytes as they are. -/

namespace FormMigrate.Utf8

theorem ofNat_eq {n : Nat} {b : Byte} (h : n = b.toNat) : UInt8.ofNat n = b := by
  rw [h, UInt8.ofNat_toNat]

theorem val_ofNat {n : Nat} (h : n.isValidChar) : (Char.ofNat n).val.toNat = n := by
  rw [Char.ofNat, dif_pos h]
  rfl

theorem toNat_of_isContinuation {b : Byte} (h : isContinuation b = true)
    : 0x80 ≤ b.toNat ∧ b.toNat ≤ 0xbf := by
  rw [isContinuation, Bool.and_eq_true, decide_eq_true_eq, decide_eq_true_eq] at h
  exact ⟨UInt8.le_iff_toNat_le.mp h.1, UInt8.le_iff_toNat_le.mp h.2⟩

theorem toNat_le_of_not_lt {a b : Byte} (h : ¬ a < b) : b.toNat ≤ a.toNat :=
  UInt8.le_iff_toNat_le.mp (UInt8.not_lt.mp h)

/-- ASCII is written as it is read. -/
theorem encode_one {a : Byte} (h : a < 0x80)
    : String.utf8EncodeChar (Char.ofNat a.toNat) = [a] := by
  have bound : a.toNat < 0x80 := UInt8.lt_iff_toNat_lt.mp h
  rw [String.utf8EncodeChar, val_ofNat (.inl (by omega)), if_pos (by omega), ofNat_eq rfl]

theorem encode_two {a b : Byte} (least : ¬ a < 0xc2) (most : a < 0xe0)
    (tail : isContinuation b = true)
    : String.utf8EncodeChar (Char.ofNat (a.toNat % 0x20 * 0x40 + payload b)) = [a, b] := by
  have lower : 0xc2 ≤ a.toNat := toNat_le_of_not_lt least
  have upper : a.toNat < 0xe0 := UInt8.lt_iff_toNat_lt.mp most
  have := toNat_of_isContinuation tail
  unfold payload
  rw [String.utf8EncodeChar, val_ofNat (.inl (by omega)), if_neg (by omega), if_pos (by omega),
    @ofNat_eq _ a (by omega), @ofNat_eq _ b (by omega)]

theorem encode_three {a b c : Byte} (least : ¬ a < 0xe0) (most : a < 0xf0)
    (second : isContinuation b = true) (third : isContinuation c = true)
    (long : 0x800 ≤ a.toNat % 0x10 * 0x1000 + payload b * 0x40 + payload c)
    (valid : (a.toNat % 0x10 * 0x1000 + payload b * 0x40 + payload c).isValidChar)
    : String.utf8EncodeChar
        (Char.ofNat (a.toNat % 0x10 * 0x1000 + payload b * 0x40 + payload c)) = [a, b, c] := by
  have lower : 0xe0 ≤ a.toNat := toNat_le_of_not_lt least
  have upper : a.toNat < 0xf0 := UInt8.lt_iff_toNat_lt.mp most
  have := toNat_of_isContinuation second
  have := toNat_of_isContinuation third
  unfold payload at long valid ⊢
  rw [String.utf8EncodeChar, val_ofNat valid, if_neg (by omega), if_neg (by omega),
    if_pos (by omega), @ofNat_eq _ a (by omega), @ofNat_eq _ b (by omega),
    @ofNat_eq _ c (by omega)]

theorem encode_four {a b c d : Byte} (least : ¬ a < 0xf0) (most : a < 0xf5)
    (second : isContinuation b = true) (third : isContinuation c = true)
    (fourth : isContinuation d = true)
    (long
      : 0x10000
        ≤ a.toNat % 0x08 * 0x40000 + payload b * 0x1000 + payload c * 0x40 + payload d)
    (valid
      : a.toNat % 0x08 * 0x40000 + payload b * 0x1000 + payload c * 0x40 + payload d < 0x110000)
    : String.utf8EncodeChar
        (Char.ofNat
          (a.toNat % 0x08 * 0x40000 + payload b * 0x1000 + payload c * 0x40 + payload d))
      = [a, b, c, d] := by
  have lower : 0xf0 ≤ a.toNat := toNat_le_of_not_lt least
  have upper : a.toNat < 0xf5 := UInt8.lt_iff_toNat_lt.mp most
  have := toNat_of_isContinuation second
  have := toNat_of_isContinuation third
  have := toNat_of_isContinuation fourth
  unfold payload at long valid ⊢
  rw [String.utf8EncodeChar, val_ofNat (.inr ⟨by omega, by omega⟩), if_neg (by omega),
    if_neg (by omega), if_neg (by omega), @ofNat_eq _ a (by omega), @ofNat_eq _ b (by omega),
    @ofNat_eq _ c (by omega), @ofNat_eq _ d (by omega)]

/-- The character at the front of a text is written with the bytes that it is read from.
Witness: the first byte tells how many bytes follow, in reading as in writing.
-/
theorem front?_spec {s : Bytes} {c : Char} {size : Nat} (h : front? s = some (c, size))
    : 0 < size ∧ s.take size = String.utf8EncodeChar c := by
  unfold front? at h
  split at h
  · cases h
  split at h
  · rename_i one
    cases h
    exact ⟨Nat.one_pos, (encode_one one).symm⟩
  split at h
  · cases h
  rename_i least
  split at h
  · rename_i two
    split at h
    case h_2 => cases h
    split at h
    case isFalse => cases h
    rename_i tail
    cases h
    exact ⟨Nat.two_pos, (encode_two least two tail).symm⟩
  rename_i least
  split at h
  · rename_i three
    split at h
    case h_2 => cases h
    dsimp only at h
    split at h
    case isFalse => cases h
    rename_i tails
    cases h
    simp only [Bool.and_eq_true, decide_eq_true_eq, Bool.not_eq_true', Bool.and_eq_false_iff,
      decide_eq_false_iff_not] at tails
    obtain ⟨⟨⟨second, third⟩, long⟩, valid⟩ := tails
    refine ⟨Nat.succ_pos 2, (encode_three least three second third long ?_).symm⟩
    unfold Nat.isValidChar payload at *
    omega
  rename_i least
  split at h
  · rename_i four
    split at h
    case h_2 => cases h
    dsimp only at h
    split at h
    case isFalse => cases h
    rename_i tails
    cases h
    simp only [Bool.and_eq_true, decide_eq_true_eq] at tails
    obtain ⟨⟨⟨⟨second, third⟩, fourth⟩, long⟩, valid⟩ := tails
    exact ⟨Nat.succ_pos 3, (encode_four least four second third fourth long valid).symm⟩
  · cases h

/-- A character is written with its own number, or with bytes beyond ASCII only. -/
theorem mem_encode {c : Char} {b : Byte} (h : b ∈ String.utf8EncodeChar c)
    : (c.val.toNat < 0x80 ∧ b = UInt8.ofNat c.val.toNat) ∨ 0x80 ≤ b := by
  have beyond {n : Nat} (least : 0x80 ≤ n) (most : n < 0x100) : (0x80 : Byte) ≤ UInt8.ofNat n := by
    rw [UInt8.le_iff_toNat_le, UInt8.toNat_ofNat_of_lt' most]
    exact least
  unfold String.utf8EncodeChar at h
  dsimp only at h
  split at h
  · rw [List.mem_singleton] at h
    exact .inl ⟨by omega, h⟩
  · right
    split at h
    · simp only [List.mem_cons, List.not_mem_nil, or_false] at h
      rcases h with rfl | rfl <;> exact beyond (by omega) (by omega)
    · split at h
      · simp only [List.mem_cons, List.not_mem_nil, or_false] at h
        rcases h with rfl | rfl | rfl <;> exact beyond (by omega) (by omega)
      · simp only [List.mem_cons, List.not_mem_nil, or_false] at h
        rcases h with rfl | rfl | rfl | rfl <;> exact beyond (by omega) (by omega)

/-- Units spell the text that they are read from, but for the bytes of a unit before. -/
theorem spell_unitsFrom (skip : Nat) (s : Bytes) : spell (unitsFrom skip s) = s.drop skip := by
  fun_induction unitsFrom skip s with
  | case1 => simp [spell]
  | case2 skip b rest ih => exact ih
  | case3 b rest c size found ih =>
      obtain ⟨positive, written⟩ := front?_spec found
      obtain ⟨n, rfl⟩ : ∃ n, size = n + 1 := ⟨size - 1, by omega⟩
      rw [spell, List.flatMap_cons, ← spell, ih, Unit8.bytes, ← written, List.take_succ_cons,
        List.cons_append, Nat.add_sub_cancel, List.take_append_drop, List.drop_zero]
  | case4 b rest _ ih =>
      rw [spell, List.flatMap_cons, ← spell, ih]
      rfl

theorem spell_units (s : Bytes) : spell (units s) = s := spell_unitsFrom 0 s

end FormMigrate.Utf8
