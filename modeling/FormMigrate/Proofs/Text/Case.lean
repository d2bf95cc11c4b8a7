import FormMigrate.Proofs.Text.Utf8
import FormMigrate.Text.Case

/-! Words of ASCII letters in any case. No character beyond ASCII has one of them for its lower
case, but for the letters i and k.
-/

namespace FormMigrate

/-- Lower-case letters that are the lower case of ASCII letters only. -/
def Byte.isPlainLetter (c : Byte) : Bool := 0x61 ≤ c && c ≤ 0x7a && c != 0x69 && c != 0x6b

/-- Runs beyond ASCII map to code points beyond ASCII, but for one to the letter i and one to the
letter k.
-/
theorem lowerRanges_beyond
    : ∀ r ∈ lowerRanges,
        r.last < 0x80
        ∨ 0x80 ≤ r.first + r.shift
        ∨ r.first = r.last ∧ (r.first + r.shift = 0x69 ∨ r.first + r.shift = 0x6b) := by
  decide +kernel

theorem lower_image_beyond {n : Nat} (beyond : 0x80 ≤ n)
    : 0x80 ≤ CaseRange.image lowerRanges n
      ∨ CaseRange.image lowerRanges n = 0x69
      ∨ CaseRange.image lowerRanges n = 0x6b := by
  unfold CaseRange.image
  split
  · rename_i r found
    have member := List.mem_of_find?_eq_some found
    have holds := List.find?_some found
    simp only [CaseRange.holds, Bool.and_eq_true, decide_eq_true_eq] at holds
    rcases lowerRanges_beyond r member with low | high | ⟨one, image⟩
    · omega
    · omega
    · omega
  · exact .inl beyond

theorem not_isPlainLetter_of_le : ∀ c : Byte, 0x80 ≤ c → c.isPlainLetter = false := by
  decide

/-- The lower case of a character beyond ASCII holds no plain letter. -/
theorem lowerChar_beyond {c : Char} (beyond : 0x80 ≤ c.toNat) {b : Byte}
    (h : b ∈ String.utf8EncodeChar (lowerChar c))
    : b.isPlainLetter = false := by
  rcases Utf8.mem_encode h with ⟨ascii, rfl⟩ | high
  · have image := lower_image_beyond beyond
    unfold lowerChar at ascii ⊢
    by_cases valid : (CaseRange.image lowerRanges c.toNat).isValidChar
    · rw [Utf8.val_ofNat valid] at ascii ⊢
      rcases image with high | i | k
      · omega
      · rw [i]
        decide
      · rw [k]
        decide
    · rw [Char.ofNat, dif_neg valid]
      decide
  · exact not_isPlainLetter_of_le b high

theorem toNat_beyond_of_mem_encode {c : Char} {b : Byte} (h : b ∈ String.utf8EncodeChar c)
    (beyond : 0x80 ≤ b)
    : 0x80 ≤ c.toNat := by
  refine Nat.not_lt.mp fun ascii => ?_
  have one : c.val.toNat ≤ 0x7f := Nat.le_of_lt_succ ascii
  have byte : c.val.toNat < UInt8.size := Nat.lt_of_le_of_lt one (by decide)
  rw [String.utf8EncodeChar, if_pos one, List.mem_singleton] at h
  rw [h, UInt8.le_iff_toNat_le, UInt8.toNat_ofNat_of_lt' byte] at beyond
  exact absurd one (Nat.not_le_of_lt beyond)

/-- A text beyond ASCII has a character beyond ASCII. -/
theorem exists_char_beyond {s : Bytes} (h : Bytes.isAscii s = false)
    : ∃ c ∈ Utf8.chars s, 0x80 ≤ c.toNat := by
  obtain ⟨b, member, high⟩ := List.all_eq_false.mp h
  have beyond : 0x80 ≤ b := by simpa using high
  rw [← Utf8.spell_units s] at member
  obtain ⟨u, inside, byte⟩ := List.mem_flatMap.mp member
  cases u with
  | char c =>
      exact ⟨c, List.mem_map.mpr ⟨_, inside, rfl⟩, toNat_beyond_of_mem_encode byte beyond⟩
  | stray b => exact ⟨Utf8.replacement, List.mem_map.mpr ⟨_, inside, rfl⟩, by decide⟩

/-- A word of plain letters is the lower case of its ASCII variants only. -/
theorem Bytes.lower_eq_iff {s word : Bytes} (letters : ∀ c ∈ word, c.isPlainLetter = true)
    : Bytes.lower s = word ↔ Bytes.lowerAscii s = word := by
  cases ascii : Bytes.isAscii s with
  | true => rw [Bytes.lower, if_pos ascii, Bytes.lowerAscii]
  | false =>
      obtain ⟨c, inside, beyond⟩ := exists_char_beyond ascii
      constructor
      · intro same
        have shown : ∃ b, b ∈ String.utf8EncodeChar (lowerChar c) := by
          exact List.exists_mem_of_ne_nil _ String.utf8EncodeChar_ne_nil
        obtain ⟨b, byte⟩ := shown
        have member : b ∈ word := by
          rw [← same, Bytes.lower, ascii, if_neg (by decide)]
          exact List.mem_flatMap.mpr ⟨_, List.mem_map.mpr ⟨c, inside, rfl⟩, byte⟩
        exact absurd (letters b member) (by rw [lowerChar_beyond beyond byte]; decide)
      · intro same
        obtain ⟨b, member, high⟩ := List.all_eq_false.mp ascii
        have image : b.lower ∈ word := same ▸ List.mem_map.mpr ⟨b, member, rfl⟩
        have kept : ∀ b : Byte, ¬ b < 0x80 → b.lower.isPlainLetter = false := by decide
        have := letters _ image
        rw [kept b (by simpa using high)] at this
        cases this

end FormMigrate
