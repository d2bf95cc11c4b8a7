import FormMigrate.Proofs.Text.Utf8
import FormMigrate.Text.Blank
import FormMigrate.Text.Case

/-! Tables of case runs with no code point in common: upper case is the upper case of itself, and it
neither makes nor takes away white space.
-/

namespace FormMigrate

--------------------------------------------------------------------------------
-- Runs of code points
--------------------------------------------------------------------------------

namespace CaseRange

/-- The code points that a run leads to, as a run of the same steps. -/
def mapped (r : CaseRange) : CaseRange where
  first := (r.first + r.shift).toNat
  last := (r.last + r.shift).toNat
  stride := r.stride
  shift := 0

/-- The code points of a run. -/
def points (r : CaseRange) : List Nat :=
  List.range' r.first ((r.last - r.first) / r.stride + 1) r.stride

/-- The code points of all runs of a table, as the bits of one number. -/
def bits (table : List CaseRange) : Nat :=
  (table.flatMap points).foldr (fun n bits => 1 <<< n ||| bits) 0

theorem holds_iff {r : CaseRange} {n : Nat}
    : r.holds n = true ↔ (r.first ≤ n ∧ n ≤ r.last) ∧ (n - r.first) % r.stride = 0 := by
  rw [holds, Bool.and_eq_true, Bool.and_eq_true, decide_eq_true_eq, decide_eq_true_eq, beq_iff_eq]

theorem mem_points {r : CaseRange} {n : Nat} (inside : r.holds n = true) : n ∈ r.points := by
  obtain ⟨⟨least, most⟩, step⟩ := holds_iff.mp inside
  refine List.mem_range'.mpr ⟨(n - r.first) / r.stride, ?_, ?_⟩
  · exact Nat.lt_succ_of_le (Nat.div_le_div_right (Nat.sub_le_sub_right most r.first))
  · rw [Nat.mul_div_cancel' (Nat.dvd_of_mod_eq_zero step)]
    omega

/-- The bit of every code point that a run of the table holds is set. -/
theorem testBit_bits {table : List CaseRange} {r : CaseRange} (member : r ∈ table) {n : Nat}
    (inside : r.holds n = true)
    : (bits table).testBit n = true := by
  have listed : n ∈ table.flatMap points := List.mem_flatMap.mpr ⟨r, member, mem_points inside⟩
  rw [bits]
  generalize table.flatMap points = listing at listed ⊢
  induction listing with
  | nil => cases listed
  | cons m rest ih =>
      rw [List.foldr_cons, Nat.testBit_or, Bool.or_eq_true]
      rcases List.mem_cons.mp listed with rfl | behind
      · exact .inl (by simp)
      · exact .inr (ih behind)

/-- No code point stands in runs of two tables whose numbers have no bit in common. -/
theorem not_holds_of_bits {table other : List CaseRange} (clear : bits table &&& bits other = 0)
    {r s : CaseRange} (member : r ∈ table) (member' : s ∈ other) {n : Nat}
    (inside : r.holds n = true)
    : s.holds n = false := by
  rw [Bool.eq_false_iff]
  intro shared
  have both : (bits table &&& bits other).testBit n = true := by
    rw [Nat.testBit_and, testBit_bits member inside, testBit_bits member' shared]
    rfl
  rw [clear, Nat.zero_testBit] at both
  cases both

/-- A code point of a run is led to one of the mapped run. -/
theorem holds_mapped {r : CaseRange} (positive : 0 ≤ r.first + r.shift) {n : Nat}
    (inside : r.holds n = true)
    : r.mapped.holds (n + r.shift).toNat = true := by
  obtain ⟨⟨least, most⟩, step⟩ := holds_iff.mp inside
  have distance : (n + r.shift).toNat - (r.first + r.shift).toNat = n - r.first := by omega
  refine holds_iff.mpr ⟨⟨?_, ?_⟩, ?_⟩
  · show (r.first + r.shift).toNat ≤ _
    omega
  · show _ ≤ (r.last + r.shift).toNat
    omega
  · show ((n + r.shift).toNat - (r.first + r.shift).toNat) % r.stride = 0
    rw [distance, step]

/-- A code point in no run is its own image. -/
theorem image_of_not_holds {table : List CaseRange} {n : Nat}
    (outside : ∀ r ∈ table, r.holds n = false)
    : image table n = n := by
  rw [image, List.find?_eq_none.mpr fun r member => Bool.eq_false_iff.mp (outside r member)]

/-- Below all runs of a table but the first one, the image is the one by the first run. -/
theorem image_cons_of_lt {r : CaseRange} {rest : List CaseRange} {n : Nat}
    (below : ∀ s ∈ rest, n < s.first)
    : image (r :: rest) n = if r.holds n then (n + r.shift).toNat else n := by
  by_cases inside : r.holds n = true
  · rw [if_pos inside, image, List.find?_cons, inside]
  · have outside : ∀ s ∈ r :: rest, s.holds n = false := by
      refine List.forall_mem_cons.mpr ⟨Bool.eq_false_iff.mpr inside, fun s member => ?_⟩
      exact Bool.eq_false_iff.mpr fun held =>
        Nat.not_lt.mpr (holds_iff.mp held).1.1 (below s member)
    rw [image_of_not_holds outside, if_neg inside]

/-- A code point is its own image, or its image is the one by the run that it stands in. -/
theorem image_cases (table : List CaseRange) (n : Nat)
    : image table n = n
      ∨ ∃ r ∈ table, r.holds n = true ∧ image table n = (n + r.shift).toNat := by
  rw [image]
  cases found : table.find? (·.holds n) with
  | none => exact .inl rfl
  | some r =>
      have inside : r.holds n = true := List.find?_some (p := fun r => holds r n) found
      exact .inr ⟨r, List.mem_of_find?_eq_some found, inside, rfl⟩

/-- What no run leads to and no run holds is the image of itself alone. -/
theorem holds_image_iff {table others : List CaseRange}
    (positive : ∀ r ∈ table, 0 ≤ r.first + r.shift)
    (clear : bits (table.map mapped) &&& bits others = 0) (clear' : bits table &&& bits others = 0)
    {s : CaseRange} (other : s ∈ others) (n : Nat)
    : s.holds (image table n) = s.holds n := by
  rcases image_cases table n with same | ⟨r, member, inside, led⟩
  · rw [same]
  · rw [led, not_holds_of_bits clear' member other inside]
    exact not_holds_of_bits clear (List.mem_map_of_mem member) other
      (holds_mapped (positive r member) inside)

/-- Where no run leads into a run of the table, the image of an image is the image. -/
theorem image_image {table : List CaseRange} (positive : ∀ r ∈ table, 0 ≤ r.first + r.shift)
    (clear : bits (table.map mapped) &&& bits table = 0) (n : Nat)
    : image table (image table n) = image table n := by
  rcases image_cases table n with same | ⟨r, member, inside, led⟩
  · rw [same, same]
  · rw [led]
    have reached := holds_mapped (positive r member) inside
    exact image_of_not_holds fun s other =>
      not_holds_of_bits clear (List.mem_map_of_mem member) other reached

end CaseRange

--------------------------------------------------------------------------------
-- ASCII letters
--------------------------------------------------------------------------------

/-- Case mapping of a byte's character, where the table starts with the ASCII letters. -/
theorem char_image_ascii {r : CaseRange} {rest : List CaseRange} {each : Byte → Byte}
    (beyond : ∀ s ∈ rest, 0x80 ≤ s.first)
    (agree
      : ∀ b : Byte, b < 0x80
        → (if r.holds b.toNat then (b.toNat + r.shift).toNat else b.toNat) = (each b).toNat)
    {b : Byte} (ascii : b < 0x80)
    : Char.ofNat (CaseRange.image (r :: rest) (Char.ofNat b.toNat).toNat)
      = Char.ofNat (each b).toNat := by
  have small : b.toNat < 0x80 := UInt8.lt_iff_toNat_lt.mp ascii
  have code : (Char.ofNat b.toNat).toNat = b.toNat := Utf8.val_ofNat (.inl (by omega))
  rw [code, CaseRange.image_cons_of_lt fun s member => Nat.lt_of_lt_of_le small (beyond s member),
    agree b ascii]

set_option maxRecDepth 20000 in
/-- ASCII has the lower case of its bytes. -/
theorem lowerChar_ascii {b : Byte} (ascii : b < 0x80)
    : lowerChar (Char.ofNat b.toNat) = Char.ofNat b.lower.toNat :=
  char_image_ascii (r := lowerRanges.head (by decide)) (by decide) (by decide) ascii

set_option maxRecDepth 20000 in
/-- ASCII has the upper case of its bytes. -/
theorem upperChar_ascii {b : Byte} (ascii : b < 0x80)
    : upperChar (Char.ofNat b.toNat) = Char.ofNat b.upper.toNat :=
  char_image_ascii (r := upperRanges.head (by decide)) (by decide) (by decide) ascii

--------------------------------------------------------------------------------
-- Upper case
--------------------------------------------------------------------------------

set_option maxRecDepth 20000 in
theorem upperRanges_positive : ∀ r ∈ upperRanges, 0 ≤ r.first + r.shift := by decide

/-- The white space characters as runs. -/
def whiteRanges : List CaseRange := [
  ⟨0x09, 0x0d, 1, 0⟩, ⟨0x20, 0x20, 1, 0⟩, ⟨0x85, 0x85, 1, 0⟩, ⟨0xa0, 0xa0, 1, 0⟩,
  ⟨0x1680, 0x1680, 1, 0⟩, ⟨0x2000, 0x200a, 1, 0⟩, ⟨0x2028, 0x2029, 1, 0⟩, ⟨0x202f, 0x202f, 1, 0⟩,
  ⟨0x205f, 0x205f, 1, 0⟩, ⟨0x3000, 0x3000, 1, 0⟩]

/-- Upper case leads neither into a run of the table nor from or to white space. -/
theorem upperRanges_clear
    : CaseRange.bits (upperRanges.map .mapped) &&& CaseRange.bits upperRanges = 0
      ∧ CaseRange.bits (upperRanges.map .mapped) &&& CaseRange.bits whiteRanges = 0
      ∧ CaseRange.bits upperRanges &&& CaseRange.bits whiteRanges = 0 := by
  decide +kernel

theorem isWhiteSpace_eq (c : Char) : isWhiteSpace c = whiteRanges.any (·.holds c.toNat) := by
  rw [Bool.eq_iff_iff]
  simp [isWhiteSpace, whiteRanges, CaseRange.holds_iff, Nat.mod_one]
  omega

set_option maxRecDepth 20000 in
/-- Every run of the table leads to code points of characters. -/
theorem upperRanges_valid
    : ∀ r ∈ upperRanges,
        r.mapped.last < 0xd800 ∨ 0xdfff < r.mapped.first ∧ r.mapped.last < 0x110000 := by
  decide

/-- The upper case of a character is the image of its code point. -/
theorem toNat_upperChar (c : Char)
    : (upperChar c).toNat = CaseRange.image upperRanges c.toNat := by
  refine Utf8.val_ofNat ?_
  rcases CaseRange.image_cases upperRanges c.toNat with same | ⟨r, member, inside, led⟩
  · rw [same]
    exact c.valid
  · rw [led]
    have reached := CaseRange.holds_mapped (upperRanges_positive r member) inside
    obtain ⟨⟨least, most⟩, -⟩ := CaseRange.holds_iff.mp reached
    rcases upperRanges_valid r member with below | ⟨above, bound⟩
    · exact .inl (Nat.lt_of_le_of_lt most below)
    · exact .inr ⟨Nat.lt_of_lt_of_le above least, Nat.lt_of_le_of_lt most bound⟩

/-- Upper case is the upper case of itself. -/
theorem upperChar_upperChar (c : Char) : upperChar (upperChar c) = upperChar c := by
  rw [upperChar, toNat_upperChar, CaseRange.image_image upperRanges_positive upperRanges_clear.1]
  rfl

/-- Upper case neither makes nor takes away white space. -/
theorem isWhiteSpace_upperChar (c : Char) : isWhiteSpace (upperChar c) = isWhiteSpace c := by
  rw [isWhiteSpace_eq, isWhiteSpace_eq, toNat_upperChar]
  have kept : ∀ w ∈ whiteRanges,
      w.holds (CaseRange.image upperRanges c.toNat) = w.holds c.toNat := fun w white =>
    CaseRange.holds_image_iff upperRanges_positive upperRanges_clear.2.1 upperRanges_clear.2.2 white
      c.toNat
  rw [Bool.eq_iff_iff, List.any_eq_true, List.any_eq_true]
  exact exists_congr fun w => and_congr_right fun white => by rw [kept w white]

end FormMigrate
