import FormMigrate.Proofs.Rule.FormOpening
import FormMigrate.Proofs.Text.Uppercase

/-! What looks like an array literal and evaluates, evaluates to an array. -/

namespace FormMigrate

namespace Bytes

/-- Blanks behind white space are white space. -/
theorem White.append_blanks {w blanks : Bytes} (white : White w)
    (blank : ∀ c ∈ blanks, c.isBlank = true)
    : White (w ++ blanks) := by
  cases blanks with
  | nil => rwa [List.append_nil]
  | cons c rest =>
      have first : c < 0x80 := Byte.lt_of_isBlank (blank c List.mem_cons_self)
      have alone := White.of_blanks blank
      rw [White, ← List.nil_append (c :: rest), Utf8.units_append_ascii [] first] at alone
      rw [White, Utf8.units_append_ascii w first, List.forall_mem_append]
      exact ⟨white, alone⟩

/-- The first visible byte behind white space is found wherever the white space is said to end. -/
theorem white_cancel {w w' rest rest' : Bytes} {c c' : Byte} (white : White w) (white' : White w')
    (visible : c.isVisible = true) (visible' : c'.isVisible = true)
    (same : w ++ c :: rest = w' ++ c' :: rest')
    : c = c' := by
  have units := dropWhile_units white visible rest
  rw [same, dropWhile_units white' visible'] at units
  exact (List.cons.inj (units_injective units)).1.symm

end Bytes

namespace Literal

/-- Bytes that only array literals start with. -/
def opensArray (c : Byte) : Bool := c == 0x5b || c.lower == 0x61

theorem opensArray_cases {c : Byte} (opens : opensArray c = true)
    : c = 0x5b ∨ c = 0x61 ∨ c = 0x41 := by
  grind [opensArray, Byte.lower]

theorem isVisible_of_opensArray {c : Byte} (opens : opensArray c = true) : c.isVisible = true := by
  rcases opensArray_cases opens with rfl | rfl | rfl <;> rfl

theorem not_startsNumber_of_opensArray {c : Byte} (opens : opensArray c = true) (rest : Bytes)
    : startsNumber (c :: rest) = false := by
  rcases opensArray_cases opens with rfl | rfl | rfl <;> rfl

/-- No constant starts like an array literal. -/
theorem constant?_of_opensArray {c : Byte} (opens : opensArray c = true) (rest : Bytes)
    : constant? (Bytes.lowerAscii (c :: rest)) = none := by
  obtain ⟨t, f, n⟩ : c.lower ≠ 0x74 ∧ c.lower ≠ 0x66 ∧ c.lower ≠ 0x6e := by
    rcases opensArray_cases opens with rfl | rfl | rfl <;> decide
  have other {d : Byte} {word : Bytes} (apart : c.lower ≠ d)
      : (Bytes.lowerAscii (c :: rest) == d :: word) = false :=
    beq_false_of_ne fun same => apart (List.cons.inj same).1
  rw [constant?, show Bytes.ofString "true" = 0x74 :: _ from rfl,
    show Bytes.ofString "false" = 0x66 :: _ from rfl,
    show Bytes.ofString "null" = 0x6e :: _ from rfl, other t, other f, other n]
  rfl

/-- A literal that starts like an array literal is one, by the cases of literals. -/
theorem Spells.array_of_opensArray {c : Byte} {rest s : Bytes} {v : Value} (spells : Spells s v)
    (first : s = c :: rest) (opens : opensArray c = true)
    : ∃ entries, v = .array entries := by
  cases spells with
  | single =>
      obtain ⟨rfl, -⟩ := List.cons.inj first
      cases opens
  | double =>
      obtain ⟨rfl, -⟩ := List.cons.inj first
      cases opens
  | word names =>
      rw [first, constant?_of_opensArray opens] at names
      cases names
  | numeral starts =>
      rw [first, not_startsNumber_of_opensArray opens] at starts
      cases starts
  | brackets | parentheses => exact ⟨_, rfl⟩

/-- What looks like an array literal starts like one, behind white space. -/
theorem opensArray_of_looksLiteral {expr : Bytes} (looks : looksLiteral expr = true)
    : ∃ front c rest, Bytes.White front ∧ opensArray c = true ∧ expr = front ++ c :: rest := by
  obtain ⟨front, back, white, -, parts⟩ := Bytes.trim_parts expr
  obtain ⟨c, rest, opens, trimmed⟩
      : ∃ c rest, opensArray c = true ∧ Bytes.trim expr = c :: rest := by
    rw [looksLiteral, Bool.or_eq_true] at looks
    rcases looks with bracket | word
    · obtain ⟨rest, trimmed⟩ := List.isPrefixOf_iff_prefix.mp bracket
      exact ⟨0x5b, rest, rfl, trimmed.symm⟩
    · rw [Bool.and_eq_true, Bytes.startsWithFold_iff] at word
      obtain ⟨more, lowered⟩ := word.1
      cases trimmed : Bytes.trim expr with
      | nil =>
          rw [trimmed] at lowered
          cases lowered
      | cons c rest =>
          rw [trimmed] at lowered
          have letter : 0x61 = c.lower := (List.cons.inj lowered).1
          refine ⟨c, rest, ?_, rfl⟩
          rw [opensArray, ← letter]
          exact Bool.or_true _
  rw [trimmed] at parts
  exact ⟨front, c, rest ++ back, white, opens, parts.trans (List.append_assoc _ _ _)⟩

/-- Whatever evaluates at the front of what looks like an array literal is an array. -/
theorem array_of_looksLiteral {inner front expr back : Bytes} {v : Value}
    (looks : looksLiteral inner = true) (white : Bytes.White front)
    (parts : inner = front ++ (expr ++ back)) (evaluated : evaluate expr = .ok v)
    : ∃ entries, v = .array entries := by
  obtain ⟨ahead, c, rest, white', opens, same⟩ := opensArray_of_looksLiteral looks
  obtain ⟨blanks, s, behind, blank, spells, -, rfl⟩ := (evaluate_eq_ok_iff.mp evaluated).padded
  obtain ⟨d, tail, rfl, ascii, visible, -⟩ := spells.head
  have first : front ++ blanks ++ d :: (tail ++ (behind ++ back)) = ahead ++ c :: rest := by
    rw [← same, parts]
    simp
  obtain rfl := Bytes.white_cancel (white.append_blanks blank) white'
    (Byte.isVisible_iff.mpr ⟨ascii, visible⟩) (isVisible_of_opensArray opens) first
  exact spells.array_of_opensArray rfl opens

end Literal

end FormMigrate
