import FormMigrate.Proofs.Text.Encoding
import FormMigrate.Text.Blank
import Mathlib.Data.List.DropRight

/-! Trimmed texts: units that stand together are read alike on their own, so that there is nothing
more to trim.
-/

namespace FormMigrate

namespace Utf8

/-- A character in front is read whatever follows it. -/
theorem front?_append {s : Bytes} {c : Char} {size : Nat} (h : front? s = some (c, size)) (t : Bytes)
    : (front? (s ++ t)).isSome = true := by
  have whole : s ++ t = String.utf8EncodeChar c ++ (s.drop size ++ t) := by
    rw [← (front?_spec h).2, ← List.append_assoc, List.take_append_drop]
  rw [whole, front?_encode]
  rfl

/-- A text that is not empty starts with a character or with a stray byte. -/
theorem units_cases {s : Bytes} (some : s ≠ [])
    : (∃ c rest, s = String.utf8EncodeChar c ++ rest)
      ∨ ∃ b rest, s = b :: rest ∧ front? s = none := by
  cases front : front? s with
  | none =>
      obtain ⟨b, rest, rfl⟩ := List.exists_cons_of_ne_nil some
      exact .inr ⟨b, rest, rfl, rfl⟩
  | some read =>
      obtain ⟨c, size⟩ := read
      refine .inl ⟨c, s.drop size, ?_⟩
      rw [← (front?_spec front).2, List.take_append_drop]

theorem units_stray {b : Byte} {rest : Bytes} (none : front? (b :: rest) = none)
    : units (b :: rest) = .stray b :: units rest := by
  rw [units, unitsFrom, none]
  rfl

theorem spell_append (us vs : List Unit8) : spell (us ++ vs) = spell us ++ spell vs :=
  List.flatMap_append

/-- Units on either side of a cut are read alike on their own.
Witness: induction on the units before the cut. A stray byte stays one where less follows it.
-/
theorem units_spell_append {s : Bytes} {us vs : List Unit8} (h : units s = us ++ vs)
    : units (spell us) = us ∧ units (spell vs) = vs := by
  have written : s = spell us ++ spell vs := by rw [← spell_units s, h, spell_append]
  induction us generalizing s with
  | nil =>
      refine ⟨rfl, ?_⟩
      rw [show spell vs = s from written.symm, h]
      rfl
  | cons u us ih =>
      have some : s ≠ [] := by
        rintro rfl
        cases h
      rcases units_cases some with ⟨c, rest, rfl⟩ | ⟨b, rest, rfl, none⟩
      · rw [units_encodeChar, List.cons_append, List.cons.injEq] at h
        obtain ⟨rfl, later⟩ := h
        obtain ⟨front, behind⟩ := ih later (by rw [← spell_units rest, later, spell_append])
        refine ⟨?_, behind⟩
        rw [show spell (.char c :: us) = String.utf8EncodeChar c ++ spell us from rfl,
          units_encodeChar, front]
      · rw [units_stray none, List.cons_append, List.cons.injEq] at h
        obtain ⟨rfl, later⟩ := h
        have parts : rest = spell us ++ spell vs := by rw [← spell_units rest, later, spell_append]
        obtain ⟨front, behind⟩ := ih later parts
        have stays : front? (b :: spell us) = .none := by
          cases read : front? (b :: spell us) with
          | none => rfl
          | some found =>
              have longer := front?_append read (spell vs)
              rw [List.cons_append, ← parts, none] at longer
              cases longer
        refine ⟨?_, behind⟩
        rw [show spell (.stray b :: us) = b :: spell us from rfl, units_stray stays, front]

end Utf8

namespace Bytes

/-- The units of a trimmed text are what is left of those of the text. -/
theorem units_trim (s : Bytes)
    : Utf8.units (trim s)
      = ((Utf8.units s).dropWhile Unit8.isWhiteSpace).rdropWhile Unit8.isWhiteSpace := by
  obtain ⟨ahead, front⟩ := List.dropWhile_suffix (l := Utf8.units s) Unit8.isWhiteSpace
  have kept := (Utf8.units_spell_append front.symm).2
  obtain ⟨behind, back⟩ :=
    List.rdropWhile_prefix Unit8.isWhiteSpace (l := (Utf8.units s).dropWhile Unit8.isWhiteSpace)
  exact (Utf8.units_spell_append (kept.trans back.symm)).1

/-- A trimmed text has nothing to trim.
Witness: its first unit is the one that trimming the front stopped at.
-/
theorem trim_trim (s : Bytes) : trim (trim s) = trim s := by
  have stopped := List.dropWhile_idempotent (p := Unit8.isWhiteSpace) (l := Utf8.units s)
  have front
      : (Utf8.units (trim s)).dropWhile Unit8.isWhiteSpace = Utf8.units (trim s) := by
    rw [units_trim]
    generalize (Utf8.units s).dropWhile Unit8.isWhiteSpace = us at stopped
    obtain ⟨behind, back⟩ := List.rdropWhile_prefix Unit8.isWhiteSpace (l := us)
    cases kept : us.rdropWhile Unit8.isWhiteSpace with
    | nil => rfl
    | cons u rest =>
        rw [kept, List.cons_append] at back
        refine List.dropWhile_cons_of_neg fun white => ?_
        have shorter := (List.dropWhile_suffix (l := rest ++ behind) Unit8.isWhiteSpace).length_le
        rw [← back, List.dropWhile_cons_of_pos white] at stopped
        rw [stopped, List.length_cons] at shorter
        omega
  have back : (Utf8.units (trim s)).rdropWhile Unit8.isWhiteSpace = Utf8.units (trim s) := by
    rw [units_trim, List.rdropWhile_idempotent]
  calc trim (trim s)
      = Utf8.spell
          (((Utf8.units (trim s)).dropWhile Unit8.isWhiteSpace).rdropWhile Unit8.isWhiteSpace) :=
        rfl
    _ = trim s := by rw [front, back, Utf8.spell_units]

end Bytes

end FormMigrate
