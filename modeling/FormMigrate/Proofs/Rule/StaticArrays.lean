import FormMigrate.Builder.Arguments
import FormMigrate.Proofs.Literal.Arrays
import FormMigrate.Proofs.Text.Fold
import FormMigrate.Proofs.Text.Visible

/-! Static arrays among the arguments of a call: they look like literals, trimming leaves them as
they are, and only the array without entries is an empty one.
-/

namespace FormMigrate

--------------------------------------------------------------------------------
-- Visible bytes of arguments
--------------------------------------------------------------------------------

/-- The visible bytes of an argument that is an empty array are some of those of an empty array. -/
theorem CallSite.visible_of_isEmptyArray {v : Bytes} (empty : isEmptyArray v = true)
    : ((v.filter Byte.isVisible).map Byte.lower).Sublist "[]"
      ∨ ((v.filter Byte.isVisible).map Byte.lower).Sublist "array()" := by
  have kept
      : ((v.filter Byte.isVisible).map Byte.lower).Sublist (Bytes.lower (Bytes.compact v)) := by
    have compact := (Bytes.filter_isVisible_sublist_compact v).filter Byte.isVisible
    simp only [List.filter_filter, Bool.and_self] at compact
    exact (compact.map _).trans (Bytes.map_lower_sublist_lower _)
  simp only [isEmptyArray, Bool.or_eq_true, beq_iff_eq] at empty
  rcases empty with same | same
  · exact .inl (same ▸ kept)
  · exact .inr (same ▸ kept)

namespace Literal

--------------------------------------------------------------------------------
-- Edges of array literals
--------------------------------------------------------------------------------

theorem Blank.white {s : Bytes} (blank : Blank s) : Bytes.White s := .of_blanks blank

theorem isVisible_of_isPlainLetter {c : Byte} (plain : c.lower.isPlainLetter = true)
    : c.isVisible = true := by
  obtain ⟨-, -, visible, -, -, -, -, -, -, -, -, -, -, ascii⟩ := apart_of_isPlainLetter c plain
  exact Byte.isVisible_iff.mpr ⟨ascii, visible⟩

/-- The literal of an array starts and ends with visible bytes. -/
theorem SpellsArray.edges {s : Bytes} {parts : List (Item × Bytes)} (array : SpellsArray s parts)
    : ∃ c d,
        s.head? = some c ∧ s.getLast? = some d ∧ c.isVisible = true ∧ d.isVisible = true := by
  cases array with
  | @brackets inner parts inside =>
      have last : (0x5b :: (inner ++ [0x5d])).getLast? = some 0x5d := by
        rw [← List.cons_append]
        exact List.getLast?_concat
      exact ⟨0x5b, 0x5d, rfl, last, rfl, rfl⟩
  | @parentheses word gap inner parts names blank inside =>
      obtain ⟨c, rest, rfl⟩ : ∃ c rest, word = c :: rest := by
        refine List.exists_cons_of_ne_nil ?_
        rintro rfl
        cases names
      have plain := letters_of_array.1 c.lower (names ▸ List.mem_map_of_mem List.mem_cons_self)
      have last : c :: rest ++ (gap ++ 0x28 :: (inner ++ [0x29]))
          = c :: rest ++ (gap ++ 0x28 :: inner) ++ [0x29] := by simp
      exact ⟨c, 0x29, rfl, last ▸ List.getLast?_concat, isVisible_of_isPlainLetter plain, rfl⟩

/-- An expression with an array for its value is its literal once it is trimmed. -/
theorem Denotes.padded_array {expr : Bytes} {entries : Entries} (h : Denotes expr (.array entries))
    : ∃ front back,
        Blank front
        ∧ Spells (Bytes.trim expr) (.array entries)
        ∧ Blank back
        ∧ expr = front ++ (Bytes.trim expr ++ back) := by
  obtain ⟨front, s, back, before, spells, behind, rfl⟩ := h.padded
  obtain ⟨parts, array, -⟩ := spells.array
  obtain ⟨c, d, first, last, visible, visible'⟩ := array.edges
  have trimmed := Bytes.trim_padded before.white behind.white first last visible visible'
  exact ⟨front, back, before, trimmed.symm ▸ spells, behind, by rw [trimmed]⟩

/-- Trimming an expression with an array for its value keeps the value. -/
theorem evaluate_trim {expr : Bytes} {entries : Entries}
    (evaluated : evaluate expr = .ok (.array entries))
    : evaluate (Bytes.trim expr) = .ok (.array entries) := by
  have denotes := evaluate_eq_ok_iff.mp evaluated
  obtain ⟨front, back, before, spells, behind, padded⟩ := denotes.padded_array
  refine evaluate_eq_ok_iff.mpr (.of_spells (fun marker known => ?_) spells)
  have lowered := Bytes.lower_infix (fun c member => Byte.lt_of_isBlank (before c member))
    (fun c member => Byte.lt_of_isBlank (behind c member)) (Bytes.trim expr)
  rw [← padded] at lowered
  have static := denotes.static marker known
  rw [Bool.eq_false_iff, ne_eq, Bytes.occursIn_iff] at static ⊢
  exact fun occurs => static (occurs.trans lowered)

/-- What is trimmed to start with the literal of an array looks like a literal. -/
theorem SpellsArray.looksLiteral {s t behind : Bytes} {parts : List (Item × Bytes)}
    (array : SpellsArray s parts) (trimmed : Bytes.trim t = s ++ behind)
    : looksLiteral t = true := by
  rw [FormMigrate.looksLiteral, trimmed, Bool.or_eq_true]
  cases array with
  | brackets => exact .inl rfl
  | @parentheses word gap inner parts names blank inside =>
      have length : word.length = 5 := by
        rw [← Bytes.length_lowerAscii, names]
        rfl
      have opens
          : Bytes.startsWithFold "array" (word ++ (gap ++ 0x28 :: (inner ++ [0x29])) ++ behind)
            = true := by
        rw [Bytes.startsWithFold_iff, List.append_assoc]
        refine ⟨Bytes.lowerAscii (gap ++ 0x28 :: (inner ++ [0x29]) ++ behind), ?_⟩
        rw [Bytes.lowerAscii_append word, names]
        rfl
      have parenthesis : (Bytes.ofString "(").isPrefixOf
          (Bytes.trim ((word ++ (gap ++ 0x28 :: (inner ++ [0x29])) ++ behind).drop 5)) = true := by
        have rest : (word ++ (gap ++ 0x28 :: (inner ++ [0x29])) ++ behind).drop 5
            = gap ++ ([0x28] ++ (inner ++ [0x29] ++ behind)) := by
          rw [List.append_assoc, List.drop_left' length]
          simp
        rw [rest, Bytes.trim_append blank.white rfl rfl rfl rfl]
        exact List.isPrefixOf_iff_prefix.mpr (List.prefix_append _ _)
      rw [opens, parenthesis]
      exact .inr rfl

/-- Whatever evaluates to an array looks like a literal. -/
theorem looksLiteral_of_evaluate {expr : Bytes} {entries : Entries}
    (evaluated : evaluate expr = .ok (.array entries))
    : FormMigrate.looksLiteral expr = true := by
  obtain ⟨-, -, -, spells, -, -⟩ := (evaluate_eq_ok_iff.mp evaluated).padded_array
  obtain ⟨parts, array, -⟩ := spells.array
  exact array.looksLiteral (List.append_nil _).symm

/-- An entry has a visible byte, the first one of its value. -/
theorem SpellsEntry.visible {s value : Bytes} {item : Item} (h : SpellsEntry s item value)
    : ∃ c ∈ s, c.isVisible = true := by
  obtain ⟨c, rest, rfl, ascii, visible, -⟩ := h.value.head
  refine ⟨c, ?_, Byte.isVisible_iff.mpr ⟨ascii, visible⟩⟩
  cases h with
  | positional => simp
  | keyed => simp

theorem SpellsEntries.visible {s : Bytes} {parts : List (Item × Bytes)} (h : SpellsEntries s parts)
    (some : parts ≠ [])
    : ∃ c ∈ s, c.isVisible = true := by
  cases h with
  | none => exact (some rfl).elim
  | last spells => exact spells.visible
  | more spells behind =>
      obtain ⟨c, member, visible⟩ := spells.visible
      exact ⟨c, List.mem_append_left _ member, visible⟩

/-- An array literal that is an empty array has no entries: with entries it has more visible bytes.
-/
theorem SpellsArray.parts_of_isEmptyArray {s : Bytes} {parts : List (Item × Bytes)}
    (array : SpellsArray s parts) (empty : CallSite.isEmptyArray s = true)
    : parts = [] := by
  by_contra some
  have bytes := CallSite.visible_of_isEmptyArray empty
  cases array with
  | @brackets inner parts inside =>
      obtain ⟨c, member, visible⟩ := inside.visible some
      have shown : 0 < (inner.filter Byte.isVisible).length :=
        List.length_pos_of_mem (List.mem_filter.mpr ⟨member, visible⟩)
      have written : (0x5b :: (inner ++ [0x5d])).filter Byte.isVisible
          = 0x5b :: (inner.filter Byte.isVisible ++ [0x5d]) := by
        rw [List.filter_cons_of_pos rfl, List.filter_append]
        rfl
      rw [written] at bytes
      rcases bytes with short | other
      · have length := short.length_le
        simp only [List.length_map, List.length_cons, List.length_append, List.length_nil] at length
        have two : (Bytes.ofString "[]").length = 2 := rfl
        omega
      · have bracket : Byte.lower 0x5b ∈ Bytes.ofString "array()" :=
          other.subset (List.mem_map_of_mem List.mem_cons_self)
        revert bracket
        decide
  | @parentheses word gap inner parts names blank inside =>
      obtain ⟨c, member, visible⟩ := inside.visible some
      have shown : 0 < (inner.filter Byte.isVisible).length :=
        List.length_pos_of_mem (List.mem_filter.mpr ⟨member, visible⟩)
      have letters : word.filter Byte.isVisible = word := by
        refine List.filter_eq_self.mpr fun d inWord => isVisible_of_isPlainLetter ?_
        exact letters_of_array.1 _ (names ▸ List.mem_map_of_mem inWord)
      have length : word.length = 5 := by
        rw [← Bytes.length_lowerAscii, names]
        rfl
      have written : (word ++ (gap ++ 0x28 :: (inner ++ [0x29]))).filter Byte.isVisible
          = word
            ++ (gap.filter Byte.isVisible ++ 0x28 :: (inner.filter Byte.isVisible ++ [0x29])) := by
        rw [List.filter_append, List.filter_append, List.filter_cons_of_pos rfl, List.filter_append,
          letters]
        rfl
      have seven : (Bytes.ofString "array()").length = 7 := rfl
      have two : (Bytes.ofString "[]").length = 2 := rfl
      rw [written] at bytes
      rcases bytes with short | short <;>
      · have bound := short.length_le
        simp only [List.length_map, List.length_cons, List.length_append, List.length_nil] at bound
        omega

end Literal

end FormMigrate
