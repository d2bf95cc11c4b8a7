import FormMigrate.Proofs.Text.Encoding
import FormMigrate.Text.Clip
import Mathlib.Data.List.Basic

/-! Clipping a text keeps the longest start of it, within a number of bytes, that ends with a
complete character. In a text of characters these are the starts that divide none of them.
-/

namespace FormMigrate

--------------------------------------------------------------------------------
-- Characters inside a text
--------------------------------------------------------------------------------

namespace Utf8

/-- A text that ends with a complete character, or has no end. -/
def EndsWhole (s : Bytes) : Prop := s = [] ∨ ∃ c, String.utf8EncodeChar c <:+ s

/-- A character at the front of a text is the one that the text starts with. -/
theorem eq_of_encodeChar_start {c d : Char} {rest : Bytes}
    (h : String.utf8EncodeChar c <+: String.utf8EncodeChar d ++ rest)
    : c = d := by
  obtain ⟨more, whole⟩ := h
  have read := front?_encode c more
  rw [whole, front?_encode] at read
  exact (congrArg Prod.fst (Option.some.inj read)).symm

/-- No character starts inside another one, whose bytes behind the first only continue it. -/
theorem le_length_of_encodeChar_start {front rest : Bytes} {c d : Char} (some : front ≠ [])
    (h : front ++ String.utf8EncodeChar c <+: String.utf8EncodeChar d ++ rest)
    : (String.utf8EncodeChar d).length ≤ front.length := by
  refine Nat.le_of_not_lt fun inside => ?_
  obtain ⟨b, front, rfl⟩ := List.exists_cons_of_ne_nil some
  obtain ⟨lead, tail, shape, leads, -⟩ := encode_shape c
  obtain ⟨first, more, shape', -, continues⟩ := encode_shape d
  have started : b :: front ++ [lead] <+: b :: front ++ String.utf8EncodeChar c := by
    rw [shape, List.prefix_append_right_inj]
    exact List.prefix_append [lead] tail
  have within : b :: front ++ [lead] <+: String.utf8EncodeChar d := by
    refine List.prefix_of_prefix_length_le (started.trans h) (List.prefix_append _ rest) ?_
    rw [List.length_append, List.length_singleton]
    exact inside
  rw [shape', List.cons_append, List.cons_prefix_cons] at within
  have member : lead ∈ more := within.2.subset (List.mem_append_right front (.head _))
  rw [continues lead member] at leads
  cases leads

/-- A text of characters has a character of its own wherever the bytes of one stand in it.
Witness: induction on its characters. What stands before takes in the first one whole, or is empty.
-/
theorem exists_take_of_start {cs : List Char} {front : Bytes} {c : Char}
    (h : front ++ String.utf8EncodeChar c <+: encode cs)
    : ∃ k, encode (cs.take k) = front ++ String.utf8EncodeChar c := by
  induction cs generalizing front with
  | nil =>
      have empty := List.prefix_nil.mp h
      simp at empty
  | cons d ds ih =>
      have first : encode (d :: ds) = String.utf8EncodeChar d ++ encode ds := List.flatMap_cons
      rw [first] at h
      by_cases empty : front = []
      · subst empty
        obtain rfl := eq_of_encodeChar_start h
        refine ⟨1, ?_⟩
        exact List.flatMap_singleton _ c
      · have long := le_length_of_encodeChar_start empty h
        obtain ⟨behind, rfl⟩ := List.prefix_of_prefix_length_le (List.prefix_append _ (encode ds))
          ((List.prefix_append front _).trans h) long
        rw [List.append_assoc, List.prefix_append_right_inj] at h
        obtain ⟨k, kept⟩ := ih h
        refine ⟨k + 1, ?_⟩
        rw [List.take_succ_cons, List.append_assoc, ← kept]
        exact List.flatMap_cons

theorem EndsWhole.exists_take {cs : List Char} {start : Bytes} (whole : EndsWhole start)
    (h : start <+: encode cs)
    : ∃ k, encode (cs.take k) = start := by
  rcases whole with rfl | ⟨c, front, rfl⟩
  · exact ⟨0, rfl⟩
  · exact exists_take_of_start h

theorem endsWhole_encode (cs : List Char) : EndsWhole (encode cs) := by
  rcases List.eq_nil_or_concat' cs with rfl | ⟨front, c, rfl⟩
  · exact .inl rfl
  · refine .inr ⟨c, encode front, ?_⟩
    rw [encode_append]
    exact congrArg (encode front ++ ·) (List.flatMap_singleton _ c).symm

theorem encode_take_start (cs : List Char) (k : Nat) : encode (cs.take k) <+: encode cs := by
  refine ⟨encode (cs.drop k), ?_⟩
  rw [← encode_append, List.take_append_drop]

end Utf8

namespace Bytes

open Utf8

--------------------------------------------------------------------------------
-- Partial characters
--------------------------------------------------------------------------------

/-- Looking back from the end of a text finds every character that is complete there, and nothing
else.
-/
theorem endsInCharacter_reverse (s : Bytes)
    : endsInCharacter s.reverse = true ↔ ∃ c, String.utf8EncodeChar c <:+ s := by
  have back (size : Nat) : (s.reverse.take size).reverse = s.drop (s.length - size) := by
    rw [List.take_reverse, List.reverse_reverse]
  simp only [endsInCharacter, back, List.any_eq_true, Bool.and_eq_true, decide_eq_true_eq,
    Option.any_eq_true, beq_iff_eq, List.length_reverse, Prod.exists]
  constructor
  · rintro ⟨size, -, fits, c, width, read, rfl⟩
    have spelled := (front?_spec read).2
    rw [List.take_of_length_le (by rw [List.length_drop]; omega)] at spelled
    exact ⟨c, spelled ▸ List.drop_suffix _ s⟩
  · rintro ⟨c, front, rfl⟩
    have size : (String.utf8EncodeChar c).length = c.utf8Size := String.length_utf8EncodeChar c
    have least := c.utf8Size_pos
    have most := c.utf8Size_le_four
    have read := front?_encode c []
    rw [List.append_nil] at read
    refine ⟨(String.utf8EncodeChar c).length, ?_, ?_, c, _, ?_, rfl⟩
    · simp only [size, List.mem_cons, List.not_mem_nil, or_false]
      omega
    · rw [List.length_append]
      exact Nat.le_add_left _ _
    · rw [List.length_append, Nat.add_sub_cancel, List.drop_left, read]

/-- What is kept ends whole, and so does no longer start of the text.
Witness: induction on the reversed text, of which a byte is dropped only where no character ends.
-/
theorem dropPartial_longest (reversed : Bytes)
    : EndsWhole (dropPartial reversed).reverse
      ∧ dropPartial reversed <:+ reversed
      ∧ ∀ start : Bytes,
          EndsWhole start → start.reverse <:+ reversed → start.reverse <:+ dropPartial reversed := by
  fun_induction dropPartial reversed with
  | case1 => exact ⟨.inl rfl, List.suffix_rfl, fun _ _ within => within⟩
  | case2 b rest ends =>
      rw [← List.reverse_reverse (b :: rest), endsInCharacter_reverse] at ends
      exact ⟨.inr ends, List.suffix_rfl, fun _ _ within => within⟩
  | case3 b rest ends ih =>
      obtain ⟨whole, suffix, longest⟩ := ih
      refine ⟨whole, suffix.trans (List.suffix_cons b rest), fun start startWhole within => ?_⟩
      rcases List.suffix_cons_iff.mp within with all | within
      · rw [← all, endsInCharacter_reverse] at ends
        rcases startWhole with rfl | found
        · cases all
        · exact absurd found ends
      · exact longest start startWhole within

--------------------------------------------------------------------------------
-- Clipped texts
--------------------------------------------------------------------------------

/-- What a text is clipped to, for a number of bytes. -/
structure Clips (s : Bytes) (n : Nat) (clipped : Bytes) : Prop where
  start : clipped <+: s
  short : clipped.length ≤ n
  /-- A text that fits is kept as it is. -/
  fitting : s.length ≤ n → clipped = s
  /-- A text that was cut does not end in a byte that completes no character. -/
  ends : clipped.length < s.length → EndsWhole clipped
  /-- No longer start fits and ends whole. -/
  longest : ∀ start, start <+: s → start.length ≤ n → EndsWhole start → start <+: clipped

/-- What characters are clipped to, for a number of bytes: as many of them as fit. -/
structure ClipsCharacters (cs : List Char) (n : Nat) (clipped : Bytes) : Prop where
  kept : ∃ k, encode (cs.take k) = clipped
  longest : ∀ k, (encode (cs.take k)).length ≤ n → encode (cs.take k) <+: clipped

theorem clip_clips (s : Bytes) (n : Nat) : Clips s n (clip s n) := by
  unfold clip
  split
  · rename_i fits
    exact {
      start := List.prefix_rfl
      short := fits
      fitting := fun _ => rfl
      ends := fun cut => absurd cut (Nat.lt_irrefl _)
      longest := fun _ within _ _ => within }
  · rename_i long
    obtain ⟨whole, suffix, longest⟩ := dropPartial_longest (s.take n).reverse
    have kept : (dropPartial (s.take n).reverse).reverse <+: s.take n := by
      rw [← List.reverse_suffix, List.reverse_reverse]
      exact suffix
    have front : s.take n <+: s := List.take_prefix n s
    exact {
      start := kept.trans front
      short := Nat.le_trans kept.length_le (List.length_take_le n s)
      fitting := fun fits => absurd fits long
      ends := fun _ => whole
      longest := by
        intro start within fits ends
        have taken : start <+: s.take n := List.prefix_take_iff.mpr ⟨within, fits⟩
        rw [← List.reverse_suffix, List.reverse_reverse]
        exact longest start ends (List.reverse_suffix.mpr taken) }

/-- The starts of a text of characters that end whole are those that end between its characters. -/
theorem Clips.characters {cs : List Char} {n : Nat} {clipped : Bytes}
    (clips : Clips (encode cs) n clipped)
    : ClipsCharacters cs n clipped where
  kept := by
    by_cases cut : clipped.length < (encode cs).length
    · exact (clips.ends cut).exists_take clips.start
    · have same := clips.start.eq_of_length_le (Nat.le_of_not_lt cut)
      refine ⟨cs.length, ?_⟩
      rw [List.take_length, same]
  longest := fun k fits => clips.longest _ (encode_take_start cs k) fits (endsWhole_encode _)

/-- A text is clipped to the longest start that fits and divides no character, and what was clipped
stays as it is.
-/
theorem clip_longest (s : Bytes) {n : Int} (nonneg : 0 ≤ n)
    : ∃ clipped,
        clip? s n = some clipped
        ∧ Clips s n.toNat clipped
        ∧ (Valid s → Valid clipped)
        ∧ (∀ cs, encode cs = s → ClipsCharacters cs n.toNat clipped)
        ∧ clip? clipped n = some clipped := by
  have defined (t : Bytes) : clip? t n = some (clip t n.toNat) := if_neg (Int.not_lt.mpr nonneg)
  have clips := clip_clips s n.toNat
  have characters (cs : List Char) (spelled : encode cs = s)
      : ClipsCharacters cs n.toNat (clip s n.toNat) := by
    subst spelled
    exact clips.characters
  refine ⟨clip s n.toNat, defined s, clips, fun valid => ?_, characters, ?_⟩
  · obtain ⟨cs, spelled⟩ := valid_iff.mp valid
    obtain ⟨k, kept⟩ := (characters cs spelled).kept
    exact valid_iff.mpr ⟨cs.take k, kept⟩
  · rw [defined, (clip_clips _ n.toNat).fitting clips.short]

/-- The last of three characters does not fit, and the one before it is the replacement character.
-/
theorem clip_longest_divided
    : 0 ≤ (8 : Int)
      ∧ clip? "é\ufffd😀" 8 = some "é\ufffd"
      ∧ Clips "é\ufffd😀" 8 "é\ufffd"
      ∧ Valid "é\ufffd"
      ∧ ClipsCharacters ['é', '\ufffd', '😀'] 8 "é\ufffd"
      ∧ clip? "é\ufffd" 8 = some "é\ufffd" := by
  have nonneg : 0 ≤ (8 : Int) := by decide
  have cut : clip? "é\ufffd😀" 8 = some "é\ufffd" := by decide
  obtain ⟨clipped, defined, clips, valid, characters, again⟩ := clip_longest "é\ufffd😀" nonneg
  obtain rfl := Option.some.inj (defined.symm.trans cut)
  exact ⟨nonneg, cut, clips, valid (by decide), characters _ (by decide), again⟩

end Bytes

end FormMigrate
