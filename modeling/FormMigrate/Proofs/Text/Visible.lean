import FormMigrate.Proofs.Text.CaseRange
import FormMigrate.Proofs.Text.Trim
import FormMigrate.Text.Case

/-! Visible ASCII bytes: trimming stops at them, and neither taking white space away nor lower case
loses one.
-/

namespace FormMigrate

--------------------------------------------------------------------------------
-- Units and ASCII bytes
--------------------------------------------------------------------------------

/-- ASCII bytes that are no blank. -/
def Byte.isVisible (c : Byte) : Bool := c < 0x80 && !c.isBlank

theorem Byte.isVisible_iff {c : Byte} : c.isVisible = true ↔ c < 0x80 ∧ c.isBlank = false := by
  rw [isVisible, Bool.and_eq_true, decide_eq_true_eq, Bool.not_eq_true']

theorem Byte.lt_of_isVisible {c : Byte} (visible : c.isVisible = true) : c < 0x80 :=
  (isVisible_iff.mp visible).1

namespace Utf8

/-- A stray byte is beyond ASCII. -/
theorem le_of_front?_eq_none {b : Byte} {rest : Bytes} (none : front? (b :: rest) = none)
    : 0x80 ≤ b := by
  by_contra beyond
  have ascii : b < 0x80 := UInt8.not_le.mp beyond
  have read := front?_encode (Char.ofNat b.toNat) rest
  rw [encode_one ascii, List.singleton_append, none] at read
  cases read

/-- What holds of the empty text and is kept by a character or a stray byte in front holds of every
text, by induction on its units.
-/
@[elab_as_elim]
theorem unitsInduction {motive : Bytes → Prop} (nil : motive [])
    (char : ∀ c rest, motive rest → motive (String.utf8EncodeChar c ++ rest))
    (stray : ∀ b rest, front? (b :: rest) = none → motive rest → motive (b :: rest)) (s : Bytes)
    : motive s := by
  generalize read : units s = us
  induction us generalizing s with
  | nil =>
      have empty : s = [] := by rw [← spell_units s, read]; rfl
      exact empty ▸ nil
  | cons u us ih =>
      have some : s ≠ [] := by
        rintro rfl
        cases read
      rcases units_cases some with ⟨c, rest, rfl⟩ | ⟨b, rest, rfl, none⟩
      · rw [units_encodeChar, List.cons.injEq] at read
        exact char c rest (ih rest read.2)
      · rw [units_stray none, List.cons.injEq] at read
        exact stray b rest none (ih rest read.2)

/-- An ASCII byte belongs to no character that a byte beyond ASCII starts. -/
theorem front?_append_ascii {b : Byte} {s : Bytes} (none : front? (b :: s) = none) {c : Byte}
    (ascii : c < 0x80) (rest : Bytes)
    : front? (b :: s ++ c :: rest) = .none := by
  cases read : front? (b :: s ++ c :: rest) with
  | none => rfl
  | some found =>
      obtain ⟨d, size⟩ := found
      have written := (front?_spec read).2
      rw [List.take_append] at written
      cases reach : size - (b :: s).length with
      | zero =>
          rw [reach, List.take_zero, List.append_nil] at written
          have shorter := front?_encode d ((b :: s).drop size)
          rw [← written, List.take_append_drop, none] at shorter
          cases shorter
      | succ k =>
          -- The character would hold both bytes, but one beyond ASCII and one in it are of none.
          rw [reach, List.take_succ_cons, List.take_of_length_le (by omega)] at written
          have inside : c ∈ String.utf8EncodeChar d := by simp [← written]
          have front : b ∈ String.utf8EncodeChar d := by simp [← written]
          have beyond := le_of_front?_eq_none none
          rcases mem_encode inside with ⟨small, -⟩ | high
          · rw [String.utf8EncodeChar, if_pos (Nat.le_of_lt_succ small), List.mem_singleton]
              at inside front
            exact absurd (front.trans inside.symm ▸ beyond) (UInt8.not_le.mpr ascii)
          · exact absurd high (UInt8.not_le.mpr ascii)

/-- An ASCII byte is a unit of its own, whatever stands before it. -/
theorem units_append_ascii (s : Bytes) {c : Byte} (ascii : c < 0x80) (rest : Bytes)
    : units (s ++ c :: rest) = units s ++ .char (Char.ofNat c.toNat) :: units rest := by
  induction s using unitsInduction with
  | nil =>
      rw [List.nil_append, ← List.singleton_append, ← encode_one ascii, units_encodeChar]
      rfl
  | char d after ih =>
      rw [List.append_assoc, units_encodeChar, ih, units_encodeChar, List.cons_append]
  | stray b after none ih =>
      have stays : front? (b :: (after ++ c :: rest)) = .none := front?_append_ascii none ascii rest
      rw [List.cons_append, units_stray stays, ih, units_stray none, List.cons_append]

/-- Among the ASCII bytes the blanks are white space. -/
theorem isWhiteSpace_ascii
    : ∀ c : Byte, c < 0x80 → Unit8.isWhiteSpace (.char (Char.ofNat c.toNat)) = c.isBlank := by
  decide

theorem not_isWhiteSpace_of_isVisible {c : Byte} (visible : c.isVisible = true)
    : ¬ Unit8.isWhiteSpace (.char (Char.ofNat c.toNat)) = true := by
  obtain ⟨ascii, shown⟩ := Byte.isVisible_iff.mp visible
  rw [isWhiteSpace_ascii c ascii, shown]
  decide

end Utf8

--------------------------------------------------------------------------------
-- Trimmed texts
--------------------------------------------------------------------------------

/-- What is dropped at the end of a list ends at an element that is kept. -/
theorem rdropWhile_append_cons {α : Type} {p : α → Bool} {u : α} (kept : ¬ p u = true)
    (us vs : List α)
    : (us ++ u :: vs).rdropWhile p = us ++ u :: vs.rdropWhile p := by
  induction vs using List.reverseRecOn with
  | nil => exact List.rdropWhile_concat_neg _ _ _ kept
  | append_singleton vs v ih =>
      rw [← List.cons_append, ← List.append_assoc, List.rdropWhile_concat, List.rdropWhile_concat]
      split
      · exact ih
      · simp

namespace Bytes

/-- A text without a visible character. -/
def White (s : Bytes) : Prop := ∀ u ∈ Utf8.units s, u.isWhiteSpace = true

/-- ASCII blanks are white space. -/
theorem White.of_blanks {s : Bytes} (blank : ∀ c ∈ s, c.isBlank = true) : White s := by
  induction s with
  | nil => exact List.forall_mem_nil _
  | cons c rest ih =>
      rw [List.forall_mem_cons] at blank
      have ascii : c < 0x80 := Byte.lt_of_isBlank blank.1
      have units := Utf8.units_append_ascii [] ascii rest
      rw [List.nil_append] at units
      rw [White, units, show Utf8.units [] = [] from rfl, List.nil_append, List.forall_mem_cons,
        Utf8.isWhiteSpace_ascii c ascii]
      exact ⟨blank.1, ih blank.2⟩

/-- Trimming takes white space away in front of a visible byte. -/
theorem dropWhile_units {w : Bytes} (white : White w) {c : Byte} (visible : c.isVisible = true)
    (rest : Bytes)
    : (Utf8.units (w ++ c :: rest)).dropWhile Unit8.isWhiteSpace = Utf8.units (c :: rest) := by
  have ascii := Byte.lt_of_isVisible visible
  have alone := Utf8.units_append_ascii [] ascii rest
  rw [List.nil_append] at alone
  rw [Utf8.units_append_ascii w ascii, List.dropWhile_append_of_pos white, alone,
    show Utf8.units [] = [] from rfl, List.nil_append,
    List.dropWhile_cons_of_neg (Utf8.not_isWhiteSpace_of_isVisible visible)]

/-- Trimming takes nothing away in front of a visible byte at the end. -/
theorem rdropWhile_units (s : Bytes) {c : Byte} (visible : c.isVisible = true) (back : Bytes)
    : Utf8.spell ((Utf8.units (s ++ c :: back)).rdropWhile Unit8.isWhiteSpace)
      = s ++ c :: Utf8.spell ((Utf8.units back).rdropWhile Unit8.isWhiteSpace) := by
  have ascii := Byte.lt_of_isVisible visible
  have kept := Utf8.not_isWhiteSpace_of_isVisible visible
  rw [Utf8.units_append_ascii s ascii, rdropWhile_append_cons kept, Utf8.spell_append,
    Utf8.spell_units, Utf8.spell, List.flatMap_cons, ← Utf8.spell,
    show Unit8.bytes (.char (Char.ofNat c.toNat)) = [c] from Utf8.encode_one ascii,
    List.singleton_append]

/-- A text that starts and ends with visible bytes is kept by trimming, and white space before it is
taken away.
-/
theorem trim_append {w s back : Bytes} (white : White w) {c d : Byte} (first : s.head? = some c)
    (last : s.getLast? = some d) (visible : c.isVisible = true) (visible' : d.isVisible = true)
    : trim (w ++ (s ++ back))
      = s ++ Utf8.spell ((Utf8.units back).rdropWhile Unit8.isWhiteSpace) := by
  obtain ⟨rest, begins⟩ : ∃ rest, s = c :: rest := List.head?_eq_some_iff.mp first
  obtain ⟨front, ends⟩ := List.getLast?_eq_some_iff.mp last
  have ahead : (Utf8.units (w ++ (s ++ back))).dropWhile Unit8.isWhiteSpace
      = Utf8.units (s ++ back) := by
    rw [begins, List.cons_append, dropWhile_units white visible]
  calc trim (w ++ (s ++ back))
      = Utf8.spell ((Utf8.units (front ++ d :: back)).rdropWhile Unit8.isWhiteSpace) := by
        rw [trim, ahead, ends, List.append_assoc, List.singleton_append]
        rfl
    _ = s ++ Utf8.spell ((Utf8.units back).rdropWhile Unit8.isWhiteSpace) := by
        rw [rdropWhile_units front visible', ends, List.append_assoc, List.singleton_append]

/-- White space around a text that starts and ends with visible bytes is what trimming takes away.
-/
theorem trim_padded {w s back : Bytes} (white : White w) (white' : White back) {c d : Byte}
    (first : s.head? = some c) (last : s.getLast? = some d) (visible : c.isVisible = true)
    (visible' : d.isVisible = true)
    : trim (w ++ (s ++ back)) = s := by
  have none : (Utf8.units back).rdropWhile Unit8.isWhiteSpace = [] :=
    List.rdropWhile_eq_nil_iff.mpr white'
  rw [trim_append white first last visible visible', none]
  exact List.append_nil s

/-- A text that starts and ends with visible bytes has nothing to trim. -/
theorem trim_eq {s : Bytes} {c d : Byte} (first : s.head? = some c) (last : s.getLast? = some d)
    (visible : c.isVisible = true) (visible' : d.isVisible = true)
    : trim s = s := by
  have empty : White [] := List.forall_mem_nil _
  have trimmed := @trim_padded [] s [] empty empty c d first last visible visible'
  rwa [List.nil_append, List.append_nil] at trimmed

/-- A text is made up of white space, what trimming leaves of it, and white space. -/
theorem trim_parts (s : Bytes)
    : ∃ front back, White front ∧ White back ∧ s = front ++ trim s ++ back := by
  obtain ⟨ahead, aheadEq⟩ : ∃ us, us = (Utf8.units s).takeWhile Unit8.isWhiteSpace := ⟨_, rfl⟩
  obtain ⟨behind, behindEq⟩
      : ∃ us, us = ((Utf8.units s).dropWhile Unit8.isWhiteSpace).rtakeWhile Unit8.isWhiteSpace :=
    ⟨_, rfl⟩
  have parts : Utf8.units s = ahead ++ (Utf8.units (trim s) ++ behind) := by
    rw [units_trim, aheadEq, behindEq, List.rdropWhile_append_rtakeWhile,
      List.takeWhile_append_dropWhile]
  obtain ⟨front, rest⟩ := Utf8.units_spell_append parts
  obtain ⟨-, back⟩ := Utf8.units_spell_append rest
  refine ⟨Utf8.spell ahead, Utf8.spell behind, fun u member => ?_, fun u member => ?_, ?_⟩
  · rw [front, aheadEq] at member
    exact List.mem_takeWhile_imp member
  · rw [back, behindEq] at member
    exact List.mem_rtakeWhile_imp member
  · calc s
        = Utf8.spell (Utf8.units s) := (Utf8.spell_units s).symm
      _ = Utf8.spell ahead ++ trim s ++ Utf8.spell behind := by
        rw [parts, Utf8.spell_append, Utf8.spell_append, Utf8.spell_units, List.append_assoc]

/-- The ASCII bytes of white space are the six blanks. -/
theorem White.isBlank {s : Bytes} (white : White s) {b : Byte} (member : b ∈ s) (ascii : b < 0x80)
    : b.isBlank = true := by
  rw [← Utf8.spell_units s] at member
  obtain ⟨u, inside, byte⟩ := List.mem_flatMap.mp member
  have hidden := white u inside
  cases u with
  | stray c => cases hidden
  | char c =>
      rcases Utf8.mem_encode byte with ⟨small, rfl⟩ | beyond
      · rw [← Utf8.isWhiteSpace_ascii _ ascii, UInt8.toNat_ofNat_of_lt' (Nat.lt_trans small (by decide)),
          show Char.ofNat c.val.toNat = c from c.ofNat_toNat]
        exact hidden
      · exact absurd ascii (UInt8.not_lt.mpr beyond)

--------------------------------------------------------------------------------
-- Compact texts
--------------------------------------------------------------------------------

/-- No byte of a character beyond ASCII is visible ASCII. -/
theorem filter_isVisible_encode {c : Char} (beyond : 0x80 ≤ c.val.toNat)
    : (String.utf8EncodeChar c).filter Byte.isVisible = [] := by
  refine List.filter_eq_nil_iff.mpr fun b member visible => ?_
  rcases Utf8.mem_encode member with ⟨ascii, -⟩ | high
  · omega
  · exact UInt8.not_le.mpr (Byte.lt_of_isVisible visible) high

theorem filter_isVisible_stray {b : Byte} {rest : Bytes} (none : Utf8.front? (b :: rest) = none)
    : (b :: rest).filter Byte.isVisible = rest.filter Byte.isVisible :=
  List.filter_cons_of_neg fun visible =>
    UInt8.not_le.mpr (Byte.lt_of_isVisible visible) (Utf8.le_of_front?_eq_none none)

/-- A character is an ASCII byte, or its bytes are beyond ASCII. -/
theorem ascii_or_beyond (c : Char)
    : (∃ b : Byte, b < 0x80 ∧ c = Char.ofNat b.toNat) ∨ 0x80 ≤ c.val.toNat := by
  rcases Nat.lt_or_ge c.val.toNat 0x80 with small | beyond
  · have byte : (UInt8.ofNat c.val.toNat).toNat = c.val.toNat :=
      UInt8.toNat_ofNat_of_lt' (Nat.lt_trans small (by decide))
    refine .inl ⟨UInt8.ofNat c.val.toNat, ?_, ?_⟩
    · rw [UInt8.lt_iff_toNat_lt, byte]
      exact small
    · rw [byte]
      exact c.ofNat_toNat.symm
  · exact .inr beyond

/-- Compacting keeps the visible bytes. -/
theorem filter_isVisible_sublist_compact (s : Bytes)
    : (s.filter Byte.isVisible).Sublist (compact s) := by
  induction s using Utf8.unitsInduction with
  | nil => exact .slnil
  | char c rest ih =>
      have front : ((String.utf8EncodeChar c).filter Byte.isVisible).Sublist
          (Utf8.spell ([.char c].filter fun u => !u.isWhiteSpace)) := by
        rcases ascii_or_beyond c with ⟨b, ascii, rfl⟩ | beyond
        · rw [Utf8.encode_one ascii]
          by_cases visible : b.isVisible = true
          · have kept := Bool.eq_false_iff.mpr (Utf8.not_isWhiteSpace_of_isVisible visible)
            rw [List.filter_cons_of_pos (p := fun u => !Unit8.isWhiteSpace u) (by rw [kept]; rfl),
              List.filter_nil, Utf8.spell, List.flatMap_singleton, Unit8.bytes,
              Utf8.encode_one ascii]
            exact List.filter_sublist
          · rw [List.filter_cons_of_neg visible]
            exact List.nil_sublist _
        · rw [filter_isVisible_encode beyond]
          exact List.nil_sublist _
      rw [List.filter_append, compact, Utf8.units_encodeChar, ← List.singleton_append,
        List.filter_append, Utf8.spell_append]
      exact front.append ih
  | stray b rest none ih =>
      rw [filter_isVisible_stray none, compact, Utf8.units_stray none, List.filter_cons_of_pos rfl]
      exact ih.cons b

--------------------------------------------------------------------------------
-- Lower case
--------------------------------------------------------------------------------

theorem encode_lowerChar (b : Byte) (ascii : b < 0x80)
    : String.utf8EncodeChar (lowerChar (Char.ofNat b.toNat)) = [b.lower] := by
  rw [lowerChar_ascii ascii, Utf8.encode_one (Byte.lower_lt ascii)]

/-- A mapping of ASCII bytes that agrees with one of characters is the mapping of characters. -/
theorem map_eq_encode {eachByte : Byte → Byte} {eachChar : Char → Char}
    (agree
      : ∀ b : Byte, b < 0x80
        → String.utf8EncodeChar (eachChar (Char.ofNat b.toNat)) = [eachByte b])
    {s : Bytes} (ascii : isAscii s = true)
    : s.map eachByte = Utf8.encode ((Utf8.chars s).map eachChar) := by
  have each : ∀ b ∈ s, b < 0x80 := by simpa [isAscii] using ascii
  have read : Utf8.chars s = s.map fun b => Char.ofNat b.toNat := by
    rw [← Utf8.chars_encode (s.map _), Utf8.encode_ascii each]
  rw [read, List.map_map, Utf8.encode, List.flatMap_map, List.map_eq_flatMap]
  exact List.flatMap_congr fun b member => (agree b (each b member)).symm

/-- The lower case of a text is the one of its characters, also where all of them are ASCII. -/
theorem lower_eq (s : Bytes) : lower s = Utf8.encode ((Utf8.chars s).map lowerChar) := by
  rw [lower]
  split
  · rename_i ascii
    exact map_eq_encode encode_lowerChar ascii
  · rfl

theorem lower_append_ascii (s : Bytes) {c : Byte} (ascii : c < 0x80) (rest : Bytes)
    : lower (s ++ c :: rest) = lower s ++ c.lower :: lower rest := by
  rw [lower_eq, lower_eq, lower_eq, Utf8.chars, Utf8.units_append_ascii s ascii, List.map_append,
    List.map_cons, List.map_append, List.map_cons, Utf8.encode_append, Utf8.encode,
    Utf8.encode, List.flatMap_cons, encode_lowerChar c ascii]
  rfl

/-- A part of a text between ASCII bytes has its own lower case there. -/
theorem lower_infix {front back : Bytes} (before : ∀ c ∈ front, c < 0x80)
    (behind : ∀ c ∈ back, c < 0x80) (s : Bytes)
    : lower s <:+: lower (front ++ (s ++ back)) := by
  have ahead : lower (s ++ back) <:+ lower (front ++ (s ++ back)) := by
    induction front with
    | nil => exact List.suffix_rfl
    | cons c front ih =>
        rw [List.forall_mem_cons] at before
        have lowered := lower_append_ascii [] before.1 (front ++ (s ++ back))
        rw [List.nil_append] at lowered
        rw [List.cons_append, lowered]
        exact ((ih before.2).trans (List.suffix_cons _ _)).trans (List.suffix_append _ _)
  refine .trans ?_ ahead.isInfix
  cases back with
  | nil =>
      exact (congrArg lower (List.append_nil s)).symm ▸ List.infix_rfl
  | cons c back =>
      rw [lower_append_ascii s (behind c List.mem_cons_self)]
      exact (List.prefix_append _ _).isInfix

/-- The lower case of a text keeps the visible bytes but for their case. -/
theorem map_lower_sublist_lower (s : Bytes)
    : ((s.filter Byte.isVisible).map Byte.lower).Sublist (lower s) := by
  rw [lower_eq]
  induction s using Utf8.unitsInduction with
  | nil => exact .slnil
  | char c rest ih =>
      have front : (((String.utf8EncodeChar c).filter Byte.isVisible).map Byte.lower).Sublist
          (String.utf8EncodeChar (lowerChar c)) := by
        rcases ascii_or_beyond c with ⟨b, ascii, rfl⟩ | beyond
        · rw [Utf8.encode_one ascii, encode_lowerChar b ascii]
          exact List.filter_sublist.map _
        · rw [filter_isVisible_encode beyond]
          exact List.nil_sublist _
      rw [List.filter_append, List.map_append, Utf8.chars, Utf8.units_encodeChar]
      exact front.append ih
  | stray b rest none ih =>
      rw [filter_isVisible_stray none, Utf8.chars, Utf8.units_stray none]
      exact ih.trans (List.sublist_append_right _ _)

/-- A text occurs in another one where it is a part of it. -/
theorem occursIn_iff {needle s : Bytes} : occursIn needle s = true ↔ needle <:+: s := by
  induction s with
  | nil => simp [occursIn]
  | cons c rest ih =>
      rw [occursIn, Bool.or_eq_true, ih, List.isPrefixOf_iff_prefix, List.infix_cons_iff]

end Bytes

end FormMigrate
