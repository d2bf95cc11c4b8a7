import FormMigrate.Proofs.Text.CaseRange
import FormMigrate.Proofs.Text.Visible

/-! Texts that read alike but for case and the white space around them: changing the case of a text
and trimming it go unit by unit, so that neither gets in the way of the other.
-/

namespace FormMigrate

--------------------------------------------------------------------------------
-- Stray bytes
--------------------------------------------------------------------------------

namespace Utf8

/-- A text starts with a stray byte, or is empty, where it starts with no character. -/
theorem front?_eq_none_iff {s : Bytes}
    : front? s = none ↔ ∀ c, ¬ String.utf8EncodeChar c <+: s := by
  constructor
  · rintro none c ⟨rest, rfl⟩
    rw [front?_encode] at none
    cases none
  · intro absent
    cases read : front? s with
    | none => rfl
    | some found =>
        obtain ⟨c, size⟩ := found
        exact absurd ((front?_spec read).2 ▸ List.take_prefix size s) (absent c)

end Utf8

--------------------------------------------------------------------------------
-- Units mapped one by one
--------------------------------------------------------------------------------

namespace Bytes

/-- A change of texts that changes each unit on its own and keeps what is white space. -/
structure Unitwise (change : Bytes → Bytes) (each : Unit8 → Unit8) : Prop where
  units : ∀ s, Utf8.units (change s) = (Utf8.units s).map each
  white : ∀ u, (each u).isWhiteSpace = u.isWhiteSpace

/-- Texts of the same units are the same. -/
theorem units_injective {s t : Bytes} (same : Utf8.units s = Utf8.units t) : s = t := by
  rw [← Utf8.spell_units s, same, Utf8.spell_units]

/-- Trimming goes with a change unit by unit, since both ends stop at the same units. -/
theorem Unitwise.trim {change : Bytes → Bytes} {each : Unit8 → Unit8}
    (unitwise : Unitwise change each) (s : Bytes)
    : Bytes.trim (change s) = change (Bytes.trim s) := by
  have white : Unit8.isWhiteSpace ∘ each = Unit8.isWhiteSpace := funext unitwise.white
  apply units_injective
  calc Utf8.units (Bytes.trim (change s))
      = (((Utf8.units s).map each).dropWhile Unit8.isWhiteSpace).rdropWhile
          Unit8.isWhiteSpace := by
        rw [units_trim, unitwise.units]
    _ = (((Utf8.units s).dropWhile Unit8.isWhiteSpace).rdropWhile Unit8.isWhiteSpace).map
          each := by
        rw [List.dropWhile_map, white, List.rdropWhile, List.rdropWhile, ← List.map_reverse,
          List.dropWhile_map, white, List.map_reverse]
    _ = Utf8.units (change (Bytes.trim s)) := by rw [unitwise.units, units_trim]

end Bytes

--------------------------------------------------------------------------------
-- Upper case
--------------------------------------------------------------------------------

/-- The upper case of a unit; a stray byte is repaired. -/
def Unit8.upper : Unit8 → Unit8
  | .char c => .char (upperChar c)
  | .stray _ => .char Utf8.replacement

theorem Unit8.upper_upper (u : Unit8) : u.upper.upper = u.upper := by
  have fixed : upperChar Utf8.replacement = Utf8.replacement := by decide
  cases u with
  | char c => exact congrArg Unit8.char (upperChar_upperChar c)
  | stray b => exact congrArg Unit8.char fixed

namespace Bytes

theorem encode_upperChar (b : Byte) (ascii : b < 0x80)
    : String.utf8EncodeChar (upperChar (Char.ofNat b.toNat)) = [b.upper] := by
  rw [upperChar_ascii ascii, Utf8.encode_one (Byte.upper_lt ascii)]

/-- The upper case of a text is the one of its characters, also where all of them are ASCII. -/
theorem upper_eq (s : Bytes) : upper s = Utf8.encode ((Utf8.chars s).map upperChar) := by
  rw [upper]
  split
  · rename_i ascii
    exact map_eq_encode encode_upperChar ascii
  · rfl

/-- Upper case goes unit by unit. -/
theorem unitwise_upper : Unitwise upper Unit8.upper where
  units s := by
    have read := Utf8.units_encode ((Utf8.chars s).map upperChar) []
    rw [List.append_nil, show Utf8.units [] = [] from rfl, List.append_nil] at read
    rw [upper_eq, read, Utf8.chars, List.map_map, List.map_map]
    refine List.map_congr_left fun u _ => ?_
    cases u with
    | char c => rfl
    | stray b => exact (Unit8.upper_upper (.stray b))
  white u := by
    cases u with
    | char c => exact isWhiteSpace_upperChar c
    | stray b => exact (by decide : isWhiteSpace Utf8.replacement = false)

/-- Upper case is the upper case of itself. -/
theorem upper_upper (s : Bytes) : upper (upper s) = upper s := by
  apply units_injective
  rw [unitwise_upper.units, unitwise_upper.units, List.map_map]
  exact List.map_congr_left fun u _ => u.upper_upper

--------------------------------------------------------------------------------
-- The case of ASCII letters
--------------------------------------------------------------------------------

end Bytes

/-- The unit with an ASCII letter in lower case. -/
def Unit8.lowerAscii : Unit8 → Unit8
  | .char c => .char c.toLower
  | .stray b => .stray b

namespace Bytes

theorem toLower_ascii
    : ∀ b : Byte, b < 0x80 → (Char.ofNat b.toNat).toLower = Char.ofNat b.lower.toNat := by
  decide

/-- Only an ASCII letter has a lower case of its own here. -/
theorem toLower_of_le {c : Char} (beyond : 0x80 ≤ c.val.toNat) : c.toLower = c := by
  refine dif_neg ?_
  rintro ⟨-, most⟩
  have : c.val.toNat ≤ 0x5a := UInt32.le_iff_toNat_le.mp most
  omega

theorem map_lower_encodeChar (c : Char)
    : (String.utf8EncodeChar c).map Byte.lower = String.utf8EncodeChar c.toLower := by
  rcases ascii_or_beyond c with ⟨b, ascii, rfl⟩ | beyond
  · rw [toLower_ascii b ascii, Utf8.encode_one ascii, Utf8.encode_one (Byte.lower_lt ascii),
      List.map_singleton]
  · rw [toLower_of_le beyond]
    refine (List.map_congr_left fun b member => ?_).trans (List.map_id _)
    rcases Utf8.mem_encode member with ⟨small, -⟩ | above
    · omega
    · exact Byte.lower_of_le above

/-- Bytes beyond ASCII are the lower case of themselves alone. -/
theorem map_lower_eq {s t : Bytes} (lowered : s.map Byte.lower = t) (beyond : ∀ b ∈ t, 0x80 ≤ b)
    : s = t := by
  rw [← lowered] at beyond ⊢
  exact (List.map_id s).symm.trans <| List.map_congr_left fun b member =>
    (Byte.eq_of_le_lower (beyond b.lower (List.mem_map_of_mem member))).symm

/-- A stray byte stays one in front of other letters, since a character that it starts has no ASCII
letter in it.
-/
theorem front?_lowerAscii {b : Byte} {rest : Bytes} (none : Utf8.front? (b :: rest) = none)
    : Utf8.front? (b :: lowerAscii rest) = .none := by
  have beyond := Utf8.le_of_front?_eq_none none
  rw [Utf8.front?_eq_none_iff] at none ⊢
  intro c spelled
  rw [show b :: lowerAscii rest = (b :: rest).map Byte.lower by
    rw [List.map_cons, Byte.lower_of_le beyond, lowerAscii]] at spelled
  have cut := List.prefix_iff_eq_take.mp spelled
  rw [← List.map_take] at cut
  have high : ∀ d ∈ String.utf8EncodeChar c, 0x80 ≤ d := by
    rcases ascii_or_beyond c with ⟨d, ascii, rfl⟩ | above
    · rw [Utf8.encode_one ascii, List.map_cons, Byte.lower_of_le beyond,
        List.cons_prefix_cons] at spelled
      exact absurd (spelled.1 ▸ beyond) (UInt8.not_le.mpr ascii)
    · exact fun d member => (Utf8.mem_encode member).resolve_left fun small => by omega
  have unchanged := map_lower_eq cut.symm high
  exact none c (unchanged ▸ List.take_prefix _ _)

theorem isWhiteSpace_toLower
    : ∀ b : Byte, b < 0x80
      → isWhiteSpace (Char.ofNat b.toNat).toLower = isWhiteSpace (Char.ofNat b.toNat) := by
  decide

/-- The lower case of ASCII letters goes unit by unit. -/
theorem unitwise_lowerAscii : Unitwise lowerAscii Unit8.lowerAscii where
  units s := by
    induction s using Utf8.unitsInduction with
    | nil => rfl
    | char c rest ih =>
        rw [lowerAscii, List.map_append, map_lower_encodeChar, Utf8.units_encodeChar,
          Utf8.units_encodeChar, List.map_cons, ← lowerAscii, ih]
        rfl
    | stray b rest none ih =>
        have beyond := Utf8.le_of_front?_eq_none none
        rw [show lowerAscii (b :: rest) = b :: lowerAscii rest by
            rw [lowerAscii, List.map_cons, Byte.lower_of_le beyond, lowerAscii],
          Utf8.units_stray (front?_lowerAscii none), Utf8.units_stray none, ih]
        rfl
  white u := by
    cases u with
    | char c =>
        rcases ascii_or_beyond c with ⟨b, ascii, rfl⟩ | beyond
        · exact isWhiteSpace_toLower b ascii
        · rw [Unit8.lowerAscii, toLower_of_le beyond]
    | stray b => rfl

theorem upper_lowerAscii (s : Bytes) : upper (lowerAscii s) = upper s := by
  apply units_injective
  rw [unitwise_upper.units, unitwise_upper.units, unitwise_lowerAscii.units, List.map_map]
  refine List.map_congr_left fun u _ => ?_
  cases u with
  | char c =>
      rcases ascii_or_beyond c with ⟨b, ascii, rfl⟩ | beyond
      · rw [Function.comp_apply, Unit8.lowerAscii, Unit8.upper, Unit8.upper, toLower_ascii b ascii,
          upperChar_ascii ascii, upperChar_ascii (Byte.lower_lt ascii), Byte.upper_lower]
      · rw [Function.comp_apply, Unit8.lowerAscii, toLower_of_le beyond]
  | stray b => rfl

/-- Texts that differ in the case of ASCII letters are trimmed to the same upper case. -/
theorem upper_trim_congr {s t : Bytes} (same : lowerAscii s = lowerAscii t)
    : upper (trim s) = upper (trim t) := by
  calc upper (trim s)
      = upper (trim (lowerAscii s)) := by rw [unitwise_lowerAscii.trim, upper_lowerAscii]
    _ = upper (trim t) := by rw [same, unitwise_lowerAscii.trim, upper_lowerAscii]

--------------------------------------------------------------------------------
-- White space around a text
--------------------------------------------------------------------------------

/-- White space is made of characters alone. -/
theorem White.exists_encode {w : Bytes} (white : White w) : ∃ cs, Utf8.encode cs = w := by
  induction w using Utf8.unitsInduction with
  | nil => exact ⟨[], rfl⟩
  | char c rest ih =>
      rw [White, Utf8.units_encodeChar, List.forall_mem_cons] at white
      obtain ⟨cs, rfl⟩ := ih white.2
      exact ⟨c :: cs, rfl⟩
  | stray b rest none ih =>
      rw [White, Utf8.units_stray none, List.forall_mem_cons] at white
      exact absurd white.1 Bool.false_ne_true

end Bytes

namespace Utf8

/-- A stray byte stays one in front of a character, which starts with no byte that continues
another one.
-/
theorem front?_append_encode {b : Byte} {s : Bytes} (none : front? (b :: s) = none) (c : Char)
    (rest : Bytes)
    : front? (b :: s ++ (String.utf8EncodeChar c ++ rest)) = .none := by
  rw [front?_eq_none_iff] at none ⊢
  intro d spelled
  rcases List.prefix_or_prefix_of_prefix spelled (List.prefix_append (b :: s) _) with
    shorter | ⟨more, longer⟩
  · exact none d shorter
  · cases more with
    | nil => exact none d ((List.append_nil (b :: s)).symm.trans longer ▸ List.prefix_rfl)
    | cons x more =>
        obtain ⟨first, tail, shape, leads, -⟩ := encode_shape c
        obtain ⟨first', tail', shape', -, continues⟩ := encode_shape d
        rw [← longer, List.prefix_append_right_inj, shape] at spelled
        have leading : x = first := (List.cons_prefix_cons.mp spelled).1
        rw [shape', List.cons_append, List.cons.injEq] at longer
        have inside : x ∈ tail' := longer.2 ▸ List.mem_append_right s List.mem_cons_self
        rw [← leading, continues x inside] at leads
        cases leads

/-- Encoded characters behind a text are read as they are on their own. -/
theorem units_append_encode (s : Bytes) (cs : List Char)
    : units (s ++ encode cs) = units s ++ cs.map .char := by
  have alone := units_encode cs []
  rw [List.append_nil, show units [] = [] from rfl, List.append_nil] at alone
  cases cs with
  | nil => simp [encode]
  | cons c cs =>
      induction s using unitsInduction with
      | nil => exact alone
      | char d rest ih =>
          rw [List.append_assoc, units_encodeChar, units_encodeChar, ih, List.cons_append]
      | stray b rest none ih =>
          have stays : front? (b :: (rest ++ encode (c :: cs))) = .none :=
            front?_append_encode none c (encode cs)
          rw [List.cons_append, units_stray stays, units_stray none, ih, List.cons_append]

end Utf8

namespace Bytes

/-- White space around a text is what trimming takes away. -/
theorem trim_between {w w' : Bytes} (white : White w) (white' : White w') (s : Bytes)
    : trim (w ++ (s ++ w')) = trim s := by
  obtain ⟨cs, rfl⟩ := white.exists_encode
  obtain ⟨cs', rfl⟩ := white'.exists_encode
  rw [White, ← List.nil_append (Utf8.encode _), Utf8.units_append_encode] at white white'
  have ahead : ∀ u ∈ cs.map Unit8.char, u.isWhiteSpace = true := white
  have behind : ∀ u ∈ (cs'.map Unit8.char).reverse, u.isWhiteSpace = true := fun u member =>
    white' u (List.mem_reverse.mp member)
  apply units_injective
  rw [units_trim, units_trim, Utf8.units_encode, List.dropWhile_append_of_pos ahead,
    Utf8.units_append_encode, List.dropWhile_append]
  split
  · rename_i none
    have none' : (cs'.map Unit8.char).dropWhile Unit8.isWhiteSpace = [] :=
      List.dropWhile_eq_nil_iff.mpr white'
    rw [List.isEmpty_iff.mp none, none']
  · rw [List.rdropWhile, List.reverse_append, List.dropWhile_append_of_pos behind, List.rdropWhile]

end Bytes

end FormMigrate
