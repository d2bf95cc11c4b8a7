import FormMigrate.Literal.Printer
import FormMigrate.Proofs.Call.Occurrence

/-! Calls inside strings: in a text whose colons all stand in strings, no call starts outside of
them or reaches across their quotes.
-/

namespace FormMigrate

namespace Pass.Occurrence

variable {pass : Pass} {start opening : Nat}

/-- An occurrence that lies inside a part of a text is one in that part. -/
theorem slice {first inner last : Bytes}
    (h : pass.Occurrence (first ++ inner ++ last) start opening) (behind : first.length ≤ start)
    (before : opening < first.length + inner.length)
    : pass.Occurrence inner (start - first.length) (opening - first.length) := by
  have reaches := h.behind
  have at_i (i : Nat) (from_i : first.length ≤ i) (to_i : i < first.length + inner.length)
      : (first ++ inner ++ last)[i]? = inner[i - first.length]? := by
    rw [List.append_assoc, List.getElem?_append_right from_i, List.getElem?_append_left (by omega)]
  constructor
  case marked =>
    have rest : (first ++ inner ++ last).drop start = inner.drop (start - first.length) ++ last := by
      rw [List.append_assoc, List.drop_append, List.drop_eq_nil_of_le behind, List.nil_append,
        List.drop_append_of_le_length (by omega)]
    have whole := h.marked
    rw [rest, Bytes.lowerAscii, Bytes.lowerAscii, List.map_append] at whole
    refine List.prefix_of_prefix_length_le whole (List.prefix_append _ _) ?_
    rw [Bytes.length_lowerAscii, Bytes.length_lowerAscii, List.length_drop]
    omega
  case free =>
    intro positive b same
    refine h.free (by omega) b ?_
    rw [at_i (start - 1) (by omega) (by omega)]
    rwa [Nat.sub_right_comm] at same
  case behind => omega
  case near =>
    have near := h.near
    omega
  case blank =>
    intro i from_i to_i
    obtain ⟨b, same, gap⟩ := h.blank (i + first.length) (by omega) (by omega)
    rw [at_i _ (by omega) (by omega), Nat.add_sub_cancel] at same
    exact ⟨b, same, gap⟩
  case parenthesis =>
    rw [← at_i opening (by omega) before]
    exact h.parenthesis

/-- From its marker up to its parenthesis an occurrence passes over letters, colons and blanks
only.
-/
theorem apart (worded : pass.marker.all (fun c => c.isLetter || c == 0x3a) = true)
    {first last : Bytes} {c : Byte} (h : pass.Occurrence (first ++ c :: last) start opening)
    (barrier : (c.isLetter || c == 0x3a || CallSite.isGap c) = false)
    : opening ≤ first.length ∨ first.length < start := by
  by_contra across
  rw [not_or, Nat.not_le, Nat.not_lt] at across
  obtain ⟨b, here, shown⟩ := h.front_byte worded across.2 across.1
  rw [List.getElem?_append_right (Nat.le_refl _), Nat.sub_self, List.getElem?_cons_zero] at here
  cases here
  rw [barrier] at shown
  cases shown

/-- An occurrence has the colons of the facade. -/
theorem colon_mem {text : Bytes} (h : pass.Occurrence text start opening) : 0x3a ∈ text := by
  have kept : ∀ b : Byte, b.lower = 0x3a → b = 0x3a := by decide
  have inMarker : 0x3a ∈ Bytes.lowerAscii pass.marker := by
    have inFacade : 0x3a ∈ Bytes.lowerAscii facade := by decide
    rw [marker, Bytes.lowerAscii, List.map_append]
    exact List.mem_append_left _ inFacade
  obtain ⟨b, member, lower⟩ := List.mem_map.mp (h.marked.subset inMarker)
  exact kept b lower ▸ List.mem_of_mem_drop member

end Pass.Occurrence

--------------------------------------------------------------------------------
-- Strings between other text
--------------------------------------------------------------------------------

/-- A text with some strings in it, quoted, and without a colon anywhere else. -/
inductive Mixed (strings : List Bytes) : Bytes → Prop
  | plain {text} (colonless : 0x3a ∉ text) : Mixed strings text
  | string {text s rest} (colonless : 0x3a ∉ text) (known : s ∈ strings)
    (behind : Mixed strings rest)
    : Mixed strings (text ++ quote s ++ rest)

namespace Mixed

variable {strings : List Bytes}

theorem quoted {s : Bytes} (known : s ∈ strings) : Mixed strings (quote s) := by
  have alone : Mixed strings ([] ++ quote s ++ []) := .string List.not_mem_nil known (.plain List.not_mem_nil)
  simpa using alone

/-- Text in front joins the text before the first string. -/
theorem prepend {first text : Bytes} (colonless : 0x3a ∉ first) (h : Mixed strings text)
    : Mixed strings (first ++ text) := by
  have both {rest : Bytes} (other : 0x3a ∉ rest) : 0x3a ∉ first ++ rest := by
    simpa using ⟨colonless, other⟩
  cases h with
  | plain other => exact .plain (both other)
  | string other known behind =>
      rw [← List.append_assoc, ← List.append_assoc]
      exact .string (both other) known behind

theorem append {first last : Bytes} (h : Mixed strings first) (h' : Mixed strings last)
    : Mixed strings (first ++ last) := by
  induction h with
  | plain colonless => exact h'.prepend colonless
  | string colonless known _ ih =>
      rw [List.append_assoc]
      exact .string colonless known ih

theorem join {sep : Bytes} (colonless : 0x3a ∉ sep) {parts : List Bytes}
    (each : ∀ part ∈ parts, Mixed strings part)
    : Mixed strings (Bytes.join sep parts) := by
  induction parts with
  | nil => exact .plain List.not_mem_nil
  | cons first rest ih =>
      rw [List.forall_mem_cons] at each
      cases rest with
      | nil => simpa [Bytes.join] using each.1
      | cons second others =>
          rw [Bytes.join, List.intercalate_cons_cons]
          exact (each.1.append (.plain colonless)).append (ih each.2)

/-- A call in such a text lies inside one of its strings.
Witness: induction on the strings. A quote is no part of a call up to its parenthesis, so that a
call lies in front of a string, inside it or behind it.
-/
theorem occurrence {pass : Pass}
    (worded : pass.marker.all (fun c => c.isLetter || c == 0x3a) = true) {text : Bytes}
    (mixed : Mixed strings text) {start opening : Nat} (h : pass.Occurrence text start opening)
    : ∃ s ∈ strings, ∃ start opening, pass.Occurrence (quote s) start opening := by
  induction mixed generalizing start opening with
  | plain colonless => exact (colonless h.colon_mem).elim
  | @string text s rest colonless known behind ih =>
      have opened : text ++ quote s ++ rest
          = text ++ 0x27 :: (s.flatMap quoteByte ++ 0x27 :: rest) := by
        simp [quote]
      have closed : text ++ quote s ++ rest
          = (text ++ 0x27 :: s.flatMap quoteByte) ++ 0x27 :: rest := by
        simp [quote]
      have length : (quote s).length = (s.flatMap quoteByte).length + 2 := by simp [quote]
      have parenthesis := h.parenthesis
      rcases (opened ▸ h).apart worded rfl with ahead | started
      · -- The parenthesis is no quote, so it stands in front of the string.
        have front : opening < text.length := by
          refine Nat.lt_of_le_of_ne ahead fun same => ?_
          rw [opened, same, List.getElem?_append_right (Nat.le_refl _), Nat.sub_self] at parenthesis
          cases parenthesis
        have inText := @Pass.Occurrence.slice pass start opening [] text (quote s ++ rest)
          (by simpa using h) (Nat.zero_le _) (by simpa using front)
        exact (colonless inText.colon_mem).elim
      · have around : (text ++ 0x27 :: s.flatMap quoteByte).length + 1
            = text.length + (quote s).length := by
          simp [length]
          omega
        rcases (closed ▸ h).apart worded rfl with ahead | ended
        · exact ⟨s, known, _, _, h.slice (Nat.le_of_lt started) (by omega)⟩
        · have inRest := @Pass.Occurrence.slice pass start opening (text ++ quote s) rest []
            (by simpa using h) (by rw [List.length_append]; omega)
            (by rw [← List.length_append]; exact h.opening_lt)
          exact ih inRest

end Mixed

end FormMigrate
