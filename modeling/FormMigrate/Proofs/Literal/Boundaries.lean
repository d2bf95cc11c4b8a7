import FormMigrate.Proofs.Literal.Acceptance
import FormMigrate.Proofs.Scan.Cutting
import FormMigrate.Proofs.Scan.Enclosing
import Mathlib

/-! Where literals end: the scan for brackets and commas takes every text that evaluation accepts as
a whole, so both find the same ends of strings and arrays.
-/

namespace FormMigrate

namespace Literal

--------------------------------------------------------------------------------
-- Tokens
--------------------------------------------------------------------------------

/-- A body in quotes leaves a scan inside its string. -/
theorem StringBody.after? {delimiter : Byte} {body : Bytes} (inside : StringBody delimiter body)
    (awaited : Bytes)
    : Nesting.after? ⟨.inside delimiter false, awaited⟩ body
      = some ⟨.inside delimiter false, awaited⟩ := by
  induction inside with
  | nil => rfl
  | plain inside bare _ _ ih =>
      simp [Nesting.after?, Nesting.next?, QuoteState.isInert, QuoteState.next, inside, bare, ih]
  | escaped c _ ih =>
      simp [Nesting.after?, Nesting.next?, QuoteState.isInert, QuoteState.next, ih]

/-- A body in quotes is not cut. -/
theorem StringBody.uncut {delimiter : Byte} {body : Bytes} (inside : StringBody delimiter body)
    (depth : Int) (t : Bytes)
    : Argument.segmentsFrom (.inside delimiter false) depth (body ++ t)
      = Argument.glue body (Argument.segmentsFrom (.inside delimiter false) depth t) := by
  induction inside with
  | nil => exact (Argument.glue_nil (Argument.segmentsFrom_ne_nil _ _ _)).symm
  | plain inside bare _ _ ih =>
      rw [List.cons_append, Argument.segmentsFrom_inert rfl]
      simp only [QuoteState.next, inside, bare, beq_iff_eq, ↓reduceIte]
      rw [ih, Argument.glue_glue, List.singleton_append]
  | escaped c _ ih =>
      rw [List.cons_append, List.cons_append, Argument.segmentsFrom_inert rfl,
        Argument.segmentsFrom_inert rfl]
      simp only [QuoteState.next, beq_self_eq_true, ↓reduceIte]
      rw [ih, Argument.glue_glue, Argument.glue_glue]
      rfl

/-- A quoted text is sealed: its string ends at the quote where the reader ends it. -/
theorem StringBody.sealed {delimiter : Byte} {body : Bytes}
    (quote : QuoteState.isDelimiter delimiter = true) (inside : StringBody delimiter body)
    : Sealed (delimiter :: (body ++ [delimiter])) := by
  have bare : delimiter ≠ 0x5c := by
    rintro rfl
    cases quote
  have opens : QuoteState.outside.next delimiter = .inside delimiter false := if_pos quote
  have closes : (QuoteState.inside delimiter false).next delimiter = .outside := by
    simp [QuoteState.next, bare]
  constructor
  · rw [wellNested_iff]
    simp [Nesting.after?, Nesting.after?_append, Nesting.next?, QuoteState.isInert, quote, opens,
      closes, inside.after?]
  · intro t
    rw [List.cons_append, Argument.segmentsFrom_inert (q := .outside) quote, opens,
      List.append_assoc, inside.uncut, List.singleton_append, Argument.segmentsFrom_inert rfl,
      closes, Argument.glue_glue, Argument.glue_glue]
    rfl

/-- A text is sealed whose bytes are of a class without marks and commas. -/
theorem sealed_of_class {p : Byte → Bool} {s : Bytes} (each : ∀ c ∈ s, p c = true)
    (marks : Byte.marks.all (fun mark => !p mark) = true) (comma : p 0x2c = false)
    : Sealed s :=
  .of_each fun c member =>
    ⟨Byte.isNeutral_of_class (each c member) marks, Byte.ne_of_class (each c member) comma⟩

/-- A word in any case is sealed. -/
theorem sealed_of_word {s word : Bytes} (letters : ∀ c ∈ word, c.isPlainLetter = true)
    (same : Bytes.lowerAscii s = word)
    : Sealed s :=
  sealed_of_class (p := fun c => c.lower.isPlainLetter)
    (fun _ member => letters _ (same ▸ List.mem_map_of_mem member)) rfl rfl

theorem Blank.sealed {s : Bytes} (blank : Blank s) : Sealed s := sealed_of_class blank rfl rfl

/-- Bytes of numerals. -/
def inNumeral (c : Byte) : Bool := c.isNamePart || c == 0x2b || c == 0x2d || c == 0x2e

/-- The letters in numerals: the digits of all bases, the mark of an exponent and those of bases. -/
theorem isNamePart_of_numeral
    : ∀ c : Byte,
        (c.isHex || c.lower == 0x65 || (baseOfMark? c).isSome) = true → c.isNamePart = true := by
  decide

theorem inNumeral_of_mem_decimalSpan (fraction afterMark : Bool) (s : Bytes)
    : ∀ c ∈ (decimalSpan fraction afterMark s).1, inNumeral c = true := by
  have letter (c : Byte) (mark : (c.lower == 0x65) = true) : c.isNamePart = true :=
    isNamePart_of_numeral c (by simp only [mark, Bool.or_true, Bool.true_or])
  have digit (c : Byte) (numeric : (c == 0x5f || c.isDigit) = true) : c.isNamePart = true := by
    rcases (Bool.or_eq_true ..).mp numeric with bar | digit
    · simp only [Byte.isNamePart, Byte.isNameStart, bar, Bool.true_or]
    · simp only [Byte.isNamePart, digit, Bool.or_true]
  fun_induction decimalSpan fraction afterMark s with
  | case1 | case6 => simp
  | case2 fraction afterMark c rest numeric _ _ _ same ih =>
      rw [same] at ih
      exact List.forall_mem_cons.mpr ⟨by simp [inNumeral, digit c numeric], ih⟩
  | case3 fraction afterMark c rest _ point _ _ _ same ih =>
      rw [same] at ih
      refine List.forall_mem_cons.mpr ⟨?_, ih⟩
      simp only [Bool.and_eq_true] at point
      simp [inNumeral, point.1]
  | case4 fraction afterMark c rest _ _ mark _ _ _ same ih =>
      rw [same] at ih
      exact List.forall_mem_cons.mpr ⟨by simp [inNumeral, letter c mark], ih⟩
  | case5 fraction afterMark c rest _ _ _ signed _ _ _ same ih =>
      rw [same] at ih
      refine List.forall_mem_cons.mpr ⟨?_, ih⟩
      simp only [Bool.and_eq_true, Bool.or_eq_true] at signed
      rcases signed.2 with plus | minus
      · simp [inNumeral, plus]
      · simp [inNumeral, minus]

theorem inNumeral_of_mem_bodySpan (base : Nat) (s : Bytes)
    : ∀ c ∈ (bodySpan base s).1, inNumeral c = true := by
  unfold bodySpan
  split
  · exact inNumeral_of_mem_decimalSpan false false s
  · intro c member
    have within : inMarkedNumeral base c = true := List.mem_takeWhile_imp member
    simp only [inMarkedNumeral, Bool.or_eq_true, Bool.and_eq_true] at within
    rcases within with (bar | digit) | ⟨-, hex⟩
    · simp only [inNumeral, Byte.isNamePart, Byte.isNameStart, bar, Bool.true_or]
    · simp only [inNumeral, Byte.isNamePart, digit, Bool.or_true, Bool.true_or]
    · simp only [inNumeral, isNamePart_of_numeral c (by simp only [hex, Bool.true_or]), Bool.true_or]

theorem inNumeral_of_mem_sign (s : Bytes) : ∀ c ∈ (sign s).1, inNumeral c = true := by
  unfold sign
  split
  · split
    · rename_i front
      rw [List.forall_mem_singleton]
      rcases (Bool.or_eq_true ..).mp front with minus | plus
      · simp only [inNumeral, minus, Bool.or_true, Bool.true_or]
      · simp only [inNumeral, plus, Bool.or_true, Bool.true_or]
    · exact List.forall_mem_nil _
  · exact List.forall_mem_nil _

theorem inNumeral_of_mem_baseMark (s : Bytes) : ∀ c ∈ (baseMark s).1, inNumeral c = true := by
  unfold baseMark
  split
  · split
    · rename_i c _ _ _ found
      have letter := isNamePart_of_numeral c (by simp [found])
      refine List.forall_mem_cons.mpr ⟨rfl, List.forall_mem_singleton.mpr ?_⟩
      simp only [inNumeral, letter, Bool.true_or]
    · exact List.forall_mem_nil _
  · exact List.forall_mem_nil _

/-- A numeral has name bytes, signs and points only. -/
theorem inNumeral_of_mem_numeralSpan (s : Bytes)
    : ∀ c ∈ (numeralSpan s).1.text, inNumeral c = true := by
  have parts
      : (numeralSpan s).1.text
        = (sign s).1 ++ (baseMark (sign s).2).1
          ++ (bodySpan (baseMark (sign s).2).2.1 (baseMark (sign s).2).2.2).1 := by
    simp only [numeralSpan, bodySpan]
    split <;> rfl
  rw [parts, List.forall_mem_append, List.forall_mem_append]
  exact ⟨⟨inNumeral_of_mem_sign s, inNumeral_of_mem_baseMark _⟩, inNumeral_of_mem_bodySpan _ _⟩

theorem sealed_of_number {s : Bytes} {v : Value} (whole : number s = .ok (v, [])) : Sealed s := by
  obtain ⟨-, n, span, -⟩ := number_eq_ok_iff.mp whole
  have parts := numeralSpan_append s
  have each := inNumeral_of_mem_numeralSpan s
  rw [span, List.append_nil] at parts
  rw [span, parts] at each
  exact sealed_of_class each rfl rfl

--------------------------------------------------------------------------------
-- Literals
--------------------------------------------------------------------------------

mutual

/-- A literal is sealed, by induction on the grammar. -/
theorem Spells.sealed {s : Bytes} {v : Value} : Spells s v → Sealed s
  | .single inside => inside.sealed rfl
  | .double inside => inside.sealed rfl
  | .word names => sealed_of_word (letters_of_constant? names).1 rfl
  | .numeral _ whole => sealed_of_number whole
  | .brackets inside => .bracketed rfl (SpellsItems.nested inside)
  | .parentheses names blank inside =>
      (sealed_of_word letters_of_array.1 names).append
        (blank.sealed.append (.bracketed rfl (SpellsItems.nested inside)))

theorem SpellsItem.nested {s : Bytes} {item : Item} : SpellsItem s item → WellNested s
  | .positional before spells after =>
      before.sealed.nested.append ((Spells.sealed spells).nested.append after.sealed.nested)
  | .keyed before spellsKey _ between between' spells after => by
      have arrow : WellNested [0x3d, 0x3e] := .of_scan rfl
      have value := (Spells.sealed spells).nested.append after.sealed.nested
      have tail := arrow.append (between'.sealed.nested.append value)
      exact before.sealed.nested.append
        ((Spells.sealed spellsKey).nested.append (between.sealed.nested.append tail))

theorem SpellsItems.nested {s : Bytes} {items : List Item} : SpellsItems s items → WellNested s
  | .none blank => blank.sealed.nested
  | .last spells => SpellsItem.nested spells
  | .more spells behind => by
      have comma : WellNested [0x2c] := .of_scan rfl
      exact (SpellsItem.nested spells).append (comma.append (SpellsItems.nested behind))

end

--------------------------------------------------------------------------------
-- Expressions
--------------------------------------------------------------------------------

theorem Denotes.sealed {expr : Bytes} {v : Value} (h : Denotes expr v) : Sealed expr := by
  obtain ⟨front, s, back, before, spells, behind, rfl⟩ := h.padded
  exact before.sealed.append (spells.sealed.append behind.sealed)

/-- An expression is not all white space, for its literal starts with an ASCII byte. -/
theorem Denotes.trim_ne_nil {expr : Bytes} {v : Value} (h : Denotes expr v)
    : Bytes.trim expr ≠ [] := by
  obtain ⟨front, s, back, -, spells, -, rfl⟩ := h.padded
  obtain ⟨c, rest, rfl, ascii, visible, -⟩ := spells.head
  intro empty
  have blank := Bytes.isBlank_of_trim_eq_nil empty (b := c) (by simp) ascii
  rw [visible] at blank
  cases blank

/-- The scan takes every accepted expression as a whole: alone it is one argument, parentheses
around it end where it ends, whatever follows them, and a list of such expressions is cut back into
them.
-/
theorem accepted_boundaries {exprs : List Bytes}
    (accepted : ∀ expr ∈ exprs, ∃ v, evaluate expr = .ok v)
    : (∀ expr ∈ exprs,
        Argument.split expr = [Bytes.trim expr]
        ∧ ∀ t, Extent.extract (0x28 :: (expr ++ 0x29 :: t)) 0 = .ok ⟨expr, 0, expr.length + 1⟩)
      ∧ Argument.split (Bytes.join ", " exprs) = exprs.map Bytes.trim := by
  have denotes : ∀ expr ∈ exprs, ∃ v, Denotes expr v := fun expr member =>
    (accepted expr member).imp fun _ => evaluate_eq_ok_iff.mp
  have uncut : ∀ expr ∈ exprs, Sealed expr ∧ Bytes.trim expr ≠ [] := fun expr member =>
    (denotes expr member).elim fun _ h => ⟨h.sealed, h.trim_ne_nil⟩
  refine ⟨fun expr member => ⟨?_, fun t => ?_⟩, ?_⟩
  · obtain ⟨whole, visible⟩ := uncut expr member
    have alone := @Argument.split_join [expr] (by simpa using whole) (by simpa using visible)
    rwa [Bytes.join, List.intercalate_singleton] at alone
  · have family : closerOf? 0x28 = some 0x29 := rfl
    have ends := Extent.innerLength?_wellNested family (uncut expr member).1.nested Nat.one_pos
      (0x29 :: t)
    have stops : Extent.innerLength? 0x28 0x29 .outside 1 (0x29 :: t) = some 0 := rfl
    rw [stops, Option.map_some, Nat.zero_add] at ends
    have inside : Extent.innerOf (0x28 :: (expr ++ 0x29 :: t)) = .ok expr := by
      simp only [Extent.innerOf, family, ends, List.take_left]
    exact Extent.extract_eq_ok_iff.mpr ⟨inside, rfl, by simp only [Nat.zero_add, Nat.add_comm]⟩
  · exact Argument.split_join (fun s member => (uncut s member).1) fun s member => (uncut s member).2

/-- Commas and brackets in strings, escaped quotes and a comma at the end of an array. -/
theorem accepted_boundaries_strings
    : evaluate "['a,' => \"x\\\"]\", -15, ]"
        = .ok (.array [(.text "a,", .text "x\"]"), (.int 0, .int (-15))])
      ∧ evaluate " 'it\\'s (' " = .ok (.text "it's (")
      ∧ (∀ t,
          Extent.extract (0x28 :: (Bytes.ofString " 'it\\'s (' " ++ 0x29 :: t)) 0
          = .ok ⟨" 'it\\'s (' ", 0, 12⟩)
      ∧ Argument.split "['a,' => \"x\\\"]\", -15, ],  'it\\'s (' "
        = [Bytes.ofString "['a,' => \"x\\\"]\", -15, ]", Bytes.ofString "'it\\'s ('"] := by
  have first : evaluate "['a,' => \"x\\\"]\", -15, ]"
      = .ok (.array [(.text "a,", .text "x\"]"), (.int 0, .int (-15))]) := by cbv
  have second : evaluate " 'it\\'s (' " = .ok (.text "it's (") := by cbv
  have accepted
      : ∀ expr ∈ [Bytes.ofString "['a,' => \"x\\\"]\", -15, ]", Bytes.ofString " 'it\\'s (' "],
          ∃ v, evaluate expr = .ok v := by
    simp only [List.mem_cons, List.not_mem_nil, or_false]
    rintro expr (rfl | rfl)
    · exact ⟨_, first⟩
    · exact ⟨_, second⟩
  obtain ⟨each, cuts⟩ := accepted_boundaries accepted
  refine ⟨first, second, fun t => ?_, ?_⟩
  · exact (each _ (.tail _ (.head _))).2 t
  · have joined : Bytes.join ", "
          [Bytes.ofString "['a,' => \"x\\\"]\", -15, ]", Bytes.ofString " 'it\\'s (' "]
        = Bytes.ofString "['a,' => \"x\\\"]\", -15, ],  'it\\'s (' " := by decide +kernel
    rw [← joined, cuts]
    decide +kernel

end Literal

end FormMigrate
