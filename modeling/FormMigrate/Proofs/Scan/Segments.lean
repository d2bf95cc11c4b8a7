import FormMigrate.Proofs.Scan.Nesting
import FormMigrate.Proofs.Text.Byte
import FormMigrate.Proofs.Text.Visible
import FormMigrate.Scan.Argument
import Mathlib.Data.List.TakeWhile

/-! The arguments of a well-nested argument list are well nested: no top-level comma parts a string
or a pair of brackets, and trimming takes no more than blanks away.
-/

namespace FormMigrate

--------------------------------------------------------------------------------
-- Bytes that do not matter to nesting
--------------------------------------------------------------------------------

/-- Bytes that are no quote, no backslash and no bracket. -/
def Byte.isNeutral (c : Byte) : Bool :=
  !QuoteState.isDelimiter c && c != 0x5c && !isBracket c

/-- A text of bytes that do not matter. -/
def Bytes.Neutral (s : Bytes) : Prop := ∀ c ∈ s, c.isNeutral = true

instance (s : Bytes) : Decidable s.Neutral :=
  inferInstanceAs (Decidable (∀ c ∈ s, c.isNeutral = true))

theorem Bytes.Neutral.of_all {s : Bytes} (h : s.all Byte.isNeutral = true) : s.Neutral :=
  List.all_eq_true.mp h

theorem Bytes.neutral_cons {c : Byte} {s : Bytes}
    : Bytes.Neutral (c :: s) ↔ c.isNeutral = true ∧ s.Neutral :=
  List.forall_mem_cons

theorem Bytes.Neutral.append {s t : Bytes} (h : s.Neutral) (h' : t.Neutral)
    : Bytes.Neutral (s ++ t) :=
  List.forall_mem_append.mpr ⟨h, h'⟩

/-- The quotes, the backslash and the brackets. -/
def Byte.marks : Bytes := [0x27, 0x22, 0x5c, 0x28, 0x5b, 0x7b, 0x29, 0x5d, 0x7d]

/-- Bytes of a class without marks do not matter. -/
theorem Byte.isNeutral_of_class {p : Byte → Bool} {c : Byte} (inside : p c = true)
    (outside : Byte.marks.all (fun mark => !p mark) = true)
    : c.isNeutral = true := by
  have apart : ∀ mark ∈ Byte.marks, (c == mark) = false := by
    intro mark member
    have beyond : p mark = false := by simpa using List.all_eq_true.mp outside mark member
    exact beq_eq_false_iff_ne.mpr (Byte.ne_of_class inside beyond)
  simp only [Byte.marks, List.forall_mem_cons] at apart
  obtain ⟨single, double, backslash, paren, bracket, brace, paren', bracket', brace', -⟩ := apart
  simp [Byte.isNeutral, QuoteState.isDelimiter, isBracket, closerOf?, isCloser, bne, single, double,
    backslash, paren, bracket, brace, paren', bracket', brace']

theorem Byte.isNeutral_of_le {c : Byte} (beyond : 0x80 ≤ c) : c.isNeutral = true :=
  isNeutral_of_class (p := fun c => decide (0x80 ≤ c)) (decide_eq_true beyond) rfl

theorem Nesting.next?_neutral {c : Byte} (h : c.isNeutral = true) (awaited : Bytes)
    : Nesting.next? ⟨.outside, awaited⟩ c = some ⟨.outside, awaited⟩ := by
  simp only [Byte.isNeutral, isBracket, Bool.and_eq_true, Bool.not_eq_true',
    Bool.or_eq_false_iff, Option.isSome_eq_false_iff, Option.isNone_iff_eq_none] at h
  obtain ⟨⟨quote, -⟩, opens, closes⟩ := h
  simp [next?, QuoteState.isInert, QuoteState.next, await?, quote, opens, closes]

/-- Text that does not matter leaves a scan outside strings as it was. -/
theorem Nesting.after?_neutral {s : Bytes} (h : s.Neutral) (awaited : Bytes)
    : Nesting.after? ⟨.outside, awaited⟩ s = some ⟨.outside, awaited⟩ := by
  induction s with
  | nil => rfl
  | cons c rest ih =>
      rw [Bytes.neutral_cons] at h
      rw [after?, next?_neutral h.1, Option.bind_some, ih h.2]

theorem WellNested.of_neutral {s : Bytes} (h : s.Neutral) : WellNested s :=
  wellNested_iff.mpr (Nesting.after?_neutral h [])

--------------------------------------------------------------------------------
-- Strings are not ended by what does not matter
--------------------------------------------------------------------------------

/-- A state whose string, if one is open, has quotes for delimiters. -/
def QuoteState.Quoted : QuoteState → Prop
  | .outside => True
  | .inside d _ => isDelimiter d = true

theorem QuoteState.Quoted.next {q : QuoteState} (h : q.Quoted) (c : Byte) : (q.next c).Quoted := by
  cases q with
  | outside =>
      simp only [QuoteState.next]
      split
      · assumption
      · trivial
  | inside d escaped =>
      cases escaped with
      | true => exact h
      | false =>
          simp only [QuoteState.next]
          split
          · exact h
          · split
            · trivial
            · exact h

/-- Strings are opened by quotes only. -/
theorem QuoteState.Quoted.after {q : QuoteState} (h : q.Quoted) (s : Bytes)
    : (q.after s).Quoted := by
  induction s generalizing q with
  | nil => exact h
  | cons c rest ih => exact ih (h.next c)

theorem QuoteState.Quoted.outside_of_next {q : QuoteState} (h : q.Quoted) {c : Byte}
    (neutral : c.isNeutral = true) (ends : q.next c = .outside)
    : q = .outside := by
  simp only [Byte.isNeutral, Bool.and_eq_true, Bool.not_eq_true', bne_iff_ne] at neutral
  cases q with
  | outside => rfl
  | inside d escaped =>
      have other : c ≠ d := by
        rintro rfl
        rw [Quoted, neutral.1.1] at h
        cases h
      cases escaped with
      | true => cases ends
      | false => simp [QuoteState.next, neutral.1.2, other] at ends

/-- Text that does not matter ends no string. -/
theorem QuoteState.Quoted.outside_of_after {q : QuoteState} (h : q.Quoted) {s : Bytes}
    (neutral : s.Neutral) (ends : q.after s = .outside)
    : q = .outside := by
  induction s generalizing q with
  | nil => exact ends
  | cons c rest ih =>
      rw [Bytes.neutral_cons] at neutral
      exact h.outside_of_next neutral.1 (ih (h.next c) neutral.2 ends)

/-- What is left of a well-nested text without bytes that do not matter at its ends is well
nested.
Witness: such bytes do not end a string, so that the scan stands outside strings where they
start.
-/
theorem WellNested.of_padded {first inner last : Bytes}
    (before : first.Neutral) (behind : last.Neutral)
    (h : WellNested (first ++ inner ++ last))
    : WellNested inner := by
  have whole := wellNested_iff.mp h
  rw [Nesting.after?_append, Nesting.after?_append, Nesting.after?_neutral before,
    Option.bind_some] at whole
  obtain ⟨⟨q, awaited⟩, scanned, closed⟩ := Option.bind_eq_some_iff.mp whole
  have quotes := scanned
  rw [Nesting.after?_eq, Option.map_eq_some_iff] at quotes
  obtain ⟨_, _, same⟩ := quotes
  have ends := closed
  rw [Nesting.after?_eq, Option.map_eq_some_iff] at ends
  obtain ⟨_, _, ends⟩ := ends
  rw [Nesting.mk.injEq] at same ends
  have quoted : q.Quoted := same.1 ▸ (show QuoteState.outside.Quoted from trivial).after inner
  obtain rfl := quoted.outside_of_after behind ends.1
  rw [Nesting.after?_neutral behind] at closed
  cases closed
  exact wellNested_iff.mpr scanned

--------------------------------------------------------------------------------
-- Trimming
--------------------------------------------------------------------------------

/-- White space does not matter to nesting. -/
theorem Bytes.White.neutral {s : Bytes} (white : Bytes.White s) : s.Neutral := by
  intro b member
  by_cases ascii : b < 0x80
  · exact Byte.isNeutral_of_class (white.isBlank member ascii) rfl
  · exact Byte.isNeutral_of_le (UInt8.not_lt.mp ascii)

/-- Trimming takes white space away at both ends. -/
theorem Bytes.trim_spec (s : Bytes)
    : ∃ first last : Bytes,
        first.Neutral ∧ last.Neutral ∧ s = first ++ Bytes.trim s ++ last := by
  obtain ⟨first, last, white, white', parts⟩ := Bytes.trim_parts s
  exact ⟨first, last, white.neutral, white'.neutral, parts⟩

/-- Trimming keeps a text well nested. -/
theorem WellNested.trim {s : Bytes} (h : WellNested s) : WellNested (Bytes.trim s) := by
  obtain ⟨first, last, before, behind, parts⟩ := Bytes.trim_spec s
  exact .of_padded before behind (parts ▸ h)

--------------------------------------------------------------------------------
-- Segments
--------------------------------------------------------------------------------

namespace Argument

theorem depthChange_spec
    : ∀ c : Byte,
        depthChange c = if (closerOf? c).isSome then 1 else if isCloser c then -1 else 0 := by
  intro c
  simp only [depthChange, closerOf?, isCloser]
  split_ifs <;> simp_all

/-- A byte outside strings changes the depth as it changes the number of awaited brackets. -/
theorem length_of_await? {awaited after : Bytes} {c : Byte} (h : await? awaited c = some after)
    : (after.length : Int) = awaited.length + depthChange c := by
  rw [depthChange_spec]
  unfold await? at h
  split at h
  · rename_i closer family
    cases h
    simp [family]
  · rename_i opens
    split at h
    · rename_i closes
      cases awaited with
      | nil => cases h
      | cons expected others =>
          simp only at h
          split at h
          · cases h
            simp only [opens, closes, Option.isSome_none, Bool.false_eq_true, ↓reduceIte,
              List.length_cons]
            omega
          · cases h
    · rename_i plain
      cases h
      simp [opens, plain]

/-- The segments of a text whose brackets all close: the first one closes what is awaited, and all
others are well nested.
Witness: induction on the text. Where the depth is zero, no bracket is awaited.
-/
theorem segmentsFrom_nested {nesting : Nesting} {s : Bytes}
    (h : nesting.after? s = some .outset)
    : ∃ first others,
        segmentsFrom nesting.quotes nesting.awaited.length s = first :: others
        ∧ nesting.after? first = some .outset
        ∧ ∀ segment ∈ others, WellNested segment := by
  induction s generalizing nesting with
  | nil => exact ⟨[], [], rfl, h, by simp⟩
  | cons c rest ih =>
      obtain ⟨next, step, later⟩ := Option.bind_eq_some_iff.mp h
      obtain ⟨first, others, cut, closes, each⟩ := ih later
      have longer : nesting.after? (c :: first) = some .outset := by
        rw [Nesting.after?, step, Option.bind_some, closes]
      obtain ⟨q, awaited⟩ := nesting
      simp only [Nesting.next?] at step
      simp only [segmentsFrom]
      split at step
      · rename_i inert
        cases step
        simp only at cut
        rw [if_pos inert, cut]
        exact ⟨c :: first, others, rfl, longer, each⟩
      · rename_i active
        obtain ⟨after, settled, rfl⟩ := Option.map_eq_some_iff.mp step
        have depth := length_of_await? settled
        rw [if_neg active]
        split
        · rename_i comma
          simp only [Bool.and_eq_true, beq_iff_eq] at comma
          obtain ⟨rfl, shut⟩ := comma
          -- Depth zero: no bracket is awaited, so the segment ends well nested.
          obtain rfl : awaited = [] := List.eq_nil_of_length_eq_zero (Int.ofNat_eq_zero.mp shut)
          obtain rfl : after = [] := Option.some.inj settled.symm
          have quotes : q = .outside := by
            cases q with
            | outside => rfl
            | inside => exact (active rfl).elim
          subst quotes
          simp only at cut
          refine ⟨[], first :: others, ?_, rfl, ?_⟩
          · rw [← cut]
          · exact List.forall_mem_cons.mpr ⟨wellNested_iff.mpr closes, each⟩
        · rw [← depth]
          simp only at cut
          rw [cut]
          exact ⟨c :: first, others, rfl, longer, each⟩

theorem mem_of_mem_dropBlankLast {texts : List Bytes} {s : Bytes} (h : s ∈ dropBlankLast texts)
    : s ∈ texts := by
  fun_induction dropBlankLast texts with
  | case1 => exact h
  | case2 => cases h
  | case3 => exact h
  | case4 first second others ih =>
      rcases List.mem_cons.mp h with rfl | later
      · exact List.mem_cons_self
      · exact List.mem_cons_of_mem first (ih later)

/-- The arguments of a well-nested list are well nested. -/
theorem split_nested {s : Bytes} (h : WellNested s) : ∀ arg ∈ split s, WellNested arg := by
  intro arg member
  obtain ⟨segment, inside, rfl⟩ := List.mem_map.mp (mem_of_mem_dropBlankLast member)
  obtain ⟨first, others, cut, closes, each⟩ := segmentsFrom_nested (wellNested_iff.mp h)
  rw [segments, show segmentsFrom .outside 0 s = first :: others from cut] at inside
  rcases List.mem_cons.mp inside with rfl | later
  · exact (wellNested_iff.mpr closes).trim
  · exact (each segment later).trim

end Argument

end FormMigrate
