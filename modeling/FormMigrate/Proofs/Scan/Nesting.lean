import FormMigrate.Scan.Bracket

/-! Well-nested texts: their strings end, and their brackets outside strings match. A scan with the
brackets it still waits for recognizes them.
-/

namespace FormMigrate

--------------------------------------------------------------------------------
-- Statement
--------------------------------------------------------------------------------

/-- The closing brackets of all families. -/
def isCloser (c : Byte) : Bool := c == 0x29 || c == 0x5d || c == 0x7d

/-- The brackets of all families. -/
def isBracket (c : Byte) : Bool := (closerOf? c).isSome || isCloser c

/-- The brackets of a text outside its strings, from a quote state on. -/
def brackets : QuoteState → Bytes → Bytes
  | _, [] => []
  | q, c :: rest =>
      if !q.isInert c && isBracket c then c :: brackets (q.next c) rest
      else brackets (q.next c) rest

/-- Brackets that match: none, or a pair around matching ones with matching ones behind. -/
inductive Matched : Bytes → Prop
  | nil : Matched []
  | pair {opener closer : Byte} {inner rest : Bytes} (family : closerOf? opener = some closer)
    (inside : Matched inner) (behind : Matched rest)
    : Matched (opener :: (inner ++ closer :: rest))

/-- A text whose scan ends outside a string and whose brackets outside strings match. -/
structure WellNested (s : Bytes) : Prop where
  ends : QuoteState.outside.after s = .outside
  matched : Matched (brackets .outside s)

--------------------------------------------------------------------------------
-- Families of brackets
--------------------------------------------------------------------------------

theorem closerOf?_eq_some_iff {opener closer : Byte}
    : closerOf? opener = some closer
      ↔ (opener = 0x28 ∧ closer = 0x29)
        ∨ (opener = 0x5b ∧ closer = 0x5d)
        ∨ (opener = 0x7b ∧ closer = 0x7d) := by
  constructor
  · intro h
    simp only [closerOf?, beq_iff_eq] at h
    split at h
    · rename_i same
      cases h
      exact .inl ⟨same, rfl⟩
    · split at h
      · rename_i same
        cases h
        exact .inr (.inl ⟨same, rfl⟩)
      · split at h
        · rename_i same
          cases h
          exact .inr (.inr ⟨same, rfl⟩)
        · cases h
  · rintro (⟨rfl, rfl⟩ | ⟨rfl, rfl⟩ | ⟨rfl, rfl⟩) <;> rfl

theorem closer_closes {opener closer : Byte} (h : closerOf? opener = some closer)
    : closerOf? closer = none ∧ isCloser closer = true := by
  rcases closerOf?_eq_some_iff.mp h with ⟨-, rfl⟩ | ⟨-, rfl⟩ | ⟨-, rfl⟩ <;> decide

theorem closerOf?_inj {opener other closer : Byte} (h : closerOf? opener = some closer)
    (h' : closerOf? other = some closer)
    : opener = other := by
  rcases closerOf?_eq_some_iff.mp h with ⟨rfl, rfl⟩ | ⟨rfl, rfl⟩ | ⟨rfl, rfl⟩ <;>
    rcases closerOf?_eq_some_iff.mp h' with ⟨rfl, same⟩ | ⟨rfl, same⟩ | ⟨rfl, same⟩ <;>
      first | rfl | exact absurd same (by decide)

theorem QuoteState.after_append (q : QuoteState) (s t : Bytes)
    : q.after (s ++ t) = (q.after s).after t :=
  List.foldl_append

theorem isBracket_of_mem_brackets {q : QuoteState} {s : Bytes}
    : ∀ c ∈ brackets q s, isBracket c = true := by
  induction s generalizing q with
  | nil => simp [brackets]
  | cons c rest ih =>
      unfold brackets
      split
      · rename_i shown
        rw [Bool.and_eq_true] at shown
        exact List.forall_mem_cons.mpr ⟨shown.2, ih⟩
      · exact ih

--------------------------------------------------------------------------------
-- A scan that waits for brackets
--------------------------------------------------------------------------------

/-- The closing brackets that are awaited after one more byte outside strings, innermost first,
unless that byte closes what is not open.
-/
def await? (awaited : Bytes) (c : Byte) : Option Bytes :=
  match closerOf? c with
  | some closer => some (closer :: awaited)
  | none =>
      if isCloser c then
        match awaited with
        | [] => none
        | expected :: others => if c == expected then some others else none
      else some awaited

/-- A scan for nesting: its quote state and the closing brackets that it awaits. -/
structure Nesting where
  quotes : QuoteState
  awaited : Bytes
  deriving DecidableEq, Repr

namespace Nesting

/-- The scan at the front of a text. -/
abbrev outset : Nesting := ⟨.outside, []⟩

/-- The scan after one more byte, unless a bracket does not match. -/
def next? (nesting : Nesting) (c : Byte) : Option Nesting :=
  if nesting.quotes.isInert c then some ⟨nesting.quotes.next c, nesting.awaited⟩
  else (await? nesting.awaited c).map fun awaited => ⟨nesting.quotes.next c, awaited⟩

/-- The scan after a text, unless a bracket does not match. -/
def after? (nesting : Nesting) : Bytes → Option Nesting
  | [] => some nesting
  | c :: rest => (nesting.next? c).bind fun next => next.after? rest

theorem after?_append (nesting : Nesting) (s t : Bytes)
    : nesting.after? (s ++ t) = (nesting.after? s).bind fun next => next.after? t := by
  induction s generalizing nesting with
  | nil => rfl
  | cons c rest ih =>
      simp only [List.cons_append, after?, Option.bind_assoc, ih]

theorem next?_widen {nesting next : Nesting} {c : Byte} (outer : Bytes)
    (h : nesting.next? c = some next)
    : next? ⟨nesting.quotes, nesting.awaited ++ outer⟩ c
      = some ⟨next.quotes, next.awaited ++ outer⟩ := by
  obtain ⟨q, awaited⟩ := nesting
  simp only [next?] at h ⊢
  split at h
  · rename_i inert
    cases h
    rw [if_pos inert]
  · rename_i active
    rw [if_neg active]
    obtain ⟨after, step, rfl⟩ := Option.map_eq_some_iff.mp h
    rw [Option.map_eq_some_iff]
    refine ⟨after ++ outer, ?_, rfl⟩
    unfold await? at step ⊢
    split at step
    · cases step
      rfl
    · split at step
      · rename_i closes
        rw [if_pos closes]
        cases awaited with
        | nil => cases step
        | cons expected others =>
            simp only [List.cons_append] at step ⊢
            split at step
            · rename_i same
              cases step
              rw [if_pos same]
            · cases step
      · rename_i plain
        cases step
        rw [if_neg plain]

/-- A scan keeps the brackets that are awaited further out. -/
theorem after?_widen {nesting next : Nesting} {s : Bytes} (outer : Bytes)
    (h : nesting.after? s = some next)
    : after? ⟨nesting.quotes, nesting.awaited ++ outer⟩ s
      = some ⟨next.quotes, next.awaited ++ outer⟩ := by
  induction s generalizing nesting with
  | nil =>
      cases h
      rfl
  | cons c rest ih =>
      obtain ⟨further, step, later⟩ := Option.bind_eq_some_iff.mp h
      rw [after?, next?_widen outer step, Option.bind_some]
      exact ih later

/-- The scan follows the quotes of the text and matches its brackets. -/
theorem after?_eq (nesting : Nesting) (s : Bytes)
    : nesting.after? s
      = ((brackets nesting.quotes s).foldlM await? nesting.awaited).map fun awaited =>
          ⟨nesting.quotes.after s, awaited⟩ := by
  induction s generalizing nesting with
  | nil => rfl
  | cons c rest ih =>
      obtain ⟨q, awaited⟩ := nesting
      simp only [after?, next?, brackets, QuoteState.after, List.foldl_cons]
      cases inert : q.isInert c with
      | true =>
          simp only [↓reduceIte, Option.bind_some, ih, Bool.not_true, Bool.false_and,
            Bool.false_eq_true, QuoteState.after]
      | false =>
          cases bracket : isBracket c with
          | true =>
              simp only [Bool.false_eq_true, ↓reduceIte, Bool.not_false, Bool.and_true,
                List.foldlM_cons]
              cases await? awaited c with
              | none => rfl
              | some after =>
                  simp only [Option.map_some, Option.bind_some, ih, QuoteState.after]
                  rfl
          | false =>
              rw [isBracket, Bool.or_eq_false_iff, Option.isSome_eq_false_iff,
                Option.isNone_iff_eq_none] at bracket
              simp only [await?, bracket.1, bracket.2, Bool.false_eq_true, ↓reduceIte,
                Option.map_some, Option.bind_some, ih, Bool.not_false, Bool.and_false,
                QuoteState.after]

end Nesting

--------------------------------------------------------------------------------
-- Matching brackets against the scan
--------------------------------------------------------------------------------

/-- Matching brackets in front of those that close what is awaited, with matching ones between. -/
def Unwinds : (awaited : Bytes) → Bytes → Prop
  | [], s => Matched s
  | closer :: others, s =>
      ∃ inner rest, s = inner ++ closer :: rest ∧ Matched inner ∧ Unwinds others rest

/-- A pair in front joins the first of the matching brackets. -/
theorem Unwinds.pair {awaited : Bytes} {opener closer : Byte} {inner rest : Bytes}
    (family : closerOf? opener = some closer) (inside : Matched inner) (h : Unwinds awaited rest)
    : Unwinds awaited (opener :: (inner ++ closer :: rest)) := by
  cases awaited with
  | nil => exact Matched.pair family inside h
  | cons expected others =>
      obtain ⟨inner', rest', rfl, inside', later⟩ := h
      exact ⟨opener :: (inner ++ closer :: inner'), rest',
        by simp only [List.cons_append, List.append_assoc], .pair family inside inside', later⟩

/-- Matching brackets leave what is awaited alone. -/
theorem Matched.foldlM_await? {s : Bytes} (h : Matched s) (awaited : Bytes)
    : s.foldlM await? awaited = some awaited := by
  induction h generalizing awaited with
  | nil => rfl
  | @pair opener closer inner rest family _ _ ih ih' =>
      have push : await? awaited opener = some (closer :: awaited) := by simp [await?, family]
      have pop : await? (closer :: awaited) closer = some awaited := by
        simp [await?, closer_closes family]
      simp only [List.foldlM_cons, List.foldlM_append, push, pop, ih, ih', bind, Option.bind]

/-- Brackets that close all that is awaited match in between, by induction on the brackets. -/
theorem unwinds_of_foldlM {awaited s : Bytes} (only : ∀ c ∈ s, isBracket c = true)
    (h : s.foldlM await? awaited = some [])
    : Unwinds awaited s := by
  induction s generalizing awaited with
  | nil =>
      cases h
      exact .nil
  | cons c rest ih =>
      rw [List.forall_mem_cons] at only
      obtain ⟨after, step, later⟩ := Option.bind_eq_some_iff.mp h
      have further := ih only.2 later
      unfold await? at step
      split at step
      · rename_i closer family
        cases step
        obtain ⟨inner, behind, rfl, inside, others⟩ := further
        exact others.pair family inside
      · split at step
        · cases awaited with
          | nil => cases step
          | cons expected others =>
              simp only at step
              split at step
              · rename_i same
                cases step
                obtain rfl := beq_iff_eq.mp same
                exact ⟨[], rest, rfl, .nil, further⟩
              · cases step
        · rename_i opens closes
          rw [isBracket, opens, Option.isSome_none, Bool.false_or] at only
          exact (closes only.1).elim

/-- Brackets match exactly where the scan awaits none of them in the end. -/
theorem matched_iff {s : Bytes} (only : ∀ c ∈ s, isBracket c = true)
    : Matched s ↔ s.foldlM await? [] = some [] :=
  ⟨fun h => h.foldlM_await? [], fun h => unwinds_of_foldlM only h⟩

/-- The scan recognizes well-nested texts. -/
theorem wellNested_iff {s : Bytes} : WellNested s ↔ Nesting.outset.after? s = some .outset := by
  have brackets_iff := matched_iff (isBracket_of_mem_brackets (q := .outside) (s := s))
  rw [Nesting.after?_eq, Option.map_eq_some_iff]
  constructor
  · intro h
    exact ⟨[], brackets_iff.mp h.matched, by rw [h.ends]⟩
  · rintro ⟨awaited, folded, same⟩
    rw [Nesting.mk.injEq] at same
    obtain ⟨ends, rfl⟩ := same
    exact ⟨ends, brackets_iff.mpr folded⟩

instance (s : Bytes) : Decidable (WellNested s) := decidable_of_iff _ wellNested_iff.symm

--------------------------------------------------------------------------------
-- Building well-nested texts
--------------------------------------------------------------------------------

namespace WellNested

/-- A text whose scan computes to its outset is well nested. -/
theorem of_scan {s : Bytes} (h : Nesting.outset.after? s = some .outset) : WellNested s :=
  wellNested_iff.mpr h

/-- A well-nested text leaves a scan outside strings as it was. -/
theorem after? {s : Bytes} (h : WellNested s) (awaited : Bytes)
    : Nesting.after? ⟨.outside, awaited⟩ s = some ⟨.outside, awaited⟩ :=
  Nesting.after?_widen awaited (wellNested_iff.mp h)

theorem nil : WellNested [] := ⟨rfl, .nil⟩

/-- A well-nested text may be inserted wherever no string is open. -/
theorem insert {first inner last : Bytes} (outside : QuoteState.outside.after first = .outside)
    (around : WellNested (first ++ last)) (h : WellNested inner)
    : WellNested (first ++ inner ++ last) := by
  have whole := wellNested_iff.mp around
  rw [Nesting.after?_append] at whole
  obtain ⟨⟨q, awaited⟩, scanned, closed⟩ := Option.bind_eq_some_iff.mp whole
  have quotes : q = .outside := by
    rw [Nesting.after?_eq, Option.map_eq_some_iff] at scanned
    obtain ⟨_, _, same⟩ := scanned
    rw [Nesting.mk.injEq] at same
    exact same.1.symm.trans outside
  subst quotes
  rw [wellNested_iff, Nesting.after?_append, Nesting.after?_append, scanned, Option.bind_some,
    h.after?, Option.bind_some, closed]

theorem append {s t : Bytes} (h : WellNested s) (h' : WellNested t) : WellNested (s ++ t) := by
  rw [wellNested_iff, Nesting.after?_append, h.after?, Option.bind_some, h'.after?]

theorem join {sep : Bytes} (h : WellNested sep) {parts : List Bytes}
    (each : ∀ part ∈ parts, WellNested part)
    : WellNested (Bytes.join sep parts) := by
  induction parts with
  | nil => exact nil
  | cons first rest ih =>
      rw [List.forall_mem_cons] at each
      cases rest with
      | nil => simpa [Bytes.join] using each.1
      | cons second others =>
          rw [Bytes.join, List.intercalate_cons_cons]
          exact (each.1.append h).append (ih each.2)

end WellNested

end FormMigrate
