import FormMigrate.Proofs.Literal.Grammar
import FormMigrate.Proofs.Text.Byte
import Mathlib.Data.List.TakeWhile

/-! Numerals in context: the reader of numerals takes the same token whether the text ends behind it
or goes on with a byte that ends a token.
-/

namespace FormMigrate.Literal

--------------------------------------------------------------------------------
-- Where tokens end
--------------------------------------------------------------------------------

/-- Bytes that stand behind a literal: blanks, a comma, an arrow, a closing bracket. -/
def endsToken (c : Byte) : Bool :=
  c.isBlank || c == 0x2c || c == 0x3d || c == 0x29 || c == 0x5d

/-- A text that starts with a byte that ends a token, if it starts with one at all. -/
def Delimited (t : Bytes) : Prop := ∀ c ∈ t.head?, endsToken c = true

theorem Delimited.cons {c : Byte} (h : endsToken c = true) (t : Bytes) : Delimited (c :: t) := by
  rintro d same
  obtain rfl := Option.some.inj same
  exact h

/-- A run of bytes ends where a text goes on with another byte. -/
theorem run_append {p : Byte → Bool} {s t : Bytes} (each : ∀ c ∈ s, p c = true)
    (stops : ∀ c ∈ t.head?, p c = false)
    : (s ++ t).takeWhile p = s ∧ (s ++ t).dropWhile p = t := by
  rw [List.takeWhile_append_of_pos each, List.dropWhile_append_of_pos each]
  cases t with
  | nil => simp
  | cons c rest => simp [stops c rfl]

/-- A byte that ends a token belongs to no name and to no numeral. -/
theorem apart_of_endsToken
    : ∀ c : Byte,
        endsToken c = true
          → c.isNamePart = false
            ∧ c.isDigit = false
            ∧ c.isHex = false
            ∧ baseOfMark? c = none
            ∧ c ≠ 0x5f ∧ c ≠ 0x2e ∧ c ≠ 0x2b ∧ c ≠ 0x2d ∧ c ≠ 0x30
            ∧ c.lower ≠ 0x65 := by
  decide

theorem Delimited.head {c : Byte} {t : Bytes} (h : Delimited (c :: t)) : endsToken c = true :=
  h c rfl

--------------------------------------------------------------------------------
-- Signs and base marks
--------------------------------------------------------------------------------

/-- A text that starts with no sign. -/
def Unsigned (s : Bytes) : Prop := ∀ c ∈ s.head?, (c == 0x2d || c == 0x2b) = false

/-- A text that starts with no base mark. -/
def Unmarked (s : Bytes) : Prop := ∀ c rest, s = 0x30 :: c :: rest → baseOfMark? c = none

theorem sign_of_unsigned {s : Bytes} (h : Unsigned s) : sign s = ([], s) := by
  cases s with
  | nil => rfl
  | cons c rest => rw [sign, if_neg (by rw [h c rfl]; decide)]

theorem baseMark_of_unmarked {s : Bytes} (h : Unmarked s) : baseMark s = ([], 10, s) := by
  unfold baseMark
  split
  · rename_i c rest
    rw [h c rest rfl]
  · rfl

theorem Unsigned.append {s : Bytes} (some : s ≠ []) (h : Unsigned s) (t : Bytes)
    : Unsigned (s ++ t) := by
  cases s with
  | nil => exact (some rfl).elim
  | cons c rest => exact h

theorem Unsigned.of_append {s t : Bytes} (some : s ≠ []) (h : Unsigned (s ++ t)) : Unsigned s := by
  cases s with
  | nil => exact (some rfl).elim
  | cons c rest => exact h

theorem Unmarked.of_append {s t : Bytes} (h : Unmarked (s ++ t)) : Unmarked s := by
  rintro c rest rfl
  exact h c (rest ++ t) rfl

theorem Unmarked.append {s t : Bytes} (h : Unmarked s) (ends : Delimited t)
    : Unmarked (s ++ t) := by
  intro c rest same
  match s with
  | [] =>
      obtain rfl : t = 0x30 :: c :: rest := same
      exact absurd ends.head (by decide)
  | [d] =>
      obtain ⟨rfl, rfl⟩ := List.cons.inj same
      exact (apart_of_endsToken c ends.head).2.2.2.1
  | d :: e :: s =>
      simp only [List.cons_append, List.cons.injEq] at same
      obtain ⟨rfl, rfl, -⟩ := same
      exact h e s rfl

/-- A sign in front, or none. -/
theorem sign_cases (s : Bytes)
    : (∃ c rest, s = c :: rest ∧ ∀ u, sign (c :: u) = ([c], u)) ∨ Unsigned s := by
  cases s with
  | nil => exact .inr nofun
  | cons c rest =>
      cases signed : (c == 0x2d || c == 0x2b) with
      | true => exact .inl ⟨c, rest, rfl, fun u => by rw [sign, if_pos signed]⟩
      | false =>
          refine .inr fun d same => ?_
          obtain rfl := Option.some.inj same
          exact signed

/-- A base mark in front, or none. -/
theorem baseMark_cases (s : Bytes)
    : (∃ c base rest, s = 0x30 :: c :: rest ∧ ∀ d, baseMark (0x30 :: c :: d) = ([0x30, c], base, d))
      ∨ Unmarked s := by
  by_cases marked : ∃ c base rest, s = 0x30 :: c :: rest ∧ baseOfMark? c = some base
  · obtain ⟨c, base, rest, same, found⟩ := marked
    exact .inl ⟨c, base, rest, same, fun d => by rw [baseMark, found]⟩
  · refine .inr fun c rest same => Option.eq_none_iff_forall_not_mem.mpr ?_
    exact fun base found => marked ⟨c, base, rest, same, found⟩

--------------------------------------------------------------------------------
-- Bodies
--------------------------------------------------------------------------------

/-- The bytes of a decimal numeral are read alike on their own. -/
theorem decimalSpan_span (fraction afterMark : Bool) (s : Bytes)
    : decimalSpan fraction afterMark (decimalSpan fraction afterMark s).1
      = ((decimalSpan fraction afterMark s).1, (decimalSpan fraction afterMark s).2.1, []) := by
  fun_induction decimalSpan fraction afterMark s <;> simp_all [decimalSpan]

/-- A decimal numeral that makes up its text is read alike before a byte that ends a token. -/
theorem decimalSpan_append_delimited {fraction afterMark isFraction : Bool} {s span t : Bytes}
    (h : decimalSpan fraction afterMark s = (span, isFraction, [])) (ends : Delimited t)
    : decimalSpan fraction afterMark (s ++ t) = (span, isFraction, t) := by
  fun_induction decimalSpan fraction afterMark s generalizing span with
  | case1 fraction afterMark =>
      cases h
      cases t with
      | nil => rfl
      | cons c rest =>
          obtain ⟨-, digit, -, -, underscore, point, plus, minus, -, mark⟩ :=
            apart_of_endsToken c ends.head
          simp [decimalSpan, digit, underscore, point, plus, minus, mark]
  | case2 fraction afterMark c rest digit span' isFraction' after same ih =>
      cases h
      simp only [List.cons_append, decimalSpan, digit, ih same, ↓reduceIte]
  | case3 fraction afterMark c rest digit point span' isFraction' after same ih =>
      cases h
      simp only [List.cons_append, decimalSpan, digit, point, ih same, Bool.false_eq_true,
        ↓reduceIte]
  | case4 fraction afterMark c rest digit point mark span' isFraction' after same ih =>
      cases h
      simp only [List.cons_append, decimalSpan, digit, point, mark, ih same, Bool.false_eq_true,
        ↓reduceIte]
  | case5 fraction afterMark c rest digit point mark signed span' isFraction' after same ih =>
      cases h
      simp only [List.cons_append, decimalSpan, digit, point, mark, signed, ih same, Bool.false_eq_true,
        ↓reduceIte]
  | case6 => cases h

/-- The bytes after a base mark that belong to a numeral, whether they make it a fraction, and what
follows.
-/
def bodySpan (base : Nat) (s : Bytes) : Bytes × Bool × Bytes :=
  if base == 10 then decimalSpan false false s
  else (s.takeWhile (inMarkedNumeral base), false, s.dropWhile (inMarkedNumeral base))

theorem bodySpan_append (base : Nat) (s : Bytes)
    : (bodySpan base s).1 ++ (bodySpan base s).2.2 = s := by
  unfold bodySpan
  split
  · exact decimalSpan_append false false s
  · exact List.takeWhile_append_dropWhile

theorem bodySpan_span (base : Nat) (s : Bytes)
    : bodySpan base (bodySpan base s).1 = ((bodySpan base s).1, (bodySpan base s).2.1, []) := by
  unfold bodySpan
  split
  · exact decimalSpan_span false false s
  · have each : ∀ c ∈ s.takeWhile (inMarkedNumeral base), inMarkedNumeral base c = true :=
      fun c member => List.mem_takeWhile_imp member
    rw [List.takeWhile_eq_self_iff.mpr each, List.dropWhile_eq_nil_iff.mpr each]

theorem bodySpan_append_delimited {base : Nat} {isFraction : Bool} {s body t : Bytes}
    (h : bodySpan base s = (body, isFraction, [])) (ends : Delimited t)
    : bodySpan base (s ++ t) = (body, isFraction, t) := by
  unfold bodySpan at h ⊢
  split
  · rename_i decimal
    rw [if_pos decimal] at h
    exact decimalSpan_append_delimited h ends
  · rename_i marked
    rw [if_neg marked] at h
    simp only [Prod.mk.injEq] at h
    obtain ⟨rfl, rfl, all⟩ := h
    have stops : ∀ c ∈ t.head?, inMarkedNumeral base c = false := by
      intro c head
      obtain ⟨-, digit, hex, -, underscore, -⟩ := apart_of_endsToken c (ends c head)
      simp [inMarkedNumeral, digit, hex, underscore]
    have each : ∀ c ∈ s, inMarkedNumeral base c = true := List.dropWhile_eq_nil_iff.mp all
    obtain ⟨taken, left⟩ := run_append each stops
    rw [taken, left, List.takeWhile_eq_self_iff.mpr each]

--------------------------------------------------------------------------------
-- Numerals
--------------------------------------------------------------------------------

/-- The sign and the base mark of a text stay what they are while its digits are replaced by others
that start with neither.
-/
theorem numeralSpan_frame (s : Bytes)
    : ∃ sign mark base d,
        s = sign ++ (mark ++ d)
        ∧ ∀ d',
            (Unsigned (mark ++ d) → Unsigned (mark ++ d'))
              → (Unmarked d → Unmarked d')
              → numeralSpan (sign ++ (mark ++ d'))
                = (⟨sign, mark, base, (bodySpan base d').1, (bodySpan base d').2.1⟩,
                    (bodySpan base d').2.2) := by
  have marked (u : Bytes)
      : ∃ mark base d,
          u = mark ++ d
          ∧ ∀ d', (Unmarked d → Unmarked d') → baseMark (mark ++ d') = (mark, base, d') := by
    rcases baseMark_cases u with ⟨c, base, d, rfl, reads⟩ | unmarked
    · exact ⟨[0x30, c], base, d, rfl, fun d' _ => reads d'⟩
    · exact ⟨[], 10, u, rfl, fun d' keeps => baseMark_of_unmarked (keeps unmarked)⟩
  have whole {s sg u mark d : Bytes} {base : Nat} (signed : sign s = (sg, u))
      (marked : baseMark u = (mark, base, d))
      : numeralSpan s
        = (⟨sg, mark, base, (bodySpan base d).1, (bodySpan base d).2.1⟩,
            (bodySpan base d).2.2) := by
    simp only [numeralSpan, bodySpan, signed, marked]
    split <;> rfl
  rcases sign_cases s with ⟨c, u, rfl, reads⟩ | unsigned
  · obtain ⟨mark, base, d, rfl, reads'⟩ := marked u
    exact ⟨[c], mark, base, d, rfl, fun d' _ keeps => whole (reads _) (reads' d' keeps)⟩
  · obtain ⟨mark, base, d, rfl, reads'⟩ := marked s
    exact ⟨[], mark, base, d, rfl, fun d' keeps keeps' =>
      whole (sign_of_unsigned (keeps unsigned)) (reads' d' keeps')⟩

/-- A numeral with digits is read alike on its own. -/
theorem numeralSpan_text {s : Bytes} (some : (numeralSpan s).1.body ≠ [])
    : numeralSpan (numeralSpan s).1.text = ((numeralSpan s).1, []) := by
  obtain ⟨sg, mark, base, d, rfl, reads⟩ := numeralSpan_frame s
  rw [reads d id id] at some ⊢
  have parts := bodySpan_append base d
  simp only at some
  rw [Numeral.text, List.append_assoc, reads, bodySpan_span]
  · intro unsigned
    rw [← parts, ← List.append_assoc] at unsigned
    exact unsigned.of_append (by simp [some])
  · intro unmarked
    rw [← parts] at unmarked
    exact unmarked.of_append

/-- A numeral that makes up its text is read alike before a byte that ends a token. -/
theorem numeralSpan_append_delimited {s t : Bytes} {n : Numeral} (h : numeralSpan s = (n, []))
    (some : n.body ≠ []) (ends : Delimited t)
    : numeralSpan (s ++ t) = (n, t) := by
  obtain ⟨sg, mark, base, d, rfl, reads⟩ := numeralSpan_frame s
  rw [reads d id id, Prod.mk.injEq] at h
  obtain ⟨rfl, all⟩ := h
  have body : bodySpan base d = ((bodySpan base d).1, (bodySpan base d).2.1, []) := by rw [← all]
  have nonempty : mark ++ d ≠ [] := by
    intro empty
    obtain ⟨-, rfl⟩ := List.append_eq_nil_iff.mp empty
    exact some (List.append_eq_nil_iff.mp (bodySpan_append base [])).1
  rw [List.append_assoc, List.append_assoc, reads, bodySpan_append_delimited body ends]
  · intro unsigned
    rw [← List.append_assoc]
    exact unsigned.append nonempty t
  · exact fun unmarked => unmarked.append ends

theorem Numeral.body_ne_nil {n : Numeral} {v : Value} (h : n.value? = some v) : n.body ≠ [] := by
  intro empty
  simp [Numeral.value?, Numeral.digits, empty] at h

/-- Reading a numeral takes its longest span, behind which no name goes on. -/
theorem number_eq_ok_iff {s after : Bytes} {v : Value}
    : number s = .ok (v, after)
      ↔ (∀ c ∈ after.head?, c.isNamePart = false)
        ∧ ∃ n, numeralSpan s = (n, after) ∧ n.value? = some v := by
  unfold number
  generalize numeralSpan s = read
  obtain ⟨n, left⟩ := read
  constructor
  · intro h
    cases left with
    | nil =>
        dsimp only at h
        split at h
        · rename_i value
          cases h
          exact ⟨by simp, n, rfl, value⟩
        · cases h
    | cons c rest =>
        dsimp only at h
        split at h
        · cases h
        · rename_i stops
          split at h
          · rename_i value
            cases h
            refine ⟨fun d head => ?_, n, rfl, value⟩
            obtain rfl := Option.some.inj head
            exact Bool.eq_false_iff.mpr stops
          · cases h
  · rintro ⟨stops, n', same, value⟩
    cases same
    cases after with
    | nil => simp only [value]
    | cons c rest => simp [stops c rfl, value]

/-- What the reader of numerals takes is a numeral on its own. -/
theorem number_token {s after : Bytes} {v : Value} (h : number s = .ok (v, after))
    (starts : startsNumber s = true)
    : ∃ token,
        s = token ++ after ∧ startsNumber token = true ∧ number token = .ok (v, []) := by
  obtain ⟨-, n, span, value⟩ := number_eq_ok_iff.mp h
  have parts := numeralSpan_append s
  have again := numeralSpan_text (s := s)
  rw [span] at parts again
  have own : number n.text = .ok (v, []) :=
    number_eq_ok_iff.mpr ⟨nofun, n, again (Numeral.body_ne_nil value), value⟩
  refine ⟨n.text, parts.symm, ?_, own⟩
  -- The bytes that start a numeral are part of it: a point alone has no value.
  obtain rfl := parts
  match token : n.text with
  | [] => exact (Numeral.text_ne_nil value token).elim
  | [c] =>
      rw [token] at starts own
      by_cases point : c = 0x2e
      · subst point
        cases own
      · simpa [startsNumber, point] using starts
  | c :: d :: rest =>
      rw [token] at starts
      exact starts

/-- A numeral is read alike before a byte that ends a token. -/
theorem number_append_delimited {s t : Bytes} {v : Value} (h : number s = .ok (v, []))
    (ends : Delimited t)
    : number (s ++ t) = .ok (v, t) := by
  obtain ⟨-, n, span, value⟩ := number_eq_ok_iff.mp h
  refine number_eq_ok_iff.mpr ⟨?_, n, ?_, value⟩
  · exact fun c head => (apart_of_endsToken c (ends c head)).1
  · exact numeralSpan_append_delimited span (Numeral.body_ne_nil value) ends

end FormMigrate.Literal
