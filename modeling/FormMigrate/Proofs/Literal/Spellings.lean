import FormMigrate.Proofs.Literal.Numerals
import FormMigrate.Proofs.Number.Positional

/-! Spellings of whole numbers: which texts write digits of a base, with marks, leading zeros and
underscores, and which numeral is read from them.
-/

namespace FormMigrate.Literal

--------------------------------------------------------------------------------
-- Writing a whole number
--------------------------------------------------------------------------------

/-- The letters that mark a base behind a zero. -/
def baseMarks : List (Byte × Nat) :=
  [(0x78, 16), (0x58, 16), (0x62, 2), (0x42, 2), (0x6f, 8), (0x4f, 8)]

/-- The signs of a numeral, the empty one included. -/
def signs : List Bytes := [[], [0x2b], [0x2d]]

/-- Digits of some base, and the underscores between them. -/
def isGrouped (c : Byte) : Bool := c == 0x5f || c.digitValue?.isSome

/-- The digits of a text without underscores. -/
def ungrouped (body : Bytes) : Bytes := body.filter (· != 0x5f)

/-- A text writes digits in a base. Without a mark the base is ten, or eight when further digits
follow a zero; a letter e would make such a text a fraction. No underscore stands in front of the
digits.
-/
inductive InBase : (base : Nat) → (body text : Bytes) → Prop
  | decimal {c : Byte} {rest : Bytes} (first : c.isDigit = true)
    (single : c ≠ 0x30 ∨ ∀ d ∈ rest, d = 0x5f)
    (each : ∀ d ∈ rest, isGrouped d = true ∧ d.lower ≠ 0x65)
    : InBase 10 (c :: rest) (c :: rest)
  | octal {rest : Bytes} (further : ∃ d ∈ rest, d ≠ 0x5f)
    (unmarked : ∀ d ∈ rest.head?, ∀ base, (d, base) ∉ baseMarks)
    (each : ∀ d ∈ rest, isGrouped d = true ∧ d.lower ≠ 0x65)
    : InBase 8 (0x30 :: rest) (0x30 :: rest)
  | marked {mark : Byte} {base : Nat} {c : Byte} {rest : Bytes} (known : (mark, base) ∈ baseMarks)
    (first : c ≠ 0x5f) (each : ∀ d ∈ c :: rest, isGrouped d = true)
    : InBase base (c :: rest) (0x30 :: mark :: c :: rest)

--------------------------------------------------------------------------------
-- Classes of bytes
--------------------------------------------------------------------------------

theorem baseOfMark?_eq_some_iff {c : Byte} {base : Nat}
    : baseOfMark? c = some base ↔ (c, base) ∈ baseMarks := by
  have known : ∀ c : Byte, ∀ entry ∈ baseMarks, entry.1 = c → baseOfMark? c = some entry.2 := by
    decide
  have listed : ∀ c : Byte, ∀ base ∈ (baseOfMark? c).toList, (c, base) ∈ baseMarks := by
    decide
  exact ⟨fun found => listed c base (by simp [found]), fun member => known c _ member rfl⟩

/-- Bases that a numeral may have. -/
def isBase (base : Nat) : Bool := base == 2 || base == 8 || base == 10 || base == 16

/-- Of the bytes that may belong to a number, the scan passes over all but the letters that are no
digits of its base.
-/
theorem inMarkedNumeral_eq_false_iff {base : Nat} (known : isBase base = true) {c : Byte}
    (grouped : isGrouped c = true)
    : inMarkedNumeral base c = false
      ↔ c.isLetter = true ∧ Numeral.isDigitIn base c = false := by
  have each
      : ∀ base ∈ [2, 8, 10, 16], ∀ c : Byte,
          isGrouped c = true
          → (inMarkedNumeral base c = false
            ↔ c.isLetter = true ∧ Numeral.isDigitIn base c = false) := by
    decide
  exact each base (by simpa [isBase, or_assoc] using known) c grouped

/-- Decimal digits are hexadecimal ones, mark no exponent and are no underscores. -/
theorem digit_facts
    : ∀ c : Byte,
        c.isDigit = true
          → isGrouped c = true
            ∧ c.lower ≠ 0x65
            ∧ c ≠ 0x5f
            ∧ c.isHex = true
            ∧ Numeral.isDigitIn 10 c = true := by
  decide

/-- What may belong to a number may continue a name. -/
theorem grouped_facts
    : ∀ c : Byte,
        isGrouped c = true
          → c.isNamePart = true
            ∧ c.isBlank = false
            ∧ (Numeral.isDigitIn 10 c = true → c.isDigit = true) := by
  decide

theorem isDigit_of_isDigitIn {c : Byte} (decimal : Numeral.isDigitIn 10 c = true)
    : c.isDigit = true := by
  obtain ⟨d, value, -⟩ := Numeral.digitValue?_of_isDigitIn decimal
  have grouped : isGrouped c = true := by simp [isGrouped, value]
  exact (grouped_facts c grouped).2.2 decimal

theorem InBase.isBase {base : Nat} {body text : Bytes} (written : InBase base body text)
    : isBase base = true := by
  cases written with
  | decimal => rfl
  | octal => rfl
  | marked known =>
      have each : ∀ entry ∈ baseMarks, Literal.isBase entry.2 = true := by decide
      exact each _ known

theorem InBase.grouped {base : Nat} {body text : Bytes} (written : InBase base body text)
    : ∀ c ∈ body, isGrouped c = true := by
  cases written with
  | decimal first _ each =>
      exact List.forall_mem_cons.mpr ⟨(digit_facts _ first).1, fun d member => (each d member).1⟩
  | octal _ _ each => exact List.forall_mem_cons.mpr ⟨rfl, fun d member => (each d member).1⟩
  | marked _ _ each => exact each

/-- The first digit is no underscore. -/
theorem InBase.ungrouped_ne_nil {base : Nat} {body text : Bytes} (written : InBase base body text)
    : ungrouped body ≠ [] := by
  cases written with
  | decimal first => simp [ungrouped, (digit_facts _ first).2.2.1]
  | octal => simp [ungrouped]
  | marked _ first => simp [ungrouped, first]

--------------------------------------------------------------------------------
-- The numeral that is read
--------------------------------------------------------------------------------

/-- Digits and underscores up to a letter that marks no exponent are a whole decimal numeral. -/
theorem decimalSpan_run {run rest : Bytes} (each : ∀ c ∈ run, (c == 0x5f || c.isDigit) = true)
    (stops
      : ∀ c ∈ rest.head?,
          isGrouped c = true ∧ c.lower ≠ 0x65 ∧ (c == 0x5f || c.isDigit) = false)
    : decimalSpan false false (run ++ rest) = (run, false, rest) := by
  induction run with
  | nil =>
      cases rest with
      | nil => rfl
      | cons c rest =>
          obtain ⟨grouped, mark, digit⟩ := stops c rfl
          have point : c ≠ 0x2e := by
            rintro rfl
            cases grouped
          simp [decimalSpan, digit, point, mark]
  | cons c run ih =>
      rw [List.forall_mem_cons] at each
      rw [List.cons_append, decimalSpan, if_pos each.1, ih each.2]

/-- A zero in front of further digits makes an unmarked numeral octal. -/
theorem Numeral.readingBase_octal {n : Numeral} (unmarked : n.base = 10) {c : Byte} {rest : Bytes}
    (zero : n.digits = 0x30 :: c :: rest)
    : n.readingBase = 8 := by
  simp only [readingBase, unmarked, zero]

theorem Numeral.readingBase_decimal {n : Numeral} (unmarked : n.base = 10)
    (single : ∀ c rest, n.digits ≠ 0x30 :: c :: rest)
    : n.readingBase = 10 := by
  unfold readingBase
  split
  · rename_i zero
    exact (single _ _ zero).elim
  · exact unmarked

theorem Numeral.readingBase_marked {n : Numeral} (marked : n.base ≠ 10) : n.readingBase = n.base := by
  unfold readingBase
  split
  · rename_i unmarked _
    exact (marked unmarked).elim
  · rfl

theorem sign_signed {sign : Bytes} (signed : sign ∈ signs) {c : Byte} {rest : Bytes}
    (digit : c.isDigit = true)
    : Literal.sign (sign ++ c :: rest) = (sign, c :: rest) := by
  simp only [signs, List.mem_cons, List.not_mem_nil, or_false] at signed
  rcases signed with rfl | rfl | rfl
  · refine sign_of_unsigned fun d head => ?_
    obtain rfl := Option.some.inj head
    simp [Byte.ne_of_class digit (b := 0x2d) rfl, Byte.ne_of_class digit (b := 0x2b) rfl]
  · rfl
  · rfl

/-- Without a mark the digits are scanned as decimal ones, up to the first letter. -/
theorem numeralSpan_unmarked {sign : Bytes} (signed : sign ∈ signs) {base : Nat}
    (plain : base ≠ 16) {c : Byte} {rest : Bytes} (digit : c.isDigit = true)
    (unmarked : Unmarked (c :: rest)) (each : ∀ d ∈ rest, isGrouped d = true ∧ d.lower ≠ 0x65)
    : numeralSpan (sign ++ c :: rest)
      = (⟨sign, [], 10, (c :: rest).takeWhile (inMarkedNumeral base), false⟩,
          (c :: rest).dropWhile (inMarkedNumeral base)) := by
  have scans (d : Byte) : inMarkedNumeral base d = (d == 0x5f || d.isDigit) := by
    simp [inMarkedNumeral, plain]
  obtain ⟨grouped, plainLetter, -⟩ := digit_facts c digit
  have whole : ∀ d ∈ c :: rest, isGrouped d = true ∧ d.lower ≠ 0x65 :=
    List.forall_mem_cons.mpr ⟨⟨grouped, plainLetter⟩, each⟩
  have run : ∀ d ∈ (c :: rest).takeWhile (inMarkedNumeral base), (d == 0x5f || d.isDigit) = true :=
    fun d member => scans d ▸ List.mem_takeWhile_imp member
  have stops
      : ∀ d ∈ ((c :: rest).dropWhile (inMarkedNumeral base)).head?,
          isGrouped d = true ∧ d.lower ≠ 0x65 ∧ (d == 0x5f || d.isDigit) = false := by
    intro d head
    have last := List.head?_dropWhile_not (inMarkedNumeral base) (c :: rest)
    rw [Option.mem_def.mp head] at last
    obtain ⟨grouped, mark⟩ := whole d ((List.dropWhile_suffix _).mem (List.mem_of_mem_head? head))
    exact ⟨grouped, mark, by rw [← scans]; simpa using last⟩
  have span := decimalSpan_run run stops
  rw [List.takeWhile_append_dropWhile] at span
  simp only [numeralSpan, sign_signed signed digit, baseMark_of_unmarked unmarked, beq_self_eq_true,
    ↓reduceIte, span]

/-- The scan of a written number: its sign, its mark, and its digits up to a letter that is none of
its base. The digits are read in the base that they are written in.
-/
theorem InBase.numeralSpan {base : Nat} {body text sign : Bytes} (written : InBase base body text)
    (signed : sign ∈ signs)
    : ∃ mark markBase,
        Literal.numeralSpan (sign ++ text)
          = (⟨sign, mark, markBase, body.takeWhile (inMarkedNumeral base), false⟩,
              body.dropWhile (inMarkedNumeral base))
        ∧ Numeral.readingBase ⟨sign, mark, markBase, body, false⟩ = base := by
  cases written with
  | @decimal c rest first single each =>
      have unmarked : Unmarked (c :: rest) := by
        rintro d rest' ⟨rfl, rfl⟩
        rw [single.resolve_left (absurd rfl) d List.mem_cons_self]
        rfl
      refine ⟨[], 10, numeralSpan_unmarked signed (by decide) first unmarked each, ?_⟩
      refine Numeral.readingBase_decimal rfl fun d others front => ?_
      have visible : (c != 0x5f) = true := by simp [Byte.ne_of_class first (b := 0x5f) rfl]
      rw [Numeral.digits, List.filter_cons, if_pos visible] at front
      obtain ⟨rfl, further⟩ := List.cons.inj front
      have digit := List.mem_filter.mp (further ▸ List.mem_cons_self : d ∈ rest.filter (· != 0x5f))
      rw [single.resolve_left (absurd rfl) d digit.1] at digit
      cases digit.2
  | @octal rest further unmarked each =>
      have unmarked : Unmarked (0x30 :: rest) := by
        rintro d rest' ⟨-, rfl⟩
        refine Option.eq_none_iff_forall_not_mem.mpr fun base found => ?_
        exact unmarked d rfl base (baseOfMark?_eq_some_iff.mp found)
      refine ⟨[], 10, numeralSpan_unmarked signed (by decide) rfl unmarked each, ?_⟩
      obtain ⟨d, member, digit⟩ := further
      have shown : d ∈ rest.filter (· != 0x5f) := List.mem_filter.mpr ⟨member, by simpa using digit⟩
      obtain ⟨e, others, parts⟩ := List.exists_cons_of_ne_nil (List.ne_nil_of_mem shown)
      refine @Numeral.readingBase_octal _ rfl e others ?_
      rw [Numeral.digits, List.filter_cons_of_pos (by decide), parts]
  | @marked mark _ c rest known first each =>
      have marks : baseMark (0x30 :: mark :: c :: rest) = ([0x30, mark], base, c :: rest) := by
        rw [baseMark, baseOfMark?_eq_some_iff.mpr known]
      have each : ∀ entry ∈ baseMarks, entry.2 ≠ 10 := by decide
      have other : base ≠ 10 := each _ known
      refine ⟨[0x30, mark], base, ?_, Numeral.readingBase_marked other⟩
      simp only [Literal.numeralSpan, sign_signed signed (c := 0x30) rfl, marks,
        beq_eq_false_iff_ne.mpr other, Bool.false_eq_true, ↓reduceIte]

end FormMigrate.Literal
