import FormMigrate.Proofs.Literal.Acceptance
import FormMigrate.Proofs.Literal.Decimals
import FormMigrate.Proofs.Literal.Spellings
import FormMigrate.Proofs.Text.Visible

/-! Whole numbers in any base: what their spellings evaluate to, and which digits are refused. -/

namespace FormMigrate.Literal

/-- Digits that do not make up a number of a base: there is a letter that is no digit of it, or a
digit that is none of it, behind digits that 64 bits hold.
-/
def Faulty (base : Nat) (body : Bytes) : Prop :=
  (∃ c ∈ body, c.isLetter = true ∧ Numeral.isDigitIn base c = false)
  ∨ ∃ front c back,
      ungrouped body = front ++ c :: back
      ∧ (∀ d ∈ front, Numeral.isDigitIn base d = true)
      ∧ Numeral.isDigitIn base c = false
      ∧ digitsIn base front < Numeral.wordCount

/-- The value of a whole number: the word that holds it, else the number nearest to it. -/
def wholeValue (z : Int) : Value :=
  match wordOfInt? z with
  | some w => .int w
  | none => .float (Binary64.ofDecimal (decide (z < 0)) z.natAbs 0)

/-- A magnitude behind a sign. -/
def withSign (sign : Bytes) (magnitude : Nat) : Int :=
  if sign == [0x2d] then -(magnitude : Int) else magnitude

--------------------------------------------------------------------------------
-- The value of a numeral
--------------------------------------------------------------------------------

theorem wholeValue_eq_int_iff {z : Int} {w : Int64} : wholeValue z = .int w ↔ w.toInt = z := by
  rw [← wordOfInt?_eq_some_iff, wholeValue]
  cases wordOfInt? z <;> simp

/-- Integers that no word holds are far from zero. -/
theorem natAbs_of_wordOfInt?_eq_none {z : Int} (none : wordOfInt? z = none) : 2 ^ 63 ≤ z.natAbs := by
  unfold wordOfInt? at none
  split at none
  · cases none
  · rename_i outside
    rw [Word.holds, Bool.and_eq_true, decide_eq_true_eq, decide_eq_true_eq, Word.least,
      Word.bound] at outside
    omega

theorem withSign_natAbs (sign : Bytes) (n : Nat) : (withSign sign n).natAbs = n := by
  unfold withSign
  split <;> simp

/-- 64 bits hold the magnitude of every word. -/
theorem lt_of_toInt_eq {w : Int64} {sign : Bytes} {magnitude : Nat}
    (same : w.toInt = withSign sign magnitude)
    : magnitude < FormMigrate.Numeral.wordCount := by
  have size := congrArg Int.natAbs same
  have least : -2 ^ 63 ≤ w.toInt := Int64.le_toInt w
  have most : w.toInt < 2 ^ 63 := Int64.toInt_lt w
  have bound : FormMigrate.Numeral.wordCount = 2 ^ 64 := rfl
  rw [withSign_natAbs] at size
  omega

/-- The number nearest to a magnitude behind a sign is that of the integer. -/
theorem wholeValue_of_none {n : Numeral} {magnitude : Nat}
    (none : wordOfInt? (withSign n.sign magnitude) = none)
    : wholeValue (withSign n.sign magnitude) = n.signed (Binary64.ofDecimal false magnitude 0) := by
  have far := natAbs_of_wordOfInt?_eq_none none
  rw [withSign_natAbs] at far
  rw [wholeValue, none]
  dsimp only
  rw [withSign_natAbs, Numeral.signed, Numeral.isNegative]
  by_cases minus : (n.sign == [0x2d]) = true
  · have negative : withSign n.sign magnitude < 0 := by
      rw [withSign, if_pos minus]
      omega
    rw [decide_eq_true negative, if_pos minus, Binary64.ofDecimal_true]
  · have positive : ¬ withSign n.sign magnitude < 0 := by
      rw [withSign, if_neg minus]
      omega
    rw [decide_eq_false positive, if_neg minus]

section Value

variable {n : Numeral} (whole : n.isFraction = false) (nonempty : n.digits ≠ [])

include whole nonempty

/-- A whole numeral is read as one word. -/
theorem Numeral.value?_whole
    : n.value? = n.wholeValue?
      ∧ FormMigrate.Numeral.word n.readingBase n.digits
        = FormMigrate.Numeral.wordFrom n.readingBase 0 n.digits := by
  have shown : ¬ n.digits.isEmpty = true := by simpa using nonempty
  constructor
  · rw [Numeral.value?, if_neg shown, if_neg (by simp [whole])]
  · rw [FormMigrate.Numeral.word, if_neg shown]

/-- Digits that 64 bits hold no more are worth the decimal fraction that they spell, or zero. -/
theorem Numeral.value?_overflow
    (overflow : FormMigrate.Numeral.wordFrom n.readingBase 0 n.digits = .error .overflow)
    : n.value?
      = some (n.signed ((FormMigrate.Numeral.fraction? n.digits).getD (Binary64.zero false))) := by
  obtain ⟨value, word⟩ := Numeral.value?_whole whole nonempty
  rw [value, Numeral.wholeValue?, word, overflow]

/-- Digits that are a word have the value of the integer that they spell. -/
theorem Numeral.value?_word {magnitude : Nat}
    (read : FormMigrate.Numeral.wordFrom n.readingBase 0 n.digits = .ok magnitude)
    (fits : magnitude < FormMigrate.Numeral.wordCount)
    : n.value? = some (wholeValue (withSign n.sign magnitude)) := by
  obtain ⟨value, word⟩ := Numeral.value?_whole whole nonempty
  rw [value, Numeral.wholeValue?, word, read]
  show (match wordOfInt? (withSign n.sign magnitude) with
    | some w => some (Value.int w)
    | none => some (n.signed (Binary64.ofRatio false magnitude 1))) = _
  cases held : wordOfInt? (withSign n.sign magnitude) with
  | some w => rw [wholeValue, held]
  | none =>
      have far := natAbs_of_wordOfInt?_eq_none held
      rw [withSign_natAbs] at far
      rw [wholeValue_of_none held, Binary64.ofDecimal_whole (by omega) fits]

/-- A whole numeral whose digits are of its base has the value of the integer that it spells, if 64
bits hold its magnitude or its base is ten.
-/
theorem Numeral.value?_digits
    (each : ∀ c ∈ n.digits, FormMigrate.Numeral.isDigitIn n.readingBase c = true)
    (read : n.readingBase = 10 ∨ digitsIn n.readingBase n.digits < FormMigrate.Numeral.wordCount)
    : n.value? = some (wholeValue (withSign n.sign (digitsIn n.readingBase n.digits))) := by
  have word := FormMigrate.Numeral.wordFrom_digits each
  rw [show FormMigrate.Numeral.valueFrom n.readingBase 0 n.digits
    = digitsIn n.readingBase n.digits from rfl] at word
  by_cases fits : digitsIn n.readingBase n.digits < FormMigrate.Numeral.wordCount
  · exact Numeral.value?_word whole nonempty (word.trans (if_pos fits)) fits
  · have beyond := Numeral.value?_overflow whole nonempty (word.trans (if_neg fits))
    have ten := read.resolve_right fits
    rw [ten] at each fits ⊢
    have digits : ∀ c ∈ n.digits, c.isDigit = true :=
      fun c member => isDigit_of_isDigitIn (each c member)
    have value : digitsIn 10 n.digits = FormMigrate.Numeral.digitsValue n.digits :=
      FormMigrate.Numeral.valueFrom_ten digits 0
    have far : wordOfInt? (withSign n.sign (digitsIn 10 n.digits)) = none :=
      Option.eq_none_iff_forall_not_mem.mpr fun w held =>
        fits (lt_of_toInt_eq (wordOfInt?_eq_some_iff.mp held))
    rw [beyond, wholeValue_of_none far, FormMigrate.Numeral.fraction?_digits digits nonempty,
      Option.getD_some, value]

/-- A whole numeral has no value exactly where a byte outside its base stands behind digits that 64
bits hold.
-/
theorem Numeral.value?_eq_none_iff
    : n.value? = none
      ↔ ∃ front c back,
          n.digits = front ++ c :: back
          ∧ (∀ d ∈ front, FormMigrate.Numeral.isDigitIn n.readingBase d = true)
          ∧ FormMigrate.Numeral.isDigitIn n.readingBase c = false
          ∧ digitsIn n.readingBase front < FormMigrate.Numeral.wordCount := by
  have malformed : n.value? = none
      ↔ FormMigrate.Numeral.wordFrom n.readingBase 0 n.digits = .error .malformed := by
    obtain ⟨value, word⟩ := Numeral.value?_whole whole nonempty
    rw [value, Numeral.wholeValue?, word]
    cases FormMigrate.Numeral.wordFrom n.readingBase 0 n.digits with
    | ok magnitude =>
        dsimp only
        split <;> simp
    | error cause => cases cause <;> simp
  rw [malformed]
  constructor
  · intro failed
    by_cases each : ∀ c ∈ n.digits, FormMigrate.Numeral.isDigitIn n.readingBase c = true
    · rw [FormMigrate.Numeral.wordFrom_digits each] at failed
      split at failed <;> cases failed
    · -- The first byte outside the base decides.
      have parts := List.takeWhile_append_dropWhile
        (p := FormMigrate.Numeral.isDigitIn n.readingBase) (l := n.digits)
      have some : n.digits.dropWhile (FormMigrate.Numeral.isDigitIn n.readingBase) ≠ [] :=
        fun all => each (List.dropWhile_eq_nil_iff.mp all)
      obtain ⟨c, back, tail⟩ := List.exists_cons_of_ne_nil some
      have fault := List.head?_dropWhile_not (FormMigrate.Numeral.isDigitIn n.readingBase) n.digits
      rw [tail, List.head?_cons] at fault
      have fault : FormMigrate.Numeral.isDigitIn n.readingBase c = false := by simpa using fault
      have front : ∀ d ∈ n.digits.takeWhile (FormMigrate.Numeral.isDigitIn n.readingBase),
          FormMigrate.Numeral.isDigitIn n.readingBase d = true :=
        fun d member => List.mem_takeWhile_imp member
      rw [tail] at parts
      refine ⟨_, c, back, parts.symm, front, fault, ?_⟩
      rw [← parts, FormMigrate.Numeral.wordFrom_fault front fault] at failed
      split at failed
      · assumption
      · cases failed
  · rintro ⟨front, c, back, parts, each, fault, small⟩
    rw [parts, FormMigrate.Numeral.wordFrom_fault each fault]
    exact if_pos small

end Value

--------------------------------------------------------------------------------
-- Evaluation
--------------------------------------------------------------------------------

/-- A text without blanks that starts like a numeral evaluates to what the reader of numerals makes
of the whole of it.
-/
theorem evaluate_numeral_iff {s : Bytes} {v : Value} (starts : startsNumber s = true)
    (visible : ∀ c ∈ s, c.isBlank = false)
    : evaluate s = .ok v
      ↔ (∀ marker ∈ codeMarkers, Bytes.occursIn marker (Bytes.lower s) = false)
        ∧ number s = .ok (v, []) := by
  rw [evaluate_eq_ok_iff]
  constructor
  · rintro ⟨static, front, t, back, before, spells, behind, parts⟩
    have none {gap : Bytes} (blank : Blank gap) (inside : ∀ c ∈ gap, c ∈ s) : gap = [] := by
      refine List.eq_nil_iff_forall_not_mem.mpr fun c member => ?_
      have shown := visible c (inside c member)
      rw [blank c member] at shown
      cases shown
    obtain rfl := none before fun c member => parts ▸ List.mem_append_left _ member
    obtain rfl := none behind fun c member => by simp [parts, member]
    obtain rfl : s = t := by simpa using parts
    refine ⟨static, ?_⟩
    have word {t word : Bytes} (letters : ∀ c ∈ word, c.isPlainLetter = true) (nonempty : word ≠ [])
        (same : Bytes.lowerAscii t = word) (rest : Bytes)
        : startsNumber (t ++ rest) = false := by
      cases t with
      | nil => exact (nonempty same.symm).elim
      | cons c t =>
          have plain := letters c.lower (same ▸ List.mem_map_of_mem List.mem_cons_self)
          obtain ⟨-, -, -, digit, -, -, -, -, plus, minus, point, -⟩ := apart_of_isPlainLetter c plain
          simp [startsNumber, digit, plus, minus, point]
    cases spells with
    | single => exact absurd rfl (apart_of_startsNumber starts).2.2.2.1
    | double => exact absurd rfl (apart_of_startsNumber starts).2.2.1
    | word names =>
        obtain ⟨letters, nonempty⟩ := letters_of_constant? names
        have other := word letters nonempty rfl []
        rw [List.append_nil, starts] at other
        cases other
    | numeral _ whole => exact whole
    | brackets => exact absurd rfl (apart_of_startsNumber starts).2.2.2.2.2.1
    | parentheses names =>
        rw [word letters_of_array.1 letters_of_array.2 names] at starts
        cases starts
  · rintro ⟨static, whole⟩
    exact .of_spells static (.numeral starts whole)

/-- Bytes of whole numbers. -/
def inWhole (c : Byte) : Bool :=
  c == 0x5f || c.isHex || c == 0x2b || c == 0x2d || (baseOfMark? c).isSome

/-- Every code marker has a byte that no whole number has. -/
theorem static_of_inWhole {s : Bytes} (each : ∀ c ∈ s, inWhole c = true)
    : ∀ marker ∈ codeMarkers, Bytes.occursIn marker (Bytes.lower s) = false := by
  have facts : ∀ c : Byte, inWhole c = true → c < 0x80 ∧ inWhole c.lower = true := by decide
  have outside : ∀ marker ∈ codeMarkers, ∃ c ∈ marker, inWhole c = false := by decide
  have plain : Bytes.isAscii s = true :=
    List.all_eq_true.mpr fun c member => decide_eq_true (facts c (each c member)).1
  intro marker known
  obtain ⟨c, member, other⟩ := outside marker known
  by_contra occurs
  rw [Bytes.lower, if_pos plain, Bool.not_eq_false] at occurs
  obtain ⟨d, inside, rfl⟩ := List.mem_map.mp ((Bytes.occursIn_iff.mp occurs).subset member)
  rw [(facts d (each d inside)).2] at other
  cases other

/-- The bytes of a written number are those of its digits, but for a zero and a mark. -/
theorem InBase.text_cases {base : Nat} {body text : Bytes} (written : InBase base body text)
    : text = body ∨ ∃ mark markBase, (mark, markBase) ∈ baseMarks ∧ text = 0x30 :: mark :: body := by
  cases written with
  | decimal => exact .inl rfl
  | octal => exact .inl rfl
  | marked known => exact .inr ⟨_, _, known, rfl⟩

/-- What holds of signs, of marks and of the bytes that may belong to a number holds of all bytes of
a written one.
-/
theorem InBase.forall_mem {base : Nat} {sign body text : Bytes} (written : InBase base body text)
    (signed : sign ∈ signs) {p : Byte → Prop} (outer : ∀ c ∈ ([0x2b, 0x2d, 0x30] : Bytes), p c)
    (mark : ∀ entry ∈ baseMarks, p entry.1) (inner : ∀ c ∈ body, p c)
    : ∀ c ∈ sign ++ text, p c := by
  intro c member
  rcases List.mem_append.mp member with ahead | behind
  · have each : ∀ s ∈ signs, ∀ c ∈ s, c ∈ ([0x2b, 0x2d, 0x30] : Bytes) := by
      decide
    exact outer c (each sign signed c ahead)
  · rcases written.text_cases with rfl | ⟨letter, markBase, known, rfl⟩
    · exact inner c behind
    · rcases List.mem_cons.mp behind with rfl | further
      · exact outer _ (by decide)
      · rcases List.mem_cons.mp further with rfl | digit
        · exact mark _ known
        · exact inner c digit

theorem InBase.startsNumber {base : Nat} {sign body text : Bytes} (written : InBase base body text)
    (signed : sign ∈ signs)
    : Literal.startsNumber (sign ++ text) = true := by
  have digit : ∃ c rest, text = c :: rest ∧ c.isDigit = true := by
    cases written with
    | decimal first => exact ⟨_, _, rfl, first⟩
    | octal => exact ⟨_, _, rfl, rfl⟩
    | marked => exact ⟨_, _, rfl, rfl⟩
  obtain ⟨c, rest, rfl, digit⟩ := digit
  simp only [signs, List.mem_cons, List.not_mem_nil, or_false] at signed
  rcases signed with rfl | rfl | rfl <;> simp [Literal.startsNumber, digit]

theorem InBase.visible {base : Nat} {sign body text : Bytes} (written : InBase base body text)
    (signed : sign ∈ signs)
    : ∀ c ∈ sign ++ text, c.isBlank = false := by
  exact written.forall_mem signed (by decide) (by decide) fun c member =>
    (grouped_facts c (written.grouped c member)).2.1

theorem InBase.inWhole {base : Nat} {sign body text : Bytes} (written : InBase base body text)
    (signed : sign ∈ signs) (scanned : ∀ c ∈ body, inMarkedNumeral base c = true)
    : ∀ c ∈ sign ++ text, Literal.inWhole c = true := by
  refine written.forall_mem signed (by decide) (by decide) fun c member => ?_
  have inside := scanned c member
  simp only [inMarkedNumeral, Bool.or_eq_true, Bool.and_eq_true] at inside
  rcases inside with (underscore | decimal) | hex
  · simp [Literal.inWhole, underscore]
  · simp [Literal.inWhole, (digit_facts c decimal).2.2.2.1]
  · simp [Literal.inWhole, hex.2]

/-- A written number evaluates to the value of one numeral, if the scan passes over all its digits,
and to nothing else.
-/
theorem InBase.evaluate_iff {base : Nat} {sign body text : Bytes} (written : InBase base body text)
    (signed : sign ∈ signs)
    : ∃ n : Numeral,
        n.sign = sign
        ∧ n.digits = ungrouped body
        ∧ n.isFraction = false
        ∧ n.readingBase = base
        ∧ ∀ v,
            evaluate (sign ++ text) = .ok v
            ↔ (∀ c ∈ body, inMarkedNumeral base c = true) ∧ n.value? = some v := by
  obtain ⟨mark, markBase, span, reading⟩ := written.numeralSpan signed
  refine ⟨⟨sign, mark, markBase, body, false⟩, rfl, rfl, rfl, reading, fun v => ?_⟩
  rw [evaluate_numeral_iff (written.startsNumber signed) (written.visible signed), number, span]
  cases after : body.dropWhile (inMarkedNumeral base) with
  | nil =>
      have scanned := List.dropWhile_eq_nil_iff.mp after
      rw [List.takeWhile_eq_self_iff.mpr scanned]
      constructor
      · rintro ⟨-, read⟩
        refine ⟨scanned, ?_⟩
        dsimp only at read
        split at read
        · rename_i held
          cases read
          exact held
        · cases read
      · rintro ⟨-, held⟩
        refine ⟨static_of_inWhole (written.inWhole signed scanned), ?_⟩
        dsimp only
        rw [held]
  | cons c rest =>
      have inside : c ∈ body := (List.dropWhile_suffix _).mem (after ▸ List.mem_cons_self)
      have last := List.head?_dropWhile_not (inMarkedNumeral base) body
      rw [after, List.head?_cons] at last
      have stopped : inMarkedNumeral base c = false := last
      dsimp only
      rw [if_pos (grouped_facts c (written.grouped c inside)).1]
      constructor
      · rintro ⟨-, read⟩
        cases read
      · rintro ⟨scanned, -⟩
        rw [scanned c inside] at stopped
        cases stopped

/-- Digits of a base are all scanned. -/
theorem InBase.scanned {base : Nat} {body text : Bytes} (written : InBase base body text)
    (each : ∀ c ∈ ungrouped body, FormMigrate.Numeral.isDigitIn base c = true)
    : ∀ c ∈ body, inMarkedNumeral base c = true := by
  intro c member
  by_contra stopped
  rw [Bool.not_eq_true, inMarkedNumeral_eq_false_iff written.isBase (written.grouped c member)]
    at stopped
  obtain ⟨letter, other⟩ := stopped
  have visible : (c != 0x5f) = true := by simp [Byte.ne_of_class letter (b := 0x5f) rfl]
  rw [each c (List.mem_filter.mpr ⟨member, visible⟩)] at other
  cases other

/-- The decimal spelling of a number is one in base ten. -/
theorem inBase_ofNat (n : Nat) : InBase 10 (Bytes.ofNat n) (Bytes.ofNat n) := by
  have digits := Bytes.isDigit_of_mem_ofNat (n := n)
  have fits (d : Byte) (digit : d.isDigit = true) : isGrouped d = true ∧ d.lower ≠ 0x65 :=
    ⟨(digit_facts d digit).1, (digit_facts d digit).2.1⟩
  cases front : Bytes.ofNat n with
  | nil => exact (Bytes.ofNat_ne_nil n front).elim
  | cons c rest =>
      rw [front, List.forall_mem_cons] at digits
      refine .decimal digits.1 ?_ fun d member => fits d (digits.2 d member)
      by_cases zero : c = 0x30
      · subst zero
        obtain rfl := Bytes.eq_zero_of_ofNat_eq_cons front
        obtain rfl : rest = [] := (List.cons.inj front).2.symm
        exact .inr (by simp)
      · exact .inl zero

theorem ungrouped_ofNat (n : Nat) : ungrouped (Bytes.ofNat n) = Bytes.ofNat n := by
  refine List.filter_eq_self.mpr fun c member => ?_
  simp [Byte.ne_of_class (Bytes.isDigit_of_mem_ofNat c member) (b := 0x5f) rfl]

theorem digitsIn_ofNat (n : Nat) : digitsIn 10 (Bytes.ofNat n) = n := by
  have value := FormMigrate.Numeral.valueFrom_ten (Bytes.isDigit_of_mem_ofNat (n := n)) 0
  exact value.trans (Bytes.digitsValue_ofNat n)

theorem isDigitIn_ofNat {n : Nat} : ∀ c ∈ Bytes.ofNat n, FormMigrate.Numeral.isDigitIn 10 c = true := by
  exact fun c member => (digit_facts c (Bytes.isDigit_of_mem_ofNat c member)).2.2.2.2

/-- Digits of the base that make up a number evaluate to the integer that they spell, if base ten or
64 bits hold it.
-/
theorem InBase.evaluate_digits {base : Nat} {sign body text : Bytes}
    (written : InBase base body text) (signed : sign ∈ signs)
    (each : ∀ c ∈ ungrouped body, FormMigrate.Numeral.isDigitIn base c = true)
    (read : base = 10 ∨ digitsIn base (ungrouped body) < FormMigrate.Numeral.wordCount)
    : evaluate (sign ++ text)
      = .ok (wholeValue (withSign sign (digitsIn base (ungrouped body)))) := by
  obtain ⟨n, rfl, digits, whole, rfl, evaluates⟩ := written.evaluate_iff signed
  rw [← digits] at each read ⊢
  have nonempty : n.digits ≠ [] := digits ▸ written.ungrouped_ne_nil
  exact (evaluates _).mpr
    ⟨written.scanned (digits ▸ each), Numeral.value?_digits whole nonempty each read⟩

/-- Beyond 64 bits the digits of any base are read as decimal ones. -/
theorem InBase.evaluate_overflow {base : Nat} {sign body text : Bytes}
    (written : InBase base body text) (signed : sign ∈ signs)
    (scanned : ∀ c ∈ body, inMarkedNumeral base c = true)
    (overflow : FormMigrate.Numeral.wordFrom base 0 (ungrouped body) = .error .overflow)
    : ∃ x, evaluate (sign ++ text) = .ok (.float (if sign == [0x2d] then x.neg else x))
        ∧ x = (FormMigrate.Numeral.fraction? (ungrouped body)).getD (Binary64.zero false) := by
  obtain ⟨n, rfl, digits, whole, rfl, evaluates⟩ := written.evaluate_iff signed
  rw [← digits] at overflow ⊢
  have nonempty : n.digits ≠ [] := digits ▸ written.ungrouped_ne_nil
  exact ⟨_, (evaluates _).mpr ⟨scanned, Numeral.value?_overflow whole nonempty overflow⟩, rfl⟩

/-- What a sign and digits spell is refused exactly where a digit is none of the base, as far as it
is looked at.
-/
theorem InBase.refused_iff {base : Nat} {sign body text : Bytes} (written : InBase base body text)
    (signed : sign ∈ signs)
    : (∃ error, evaluate (sign ++ text) = .error error) ↔ Faulty base body := by
  obtain ⟨n, same, digits, whole, reading, evaluates⟩ := written.evaluate_iff signed
  have nonempty : n.digits ≠ [] := digits ▸ written.ungrouped_ne_nil
  have refused : (∃ error, evaluate (sign ++ text) = .error error)
      ↔ ¬ ((∀ c ∈ body, inMarkedNumeral base c = true) ∧ ∃ v, n.value? = some v) := by
    rw [← exists_and_left]
    simp only [← evaluates]
    cases evaluate (sign ++ text) <;> simp
  have unscanned : (¬ ∀ c ∈ body, inMarkedNumeral base c = true)
      ↔ ∃ c ∈ body, c.isLetter = true ∧ FormMigrate.Numeral.isDigitIn base c = false := by
    simp only [not_forall, Bool.not_eq_true, exists_prop]
    exact exists_congr fun c => and_congr_right fun member =>
      inMarkedNumeral_eq_false_iff written.isBase (written.grouped c member)
  have worthless : (¬ ∃ v, n.value? = some v) ↔ n.value? = none := by
    cases n.value? <;> simp
  rw [refused, not_and_or, unscanned, worthless, Numeral.value?_eq_none_iff whole nonempty, digits,
    reading]
  rfl

/-- A decimal spelling evaluates to the number nearest to what it spells. -/
theorem evaluate_ofNat {sign : Bytes} (signed : sign ∈ signs) (n : Nat)
    : evaluate (sign ++ Bytes.ofNat n) = .ok (wholeValue (withSign sign n)) := by
  have decimal := (inBase_ofNat n).evaluate_digits signed
  rw [ungrouped_ofNat, digitsIn_ofNat] at decimal
  exact decimal isDigitIn_ofNat (.inl rfl)

/-- Digits of the base evaluate to the integer that they spell exactly when a word holds it. -/
theorem InBase.evaluate_int_iff {base : Nat} {sign body text : Bytes}
    (written : InBase base body text) (signed : sign ∈ signs)
    (each : ∀ c ∈ ungrouped body, FormMigrate.Numeral.isDigitIn base c = true) (w : Int64)
    : evaluate (sign ++ text) = .ok (.int w)
      ↔ w.toInt = withSign sign (digitsIn base (ungrouped body)) := by
  by_cases small : digitsIn base (ungrouped body) < FormMigrate.Numeral.wordCount
  · rw [written.evaluate_digits signed each (.inr small), ← wholeValue_eq_int_iff, Except.ok.injEq]
  · -- Neither what the digits are read as nor the integer is a word.
    have overflow : FormMigrate.Numeral.wordFrom base 0 (ungrouped body) = .error .overflow := by
      rw [FormMigrate.Numeral.wordFrom_digits each]
      exact if_neg small
    obtain ⟨x, float, -⟩ := written.evaluate_overflow signed (written.scanned each) overflow
    rw [float]
    exact ⟨nofun, fun equal => (small (lt_of_toInt_eq equal)).elim⟩

--------------------------------------------------------------------------------
-- The same in every base
--------------------------------------------------------------------------------

/-- Whole numbers mean the same in every base. What a sign and digits of some base spell is refused
exactly where a digit is none of the base, as far as it is looked at: digits that 64 bits hold no
more hide what follows them. Digits of the base evaluate to the integer that they spell exactly when
a word holds it. Otherwise they evaluate to what its decimal spelling does, which is the number
nearest to it, as long as 64 bits hold the magnitude or the base is ten.
Witness: the numeral that is scanned, whose digits are read as one word.
-/
theorem evaluate_whole {base : Nat} {sign body text : Bytes} (written : InBase base body text)
    (signed : sign ∈ signs)
    : ((∃ error, evaluate (sign ++ text) = .error error) ↔ Faulty base body)
      ∧ ((∀ c ∈ ungrouped body, FormMigrate.Numeral.isDigitIn base c = true)
        → (∀ w,
            evaluate (sign ++ text) = .ok (.int w)
            ↔ w.toInt = withSign sign (digitsIn base (ungrouped body)))
          ∧ evaluate (sign ++ Bytes.ofNat (digitsIn base (ungrouped body)))
            = .ok (wholeValue (withSign sign (digitsIn base (ungrouped body))))
          ∧ (base = 10 ∨ digitsIn base (ungrouped body) < FormMigrate.Numeral.wordCount
            → evaluate (sign ++ text)
              = evaluate (sign ++ Bytes.ofNat (digitsIn base (ungrouped body))))) := by
  refine ⟨written.refused_iff signed, fun each => ?_⟩
  have plain := evaluate_ofNat signed (digitsIn base (ungrouped body))
  refine ⟨written.evaluate_int_iff signed each, plain, fun read => ?_⟩
  rw [plain, written.evaluate_digits signed each read]

/-- The least word in hexadecimal digits. -/
theorem evaluate_whole_least
    : InBase 16 (Bytes.ofString "8000_0000_0000_0000") (Bytes.ofString "0x8000_0000_0000_0000")
      ∧ [0x2d] ∈ signs
      ∧ (∀ c ∈ ungrouped (Bytes.ofString "8000_0000_0000_0000"),
          FormMigrate.Numeral.isDigitIn 16 c = true)
      ∧ evaluate (Bytes.ofString "-0x8000_0000_0000_0000") = .ok (.int Int64.minValue)
      ∧ evaluate (Bytes.ofString "-0x8000_0000_0000_0000")
        = evaluate (Bytes.ofString "-9223372036854775808") := by
  have written
      : InBase 16 (Bytes.ofString "8000_0000_0000_0000")
          (Bytes.ofString "0x8000_0000_0000_0000") :=
    .marked (by decide) (by decide) (by decide +kernel)
  have signed : [0x2d] ∈ signs := by decide
  have each : ∀ c ∈ ungrouped (Bytes.ofString "8000_0000_0000_0000"),
      FormMigrate.Numeral.isDigitIn 16 c = true := by decide +kernel
  obtain ⟨-, whole⟩ := evaluate_whole written signed
  obtain ⟨word, -, alike⟩ := whole each
  exact ⟨written, signed, each, (word _).mpr (by decide), alike (.inr (by decide))⟩

/-- Beyond 64 bits a hexadecimal number is worth zero and not what its decimal spelling is, and a
digit that is none of the base goes unnoticed.
-/
theorem evaluate_not_whole
    : InBase 16 (Bytes.ofString "FFFFFFFFFFFFFFFFF") (Bytes.ofString "0xFFFFFFFFFFFFFFFFF")
      ∧ digitsIn 16 (ungrouped (Bytes.ofString "FFFFFFFFFFFFFFFFF")) = 295147905179352825855
      ∧ evaluate (Bytes.ofString "0xFFFFFFFFFFFFFFFFF")
        ≠ evaluate (Bytes.ofNat 295147905179352825855)
      ∧ InBase 8 (Bytes.ofString "7777777777777777777777778")
        (Bytes.ofString "0o7777777777777777777777778")
      ∧ FormMigrate.Numeral.isDigitIn 8 0x38 = false
      ∧ ∃ v, evaluate (Bytes.ofString "0o7777777777777777777777778") = .ok v := by
  have long
      : InBase 16 (Bytes.ofString "FFFFFFFFFFFFFFFFF") (Bytes.ofString "0xFFFFFFFFFFFFFFFFF") :=
    .marked (by decide) (by decide) (by decide +kernel)
  have spoilt
      : InBase 8 (Bytes.ofString "7777777777777777777777778")
          (Bytes.ofString "0o7777777777777777777777778") :=
    .marked (by decide) (by decide) (by decide +kernel)
  have signed : [] ∈ signs := by decide
  refine ⟨long, by decide +kernel, ?_, spoilt, by decide, ?_⟩
  · obtain ⟨x, float, zero⟩ := long.evaluate_overflow signed (by decide +kernel) (by decide +kernel)
    have nearest := evaluate_ofNat signed 295147905179352825855
    rw [List.nil_append] at float nearest
    have far : wordOfInt? (withSign [] 295147905179352825855) = none := by decide +kernel
    rw [float, nearest, zero, wholeValue, far]
    intro same
    exact absurd (Value.float.inj (Except.ok.inj same)) (by decide +kernel)
  · obtain ⟨x, float, -⟩ := spoilt.evaluate_overflow signed (by decide +kernel) (by decide +kernel)
    exact ⟨_, float⟩

end FormMigrate.Literal
