import FormMigrate.Literal.Printer
import FormMigrate.Proofs.Literal.Numerals
import FormMigrate.Proofs.Number.Shortest

/-! Printed numbers are numerals: an integer reads as its word and a number in either form as the
number it was printed from.
-/

namespace FormMigrate.Literal

--------------------------------------------------------------------------------
-- Decimal numerals
--------------------------------------------------------------------------------

/-- The sign of a printed number. -/
def signText (negative : Bool) : Bytes := if negative then [0x2d] else []

/-- Bytes of printed numbers behind their sign. -/
def inDecimal (c : Byte) : Bool := c.isDigit || c == 0x2e || c == 0x65 || c == 0x2b || c == 0x2d

theorem apart_of_inDecimal
    : ∀ c : Byte, inDecimal c = true → baseOfMark? c = none ∧ (c != 0x5f) = true := by
  decide

/-- A printed number is one decimal numeral. -/
theorem numeralSpan_printed (negative : Bool) {s : Bytes} {isFraction : Bool}
    (starts : ∀ c ∈ s.head?, c.isDigit = true) (each : ∀ c ∈ s, inDecimal c = true)
    (span : decimalSpan false false s = (s, isFraction, []))
    : numeralSpan (signText negative ++ s)
      = (⟨signText negative, [], 10, s, isFraction⟩, []) := by
  have unsigned : Unsigned s := by
    intro c head
    have digit := starts c head
    simp [Byte.ne_of_class digit (b := 0x2d) rfl, Byte.ne_of_class digit (b := 0x2b) rfl]
  have unmarked : Unmarked s := by
    rintro c rest rfl
    exact (apart_of_inDecimal c (each c (by simp))).1
  have signed : sign (signText negative ++ s) = (signText negative, s) := by
    cases negative with
    | true => rfl
    | false => exact sign_of_unsigned unsigned
  simp only [numeralSpan, signed, baseMark_of_unmarked unmarked, span, beq_self_eq_true, ↓reduceIte]

theorem startsNumber_printed (negative : Bool) {s : Bytes} (nonempty : s ≠ [])
    (starts : ∀ c ∈ s.head?, c.isDigit = true)
    : startsNumber (signText negative ++ s) = true := by
  cases negative with
  | true => rfl
  | false =>
      cases s with
      | nil => exact (nonempty rfl).elim
      | cons c rest => simp [signText, startsNumber, starts c rfl]

theorem digits_eq_body {n : Numeral} (each : ∀ c ∈ n.body, inDecimal c = true)
    : n.digits = n.body :=
  List.filter_eq_self.mpr fun c member => (apart_of_inDecimal c (each c member)).2

/-- Digits belong to a numeral, whatever follows them. -/
theorem decimalSpan_digits {digits : Bytes} (each : ∀ c ∈ digits, c.isDigit = true)
    (nonempty : digits ≠ []) (fraction afterMark : Bool) (t : Bytes)
    : decimalSpan fraction afterMark (digits ++ t)
      = (digits ++ (decimalSpan fraction false t).1, (decimalSpan fraction false t).2) := by
  induction digits generalizing afterMark with
  | nil => exact (nonempty rfl).elim
  | cons c rest ih =>
      rw [List.forall_mem_cons] at each
      rw [List.cons_append, decimalSpan, if_pos (by simp [each.1])]
      cases rest with
      | nil => rfl
      | cons d rest => rw [ih each.2 (by simp)]; rfl

--------------------------------------------------------------------------------
-- Integers
--------------------------------------------------------------------------------

/-- A printed natural number is one whole numeral without a base mark of its own. -/
theorem numeralSpan_ofNat (negative : Bool) (n : Nat)
    : numeralSpan (signText negative ++ Bytes.ofNat n)
      = (⟨signText negative, [], 10, Bytes.ofNat n, false⟩, []) := by
  have digits : ∀ c ∈ Bytes.ofNat n, c.isDigit = true := Bytes.isDigit_of_mem_ofNat
  have span := decimalSpan_digits digits (Bytes.ofNat_ne_nil n) false false []
  rw [List.append_nil] at span
  refine numeralSpan_printed negative (fun c head => digits c (List.mem_of_mem_head? head)) ?_ ?_
  · exact fun c member => by simp [inDecimal, digits c member]
  · simpa [decimalSpan] using span

/-- The digits of a number are read as decimal ones: only zero has a zero in front. -/
theorem readingBase_ofNat {n : Numeral} {k : Nat} (unmarked : n.base = 10)
    (digits : n.digits = Bytes.ofNat k)
    : n.readingBase = 10 := by
  unfold Numeral.readingBase
  split
  · rename_i c rest _ front
    rw [digits] at front
    rw [Bytes.eq_zero_of_ofNat_eq_cons front] at front
    cases front
  · exact unmarked

/-- A printed natural number of either sign reads as the word with its value. -/
theorem number_ofNat (negative : Bool) {n : Nat} {w : Int64} (small : n < Numeral.wordCount)
    (holds : wordOfInt? (if negative then -(n : Int) else n) = some w)
    : number (signText negative ++ Bytes.ofNat n) = .ok (.int w, []) := by
  rw [number_eq_ok_iff]
  refine ⟨nofun, _, numeralSpan_ofNat negative n, ?_⟩
  have each : ∀ c ∈ Bytes.ofNat n, c.isDigit = true := Bytes.isDigit_of_mem_ofNat
  have value : Numeral.digitsFrom 0 (Bytes.ofNat n) = n := Bytes.digitsValue_ofNat n
  have digits := @digits_eq_body ⟨signText negative, [], 10, Bytes.ofNat n, false⟩
    fun c member => by simp [inDecimal, each c member]
  have base := readingBase_ofNat rfl digits
  have word : Numeral.word 10 (Bytes.ofNat n) = .ok n := by
    rw [Numeral.word, if_neg (by simp [Bytes.ofNat_ne_nil]), Numeral.wordFrom_ten each
      (by rwa [value]), value]
  have sign : Numeral.isNegative ⟨signText negative, [], 10, Bytes.ofNat n, false⟩ = negative := by
    cases negative <;> rfl
  simp [Numeral.value?, Numeral.wholeValue?, digits, Bytes.ofNat_ne_nil, base, word, sign, holds]

theorem wordOfInt?_toInt (n : Int64) : wordOfInt? n.toInt = some n := by
  have least : -2 ^ 63 ≤ n.toInt := Int64.le_toInt n
  have most : n.toInt < 2 ^ 63 := Int64.toInt_lt n
  have held : Word.holds n.toInt = true := by
    rw [Word.holds, Bool.and_eq_true, decide_eq_true_eq, decide_eq_true_eq]
    exact ⟨least, most⟩
  rw [wordOfInt?, if_pos held, Int64.ofInt_toInt]

theorem wordOfInt?_eq_some_iff {z : Int} {w : Int64} : wordOfInt? z = some w ↔ w.toInt = z := by
  constructor
  · intro held
    unfold wordOfInt? at held
    split at held
    · rename_i inside
      cases held
      rw [Word.holds, Bool.and_eq_true, decide_eq_true_eq, decide_eq_true_eq] at inside
      exact Int64.toInt_ofInt_of_le inside.1 inside.2
    · cases held
  · rintro rfl
    exact wordOfInt?_toInt w

/-- A printed integer reads as its word, the least one included. -/
theorem number_ofInt (n : Int64) : number (Bytes.ofInt n.toInt) = .ok (.int n, []) := by
  have least : -2 ^ 63 ≤ n.toInt := Int64.le_toInt n
  have most : n.toInt < 2 ^ 63 := Int64.toInt_lt n
  have held := wordOfInt?_toInt n
  have count : Numeral.wordCount = 2 ^ 64 := rfl
  cases same : n.toInt with
  | ofNat k =>
      rw [same] at held most
      have most : (k : Int) < 2 ^ 63 := most
      exact number_ofNat false (by omega) held
  | negSucc k =>
      rw [same] at held least
      exact number_ofNat true (by omega) held

theorem ofInt_starts (n : Int) : startsNumber (Bytes.ofInt n) = true := by
  have starts (k : Nat) : ∀ c ∈ (Bytes.ofNat k).head?, c.isDigit = true :=
    fun c head => Bytes.isDigit_of_mem_ofNat c (List.mem_of_mem_head? head)
  cases n with
  | ofNat k => exact startsNumber_printed false (Bytes.ofNat_ne_nil k) (starts k)
  | negSucc k => rfl

--------------------------------------------------------------------------------
-- Fractions
--------------------------------------------------------------------------------

/-- The exponent part of a printed number, and its value. -/
inductive ExponentText : Bytes → Int → Prop
  | none : ExponentText [] 0
  | marked (negative : Bool) {digits : Bytes} (each : ∀ c ∈ digits, c.isDigit = true)
    (nonempty : digits ≠ []) (small : Numeral.digitsValue digits < 10000)
    : ExponentText (0x65 :: (if negative then 0x2d else 0x2b) :: digits)
        (if negative then -(Numeral.digitsValue digits : Int) else Numeral.digitsValue digits)

/-- A decimal with a point or an exponent: its digits as a number, and the place of the last one. -/
inductive FractionText : Bytes → Nat → Int → Prop
  | exponent {whole tail : Bytes} {e : Int} (digits : ∀ c ∈ whole, c.isDigit = true)
    (nonempty : whole ≠ []) (tailed : ExponentText tail e) (shown : tail ≠ [])
    : FractionText (whole ++ tail) (Numeral.digitsValue whole) e
  | point {whole part tail : Bytes} {e : Int} (digits : ∀ c ∈ whole, c.isDigit = true)
    (nonempty : whole ≠ []) (digits' : ∀ c ∈ part, c.isDigit = true) (tailed : ExponentText tail e)
    : FractionText (whole ++ 0x2e :: (part ++ tail)) (Numeral.digitsValue (whole ++ part))
        (e - part.length)

theorem FractionText.cast {s t : Bytes} {n m : Nat} {e f : Int} (h : FractionText s n e)
    (text : s = t) (digits : n = m) (exponent : e = f)
    : FractionText t m f := by
  subst text digits exponent
  exact h

theorem ExponentText.exponentPart?_eq {s : Bytes} {e : Int} (h : ExponentText s e)
    : Numeral.exponentPart? s = some e := by
  cases h with
  | none => rfl
  | marked negative each nonempty small =>
      have all : List.all _ Byte.isDigit = true := List.all_eq_true.mpr each
      have value := Numeral.exponentValue_eq small
      cases negative <;> simp [Numeral.exponentPart?, Byte.lower, nonempty, all, value]

theorem ExponentText.stops {s : Bytes} {e : Int} (h : ExponentText s e)
    : ∀ c ∈ s.head?, c.isDigit = false := by
  cases h with
  | none => nofun
  | marked => simp; decide

/-- A decimal with a point or an exponent reads as the number nearest to it. -/
theorem FractionText.fraction?_eq {s : Bytes} {n : Nat} {e : Int} (h : FractionText s n e)
    : Numeral.fraction? s = some (Binary64.ofDecimal false n e) := by
  cases h with
  | @exponent whole tail _ digits nonempty tailed shown =>
      obtain ⟨taken, left⟩ := run_append digits tailed.stops
      have part := tailed.exponentPart?_eq
      cases tailed with
      | none => exact (shown rfl).elim
      | marked =>
          simp only [Numeral.fraction?, taken, left]
          simp [nonempty, part]
  | @point whole part tail _ digits nonempty digits' tailed =>
      have stops : ∀ c ∈ (0x2e :: (part ++ tail)).head?, Byte.isDigit c = false := by simp; decide
      obtain ⟨taken, left⟩ := run_append digits stops
      obtain ⟨taken', left'⟩ := run_append digits' tailed.stops
      simp only [Numeral.fraction?, taken, left, taken', left', tailed.exponentPart?_eq]
      simp [nonempty]

theorem ExponentText.span_eq {s : Bytes} {e : Int} (h : ExponentText s e) (afterMark : Bool)
    : decimalSpan true afterMark s = (s, true, []) := by
  cases h with
  | none => rfl
  | @marked negative digits each nonempty =>
      have run := decimalSpan_digits each nonempty true false []
      rw [List.append_nil] at run
      cases negative <;> simp [decimalSpan, Byte.isDigit, Byte.lower, run]

theorem ExponentText.span_unmarked {s : Bytes} {e : Int} (h : ExponentText s e) (shown : s ≠ [])
    (afterMark : Bool)
    : decimalSpan false afterMark s = (s, true, []) := by
  cases h with
  | none => exact (shown rfl).elim
  | @marked negative digits each nonempty =>
      have run := decimalSpan_digits each nonempty true false []
      rw [List.append_nil] at run
      cases negative <;> simp [decimalSpan, Byte.isDigit, Byte.lower, run]

/-- A decimal with a point or an exponent is one fraction. -/
theorem FractionText.span_eq {s : Bytes} {n : Nat} {e : Int} (h : FractionText s n e)
    : decimalSpan false false s = (s, true, []) := by
  cases h with
  | exponent digits nonempty tailed shown =>
      rw [decimalSpan_digits digits nonempty, tailed.span_unmarked shown]
  | @point whole part tail _ digits nonempty digits' tailed =>
      have behind : decimalSpan true false (part ++ tail) = (part ++ tail, true, []) := by
        by_cases empty : part = []
        · rw [empty]
          exact tailed.span_eq false
        · rw [decimalSpan_digits digits' empty, tailed.span_eq]
      rw [decimalSpan_digits digits nonempty]
      simp [decimalSpan, Byte.isDigit, behind]

theorem ExponentText.inDecimal {s : Bytes} {e : Int} (h : ExponentText s e)
    : ∀ c ∈ s, inDecimal c = true := by
  cases h with
  | none => nofun
  | marked negative each =>
      refine List.forall_mem_cons.mpr ⟨rfl, List.forall_mem_cons.mpr ⟨?_, ?_⟩⟩
      · cases negative <;> rfl
      · exact fun c member => by simp [Literal.inDecimal, each c member]

theorem FractionText.inDecimal {s : Bytes} {n : Nat} {e : Int} (h : FractionText s n e)
    : ∀ c ∈ s, inDecimal c = true := by
  have run {t : Bytes} (digits : ∀ c ∈ t, c.isDigit = true) : ∀ c ∈ t, Literal.inDecimal c = true :=
    fun c member => by simp [Literal.inDecimal, digits c member]
  cases h with
  | exponent digits _ tailed => exact List.forall_mem_append.mpr ⟨run digits, tailed.inDecimal⟩
  | point digits _ digits' tailed =>
      exact List.forall_mem_append.mpr ⟨run digits, List.forall_mem_cons.mpr
        ⟨rfl, List.forall_mem_append.mpr ⟨run digits', tailed.inDecimal⟩⟩⟩

theorem FractionText.head {s : Bytes} {n : Nat} {e : Int} (h : FractionText s n e)
    : s ≠ [] ∧ ∀ c ∈ s.head?, c.isDigit = true := by
  have front {whole t : Bytes} (digits : ∀ c ∈ whole, c.isDigit = true) (nonempty : whole ≠ [])
      : whole ++ t ≠ [] ∧ ∀ c ∈ (whole ++ t).head?, c.isDigit = true := by
    cases whole with
    | nil => exact (nonempty rfl).elim
    | cons c rest => exact ⟨by simp, by simpa using digits c List.mem_cons_self⟩
  cases h with
  | exponent digits nonempty => exact front digits nonempty
  | point digits nonempty => exact front digits nonempty

/-- A sign in front of a magnitude. -/
theorem signed_eq {n : Numeral} {digits : Nat} {e : Int} {y : Finite64} {x : Binary64}
    (magnitude : Binary64.ofDecimal false digits e = .finite y)
    (nearest : Binary64.ofDecimal n.isNegative digits e = x)
    : n.signed (.finite y) = .float x := by
  rw [Numeral.signed, ← nearest]
  cases n.isNegative with
  | true => rw [if_pos rfl, Binary64.ofDecimal_true, magnitude]
  | false => rw [if_neg Bool.false_ne_true, magnitude]

/-- A decimal with a point or an exponent reads as the number of either sign that it is nearest
to.
-/
theorem FractionText.number_eq {s : Bytes} {n : Nat} {e : Int} (h : FractionText s n e)
    {x : Finite64} (nearest : Binary64.ofDecimal x.negative n e = .finite x)
    : number (signText x.negative ++ s) = .ok (.float (.finite x), []) := by
  rw [number_eq_ok_iff]
  refine ⟨nofun, _, numeralSpan_printed x.negative h.head.2 h.inDecimal h.span_eq, ?_⟩
  have sign : (Numeral.isNegative ⟨signText x.negative, [], 10, s, true⟩) = x.negative := by
    cases x.negative <;> rfl
  obtain ⟨y, magnitude⟩ : ∃ y, Binary64.ofDecimal false n e = .finite y := by
    cases magnitude : Binary64.ofDecimal false n e with
    | finite y => exact ⟨y, rfl⟩
    | infinity negative =>
        cases side : x.negative with
        | true =>
            rw [side, Binary64.ofDecimal_true, magnitude] at nearest
            cases nearest
        | false =>
            rw [side, magnitude] at nearest
            cases nearest
  have digits := @digits_eq_body ⟨signText x.negative, [], 10, s, true⟩ h.inDecimal
  rw [← sign] at nearest
  have value := signed_eq magnitude nearest
  simp [Numeral.value?, Numeral.fractionValue?, digits, h.head.1, h.fraction?_eq, magnitude, value]

--------------------------------------------------------------------------------
-- Printed numbers
--------------------------------------------------------------------------------

/-- A printed magnitude, with a point or an exponent even when it is whole. -/
def pointed (s : Bytes) : Bytes := if s.any fun c => c == 0x2e || c == 0x65 then s else s ++ ".0"

theorem code_finite (x : Finite64)
    : Binary64.code (.finite x)
      = signText x.negative ++ pointed (Decimal.render ⟨6, 0x65⟩ (Decimal.shortest x)) := by
  have apart (s : Bytes) : (signText x.negative ++ s).any (fun c => c == 0x2e || c == 0x65)
      = s.any fun c => c == 0x2e || c == 0x65 := by
    cases x.negative <;> rfl
  have sign : Bytes.ofString (if x.negative then "-" else "") = signText x.negative := by
    cases x.negative <;> rfl
  have text : Binary64.shortestText (.finite x)
      = signText x.negative ++ Decimal.render ⟨6, 0x65⟩ (Decimal.shortest x) := by
    rw [Binary64.shortestText, Binary64.textWith, sign]
  rw [Binary64.code, text, apart, pointed]
  split
  · rfl
  · rw [List.append_assoc]

theorem exponentText_eq {e : Int} (small : e.natAbs < 10000)
    : ExponentText (Decimal.exponentText 0x65 e) e := by
  have padded : ∃ digits : Bytes,
      (if (Bytes.ofNat e.natAbs).length < 2 then 0x30 :: Bytes.ofNat e.natAbs
        else Bytes.ofNat e.natAbs) = digits
      ∧ (∀ c ∈ digits, c.isDigit = true) ∧ digits ≠ [] ∧ Numeral.digitsValue digits = e.natAbs := by
    split
    · refine ⟨_, rfl, List.forall_mem_cons.mpr ⟨rfl, Bytes.isDigit_of_mem_ofNat⟩, by simp, ?_⟩
      exact (Numeral.digitsValue_zeros_append 1 _).trans (Bytes.digitsValue_ofNat _)
    · exact ⟨_, rfl, Bytes.isDigit_of_mem_ofNat, Bytes.ofNat_ne_nil _, Bytes.digitsValue_ofNat _⟩
  obtain ⟨digits, same, each, nonempty, value⟩ := padded
  have marked := ExponentText.marked (decide (e < 0)) each nonempty (value ▸ small)
  have exponent : (if decide (e < 0) = true then -(Numeral.digitsValue digits : Int)
      else Numeral.digitsValue digits) = e := by
    simp only [value, decide_eq_true_eq]
    split <;> omega
  have text : Decimal.exponentText 0x65 e
      = 0x65 :: (if decide (e < 0) = true then 0x2d else 0x2b) :: digits := by
    simp only [Decimal.exponentText, same, decide_eq_true_eq]
  rw [exponent] at marked
  rwa [text]

theorem pointed_of_mem {s : Bytes} {c : Byte} (member : c ∈ s) (shown : c = 0x2e ∨ c = 0x65)
    : pointed s = s := by
  refine if_pos (List.any_eq_true.mpr ⟨c, member, ?_⟩)
  rcases shown with rfl | rfl <;> rfl

theorem pointed_of_digits {s : Bytes} (each : ∀ c ∈ s, c.isDigit = true)
    : pointed s = s ++ [0x2e, 0x30] := by
  refine if_neg fun shown => ?_
  obtain ⟨c, member, shown⟩ := List.any_eq_true.mp shown
  have digit := each c member
  simp [Byte.ne_of_class digit (b := 0x2e) rfl, Byte.ne_of_class digit (b := 0x65) rfl] at shown

section Rendering

variable {d : Decimal}

theorem digits_of_digitText : ∀ c ∈ d.digitText, c.isDigit = true := Bytes.isDigit_of_mem_ofNat

theorem digitsValue_digitText : Numeral.digitsValue d.digitText = d.digits :=
  Bytes.digitsValue_ofNat d.digits

/-- Exponent form is worth the decimal. -/
theorem scientific_fractionText (small : (d.point - 1).natAbs < 10000)
    : FractionText (pointed (Decimal.scientific 0x65 d)) d.digits d.exponent := by
  obtain ⟨c, rest, parts⟩ := List.exists_cons_of_ne_nil (Bytes.ofNat_ne_nil d.digits)
  have parts : d.digitText = c :: rest := parts
  have digits := digits_of_digitText (d := d)
  have value := digitsValue_digitText (d := d)
  have tailed := exponentText_eq small
  have exponent : d.point - 1 = d.exponent + rest.length := by
    rw [Decimal.point, parts, List.length_cons]
    omega
  rw [parts] at digits value
  rw [List.forall_mem_cons] at digits
  have first : ∀ b ∈ [c], b.isDigit = true := List.forall_mem_singleton.mpr digits.1
  have text : Decimal.scientific 0x65 d
      = [c] ++ ((if rest.isEmpty then [] else 0x2e :: rest)
          ++ Decimal.exponentText 0x65 (d.point - 1)) := by
    rw [Decimal.scientific, parts, List.append_assoc]
    rfl
  have mark : (0x65 : Byte) ∈ Decimal.scientific 0x65 d := by
    rw [text]
    simp [Decimal.exponentText]
  rw [pointed_of_mem mark (.inr rfl), text]
  cases rest with
  | nil =>
      refine (FractionText.exponent first (by simp) tailed (by simp [Decimal.exponentText])).cast
        (by simp) value ?_
      simpa using exponent
  | cons b more =>
      refine (FractionText.point first (by simp) digits.2 tailed).cast (by simp) value ?_
      omega

theorem isDigit_of_mem_zeros {n : Nat} : ∀ c ∈ List.replicate n (0x30 : Byte), c.isDigit = true := by
  intro c member
  rw [List.eq_of_mem_replicate member]
  rfl

/-- A text with a point in it is a fraction as it stands. -/
theorem pointed_fractionText {whole part : Bytes} (digits : ∀ c ∈ whole, c.isDigit = true)
    (nonempty : whole ≠ []) (digits' : ∀ c ∈ part, c.isDigit = true)
    : FractionText (pointed (whole ++ 0x2e :: part)) (Numeral.digitsValue (whole ++ part))
        (-part.length) := by
  have shape := FractionText.point digits nonempty digits' .none
  rw [pointed_of_mem (c := 0x2e) (by simp) (.inl rfl)]
  exact shape.cast (by simp) rfl (by simp)

/-- A point in front of all digits, with zeros between. -/
theorem leading_fractionText (zeros : Nat) (place : d.point = -zeros)
    : FractionText (pointed (Bytes.ofString "0." ++ List.replicate zeros 0x30 ++ d.digitText))
        d.digits d.exponent := by
  have behind : ∀ c ∈ List.replicate zeros 0x30 ++ d.digitText, c.isDigit = true :=
    List.forall_mem_append.mpr ⟨isDigit_of_mem_zeros, digits_of_digitText⟩
  have value : Numeral.digitsValue ([0x30] ++ (List.replicate zeros 0x30 ++ d.digitText))
      = d.digits := by
    rw [show [(0x30 : Byte)] = List.replicate 1 0x30 from rfl, Numeral.digitsValue_zeros_append,
      Numeral.digitsValue_zeros_append, digitsValue_digitText]
  have point : d.point = d.digitText.length + d.exponent := rfl
  refine (pointed_fractionText (isDigit_of_mem_zeros (n := 1)) (by simp) behind).cast ?_ value ?_
  · rw [List.append_assoc]
    rfl
  · rw [List.length_append, List.length_replicate]
    omega

/-- A point between the digits. -/
theorem inner_fractionText {whole : Nat} (positive : whole ≠ 0) (place : d.point = whole)
    (inside : whole ≤ d.digitText.length)
    : FractionText (pointed (d.digitText.take whole ++ 0x2e :: d.digitText.drop whole)) d.digits
        d.exponent := by
  have front : ∀ c ∈ d.digitText.take whole, c.isDigit = true :=
    fun c member => digits_of_digitText c (List.mem_of_mem_take member)
  have back : ∀ c ∈ d.digitText.drop whole, c.isDigit = true :=
    fun c member => digits_of_digitText c (List.mem_of_mem_drop member)
  have some : d.digitText.take whole ≠ [] := by
    rw [ne_eq, List.take_eq_nil_iff, not_or]
    exact ⟨positive, Bytes.ofNat_ne_nil d.digits⟩
  have point : d.point = d.digitText.length + d.exponent := rfl
  refine (pointed_fractionText front some back).cast rfl ?_ ?_
  · rw [List.take_append_drop, digitsValue_digitText]
  · rw [List.length_drop]
    omega

/-- Zeros behind the digits; one more is shown behind a point. -/
theorem trailing_fractionText (zeros : Nat)
    : FractionText (pointed (d.digitText ++ List.replicate zeros 0x30))
        (d.digits * Nat.pow 10 (zeros + 1)) (-1) := by
  have run : ∀ c ∈ d.digitText ++ List.replicate zeros 0x30, c.isDigit = true :=
    List.forall_mem_append.mpr ⟨digits_of_digitText, isDigit_of_mem_zeros⟩
  have nonempty : d.digitText ++ List.replicate zeros 0x30 ≠ [] := by
    simp [show d.digitText ≠ [] from Bytes.ofNat_ne_nil d.digits]
  have value : Numeral.digitsValue (d.digitText ++ List.replicate zeros 0x30 ++ [0x30])
      = d.digits * Nat.pow 10 (zeros + 1) := by
    rw [List.append_assoc, ← List.replicate_succ', ← digitsValue_digitText]
    exact (Numeral.digitsFrom_append 0 _ _).trans (Numeral.digitsFrom_zeros _ _)
  refine (pointed_fractionText run nonempty (isDigit_of_mem_zeros (n := 1))).cast ?_ value rfl
  rw [pointed_of_mem (c := 0x2e) (by simp) (.inl rfl), pointed_of_digits run]
  rfl

/-- Positional form is worth the decimal.
Witness: the point stands in front of the digits, behind them or between them.
-/
theorem positional_fractionText (nonzero : d.digits ≠ 0)
    : ∃ n e,
        FractionText (pointed d.positional) n e
        ∧ ∀ negative,
            Binary64.ofDecimal negative n e = Binary64.ofDecimal negative d.digits d.exponent := by
  have place : d.point = d.digitText.length + d.exponent := rfl
  unfold Decimal.positional
  split
  · rename_i point
    exact ⟨_, _, leading_fractionText 0 point, fun _ => rfl⟩
  · rename_i whole positive point
    have point : d.point = whole := point
    dsimp only
    split
    · rename_i fits
      refine ⟨_, _, trailing_fractionText (whole - d.digitText.length), fun negative => ?_⟩
      rw [Binary64.ofDecimal_mul_pow negative nonzero]
      congr 1
      omega
    · rename_i cut
      exact ⟨_, _, inner_fractionText positive point (Nat.le_of_not_le cut), fun _ => rfl⟩
  · rename_i count point
    exact ⟨_, _, leading_fractionText (count + 1) point, fun _ => rfl⟩

end Rendering

/-- A printed decimal that is not zero shows a point or an exponent, and it is worth the decimal. -/
theorem render_fractionText {d : Decimal} (nonzero : d.digits ≠ 0) (least : -330 ≤ d.point)
    (most : d.point ≤ 310)
    : ∃ n e,
        FractionText (pointed (Decimal.render ⟨6, 0x65⟩ d)) n e
        ∧ ∀ negative,
            Binary64.ofDecimal negative n e = Binary64.ofDecimal negative d.digits d.exponent := by
  rw [Decimal.render, if_neg (by simpa using nonzero)]
  split
  · exact ⟨_, _, scientific_fractionText (by omega), fun _ => rfl⟩
  · exact positional_fractionText nonzero

/-- A number as code is one fraction that reads back as it, zeros of either sign included. -/
theorem code_fractionText (x : Finite64)
    : ∃ s n e,
        Binary64.code (.finite x) = signText x.negative ++ s
        ∧ FractionText s n e
        ∧ Binary64.ofDecimal x.negative n e = .finite x := by
  by_cases zero : x.significand = 0
  · have digits : ∀ c ∈ [(0x30 : Byte)], c.isDigit = true := List.forall_mem_singleton.mpr rfl
    have shape := FractionText.point digits (by simp) digits .none
    refine ⟨_, _, _, ?_, shape, ?_⟩
    · rw [code_finite, Decimal.shortest, if_pos (by simpa using zero)]
      rfl
    · obtain ⟨negative, significand, scale, _, _, normal⟩ := x
      obtain rfl : significand = 0 := zero
      obtain rfl : scale = 0 := normal.resolve_right (by decide)
      rfl
  · have reads := Decimal.shortest_readsBack zero
    obtain ⟨nonzero, least, most⟩ := Decimal.bounds_of_readsBack zero reads
    obtain ⟨n, e, shape, worth⟩ := render_fractionText nonzero least most
    refine ⟨_, n, e, code_finite x, shape, ?_⟩
    rw [worth]
    exact Decimal.readsBack_iff.mp reads

end FormMigrate.Literal
