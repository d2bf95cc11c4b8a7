import FormMigrate.Proofs.Indexed.Quoted

/-! Numerals read by offsets. -/

namespace FormMigrate.Indexed

open Literal

--------------------------------------------------------------------------------
-- The reader
--------------------------------------------------------------------------------

/-- The offset behind the digits of a numeral and what belongs to them, and whether they make it a
fraction.
-/
def scanDigits (base : Nat) (src : Bytes) (i : Int) (fraction : Bool) : Option (Int × Bool) := do
  if i < src.length then
    let c ← byteAt src i
    if c == 0x5f || (c.isHex && base == 16) || c.isDigit then
      (scanDigits (i := ← moveTo src (i + 1))) base src fraction
    else if base == 10 && c == 0x2e && !fraction then
      (scanDigits (i := ← moveTo src (i + 1))) base src true
    else if base == 10 && c.lower == 0x65 then
      let behind ← moveTo src (i + 1)
      let sign ← peek src behind
      if sign == 0x2b || sign == 0x2d then
        (scanDigits (i := ← moveTo src (behind + 1))) base src true
      else (scanDigits (i := behind)) base src true
    else return (i, fraction)
  else return (i, fraction)
partial_fixpoint

/-- The offset behind a sign, if one stands at an offset. -/
def skipSign (src : Bytes) (pos : Int) : Option Int := do
  let c ← peek src pos
  if c == 0x2d || c == 0x2b then moveTo src (pos + 1) else return pos

/-- The base that a mark at an offset selects. -/
def markAt (src : Bytes) (pos : Int) : Option (Option Nat) := do
  if (← peek src pos) == 0x30 then return baseOfMark? (← peek src (pos + 1)) else return none

/-- Where the parts of a numeral stand. -/
structure Layout where
  negative : Bool
  body : Int
  base : Nat
  behind : Int
  fraction : Bool
  deriving DecidableEq, Repr

/-- The parts of the numeral at an offset. -/
def layout (src : Bytes) (start : Int) : Option Layout := do
  let sign ← peek src start
  let body ← skipSign src start
  match ← markAt src body with
  | some base =>
      let (behind, fraction) ← scanDigits base src (← moveTo src (body + 2)) false
      return ⟨sign == 0x2d, body, base, behind, fraction⟩
  | none =>
      let (behind, fraction) ← scanDigits 10 src body false
      return ⟨sign == 0x2d, body, 10, behind, fraction⟩

/-- Whether a byte of a class stands at an offset. -/
def classAt (p : Byte → Bool) (src : Bytes) (pos : Int) : Option Bool :=
  if pos < src.length then (byteAt src pos).map p else some false

/-- The base that digits are read in, and the digits without the mark in front of them. -/
def readingOf (parts : Layout) (body : Bytes) : Option (Nat × Bytes) := do
  if parts.base == 10 then
    if !parts.fraction && 1 < body.length then
      return (if (← byteAt body 0) == 0x30 then 8 else 10, body)
    else return (10, body)
  else return (parts.base, ← slice body 2 body.length)

/-- The value of the numeral at an offset. -/
def number (src : Bytes) (start : Int) : Option (Read Value) := do
  let parts ← layout src start
  if ← classAt Byte.isNamePart src parts.behind then
    return .error ⟨parts.behind, .malformedNumber (← slice src start (parts.behind + 1))⟩
  else
    let body ← slice src parts.body parts.behind
    let (base, digits) ← readingOf parts (body.filter (· != 0x5f))
    let numeral : Literal.Numeral :=
      ⟨if parts.negative then [0x2d] else [], [], base, digits, parts.fraction⟩
    match numeral.value? with
    | some v => return .ok (v, parts.behind)
    | none => return .error ⟨parts.behind, .malformedNumber (← slice src start parts.behind)⟩

--------------------------------------------------------------------------------
-- Agreement with the reader of what is left
--------------------------------------------------------------------------------

variable {src s : Bytes} {pos : Int}

/-- A sign behind an exponent mark belongs to the numeral. -/
theorem decimalSpan_sign {c : Byte} (sign : c = 0x2b ∨ c = 0x2d) (rest : Bytes)
    : decimalSpan true true (c :: rest)
      = (c :: (decimalSpan true false rest).1, (decimalSpan true false rest).2) := by
  rcases sign with rfl | rfl <;> rfl

/-- Without a sign behind it an exponent mark changes nothing. -/
theorem decimalSpan_unsigned {rest : Bytes}
    (unsigned : ∀ c tail, rest = c :: tail → c ≠ 0x2b ∧ c ≠ 0x2d)
    : decimalSpan true true rest = decimalSpan true false rest := by
  cases rest with
  | nil => rfl
  | cons c tail =>
      have sign : (c == 0x2b || c == 0x2d) = false := by
        simpa using unsigned c tail rfl
      rw [decimalSpan, decimalSpan, sign]
      rfl

/-- The digits of a decimal numeral end alike, by induction on the length of what is left. -/
theorem At.scanDigits_decimal (here : At src pos s) (fraction : Bool)
    : scanDigits 10 src pos fraction
      = some
          (pos + (decimalSpan fraction false s).1.length, (decimalSpan fraction false s).2.1) := by
  induction length : s.length using Nat.strong_induction_on generalizing s pos fraction with
  | h n ih =>
      subst length
      rcases s with - | ⟨c, rest⟩
      · rw [scanDigits, if_neg here.not_lt]
        simp [decimalSpan]
      · have further (fraction : Bool) := ih rest.length (Nat.lt_succ_self _) here.cons fraction rfl
        have digit : (c == 0x5f || (c.isHex && (10 : Nat) == 16) || c.isDigit)
            = (c == 0x5f || c.isDigit) := by
          rw [show ((10 : Nat) == 16) = false from rfl, Bool.and_false, Bool.or_false]
        rw [scanDigits, if_pos here.lt, here.byteAt, here.cons.moveTo, decimalSpan]
        simp only [Option.bind_eq_bind, Option.bind_some, digit, beq_self_eq_true, Bool.true_and]
        split
        · rw [further fraction]
          simp
          omega
        · split
          · rw [further true]
            simp
            omega
          · split
            · rw [here.cons.peek, Option.bind_some]
              cases sign : rest.head?.getD 0 == 0x2b || rest.head?.getD 0 == 0x2d with
              | true =>
                  rcases rest with - | ⟨d, tail⟩
                  · cases sign
                  · have less : tail.length < (c :: d :: tail).length := by
                      rw [List.length_cons, List.length_cons]
                      omega
                    have last := ih tail.length less here.cons.cons true rfl
                    rw [if_pos rfl, here.cons.cons.moveTo, Option.bind_some, last,
                      decimalSpan_sign (by simpa using sign)]
                    simp
                    omega
              | false =>
                  have unsigned : ∀ d tail, rest = d :: tail → d ≠ 0x2b ∧ d ≠ 0x2d := by
                    rintro d tail rfl
                    simpa using sign
                  rw [if_neg Bool.false_ne_true, further true, decimalSpan_unsigned unsigned]
                  simp
                  omega
            · simp

/-- The digits behind a base mark end alike, by induction on what is left. -/
theorem At.scanDigits_marked {base : Nat} (marked : base ≠ 10) (here : At src pos s)
    : scanDigits base src pos false
      = some (pos + (s.takeWhile (inMarkedNumeral base)).length, false) := by
  have marked' : (base == 10) = false := beq_false_of_ne marked
  induction s generalizing pos with
  | nil =>
      rw [scanDigits, if_neg here.not_lt]
      simp
  | cons c rest ih =>
      have class'
          : (c == 0x5f || (c.isHex && base == 16) || c.isDigit) = inMarkedNumeral base c := by
        rw [inMarkedNumeral, Bool.and_comm, Bool.or_assoc, Bool.or_assoc, Bool.or_comm c.isDigit]
      rw [scanDigits, if_pos here.lt, here.byteAt, here.cons.moveTo]
      simp only [Option.bind_eq_bind, Option.bind_some, class', marked', Bool.false_and,
        Bool.false_eq_true, if_false]
      by_cases inside : inMarkedNumeral base c = true
      · rw [if_pos inside, ih here.cons, List.takeWhile_cons_of_pos inside, List.length_cons]
        congr 2
        omega
      · rw [if_neg inside, List.takeWhile_cons_of_neg inside]
        simp

/-- A sign in front of a numeral is passed. -/
theorem At.skipSign (here : At src pos s)
    : Indexed.skipSign src pos = some (pos + (sign s).1.length)
      ∧ At src (pos + (sign s).1.length) (sign s).2
      ∧ (s.head?.getD 0 == 0x2d) = ((sign s).1 == [0x2d]) := by
  rw [Indexed.skipSign, here.peek]
  simp only [Option.bind_eq_bind, Option.bind_some]
  rcases s with - | ⟨c, rest⟩
  · exact ⟨by simp [sign], by simpa [sign] using here, rfl⟩
  · rw [List.head?_cons, Option.getD_some, sign]
    split
    · exact ⟨here.cons.moveTo, here.cons, by simp⟩
    · rename_i unsigned
      refine ⟨by simp, by simpa using here, ?_⟩
      simp only [Bool.or_eq_true, not_or] at unsigned
      rw [Bool.eq_false_iff.mpr unsigned.1]
      rfl

/-- A base mark is two bytes long and selects another base than ten. -/
theorem baseMark_cases (s : Bytes)
    : (baseMark s = ([], 10, s) ∧ ∀ c rest, s = 0x30 :: c :: rest → baseOfMark? c = none)
      ∨ ∃ c base rest,
          s = 0x30 :: c :: rest ∧ baseOfMark? c = some base ∧ c ≠ 0x5f ∧ base ≠ 10
          ∧ baseMark s = ([0x30, c], base, rest) := by
  by_cases marked : ∃ c base rest, s = 0x30 :: c :: rest ∧ baseOfMark? c = some base
  · obtain ⟨c, base, rest, rfl, selected⟩ := marked
    refine .inr ⟨c, base, rest, rfl, selected, ?_, ?_, by simp only [baseMark, selected]⟩
    · rintro rfl
      cases selected
    · rintro rfl
      simp only [baseOfMark?] at selected
      split at selected
      · cases selected
      · split at selected
        · cases selected
        · split at selected <;> cases selected
  · have none (c : Byte) (rest : Bytes) (same : s = 0x30 :: c :: rest) : baseOfMark? c = none :=
      Option.eq_none_iff_forall_ne_some.mpr fun base selected =>
        marked ⟨c, base, rest, same, selected⟩
    refine .inl ⟨?_, none⟩
    unfold baseMark
    split
    · rename_i c rest
      rw [none c rest rfl]
    · rfl

/-- A base mark is found where there is one. -/
theorem At.markAt (here : At src pos s)
    : Indexed.markAt src pos
      = some (if (baseMark s).1 = [] then none else some (baseMark s).2.1) := by
  have second : Indexed.peek src (pos + 1) = some (s[1]?.getD 0) := here.peek_add 1
  rw [Indexed.markAt, here.peek, second]
  simp only [Option.bind_eq_bind, Option.bind_some]
  rcases baseMark_cases s with ⟨cut, none⟩ | ⟨c, base, rest, rfl, selected, -, -, cut⟩
  · rw [cut, if_pos rfl]
    rcases s with - | ⟨d, - | ⟨c, rest⟩⟩
    · rfl
    · show (if d == 0x30 then some (baseOfMark? 0) else some .none) = some .none
      rw [show baseOfMark? 0 = .none from rfl, ite_self]
    · show (if d == 0x30 then some (baseOfMark? c) else some .none) = some .none
      split
      · rename_i zero
        rw [none c rest (by rw [beq_iff_eq.mp zero])]
      · rfl
  · rw [cut, if_neg (List.cons_ne_nil _ _)]
    exact congrArg some selected

/-- The numeral at the front of a text, without a base mark or behind one. -/
theorem numeralSpan_cases (s : Bytes)
    : (baseMark (sign s).2 = ([], 10, (sign s).2)
        ∧ (numeralSpan s).1
          = ⟨(sign s).1, [], 10, (decimalSpan false false (sign s).2).1,
              (decimalSpan false false (sign s).2).2.1⟩)
      ∨ ∃ c base rest,
          (sign s).2 = 0x30 :: c :: rest ∧ c ≠ 0x5f ∧ base ≠ 10
          ∧ baseMark (sign s).2 = ([0x30, c], base, rest)
          ∧ (numeralSpan s).1
            = ⟨(sign s).1, [0x30, c], base, rest.takeWhile (inMarkedNumeral base), false⟩ := by
  rcases baseMark_cases (sign s).2 with ⟨cut, -⟩ | ⟨c, base, rest, same, -, mark, other, cut⟩
  · exact .inl ⟨cut, by simp only [numeralSpan, cut]; rfl⟩
  · refine .inr ⟨c, base, rest, same, mark, other, cut, ?_⟩
    simp only [numeralSpan, cut, beq_false_of_ne other]
    rfl

/-- The parts of a numeral stand where the reader of what is left cuts the text. -/
theorem At.layout (here : At src pos s)
    : Indexed.layout src pos
      = some ⟨(numeralSpan s).1.isNegative, pos + (numeralSpan s).1.sign.length,
          (numeralSpan s).1.base, pos + (numeralSpan s).1.text.length,
          (numeralSpan s).1.isFraction⟩ := by
  obtain ⟨signed, behind, negative⟩ := here.skipSign
  rw [Indexed.layout, here.peek, signed]
  simp only [Option.bind_eq_bind, Option.bind_some, negative, behind.markAt]
  rcases numeralSpan_cases s with ⟨cut, span⟩ | ⟨c, base, rest, same, -, other, cut, span⟩
  · have ends (digits : Bytes)
        : pos + (sign s).1.length + digits.length = pos + ((sign s).1 ++ [] ++ digits).length := by
      rw [List.append_nil, List.length_append]
      omega
    rw [cut, span, if_pos rfl]
    simp only [behind.scanDigits_decimal, Literal.Numeral.text, ← ends]
    rfl
  · rw [same] at behind
    have digits : At src (pos + (sign s).1.length + 2) rest := behind.append (t := [0x30, c])
    have ends (digits : Bytes)
        : pos + (sign s).1.length + 2 + digits.length
          = pos + ((sign s).1 ++ [0x30, c] ++ digits).length := by
      simp only [List.length_append, List.length_cons, List.length_nil]
      omega
    rw [cut, span, if_neg (List.cons_ne_nil _ _)]
    simp only [digits.moveTo, Option.bind_some, digits.scanDigits_marked other,
      Literal.Numeral.text, ← ends]
    rfl

/-- The value of a numeral depends on its sign, its digits and the base that they are read in. -/
theorem value?_congr {n m : Literal.Numeral} (negative : n.isNegative = m.isNegative)
    (digits : n.digits = m.digits) (fraction : n.isFraction = m.isFraction)
    (base : n.isFraction = false → n.readingBase = m.readingBase)
    : n.value? = m.value? := by
  have signed (x : Binary64) : n.signed x = m.signed x := by
    rw [Literal.Numeral.signed, Literal.Numeral.signed, negative]
  cases point : n.isFraction with
  | true =>
      rw [Literal.Numeral.value?, Literal.Numeral.value?, ← fraction, ← digits, point]
      simp only [Literal.Numeral.fractionValue?, digits, signed, if_true]
  | false =>
      rw [Literal.Numeral.value?, Literal.Numeral.value?, ← fraction, ← digits, point]
      simp only [Literal.Numeral.wholeValue?, digits, signed, negative, base point,
        Bool.false_eq_true, if_false]

theorem At.classAt (p : Byte → Bool) (here : At src pos s)
    : Indexed.classAt p src pos = some (s.head?.any p) := by
  rw [Indexed.classAt]
  rcases s with - | ⟨c, rest⟩
  · exact if_neg here.not_lt
  · rw [if_pos here.lt, here.byteAt]
    rfl

theorem digits_filtered (n : Literal.Numeral) : n.digits.filter (· != 0x5f) = n.digits := by
  rw [Literal.Numeral.digits, List.filter_filter]
  simp only [Bool.and_self]

/-- The base of an unmarked whole numeral is eight behind a leading zero and ten otherwise. -/
theorem readingBase_unmarked {n : Literal.Numeral} (unmarked : n.base = 10)
    : n.readingBase = if 1 < n.digits.length ∧ n.digits.head? = some 0x30 then 8 else 10 := by
  rw [Literal.Numeral.readingBase, unmarked]
  split
  · rename_i shape
    rw [shape]
    rfl
  · rename_i other
    rw [if_neg]
    rintro ⟨long, zero⟩
    rcases shape : n.digits with - | ⟨c, - | ⟨d, rest⟩⟩
    · rw [shape] at zero
      cases zero
    · rw [shape] at long
      exact Nat.lt_irrefl 1 long
    · rw [shape, List.head?_cons, Option.some.injEq] at zero
      exact other d rest rfl (by rw [shape, zero])

theorem readingBase_marked {n : Literal.Numeral} (marked : n.base ≠ 10)
    : n.readingBase = n.base := by
  rw [Literal.Numeral.readingBase]
  split
  · rename_i ten _
    exact absurd ten marked
  · rfl

/-- A numeral with its digits for a body and no mark, to be read in a base. -/
def rebased (n : Literal.Numeral) (base : Nat) : Literal.Numeral :=
  ⟨if n.isNegative then [0x2d] else [], [], base, n.digits, n.isFraction⟩

theorem rebased_digits (n : Literal.Numeral) (base : Nat) : (rebased n base).digits = n.digits :=
  digits_filtered n

theorem rebased_value? {n : Literal.Numeral} {base : Nat}
    (same : n.isFraction = false → (rebased n base).readingBase = n.readingBase)
    : (rebased n base).value? = n.value? := by
  have negative : (rebased n base).isNegative = n.isNegative := by
    rw [rebased]
    cases n.isNegative <;> rfl
  exact value?_congr negative (rebased_digits n base) rfl same

/-- Without a mark the base is eight behind a leading zero and ten otherwise. -/
theorem readingOf_unmarked {n : Literal.Numeral} (ten : n.base = 10) (body behind : Int)
    : ∃ base,
        readingOf ⟨n.isNegative, body, n.base, behind, n.isFraction⟩ n.digits
          = some (base, n.digits)
        ∧ (rebased n base).value? = n.value? := by
  rw [readingOf, ten]
  by_cases leads : n.isFraction = false ∧ 1 < n.digits.length
  · obtain ⟨c, rest, shape⟩ := List.exists_cons_of_ne_nil
      (List.ne_nil_of_length_pos (Nat.lt_trans Nat.zero_lt_one leads.2))
    have first : byteAt n.digits 0 = some c := shape ▸ (At.zero (c :: rest)).byteAt
    have zero : (n.digits.head? = some 0x30) ↔ (c == 0x30) = true := by
      rw [shape, List.head?_cons, Option.some.injEq, beq_iff_eq]
    refine ⟨if c == 0x30 then 8 else 10, ?_, rebased_value? fun _ => ?_⟩
    · simp only [leads, first, beq_self_eq_true, Bool.not_false, Bool.true_and, decide_true,
        if_true, Option.bind_eq_bind, Option.bind_some]
      rfl
    · rw [readingBase_unmarked ten]
      simp only [leads.2, true_and, zero]
      cases leading : c == 0x30 with
      | true => exact readingBase_marked (show (8 : Nat) ≠ 10 by decide)
      | false =>
          refine (readingBase_unmarked rfl).trans ?_
          rw [rebased_digits]
          exact if_neg fun both => Bool.false_ne_true (leading ▸ zero.mp both.2)
  · refine ⟨10, ?_, rebased_value? fun _ => ?_⟩
    · have short : (!n.isFraction && decide (1 < n.digits.length)) = false := by
        simpa using leads
      simp only [beq_self_eq_true, if_true, short, Bool.false_eq_true, if_false]
      rfl
    · rw [readingBase_unmarked ten, readingBase_unmarked rfl, rebased_digits]

/-- Behind a mark the base is the one that the mark selects. -/
theorem readingOf_marked {n : Literal.Numeral} (marked : n.base ≠ 10) (c : Byte)
    (body behind : Int)
    : readingOf ⟨n.isNegative, body, n.base, behind, n.isFraction⟩ ([0x30, c] ++ n.digits)
        = some (n.base, n.digits)
      ∧ (rebased n n.base).value? = n.value? := by
  have digits := ((At.zero ([0x30, c] ++ n.digits)).append (t := [0x30, c])).slice_length
  constructor
  · rw [readingOf, if_neg (by simpa using marked)]
    exact congrArg (fun read => read.bind fun digits => some (n.base, digits)) digits
  · refine rebased_value? fun _ => (readingBase_marked ?_).trans (readingBase_marked marked).symm
    exact marked

/-- The digits of a numeral are those behind its mark, and they have its value in the base that the
mark or a leading zero selects.
-/
theorem readingOf_numeralSpan (s : Bytes) (body behind : Int)
    : ∃ base,
        readingOf
            ⟨(numeralSpan s).1.isNegative, body, (numeralSpan s).1.base, behind,
              (numeralSpan s).1.isFraction⟩
            (((numeralSpan s).1.mark ++ (numeralSpan s).1.body).filter (· != 0x5f))
          = some (base, (numeralSpan s).1.digits)
        ∧ (rebased (numeralSpan s).1 base).value? = (numeralSpan s).1.value? := by
  rcases numeralSpan_cases s with ⟨-, span⟩ | ⟨c, base, rest, -, mark, other, -, span⟩
  · have base : (numeralSpan s).1.base = 10 := congrArg Literal.Numeral.base span
    have unmarked : (numeralSpan s).1.mark = [] := congrArg Literal.Numeral.mark span
    generalize (numeralSpan s).1 = n at base unmarked
    rw [unmarked, List.nil_append]
    exact readingOf_unmarked base body behind
  · have base : (numeralSpan s).1.base = base := congrArg Literal.Numeral.base span
    have marked : (numeralSpan s).1.mark = [0x30, c] := congrArg Literal.Numeral.mark span
    generalize (numeralSpan s).1 = n at base marked
    subst base
    have kept : ([0x30, c] ++ n.body).filter (· != 0x5f) = [0x30, c] ++ n.digits := by
      rw [List.filter_append, Literal.Numeral.digits]
      congr 1
      simp [mark]
    rw [marked, kept]
    exact ⟨n.base, readingOf_marked other c body behind⟩

/-- Numerals are read alike. -/
theorem At.number (here : At src pos s)
    : Agrees src (Indexed.number src pos) (Literal.number s) := by
  have parts := numeralSpan_append s
  have whole : At src pos ((numeralSpan s).1.text ++ (numeralSpan s).2) := parts.symm ▸ here
  have body : At src (pos + (numeralSpan s).1.sign.length)
      ((numeralSpan s).1.mark ++ (numeralSpan s).1.body ++ (numeralSpan s).2) := by
    rw [Literal.Numeral.text, List.append_assoc, List.append_assoc, ← List.append_assoc
      (numeralSpan s).1.mark] at whole
    exact whole.append
  have behind := whole.append
  have spelled := whole.slice
  have ends : pos + (numeralSpan s).1.sign.length
        + ((numeralSpan s).1.mark ++ (numeralSpan s).1.body).length
      = pos + (numeralSpan s).1.text.length := by
    simp only [Literal.Numeral.text, List.length_append]
    omega
  have read := ends ▸ body.slice
  obtain ⟨base, reading, value⟩ := readingOf_numeralSpan s (pos + (numeralSpan s).1.sign.length)
    (pos + (numeralSpan s).1.text.length)
  rw [rebased] at value
  rw [Indexed.number, here.layout, Literal.number]
  simp only [Option.bind_eq_bind, Option.bind_some, behind.classAt, read, reading, value, spelled]
  generalize (numeralSpan s).1 = n at whole behind
  generalize (numeralSpan s).2 = after at whole behind
  rcases after with - | ⟨c, after⟩
  · rw [List.head?_nil, Option.any_none, if_neg Bool.false_ne_true]
    cases n.value? with
    | none => exact .error behind
    | some v => exact .ok behind
  · rw [List.head?_cons, Option.any_some]
    by_cases spoiled : c.isNamePart = true
    · have spelled : At src pos ((n.text ++ [c]) ++ after) := by
        rwa [List.append_assoc, List.singleton_append]
      have longer := spelled.slice
      rw [List.length_append, List.length_singleton, Int.natCast_add, ← Int.add_assoc,
        Int.natCast_one] at longer
      rw [if_pos spoiled, longer]
      simp only [Option.bind_some, spoiled, if_true]
      exact .error behind
    · rw [if_neg spoiled]
      simp only [spoiled, if_false, Bool.false_eq_true]
      cases n.value? with
      | none => exact .error behind
      | some v => exact .ok behind

end FormMigrate.Indexed
