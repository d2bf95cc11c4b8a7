import FormMigrate.Literal.Token

/-! Evaluation of static literals. The reader takes scalars and arrays of them and refuses
everything that would need a running program.
-/

namespace FormMigrate.Literal

--------------------------------------------------------------------------------
-- Progress of the scalar readers
--------------------------------------------------------------------------------

/-- Skipping blanks never lengthens a text. -/
theorem skipBlank_length_le (s : Bytes) : (skipBlank s).length ≤ s.length :=
  (List.dropWhile_suffix _).length_le

/-- A quoted text leaves less than it was given.
Witness: every step of the reader removes a byte.
-/
theorem singleQuoted_length_lt {s content after : Bytes}
    (h : singleQuoted s = some (content, after))
    : after.length < s.length := by
  fun_induction singleQuoted s generalizing content with
  | case1 => simp at h
  | case2 rest =>
      obtain ⟨_, rfl⟩ := by simpa using h
      simp
  | case3 rest ih | case4 rest ih =>
      obtain ⟨⟨t, u⟩, found, same⟩ := Option.map_eq_some_iff.mp h
      obtain ⟨_, rfl⟩ := by simpa using same
      have := ih found
      simp only [List.length_cons]
      omega
  | case5 c rest _ _ _ ih =>
      obtain ⟨⟨t, u⟩, found, same⟩ := Option.map_eq_some_iff.mp h
      obtain ⟨_, rfl⟩ := by simpa using same
      have := ih found
      simp only [List.length_cons]
      omega

/-- A quoted text leaves less than it was given, whatever escape the reader is in. -/
theorem doubleQuotedFrom_length_lt {skip : Nat} {s content after : Bytes}
    (h : doubleQuotedFrom skip s = .ok (content, after))
    : after.length < s.length := by
  induction s generalizing skip content with
  | nil => cases skip <;> simp [doubleQuotedFrom] at h
  | cons c rest ih =>
      have step {k : Nat} {f : Bytes → Bytes}
          (mapped : (doubleQuotedFrom k rest).map (fun p => (f p.1, p.2)) = .ok (content, after))
          : after.length < (c :: rest).length := by
        cases found : doubleQuotedFrom k rest with
        | error e => simp [found, Except.map] at mapped
        | ok pair =>
            obtain ⟨t, u⟩ := pair
            simp only [found, Except.map, Except.ok.injEq, Prod.mk.injEq] at mapped
            obtain ⟨_, rfl⟩ := mapped
            have := ih found
            simp only [List.length_cons]
            omega
      cases skip with
      | succ k =>
          have := @ih k content (by simpa [doubleQuotedFrom] using h)
          simp only [List.length_cons]
          omega
      | zero =>
          simp only [doubleQuotedFrom] at h
          split at h
          · simp only [Except.ok.injEq, Prod.mk.injEq] at h
            obtain ⟨_, rfl⟩ := h
            simp
          · split at h
            · simp at h
            · split at h
              · exact step (f := fun t => (escape rest).1 ++ t) h
              · exact step (f := fun t => c :: t) h

/-- The bytes of a decimal numeral and what follows them make up the text. -/
theorem decimalSpan_append (fraction afterMark : Bool) (s : Bytes)
    : (decimalSpan fraction afterMark s).1 ++ (decimalSpan fraction afterMark s).2.2 = s := by
  fun_induction decimalSpan fraction afterMark s <;> simp_all

/-- A sign and what follows it make up the text. -/
theorem sign_append (s : Bytes) : (sign s).1 ++ (sign s).2 = s := by
  unfold sign
  split
  · split <;> rfl
  · rfl

/-- A base mark and what follows it make up the text. -/
theorem baseMark_append (s : Bytes) : (baseMark s).1 ++ (baseMark s).2.2 = s := by
  unfold baseMark
  split
  · split <;> rfl
  · rfl

/-- A numeral and what follows it make up the text. -/
theorem numeralSpan_append (s : Bytes)
    : (numeralSpan s).1.text ++ (numeralSpan s).2 = s := by
  unfold numeralSpan Numeral.text
  have whole := sign_append s
  have marked := baseMark_append (sign s).2
  have body := decimalSpan_append false false (baseMark (sign s).2).2.2
  simp only
  split
  · simp only [List.append_assoc, body, marked, whole]
  · simp only [List.append_assoc, List.takeWhile_append_dropWhile, marked, whole]

/-- A numeral with a value has a digit, hence a byte. -/
theorem Numeral.text_ne_nil {n : Numeral} {v : Value} (h : n.value? = some v)
    : n.text ≠ [] := by
  intro empty
  have noBody : n.body = [] := by
    simp only [Numeral.text, List.append_eq_nil_iff] at empty
    exact empty.2
  simp [Numeral.value?, Numeral.digits, noBody] at h

/-- A numeral leaves less than it was given.
Witness: the numeral and the remainder make up the text, and the numeral is not empty.
-/
theorem number_length_lt {s after : Bytes} {v : Value} (h : number s = .ok (v, after))
    : after.length < s.length := by
  have whole := congrArg List.length (numeralSpan_append s)
  rw [List.length_append] at whole
  have positive {w : Value} (found : (numeralSpan s).1.value? = some w)
      : 0 < (numeralSpan s).1.text.length :=
    List.length_pos_iff.mpr (Numeral.text_ne_nil found)
  unfold number at h
  simp only at h
  split at h
  · split at h
    · simp at h
    · split at h
      · rename_i found
        have := positive found
        simp only [Except.ok.injEq, Prod.mk.injEq] at h
        rw [← h.2]
        omega
      · simp at h
  · split at h
    · rename_i found
      have := positive found
      simp only [Except.ok.injEq, Prod.mk.injEq] at h
      rw [← h.2]
      omega
    · simp at h

--------------------------------------------------------------------------------
-- Values and arrays
--------------------------------------------------------------------------------

/-- What is left of a text after something was read from it. -/
abbrev Rest (s : Bytes) := { rest : Bytes // rest.length < s.length }

/-- What is left of a text is less than what is left of a longer one. -/
def Rest.widen {s t : Bytes} (rest : Rest s) (h : s.length ≤ t.length) : Rest t :=
  ⟨rest.val, Nat.lt_of_lt_of_le rest.property h⟩

/-- The text after an arrow between a key and its value. -/
def afterArrow? : (s : Bytes) → Option (Rest s)
  | 0x3d :: 0x3e :: rest => some ⟨rest, by simp only [List.length_cons]; omega⟩
  | _ => none

mutual

/-- The value at the front of a text, after blanks, and what is left. -/
def value (s : Bytes) : Except Failure (Value × Rest s) :=
  match h : skipBlank s with
  | [] => .error ⟨[], .endOfInput⟩
  | c :: rest =>
      have shorter : rest.length < s.length := by
        have := skipBlank_length_le s
        rw [h, List.length_cons] at this
        omega
      if c == 0 then .error ⟨c :: rest, .endOfInput⟩
      else if c == 0x27 then
        match found : singleQuoted rest with
        | some (content, after) =>
            .ok (.text content, ⟨after, Nat.lt_trans (singleQuoted_length_lt found) shorter⟩)
        | none => .error ⟨[], .unterminated⟩
      else if c == 0x22 then
        match found : doubleQuoted rest with
        | .ok (content, after) =>
            .ok (.text content, ⟨after, Nat.lt_trans (doubleQuotedFrom_length_lt found) shorter⟩)
        | .error failure => .error failure
      else if c == 0x5b then
        match entries 0x5d {} rest with
        | .ok (v, after) => .ok (v, after.widen (Nat.le_of_lt shorter))
        | .error failure => .error failure
      else if startsNumber (c :: rest) then
        match found : number (c :: rest) with
        | .ok (v, after) =>
            .ok (v, ⟨after, by
              have := number_length_lt found
              have := skipBlank_length_le s
              rw [h] at this
              omega⟩)
        | .error failure => .error failure
      else if c.isNameStart then
        let word := Bytes.lower (c :: rest.takeWhile Byte.isNamePart)
        let after := rest.dropWhile Byte.isNamePart
        have afterShorter : after.length < s.length :=
          Nat.lt_of_le_of_lt (List.dropWhile_suffix _).length_le shorter
        match constant? word with
        | some v => .ok (v, ⟨after, afterShorter⟩)
        | none =>
            if word == Bytes.ofString "array" then
              match opened : skipBlank after with
              | [] => .error ⟨[], .noParenthesis⟩
              | d :: inner =>
                  have innerShorter : inner.length < s.length := by
                    have := skipBlank_length_le after
                    rw [opened, List.length_cons] at this
                    omega
                  if d == 0x28 then
                    match entries 0x29 {} inner with
                    | .ok (v, after) => .ok (v, after.widen (Nat.le_of_lt innerShorter))
                    | .error failure => .error failure
                  else .error ⟨d :: inner, .noParenthesis⟩
            else .error ⟨after, .identifier word⟩
      else .error ⟨c :: rest, .unexpected c⟩
termination_by 4 * s.length

/-- The entries up to the closing bracket, added to those already read, and what is left. -/
def entries (closer : Byte) (table : Table) (s : Bytes) : Except Failure (Value × Rest s) :=
  let start := skipBlank s
  have startLe : start.length ≤ s.length := skipBlank_length_le s
  match h : start with
  | c :: rest =>
      if c == closer then
        .ok (.array table.entries, ⟨rest, by rw [List.length_cons] at startLe; omega⟩)
      else entry closer table s
  | [] => entry closer table s
termination_by 4 * s.length + 3

/-- One entry, then the entries after it. -/
def entry (closer : Byte) (table : Table) (s : Bytes) : Except Failure (Value × Rest s) :=
  match value s with
  | .error failure => .error failure
  | .ok (first, afterFirst) =>
      match afterArrow? (skipBlank afterFirst.val) with
      | some afterArrow =>
          have shorter : afterArrow.val.length < s.length := by
            have := skipBlank_length_le afterFirst.val
            have := afterArrow.property
            have := afterFirst.property
            omega
          match value afterArrow.val with
          | .error failure => .error failure
          | .ok (second, afterSecond) =>
              match first.toKey with
              | .error e => .error ⟨afterSecond.val, .key e⟩
              | .ok key =>
                  separator closer (table.insert key second) s
                    (afterSecond.widen (Nat.le_of_lt shorter))
      | none => separator closer (table.push first) s afterFirst
termination_by 4 * s.length + 2

/-- What follows an entry: a comma and further entries, or the closing bracket. -/
def separator (closer : Byte) (table : Table) (s : Bytes) (afterEntry : Rest s)
    : Except Failure (Value × Rest s) :=
  match h : skipBlank afterEntry.val with
  | c :: rest =>
      have shorter : rest.length < s.length := by
        have := skipBlank_length_le afterEntry.val
        have := afterEntry.property
        rw [h, List.length_cons] at *
        omega
      if c == 0x2c then
        match entries closer table rest with
        | .ok (v, after) => .ok (v, after.widen (Nat.le_of_lt shorter))
        | .error failure => .error failure
      else if c == closer then .ok (.array table.entries, ⟨rest, shorter⟩)
      else .error ⟨c :: rest, .noSeparator closer⟩
  | [] => .error ⟨[], .noSeparator closer⟩
termination_by 4 * s.length + 1

end

--------------------------------------------------------------------------------
-- Whole expressions
--------------------------------------------------------------------------------

/-- Texts that give dynamic code away. -/
def codeMarkers : List Bytes := ["function", "fn(", "fn (", "<?", "?>"]

/-- The first code marker that occurs in an expression, whatever the case of its letters. -/
def codeMarker? (expr : Bytes) : Option Bytes :=
  codeMarkers.find? fun marker => Bytes.occursIn marker (Bytes.lower expr)

/-- The value of a static literal. -/
def evaluate (expr : Bytes) : Except LiteralError Value :=
  match codeMarker? expr with
  | some marker => .error (.code marker)
  | none =>
      let offset (rest : Bytes) := expr.length - rest.length
      match value expr with
      | .error failure => .error (.stopped (offset failure.rest) failure.cause)
      | .ok (v, after) =>
          match skipBlank after.val with
          | [] => .ok v
          | c :: rest => .error (.stopped (offset (c :: rest)) (.trailing c))

end FormMigrate.Literal
