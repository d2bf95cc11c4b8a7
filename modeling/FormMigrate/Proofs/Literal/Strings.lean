import FormMigrate.Proofs.Literal.Grammar
import FormMigrate.Proofs.Text.Byte
import Mathlib.Data.List.TakeWhile

/-! The readers of quoted texts take the bodies of the grammar and decode them, whatever follows the
closing quote.
-/

namespace FormMigrate.Literal

--------------------------------------------------------------------------------
-- Bodies
--------------------------------------------------------------------------------

theorem StringBody.escaped_iff {delimiter c : Byte} {rest : Bytes}
    : StringBody delimiter (0x5c :: c :: rest) ↔ StringBody delimiter rest := by
  constructor
  · rintro (_ | ⟨-, bare, -, -⟩ | ⟨-, behind⟩)
    · exact (bare rfl).elim
    · exact behind
  · exact .escaped c

theorem StringBody.plain_iff {delimiter c : Byte} {rest : Bytes} (bare : c ≠ 0x5c)
    : StringBody delimiter (c :: rest)
      ↔ c ≠ delimiter
        ∧ (delimiter = 0x22 → c = 0x24 → startsVariable rest = false)
        ∧ StringBody delimiter rest := by
  constructor
  · rintro (_ | ⟨inside, -, static, behind⟩ | _)
    · exact ⟨inside, static, behind⟩
    · exact (bare rfl).elim
  · rintro ⟨inside, static, behind⟩
    exact .plain inside bare static behind

/-- A backslash at the end of a body would take the closing quote along. -/
theorem StringBody.not_lone {delimiter : Byte} : ¬ StringBody delimiter [0x5c] := by
  rintro (_ | ⟨-, bare, -, -⟩)
  exact bare rfl

/-- What stands before a quote starts with any byte in front of it that is none. -/
theorem exists_body_iff {c quote : Byte} {rest after : Bytes} (apart : c ≠ quote)
    {p : Bytes → Prop}
    : (∃ body, c :: rest = body ++ quote :: after ∧ p body)
      ↔ ∃ body, rest = body ++ quote :: after ∧ p (c :: body) := by
  constructor
  · rintro ⟨_ | ⟨d, body⟩, same, holds⟩
    · exact (apart (List.cons.inj same).1).elim
    · rw [List.cons_append, List.cons.injEq] at same
      obtain ⟨rfl, same⟩ := same
      exact ⟨body, same, holds⟩
  · rintro ⟨body, rfl, holds⟩
    exact ⟨c :: body, rfl, holds⟩

theorem exists_body_quote_iff {delimiter : Byte} (quote : delimiter ≠ 0x5c) {rest after : Bytes}
    {p : Bytes → Prop}
    : (∃ body,
        delimiter :: rest = body ++ delimiter :: after ∧ StringBody delimiter body ∧ p body)
      ↔ rest = after ∧ p [] := by
  constructor
  · rintro ⟨body, same, inside, holds⟩
    cases inside with
    | nil => exact ⟨(List.cons.inj same).2, holds⟩
    | plain inside => exact (inside (List.cons.inj same).1.symm).elim
    | escaped => exact (quote (List.cons.inj same).1).elim
  · rintro ⟨rfl, holds⟩
    exact ⟨[], rfl, .nil, holds⟩

theorem map_eq_ok_iff {ε α β : Type} {x : Except ε α} {f : α → β} {b : β}
    : x.map f = .ok b ↔ ∃ a, x = .ok a ∧ f a = b := by
  cases x <;> simp [Except.map]

--------------------------------------------------------------------------------
-- Single quotes
--------------------------------------------------------------------------------

section Plain

variable {c : Byte} {body after : Bytes}

/-- In single quotes a byte that stands for itself belongs to a body as what follows it does. A
backslash stands for itself before a byte that needs no escape.
-/
theorem StringBody.single_cons_iff (notQuote : c ≠ 0x27)
    (noQuote : ∀ rest, c = 0x5c → body ++ 0x27 :: after ≠ 0x27 :: rest)
    (noBackslash : ∀ rest, c = 0x5c → body ++ 0x27 :: after ≠ 0x5c :: rest)
    : StringBody 0x27 (c :: body) ↔ StringBody 0x27 body := by
  by_cases bare : c = 0x5c
  · subst bare
    cases body with
    | nil => exact (noQuote after rfl rfl).elim
    | cons d body =>
        have quote : d ≠ 0x27 := fun eq => noQuote _ rfl (by rw [eq]; rfl)
        have backslash : d ≠ 0x5c := fun eq => noBackslash _ rfl (by rw [eq]; rfl)
        rw [escaped_iff, plain_iff backslash]
        simp [quote]
  · rw [plain_iff bare]
    exact ⟨fun h => h.2.2, fun h => ⟨notQuote, by simp, h⟩⟩

theorem singleContent_cons (noQuote : ∀ rest, c = 0x5c → body ++ 0x27 :: after ≠ 0x27 :: rest)
    (noBackslash : ∀ rest, c = 0x5c → body ++ 0x27 :: after ≠ 0x5c :: rest)
    : singleContent (c :: body) = c :: singleContent body := by
  rw [singleContent]
  · rintro behind bare rfl
    exact noQuote _ bare rfl
  · rintro behind bare rfl
    exact noBackslash _ bare rfl

end Plain

/-- Reading a text in single quotes takes a body up to its quote, and nothing else is taken.
Witness: induction along the reader.
-/
theorem singleQuoted_eq_some_iff {s content after : Bytes}
    : singleQuoted s = some (content, after)
      ↔ ∃ body, s = body ++ 0x27 :: after ∧ StringBody 0x27 body ∧ content = singleContent body := by
  fun_induction singleQuoted s generalizing content with
  | case1 => simp
  | case2 rest =>
      rw [exists_body_quote_iff (by decide)]
      simp [singleContent, eq_comm, and_comm]
  | case3 rest ih | case4 rest ih =>
      rw [Option.map_eq_some_iff]
      constructor
      · rintro ⟨⟨read, after'⟩, found, same⟩
        cases same
        obtain ⟨body, rfl, inside, rfl⟩ := ih.mp found
        exact ⟨0x5c :: _ :: body, rfl, .escaped _ inside, by rw [singleContent]⟩
      · rintro ⟨body, same, inside, rfl⟩
        cases inside with
        | nil => cases same
        | plain _ bare => exact (bare (List.cons.inj same).1.symm).elim
        | escaped c behind =>
            cases same
            exact ⟨_, ih.mpr ⟨_, rfl, behind, rfl⟩, by rw [singleContent]⟩
  | case5 c rest notQuote notEscapedQuote notEscapedBackslash ih =>
      rw [Option.map_eq_some_iff]
      rw [exists_body_iff notQuote]
      constructor
      · rintro ⟨⟨read, after'⟩, found, same⟩
        cases same
        obtain ⟨body, rfl, inside, rfl⟩ := ih.mp found
        exact ⟨body, rfl,
          (StringBody.single_cons_iff notQuote notEscapedQuote notEscapedBackslash).mpr inside,
          (singleContent_cons notEscapedQuote notEscapedBackslash).symm⟩
      · rintro ⟨body, rfl, inside, rfl⟩
        refine ⟨_, ih.mpr ⟨body, rfl, ?_, rfl⟩, ?_⟩
        · exact (StringBody.single_cons_iff notQuote notEscapedQuote notEscapedBackslash).mp inside
        · rw [singleContent_cons notEscapedQuote notEscapedBackslash]

--------------------------------------------------------------------------------
-- Escapes in double quotes
--------------------------------------------------------------------------------

/-- Bytes that mean nothing of their own in double quotes. -/
def isTame (c : Byte) : Bool := c != 0x22 && c != 0x5c && c != 0x24

/-- Bytes of a class without quotes, backslashes and dollars are tame. -/
theorem isTame_of_class {p : Byte → Bool} (quote : p 0x22 = false) (backslash : p 0x5c = false)
    (dollar : p 0x24 = false) (c : Byte) (inside : p c = true)
    : isTame c = true := by
  rw [isTame, Bool.and_eq_true, Bool.and_eq_true, bne_iff_ne, bne_iff_ne, bne_iff_ne]
  exact ⟨⟨Byte.ne_of_class inside quote, Byte.ne_of_class inside backslash⟩,
    Byte.ne_of_class inside dollar⟩

theorem isTame_of_isHex : ∀ c : Byte, c.isHex = true → isTame c = true :=
  isTame_of_class rfl rfl rfl

theorem isTame_of_isOctal : ∀ c : Byte, c.isOctal = true → isTame c = true :=
  isTame_of_class rfl rfl rfl

theorem isTame_of_simpleEscape?_eq_none (c : Byte) (none : simpleEscape? c = none)
    : isTame c = true :=
  isTame_of_class (p := fun c => (simpleEscape? c).isNone) rfl rfl rfl c (by simp [none])

/-- Cutting at a byte that occurs is not changed by what follows. -/
theorem cut?_append {sep : Byte} {s digits rest : Bytes} (h : Bytes.cut? sep s = some (digits, rest))
    (t : Bytes)
    : Bytes.cut? sep (s ++ t) = some (digits, rest ++ t) := by
  induction s generalizing digits with
  | nil => cases h
  | cons c s ih =>
      simp only [Bytes.cut?, List.cons_append] at h ⊢
      split at h
      · rename_i found
        cases h
        rw [if_pos found]
      · rename_i absent
        obtain ⟨⟨before, after⟩, later, same⟩ := Option.map_eq_some_iff.mp h
        cases same
        rw [if_neg absent, ih later, Option.map_some]

theorem cut?_spec {sep : Byte} {s before after : Bytes} (h : Bytes.cut? sep s = some (before, after))
    : s = before ++ sep :: after := by
  induction s generalizing before with
  | nil => cases h
  | cons c s ih =>
      simp only [Bytes.cut?] at h
      split at h
      · rename_i found
        cases h
        rw [beq_iff_eq.mp found, List.nil_append]
      · obtain ⟨⟨before', after'⟩, later, same⟩ := Option.map_eq_some_iff.mp h
        cases same
        rw [ih later, List.cons_append]

/-- Cutting a text at a byte beyond it takes the whole text. -/
theorem mem_of_cut?_append {sep c : Byte} {s t before after : Bytes}
    (absent : Bytes.cut? sep s = none) (apart : c ≠ sep)
    (h : Bytes.cut? sep (s ++ c :: t) = some (before, after))
    : c ∈ before := by
  induction s generalizing before with
  | nil =>
      simp only [List.nil_append, Bytes.cut?, beq_iff_eq, apart, ↓reduceIte] at h
      obtain ⟨⟨before', after'⟩, -, same⟩ := Option.map_eq_some_iff.mp h
      cases same
      exact List.mem_cons_self
  | cons d s ih =>
      simp only [List.cons_append, Bytes.cut?] at h absent
      split at h
      · rename_i found
        rw [if_pos found] at absent
        cases absent
      · rename_i other
        rw [if_neg other, Option.map_eq_none_iff] at absent
        obtain ⟨⟨before', after'⟩, later, same⟩ := Option.map_eq_some_iff.mp h
        cases same
        exact List.mem_cons_of_mem d (ih absent later)

theorem takeWhile_take_append {p : Byte → Bool} {c : Byte} (stops : p c = false) (s t : Bytes)
    (n : Nat)
    : ((s ++ c :: t).take n).takeWhile p = (s.take n).takeWhile p := by
  induction s generalizing n with
  | nil => cases n <;> simp [stops]
  | cons d s ih =>
      cases n with
      | zero => rfl
      | succ n => simp only [List.cons_append, List.take_succ_cons, List.takeWhile_cons, ih]

/-- A character named in braces is named by hexadecimal digits. -/
theorem isHex_of_namedCharacter? {digits : Bytes} {named : Char}
    (h : namedCharacter? digits = some named)
    : ∀ c ∈ digits, c.isHex = true := by
  simp only [namedCharacter?, Option.ite_none_right_eq_some, Bool.and_eq_true] at h
  exact List.all_eq_true.mp h.1.1.1.2

/-- An escape does not reach beyond the closing quote. -/
theorem escape_append (c : Byte) (body after : Bytes)
    : escape (c :: body ++ 0x22 :: after) = escape (c :: body) := by
  have octal := takeWhile_take_append (c := 0x22) (p := Byte.isOctal) (by decide)
    (c :: body) after 3
  have hex := takeWhile_take_append (c := 0x22) (p := Byte.isHex) (by decide) body after 2
  simp only [List.cons_append] at octal ⊢
  simp only [escape, octal, hex]
  cases simpleEscape? c with
  | some b => rfl
  | none =>
      dsimp only
      congr 2
      -- What is left is the name in braces, which holds digits only and so no quote.
      cases body with
      | nil => rfl
      | cons d inBraces =>
          by_cases brace : d = 0x7b
          · subst brace
            simp only [List.cons_append]
            cases found : Bytes.cut? 0x7d inBraces with
            | some parts => rw [cut?_append found]
            | none =>
                cases found' : Bytes.cut? 0x7d (inBraces ++ 0x22 :: after) with
                | none => rfl
                | some parts =>
                    have quote := mem_of_cut?_append found (by decide) found'
                    cases named : namedCharacter? parts.1 with
                    | none => simp only [named]
                    | some character =>
                        exact absurd (isHex_of_namedCharacter? named _ quote) (by decide)
          · rw [List.cons_append]
            split
            · split
              · rename_i same
                exact (brace (List.cons.inj same).1).elim
              · split
                · rename_i same
                  exact (brace (List.cons.inj same).1).elim
                · rfl
            · rfl

/-- An escape takes no byte, and then the one behind the backslash means nothing of its own, or it
takes that byte and further ones that mean nothing.
-/
theorem escape_used (c : Byte) (rest : Bytes)
    : ((escape (c :: rest)).2 = 0 ∧ isTame c = true)
      ∨ ∃ taken behind,
          rest = taken ++ behind
          ∧ (∀ d ∈ taken, isTame d = true)
          ∧ (escape (c :: rest)).2 = taken.length + 1 := by
  simp only [escape]
  cases simple : simpleEscape? c with
  | some b => exact .inr ⟨[], rest, rfl, nofun, rfl⟩
  | none =>
      have tame := isTame_of_simpleEscape?_eq_none c simple
      have digits (p : Byte → Bool) (n : Nat) (each : ∀ d, p d = true → isTame d = true)
          : ∃ behind,
              rest = (rest.take n).takeWhile p ++ behind
              ∧ ∀ d ∈ (rest.take n).takeWhile p, isTame d = true := by
        obtain ⟨behind, same⟩ := (List.takeWhile_prefix p).trans (List.take_prefix n rest)
        exact ⟨behind, same.symm, fun d member => each d (List.mem_takeWhile_imp member)⟩
      dsimp only
      split
      · rename_i octal
        obtain ⟨behind, same, all⟩ := digits Byte.isOctal 2 isTame_of_isOctal
        refine .inr ⟨_, behind, same, all, ?_⟩
        rw [List.take_succ_cons, List.takeWhile_cons, if_pos octal, List.length_cons]
      · split
        · obtain ⟨behind, same, all⟩ := digits Byte.isHex 2 isTame_of_isHex
          split
          · exact .inl ⟨rfl, tame⟩
          · exact .inr ⟨_, behind, same, all, Nat.add_comm _ _⟩
        · split
          · split
            · rename_i inBraces
              split
              · rename_i name behind found
                split
                · rename_i named
                  obtain rfl := cut?_spec found
                  refine .inr ⟨0x7b :: (name ++ [0x7d]), behind, by simp, ?_, by simp; omega⟩
                  have all := isHex_of_namedCharacter? named
                  intro d member
                  rcases List.mem_cons.mp member with rfl | member
                  · decide
                  · rcases List.mem_append.mp member with digit | last
                    · exact isTame_of_isHex d (all d digit)
                    · rw [List.mem_singleton.mp last]
                      decide
                · exact .inl ⟨rfl, tame⟩
              · exact .inl ⟨rfl, tame⟩
            · exact .inl ⟨rfl, tame⟩
          · exact .inl ⟨rfl, tame⟩

theorem StringBody.append_iff {taken behind : Bytes} (tame : ∀ c ∈ taken, isTame c = true)
    : StringBody 0x22 (taken ++ behind) ↔ StringBody 0x22 behind := by
  induction taken with
  | nil => rfl
  | cons c taken ih =>
      rw [List.forall_mem_cons] at tame
      have apart := tame.1
      simp only [isTame, Bool.and_eq_true, bne_iff_ne] at apart
      obtain ⟨⟨quote, backslash⟩, dollar⟩ := apart
      rw [List.cons_append, plain_iff backslash, ih tame.2]
      exact ⟨fun h => h.2.2, fun h => ⟨quote, fun _ eq => (dollar eq).elim, h⟩⟩

/-- A backslash and what its escape takes belong to a body together. -/
theorem StringBody.backslash_iff (body after : Bytes)
    : StringBody 0x22 (0x5c :: body)
      ↔ (escape (body ++ 0x22 :: after)).2 ≤ body.length
        ∧ StringBody 0x22 (body.drop (escape (body ++ 0x22 :: after)).2) := by
  cases body with
  | nil =>
      have quote : (escape (0x22 :: after)).2 = 1 := rfl
      simp [quote, not_lone]
  | cons c rest =>
      rw [escape_append, escaped_iff]
      rcases escape_used c rest with ⟨zero, tame⟩ | ⟨taken, behind, rfl, tame, used⟩
      · rw [zero, List.drop_zero, ← @append_iff [c] rest (by simpa using tame)]
        simp
      · rw [append_iff tame, used, List.drop_succ_cons, List.drop_left]
        simp

--------------------------------------------------------------------------------
-- Double quotes
--------------------------------------------------------------------------------

/-- The closing quote starts no variable. -/
theorem startsVariable_append (body after : Bytes)
    : startsVariable (body ++ 0x22 :: after) = startsVariable body := by
  cases body <;> rfl

/-- A text starts with a body in double quotes and its quote, and the body decodes to a content.
The first bytes may belong to an escape that is already read.
-/
def DoubleBody (skip : Nat) (s after content : Bytes) : Prop :=
  ∃ body,
    s = body ++ 0x22 :: after
    ∧ skip ≤ body.length
    ∧ StringBody 0x22 (body.drop skip)
    ∧ content = doubleContentFrom skip body

namespace DoubleBody

variable {skip : Nat} {c : Byte} {rest after content : Bytes}

theorem skip_iff : DoubleBody (skip + 1) (c :: rest) after content
    ↔ DoubleBody skip rest after content := by
  constructor
  · rintro ⟨body, same, bound, inside, rfl⟩
    cases body with
    | nil => exact (Nat.not_succ_le_zero skip bound).elim
    | cons d body =>
        rw [List.cons_append, List.cons.injEq] at same
        exact ⟨body, same.2, Nat.le_of_succ_le_succ bound, inside, rfl⟩
  · rintro ⟨body, rfl, bound, inside, rfl⟩
    exact ⟨c :: body, rfl, Nat.succ_le_succ bound, inside, rfl⟩

theorem quote_iff : DoubleBody 0 (0x22 :: rest) after content ↔ [] = content ∧ rest = after := by
  simp only [DoubleBody, List.drop_zero, Nat.zero_le, true_and]
  rw [exists_body_quote_iff (by decide)]
  simp [doubleContentFrom, eq_comm, and_comm]

/-- Behind a backslash a body goes on with what its escape leaves. -/
theorem backslash_iff : DoubleBody 0 (0x5c :: rest) after content
    ↔ ∃ read, DoubleBody (escape rest).2 rest after read ∧ (escape rest).1 ++ read = content := by
  have decodes {body : Bytes} (inside : StringBody 0x22 (0x5c :: body))
      : doubleContentFrom 0 (0x5c :: body)
        = (escape (body ++ 0x22 :: after)).1
          ++ doubleContentFrom (escape (body ++ 0x22 :: after)).2 body := by
    cases body with
    | nil => exact (StringBody.not_lone inside).elim
    | cons d body => simp only [escape_append, doubleContentFrom, beq_self_eq_true, ↓reduceIte]
  simp only [DoubleBody, List.drop_zero, Nat.zero_le, true_and]
  rw [exists_body_iff (by decide)]
  constructor
  · rintro ⟨body, rfl, inside, rfl⟩
    obtain ⟨bound, behind⟩ := (StringBody.backslash_iff body after).mp inside
    exact ⟨_, ⟨body, rfl, bound, behind, rfl⟩, (decodes inside).symm⟩
  · rintro ⟨read, ⟨body, rfl, bound, behind, rfl⟩, rfl⟩
    have inside := (StringBody.backslash_iff body after).mpr ⟨bound, behind⟩
    exact ⟨body, rfl, inside, (decodes inside).symm⟩

/-- Behind any other byte a body goes on with the next one, unless a variable starts there. -/
theorem plain_iff (quote : c ≠ 0x22) (backslash : c ≠ 0x5c)
    : DoubleBody 0 (c :: rest) after content
      ↔ (c = 0x24 → startsVariable rest = false)
        ∧ ∃ read, DoubleBody 0 rest after read ∧ c :: read = content := by
  have decodes (body : Bytes)
      : doubleContentFrom 0 (c :: body) = c :: doubleContentFrom 0 body := by
    rw [doubleContentFrom, if_neg (by simpa using backslash)]
  simp only [DoubleBody, List.drop_zero, Nat.zero_le, true_and]
  rw [exists_body_iff quote]
  constructor
  · rintro ⟨body, rfl, inside, rfl⟩
    obtain ⟨-, static, behind⟩ := (StringBody.plain_iff backslash).mp inside
    rw [startsVariable_append]
    exact ⟨static rfl, _, ⟨body, rfl, behind, rfl⟩, (decodes body).symm⟩
  · rintro ⟨static, read, ⟨body, rfl, behind, rfl⟩, rfl⟩
    rw [startsVariable_append] at static
    exact ⟨body, rfl, (StringBody.plain_iff backslash).mpr ⟨quote, fun _ => static, behind⟩,
      (decodes body).symm⟩

end DoubleBody

/-- Reading a text in double quotes takes a body up to its quote, and nothing else is taken.
Witness: induction on the text. What an escape takes hides neither a quote nor a variable.
-/
theorem doubleQuotedFrom_eq_ok_iff {skip : Nat} {s content after : Bytes}
    : doubleQuotedFrom skip s = .ok (content, after) ↔ DoubleBody skip s after content := by
  induction s generalizing skip content with
  | nil => cases skip <;> simp [doubleQuotedFrom, DoubleBody]
  | cons c rest ih =>
      -- A reader that goes on reads a body of the rest.
      have continued (used : Nat) (f : Bytes → Bytes)
          : (doubleQuotedFrom used rest).map (fun p => (f p.1, p.2)) = .ok (content, after)
            ↔ ∃ read, DoubleBody used rest after read ∧ f read = content := by
        rw [map_eq_ok_iff]
        constructor
        · rintro ⟨⟨read, after'⟩, found, same⟩
          cases same
          exact ⟨read, ih.mp found, rfl⟩
        · rintro ⟨read, body, rfl⟩
          exact ⟨_, ih.mpr body, rfl⟩
      cases skip with
      | succ skip => rw [doubleQuotedFrom, ih, DoubleBody.skip_iff]
      | zero =>
          by_cases quote : c = 0x22
          · subst quote
            rw [DoubleBody.quote_iff]
            simp [doubleQuotedFrom]
          by_cases backslash : c = 0x5c
          · subst backslash
            exact (continued (escape rest).2 ((escape rest).1 ++ ·)).trans
              DoubleBody.backslash_iff.symm
          rw [DoubleBody.plain_iff quote backslash, ← continued 0 (c :: ·)]
          simp only [doubleQuotedFrom, beq_iff_eq, quote, backslash, ↓reduceIte, Bool.and_eq_true]
          split
          · rename_i starts
            simp [starts]
          · rename_i static
            rw [not_and, Bool.not_eq_true] at static
            exact ⟨fun read => ⟨static, read⟩, And.right⟩

/-- Reading a text in double quotes takes a body up to its quote, and nothing else is taken. -/
theorem doubleQuoted_eq_ok_iff {s content after : Bytes}
    : doubleQuoted s = .ok (content, after)
      ↔ ∃ body,
          s = body ++ 0x22 :: after ∧ StringBody 0x22 body ∧ content = doubleContent body := by
  rw [doubleQuoted, doubleQuotedFrom_eq_ok_iff]
  simp [DoubleBody, doubleContent]

end FormMigrate.Literal
