import FormMigrate.Json.Reader
import FormMigrate.Proofs.Text.Encoding

/-! Texts in JSON documents read back as they were written, but for their stray bytes. -/

namespace FormMigrate.Json

--------------------------------------------------------------------------------
-- Escaped characters
--------------------------------------------------------------------------------

/-- Bytes that stand for themselves inside a text. -/
def isPlain (b : Byte) : Bool := b != 0x22 && b != 0x5c && 0x20 ≤ b

/-- Characters inside a text that stand for one character: none of them ends the text, and they are
read as that character, whatever follows.
-/
structure Escapes (written : List Char) (c : Char) : Prop where
  raw
    : ∀ rest,
        rawText (Utf8.encode written ++ rest)
        = (rawText rest).map fun (s, after) => (Utf8.encode written ++ s, after)
  meaning : ∀ rest, unescapeFrom 0 (written ++ rest) = (unescapeFrom 0 rest).map (c :: ·)

theorem rawText_plain {s : Bytes} (plain : ∀ b ∈ s, isPlain b = true) (rest : Bytes)
    : rawText (s ++ rest) = (rawText rest).map fun (t, after) => (s ++ t, after) := by
  induction s with
  | nil => exact Option.map_id'.symm
  | cons b s ih =>
      have stands := plain b (.head _)
      simp only [isPlain, Bool.and_eq_true, bne_iff_ne, decide_eq_true_eq] at stands
      obtain ⟨⟨quote, backslash⟩, printed⟩ := stands
      rw [List.cons_append, rawText.eq_5 b _ quote (fun same _ => backslash same)
        (fun _ _ same _ => backslash same), if_neg (UInt8.not_lt.mpr printed),
        ih fun c member => plain c (.tail _ member), Option.map_map]
      rfl

theorem rawText_escaped (c : Byte) {s : Bytes} (plain : ∀ b ∈ s, isPlain b = true) (rest : Bytes)
    : rawText (0x5c :: c :: s ++ rest)
      = (rawText rest).map fun (t, after) => (0x5c :: c :: s ++ t, after) := by
  rw [List.cons_append, List.cons_append, rawText, rawText_plain plain, Option.map_map]
  rfl

/-- A character that is written as itself. -/
theorem escapes_self {c : Char} (plain : ∀ b ∈ String.utf8EncodeChar c, isPlain b = true)
    (backslash : c ≠ '\\')
    : Escapes [c] c where
  raw := by
    have single : Utf8.encode [c] = String.utf8EncodeChar c := List.flatMap_singleton ..
    rw [single]
    exact rawText_plain plain
  meaning := fun rest => by
    rw [List.singleton_append, unescapeFrom.eq_def]
    dsimp only
    rw [if_pos (bne_iff_ne.mpr backslash)]

/-- A character that is written as a letter behind a backslash. -/
theorem escapes_letter {letter c : Char} {b : Byte} (spelled : String.utf8EncodeChar letter = [b])
    (meant : letterEscape? letter = some c)
    : Escapes ['\\', letter] c where
  raw := by
    have escaped : Utf8.encode ['\\', letter] = [0x5c, b] := by
      rw [Utf8.encode, List.flatMap_cons, List.flatMap_singleton, spelled]
      rfl
    rw [escaped]
    exact rawText_escaped b (fun _ member => by cases member)
  meaning := fun rest => by
    have code : letter ≠ 'u' := by
      rintro rfl
      cases meant
    rw [List.cons_append, List.singleton_append, unescapeFrom.eq_def]
    dsimp only
    rw [if_neg (by decide)]
    split
    · rename_i same
      cases same
    · rename_i same
      cases same
      exact absurd rfl code
    · rename_i same
      cases same
      rw [meant]
      rfl

/-- The characters that are escaped by their code point. -/
def codes : List Nat := List.range 0x20 ++ [0x2028, 0x2029, 0x3c, 0x3e, 0x26]

/-- The digits of an escape by code point. -/
def codeDigits (n : Nat) : List Char := (Bytes.hex 4 n).map fun b => Char.ofNat b.toNat

theorem fourDigits?_codeDigits
    : ∀ n ∈ codes,
        (codeDigits n).length = 4
        ∧ fourDigits? (codeDigits n) = some n
        ∧ (Bytes.hex 4 n).all (fun b => isPlain b && b < 0x80) = true := by
  decide

theorem encode_codeDigits {n : Nat} (code : n ∈ codes)
    : Utf8.encode ('\\' :: 'u' :: codeDigits n) = codeEscape n
      ∧ ∀ b ∈ Bytes.hex 4 n, isPlain b = true := by
  obtain ⟨-, -, digits⟩ := fourDigits?_codeDigits n code
  simp only [List.all_eq_true, Bool.and_eq_true, decide_eq_true_eq] at digits
  have spelled : Utf8.encode (codeDigits n) = Bytes.hex 4 n :=
    Utf8.encode_ascii fun b member => (digits b member).2
  refine ⟨?_, fun b member => (digits b member).1⟩
  rw [Utf8.encode, List.flatMap_cons, List.flatMap_cons, ← Utf8.encode, spelled]
  rfl

/-- A character that is written by its code point. -/
theorem escapes_code {c : Char} (code : c.toNat ∈ codes)
    : Escapes ('\\' :: 'u' :: codeDigits c.toNat) c where
  raw := by
    obtain ⟨spelled, plain⟩ := encode_codeDigits code
    rw [spelled]
    exact rawText_escaped 0x75 plain
  meaning := fun rest => by
    obtain ⟨four, value, -⟩ := fourDigits?_codeDigits c.toNat code
    have single : c.toNat < 0xd800 := by
      have all : ∀ n ∈ codes, n < 0xd800 := by decide
      exact all c.toNat code
    generalize codeDigits c.toNat = digits at four value
    rcases digits with _ | ⟨d₁, _ | ⟨d₂, _ | ⟨d₃, _ | ⟨d₄, _ | _⟩⟩⟩⟩ <;> cases four
    have value : fourDigits? (d₁ :: d₂ :: d₃ :: d₄ :: rest) = some c.toNat := value
    rw [List.cons_append, unescapeFrom.eq_def]
    dsimp only [List.cons_append, List.nil_append]
    rw [if_neg (by decide)]
    split
    · rename_i same
      cases same
    · rename_i same
      cases same
      rw [value, Option.bind_eq_bind, Option.bind_some, if_neg (by simp; omega), c.ofNat_toNat]
      rfl
    · rename_i other same
      cases same
      exact (other rfl).elim

--------------------------------------------------------------------------------
-- Texts
--------------------------------------------------------------------------------

theorem mem_codes {escaping : Escaping} {c : Char} (coded : isCodeEscaped escaping c = true)
    : c.toNat ∈ codes := by
  simp only [isCodeEscaped, Bool.or_eq_true, Bool.and_eq_true, decide_eq_true_eq, beq_iff_eq]
    at coded
  rw [codes, List.mem_append, List.mem_range]
  rcases coded with ((control | same) | same) | ⟨-, (rfl | rfl) | rfl⟩
  · exact .inl control
  · exact .inr (by simp [same])
  · exact .inr (by simp [same])
  · exact .inr (by decide)
  · exact .inr (by decide)
  · exact .inr (by decide)

theorem isPlain_encodeChar {c : Char} (quote : c ≠ '"') (backslash : c ≠ '\\')
    (printed : ¬ c.toNat < 0x20)
    : ∀ b ∈ String.utf8EncodeChar c, isPlain b = true := by
  have differs {d : Char} (other : c ≠ d) : c.toNat ≠ d.toNat := fun same =>
    other (by rw [← c.ofNat_toNat, same, d.ofNat_toNat])
  have quote : c.toNat ≠ 0x22 := differs quote
  have backslash : c.toNat ≠ 0x5c := differs backslash
  intro b member
  have value : b.toNat ≠ 0x22 ∧ b.toNat ≠ 0x5c ∧ 0x20 ≤ b.toNat := by
    rcases Utf8.mem_encode member with ⟨ascii, rfl⟩ | beyond
    · rw [UInt8.toNat_ofNat_of_lt' (show _ < 0x100 by omega)]
      exact ⟨quote, backslash, by unfold Char.toNat at printed; omega⟩
    · have beyond : 0x80 ≤ b.toNat := UInt8.le_iff_toNat_le.mp beyond
      omega
  rw [isPlain, Bool.and_eq_true, Bool.and_eq_true, bne_iff_ne, bne_iff_ne, decide_eq_true_eq]
  refine ⟨⟨?_, ?_⟩, UInt8.le_iff_toNat_le.mpr value.2.2⟩
  · rintro rfl
    exact value.1 rfl
  · rintro rfl
    exact value.2.1 rfl

/-- A character of a text is written so that it reads as itself. -/
theorem escapeChar_escapes (escaping : Escaping) (c : Char)
    : ∃ written, escapeChar escaping c = Utf8.encode written ∧ Escapes written c := by
  have byNumber {n : Nat} (same : c.toNat = n) : c = Char.ofNat n := by rw [← same, c.ofNat_toNat]
  unfold escapeChar
  split
  · rename_i special
    rw [Bool.or_eq_true, beq_iff_eq, beq_iff_eq] at special
    rcases special with rfl | rfl
    · exact ⟨['\\', '"'], rfl, escapes_letter rfl rfl⟩
    · exact ⟨['\\', '\\'], rfl, escapes_letter rfl rfl⟩
  rename_i special
  split
  · rename_i same
    obtain rfl := beq_iff_eq.mp same
    exact ⟨['\\', 'n'], by decide, escapes_letter rfl rfl⟩
  split
  · rename_i same
    obtain rfl := beq_iff_eq.mp same
    exact ⟨['\\', 'r'], by decide, escapes_letter rfl rfl⟩
  split
  · rename_i same
    obtain rfl := beq_iff_eq.mp same
    exact ⟨['\\', 't'], by decide, escapes_letter rfl rfl⟩
  split
  · rename_i same
    rw [Bool.and_eq_true, beq_iff_eq] at same
    obtain rfl := byNumber same.1
    exact ⟨['\\', 'b'], by decide, escapes_letter rfl rfl⟩
  split
  · rename_i same
    rw [Bool.and_eq_true, beq_iff_eq] at same
    obtain rfl := byNumber same.1
    exact ⟨['\\', 'f'], by decide, escapes_letter rfl rfl⟩
  split
  · rename_i coded
    have code := mem_codes coded
    exact ⟨_, (encode_codeDigits code).1.symm, escapes_code code⟩
  · rename_i plain
    have backslash : c ≠ '\\' := by
      rintro rfl
      exact special rfl
    have quote : c ≠ '"' := by
      rintro rfl
      exact special rfl
    have printed : ¬ c.toNat < 0x20 := fun control => plain (by simp [isCodeEscaped, control])
    exact ⟨[c], (List.flatMap_singleton ..).symm,
      escapes_self (isPlain_encodeChar quote backslash printed) backslash⟩

/-- Characters of a text are written so that they read as themselves, up to the closing quote.
Witness: each of them is read before the next one is looked at.
-/
theorem text?_body (escaping : Escaping) (cs : List Char) (rest : Bytes)
    : ∃ written,
        cs.flatMap (escapeChar escaping) = Utf8.encode written
        ∧ rawText (Utf8.encode written ++ 0x22 :: rest) = some (Utf8.encode written, rest)
        ∧ unescapeFrom 0 written = some cs := by
  induction cs with
  | nil => exact ⟨[], rfl, rfl, rfl⟩
  | cons c cs ih =>
      obtain ⟨tail, spelled, raw, meaning⟩ := ih
      obtain ⟨front, own, escapes⟩ := escapeChar_escapes escaping c
      refine ⟨front ++ tail, ?_, ?_, ?_⟩
      · rw [List.flatMap_cons, own, spelled, Utf8.encode_append]
      · rw [Utf8.encode_append, List.append_assoc, escapes.raw, raw]
        rfl
      · rw [escapes.meaning, meaning]
        rfl

/-- The units of a text are written like its characters. -/
theorem flatMap_escapeUnit (escaping : Escaping) (s : Bytes)
    : (Utf8.units s).flatMap (escapeUnit escaping)
      = (Utf8.chars s).flatMap (escapeChar escaping) := by
  rw [Utf8.chars, List.flatMap_map]
  refine congrArg ((Utf8.units s).flatMap ·) (funext fun u => ?_)
  cases u with
  | char c => rfl
  | stray b =>
      show String.utf8EncodeChar Utf8.replacement = escapeChar escaping Utf8.replacement
      cases escaping <;> decide

/-- A text in quotes reads as its characters. -/
theorem text?_quoted (escaping : Escaping) (s rest : Bytes)
    : ∃ body,
        quoted escaping s ++ rest = 0x22 :: body
        ∧ text? body = some (Utf8.sanitized s, rest) := by
  obtain ⟨written, spelled, raw, meaning⟩ := text?_body escaping (Utf8.chars s) rest
  refine ⟨Utf8.encode written ++ 0x22 :: rest, ?_, ?_⟩
  · rw [quoted, flatMap_escapeUnit, spelled]
    exact congrArg (0x22 :: ·) (List.append_assoc ..)
  · have unescaped : unescape? (Utf8.encode written) = some (Utf8.sanitized s) := by
      rw [unescape?, Utf8.chars_encode, meaning]
      rfl
    rw [text?, raw, Option.bind_eq_bind, Option.bind_some]
    dsimp only
    rw [unescaped]
    rfl

end FormMigrate.Json
