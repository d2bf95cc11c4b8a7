import FormMigrate.Proofs.Indexed.Access
import FormMigrate.Proofs.Literal.Strings

/-! Quoted texts read by offsets. -/

namespace FormMigrate.Indexed

open Literal

--------------------------------------------------------------------------------
-- Readers
--------------------------------------------------------------------------------

/-- Where a reader stopped, and why. -/
structure Stop where
  pos : Int
  cause : LiteralCause
  deriving DecidableEq, Repr

/-- What was read and the offset behind it, or where the reader stopped. -/
abbrev Read (α : Type) := Except Stop (α × Int)

/-- The text up to the closing single quote, added to what was read of it. -/
def singleQuoted (src : Bytes) (i : Int) (content : Bytes) : Option (Read Bytes) := do
  if i < src.length then
    let c ← byteAt src i
    let next ← peek src (i + 1)
    if c == 0x27 then return .ok (content, ← moveTo src (i + 1))
    else if c == 0x5c && (next == 0x27 || next == 0x5c) then
      let escaped ← byteAt src (i + 1)
      (singleQuoted (i := ← moveTo src (i + 2))) src (content ++ [escaped])
    else (singleQuoted (i := ← moveTo src (i + 1))) src (content ++ [c])
  else return .error ⟨i, .unterminated⟩
partial_fixpoint

/-- The offset after at most a number of bytes of a class. -/
def skipUpTo (p : Byte → Bool) (src : Bytes) (limit i : Int) : Option Int := do
  if i < src.length ∧ i < limit then
    if p (← byteAt src i) then (skipUpTo (i := i + 1)) p src limit else return i
  else return i
partial_fixpoint

/-- The character that hexadecimal digits in braces name behind the backslash at an offset, and the
offset behind the braces.
-/
def namedEscape (src : Bytes) (pos : Int) : Option (Option (Bytes × Int)) := do
  if (← peek src (pos + 1)) == 0x75 && (← peek src (pos + 2)) == 0x7b then
    match (← slice src pos src.length).idxOf? 0x7d with
    | some brace =>
        if 3 < brace then
          match namedCharacter? (← slice src (pos + 3) (pos + brace)) with
          | some named =>
              return some (String.utf8EncodeChar named, ← moveTo src (pos + brace + 1))
          | none => return none
        else return none
    | none => return none
  else return none

/-- What the backslash at an offset stands for with what follows it, and the offset behind. -/
def escape (src : Bytes) (pos : Int) : Option (Bytes × Int) := do
  let c ← peek src (pos + 1)
  match simpleEscape? c with
  | some b => return ([b], ← moveTo src (pos + 2))
  | none =>
      if c.isOctal then
        let behind ← skipUpTo Byte.isOctal src (pos + 4) (pos + 1)
        let digits ← slice src (pos + 1) behind
        return ([(digitsIn 8 digits).toUInt8], ← moveTo src behind)
      else if c == 0x78 && (← peek src (pos + 2)).isHex then
        let behind ← skipUpTo Byte.isHex src (pos + 4) (pos + 2)
        let digits ← slice src (pos + 2) behind
        return ([(digitsIn 16 digits).toUInt8], ← moveTo src behind)
      else
        match ← namedEscape src pos with
        | some found => return found
        | none => return ([0x5c], ← moveTo src (pos + 1))

/-- The text up to the closing double quote, added to what was read of it. -/
def doubleQuoted (src : Bytes) (i : Int) (content : Bytes) : Option (Read Bytes) := do
  if i < src.length then
    let c ← byteAt src i
    if c == 0x22 then return .ok (content, ← moveTo src (i + 1))
    else if c == 0x24 then
      let next ← peek src (i + 1)
      if next.isNameStart || next == 0x7b then return .error ⟨i, .interpolated⟩
      else (doubleQuoted (i := ← moveTo src (i + 1))) src (content ++ [c])
    else if c == 0x5c then
      let (bytes, behind) ← escape src i
      (doubleQuoted (i := behind)) src (content ++ bytes)
    else (doubleQuoted (i := ← moveTo src (i + 1))) src (content ++ [c])
  else return .error ⟨i, .unterminated⟩
partial_fixpoint

--------------------------------------------------------------------------------
-- Agreement with the readers of what is left
--------------------------------------------------------------------------------

/-- A reader by offsets ends as one of what is left does, and where that one ends. -/
inductive Agrees (src : Bytes) {α : Type}
    : Option (Read α) → Except Failure (α × Bytes) → Prop where
  | ok {v : α} {pos : Int} {rest : Bytes} (here : At src pos rest)
    : Agrees src (some (.ok (v, pos))) (.ok (v, rest))
  | error {cause : LiteralCause} {pos : Int} {rest : Bytes} (here : At src pos rest)
    : Agrees src (some (.error ⟨pos, cause⟩)) (.error ⟨rest, cause⟩)

variable {src s : Bytes} {pos : Int}

/-- What the reader of what is left makes of a single-quoted text, behind what was read of it. -/
def resume (content : Bytes) : Option (Bytes × Bytes) → Except Failure (Bytes × Bytes)
  | some (text, after) => .ok (content ++ text, after)
  | none => .error ⟨[], .unterminated⟩

theorem resume_map (content : Bytes) (c : Byte) (read : Option (Bytes × Bytes))
    : resume content (read.map fun (text, after) => (c :: text, after))
      = resume (content ++ [c]) read := by
  cases read with
  | none => rfl
  | some pair => simp [resume]

/-- Single-quoted texts are read alike, by the cases of the reader of what is left. -/
theorem At.singleQuoted (here : At src pos s) (content : Bytes)
    : Agrees src (Indexed.singleQuoted src pos content)
        (resume content (Literal.singleQuoted s)) := by
  fun_induction Literal.singleQuoted s generalizing pos content with
  | case1 =>
      rw [Indexed.singleQuoted, if_neg here.not_lt]
      exact .error here
  | case2 rest =>
      rw [Indexed.singleQuoted, resume, List.append_nil]
      simp only [here.lt, here.byteAt, here.cons.peek, here.cons.moveTo]
      exact .ok here.cons
  | case3 rest ih =>
      have behind : At src (pos + 2) rest := here.append (t := [0x5c, 0x27])
      rw [Indexed.singleQuoted, resume_map]
      simp only [here.lt, here.byteAt, here.cons.peek, here.cons.byteAt, behind.moveTo]
      exact ih behind (content ++ [0x27])
  | case4 rest ih =>
      have behind : At src (pos + 2) rest := here.append (t := [0x5c, 0x5c])
      rw [Indexed.singleQuoted, resume_map]
      simp only [here.lt, here.byteAt, here.cons.peek, here.cons.byteAt, behind.moveTo]
      exact ih behind (content ++ [0x5c])
  | case5 c rest other quote backslash ih =>
      have closes : (c == 0x27) = false := beq_false_of_ne other
      have escapes
          : (c == 0x5c && (rest.head?.getD 0 == 0x27 || rest.head?.getD 0 == 0x5c)) = false := by
        cases rest with
        | nil => simp
        | cons d rest =>
            simp only [Bool.and_eq_false_imp, beq_iff_eq]
            rintro rfl
            simpa using ⟨fun same => quote rest rfl (same ▸ rfl),
              fun same => backslash rest rfl (same ▸ rfl)⟩
      rw [Indexed.singleQuoted, resume_map]
      simp only [here.lt, if_true, here.byteAt, Option.bind_eq_bind, Option.bind_some,
        here.cons.peek, here.cons.moveTo, closes, escapes]
      exact ih here.cons (content ++ [c])

--------------------------------------------------------------------------------
-- Escapes
--------------------------------------------------------------------------------

/-- Skipping up to a number of bytes of a class ends behind them, by induction on what stands behind
the offset.
-/
theorem At.skipUpTo (p : Byte → Bool) (here : At src pos s) (n : Nat) {limit : Int}
    (reach : limit = pos + n)
    : Indexed.skipUpTo p src limit pos = some (pos + ((s.take n).takeWhile p).length) := by
  induction s generalizing pos n with
  | nil =>
      rw [Indexed.skipUpTo, if_neg fun inside => here.not_lt inside.1]
      simp
  | cons c rest ih =>
      rw [Indexed.skipUpTo]
      cases n with
      | zero =>
          rw [if_neg fun inside => by omega]
          simp
      | succ n =>
          rw [if_pos ⟨here.lt, by omega⟩, here.byteAt, List.take_succ_cons]
          by_cases inside : p c = true
          · rw [List.takeWhile_cons_of_pos inside, List.length_cons]
            simp only [Option.bind_eq_bind, Option.bind_some, inside, if_true]
            rw [ih here.cons n (by omega)]
            congr 1
            omega
          · rw [List.takeWhile_cons_of_neg inside]
            simp [inside]

/-- The digits behind an offset, at most so many, are read where the class of digits ends. -/
theorem At.digits (p : Byte → Bool) (here : At src pos s) (n : Nat) {limit : Int}
    (reach : limit = pos + n)
    : ∃ behind,
        Indexed.skipUpTo p src limit pos = some behind
        ∧ Indexed.slice src pos behind = some ((s.take n).takeWhile p)
        ∧ Indexed.moveTo src behind = some (pos + ((s.take n).takeWhile p).length) := by
  obtain ⟨rest, parts⟩ := (List.takeWhile_prefix (l := s.take n) p).trans (List.take_prefix n s)
  refine ⟨_, here.skipUpTo p n reach, ?_, ?_⟩
  · generalize (s.take n).takeWhile p = digits at parts
    exact At.slice (parts ▸ here)
  · generalize (s.take n).takeWhile p = digits at parts
    exact (At.append (parts ▸ here)).moveTo

/-- A byte is found at the end of what stands before it. -/
theorem idxOf?_eq_cut? (sep : Byte) (s : Bytes)
    : s.idxOf? sep = (Bytes.cut? sep s).map fun (before, _) => before.length := by
  induction s with
  | nil => rfl
  | cons c rest ih =>
      rw [List.idxOf?_cons, Bytes.cut?, ih]
      split
      · rfl
      · cases Bytes.cut? sep rest <;> rfl

/-- The character that braces at the front of a text name, and how many bytes take part with the
letter in front of them.
-/
def braced? (inBraces : Bytes) : Option (Bytes × Nat) :=
  (Bytes.cut? 0x7d inBraces).bind fun (digits, _) =>
    (namedCharacter? digits).map fun named =>
      (String.utf8EncodeChar named, 3 + digits.length)

theorem escape_braced (inBraces : Bytes)
    : Literal.escape (0x75 :: 0x7b :: inBraces) = (braced? inBraces).getD ([0x5c], 0) := by
  rw [braced?]
  show (match Bytes.cut? 0x7d inBraces with
    | some (digits, _) =>
        match namedCharacter? digits with
        | some named => (String.utf8EncodeChar named, 3 + digits.length)
        | none => ([0x5c], 0)
    | none => ([0x5c], 0)) = _
  cases Bytes.cut? 0x7d inBraces with
  | none => rfl
  | some pair => cases named : namedCharacter? pair.1 <;> simp [named]

theorem escape_hex (rest : Bytes)
    : Literal.escape (0x78 :: rest)
      = if (rest.head?.getD 0).isHex then
          let digits := (rest.take 2).takeWhile Byte.isHex
          ([(digitsIn 16 digits).toUInt8], 1 + digits.length)
        else ([0x5c], 0) := by
  show (if ((rest.take 2).takeWhile Byte.isHex).isEmpty then ([0x5c], 0) else _) = _
  cases rest with
  | nil => rfl
  | cons d rest =>
      rw [List.take_succ_cons, List.takeWhile_cons, List.head?_cons, Option.getD_some]
      cases d.isHex <;> rfl

theorem escape_simple {c b : Byte} (simple : simpleEscape? c = some b) (rest : Bytes)
    : Literal.escape (c :: rest) = ([b], 1) := by
  simp only [Literal.escape, simple]

theorem escape_octal {c : Byte} (simple : simpleEscape? c = none) (octal : c.isOctal = true)
    (rest : Bytes)
    : Literal.escape (c :: rest)
      = let digits := ((c :: rest).take 3).takeWhile Byte.isOctal
        ([(digitsIn 8 digits).toUInt8], digits.length) := by
  simp only [Literal.escape, simple, octal, if_true]

/-- A backslash before anything else stands for itself. -/
theorem escape_plain {c : Byte} {rest : Bytes} (simple : simpleEscape? c = none)
    (octal : c.isOctal = false) (hex : c ≠ 0x78)
    (braces : ∀ inBraces, c :: rest ≠ 0x75 :: 0x7b :: inBraces)
    : Literal.escape (c :: rest) = ([0x5c], 0) := by
  simp only [Literal.escape, simple, octal, beq_iff_eq, hex, if_false, Bool.false_eq_true]
  by_cases letter : c = 0x75
  · subst letter
    rw [if_pos rfl]
    split
    · exact absurd rfl (braces _)
    · rfl
  · rw [if_neg letter]

/-- Braces behind an offset name a character where their digits do. -/
theorem At.namedEscape {inBraces : Bytes} (here : At src pos (0x5c :: 0x75 :: 0x7b :: inBraces))
    : Indexed.namedEscape src pos
      = some ((braced? inBraces).map fun (bytes, used) => (bytes, pos + 1 + (used : Int))) := by
  have second : Indexed.peek src (pos + 2) = some 0x7b := here.peek_add 2
  have brace : (0x5c :: 0x75 :: 0x7b :: inBraces : Bytes).idxOf? 0x7d
      = (Bytes.cut? 0x7d inBraces).map fun (digits, _) => digits.length + 1 + 1 + 1 := by
    rw [List.idxOf?_cons, List.idxOf?_cons, List.idxOf?_cons, idxOf?_eq_cut?]
    cases Bytes.cut? 0x7d inBraces <;> rfl
  rw [Indexed.namedEscape, braced?]
  simp only [here.cons.peek, second, here.slice_length, brace, Option.bind_eq_bind,
    Option.bind_some]
  cases found : Bytes.cut? 0x7d inBraces with
  | none => rfl
  | some pair =>
      obtain ⟨digits, after⟩ := pair
      have inside : At src (pos + 3) (digits ++ 0x7d :: after) :=
        cut?_spec found ▸ here.append (t := [0x5c, 0x75, 0x7b])
      have read := inside.slice
      have moved := inside.append.cons.moveTo
      rw [show pos + 3 + (digits.length : Int) = pos + ((digits.length + 1 + 1 + 1 : Nat) : Int) by
        omega] at read moved
      simp only [Option.map_some, Option.bind_some, read, moved]
      cases named : namedCharacter? digits with
      | none => simp
      | some character =>
          have digit : digits ≠ [] := by
            rintro rfl
            cases named
          have long : 3 < digits.length + 1 + 1 + 1 := by
            have := List.length_pos_iff.mpr digit
            omega
          have behind : pos + ((digits.length + 1 + 1 + 1 : Nat) : Int) + 1
              = pos + 1 + ((3 + digits.length : Nat) : Int) := by
            omega
          simp only [long, if_true, behind]
          rfl

/-- No other text behind a backslash names a character in braces. -/
theorem At.namedEscape_none {rest : Bytes} (here : At src pos (0x5c :: rest))
    (other : ∀ inBraces, rest ≠ 0x75 :: 0x7b :: inBraces)
    : Indexed.namedEscape src pos = some none := by
  have second : Indexed.peek src (pos + 2) = some (rest[1]?.getD 0) := here.peek_add 2
  have apart : (rest.head?.getD 0 == 0x75 && rest[1]?.getD 0 == 0x7b) = false := by
    rw [Bool.and_eq_false_imp]
    intro letter
    rcases rest with - | ⟨c, - | ⟨d, inBraces⟩⟩
    · exact absurd letter (by decide)
    · rfl
    · refine beq_false_of_ne fun brace => other inBraces ?_
      rw [show c = 0x75 from beq_iff_eq.mp letter, show d = 0x7b from brace]
  rw [Indexed.namedEscape, here.cons.peek, second]
  simp only [Option.bind_eq_bind, Option.bind_some, apart]
  rfl

/-- Escapes are read alike, and the reader goes on behind the bytes that take part. -/
theorem At.escape {rest : Bytes} (here : At src pos (0x5c :: rest))
    : Indexed.escape src pos
      = some ((Literal.escape rest).1, pos + 1 + (Literal.escape rest).2) := by
  rcases rest with - | ⟨c, rest⟩
  · have second : Indexed.peek src (pos + 2) = some 0 := here.peek_add 2
    rw [Indexed.escape, here.cons.peek, here.namedEscape_none nofun, here.cons.moveTo, second]
    exact congrArg (fun behind => some ([0x5c], behind)) (Int.add_zero _).symm
  · have behind : At src (pos + 2) rest := here.append (t := [0x5c, c])
    rw [Indexed.escape, here.cons.peek]
    simp only [List.head?_cons, Option.getD_some, Option.bind_eq_bind, Option.bind_some]
    cases simple : simpleEscape? c with
    | some b =>
        rw [escape_simple simple, behind.moveTo]
        exact congrArg (fun behind => some ([b], behind)) (Int.add_assoc pos 1 1).symm
    | none =>
        dsimp only
        by_cases octal : c.isOctal = true
        · obtain ⟨stop, skipped, read, moved⟩ :=
            here.cons.digits Byte.isOctal 3 (show pos + 4 = pos + 1 + (3 : Nat) by omega)
          rw [escape_octal simple octal, if_pos octal, skipped, Option.bind_some, read,
            Option.bind_some, moved]
          rfl
        · rw [if_neg octal, behind.peek, Option.bind_some]
          by_cases hex : c = 0x78 ∧ (rest.head?.getD 0).isHex = true
          · obtain ⟨stop, skipped, read, moved⟩ :=
              behind.digits Byte.isHex 2 (show pos + 4 = pos + 2 + (2 : Nat) by omega)
            rw [hex.1, escape_hex, if_pos hex.2, if_pos (by simpa using hex.2), skipped,
              Option.bind_some, read, Option.bind_some, moved]
            refine congrArg (fun behind => some (_, behind)) ?_
            rw [Int.natCast_add]
            omega
          · rw [if_neg (by simpa using hex)]
            by_cases braces : ∃ inBraces, c :: rest = 0x75 :: 0x7b :: inBraces
            · obtain ⟨inBraces, same⟩ := braces
              cases same
              rw [here.namedEscape, escape_braced, Option.bind_some, here.cons.moveTo]
              cases braced? inBraces with
              | none => exact congrArg (fun behind => some ([0x5c], behind)) (Int.add_zero _).symm
              | some read => rfl
            · have none := here.namedEscape_none fun inBraces same => braces ⟨inBraces, same⟩
              rw [none, Option.bind_some, here.cons.moveTo]
              by_cases letter : c = 0x78
              · subst letter
                rw [escape_hex, if_neg fun digit => hex ⟨rfl, digit⟩]
                exact congrArg (fun behind => some ([0x5c], behind)) (Int.add_zero _).symm
              · rw [escape_plain simple (Bool.eq_false_iff.mpr octal) letter fun inBraces same =>
                  braces ⟨inBraces, same⟩]
                exact congrArg (fun behind => some ([0x5c], behind)) (Int.add_zero _).symm

/-- An escape takes part of what stands behind the backslash. -/
theorem escape_used_le (rest : Bytes) : (Literal.escape rest).2 ≤ rest.length := by
  cases rest with
  | nil => exact Nat.le_refl 0
  | cons c rest =>
      rcases escape_used c rest with ⟨none, -⟩ | ⟨taken, behind, rfl, -, used⟩
      · rw [none]
        exact Nat.zero_le _
      · rw [used, List.length_cons, List.length_append]
        omega

/-- What the reader of what is left makes of a double-quoted text, behind what was read of it. -/
def continued (content : Bytes) (read : Except Failure (Bytes × Bytes))
    : Except Failure (Bytes × Bytes) :=
  read.map fun (text, after) => (content ++ text, after)

theorem continued_map (content more : Bytes) (read : Except Failure (Bytes × Bytes))
    : continued content (read.map fun (text, after) => (more ++ text, after))
      = continued (content ++ more) read := by
  cases read with
  | error e => rfl
  | ok pair => simp [continued, Except.map]

theorem continued_nil (read : Except Failure (Bytes × Bytes)) : continued [] read = read := by
  cases read <;> rfl

theorem doubleQuotedFrom_eq (skip : Nat) (s : Bytes)
    : doubleQuotedFrom skip s = Literal.doubleQuoted (s.drop skip) := by
  induction s generalizing skip with
  | nil => cases skip <;> rfl
  | cons c rest ih =>
      cases skip with
      | zero => rfl
      | succ skip => exact ih skip

theorem startsVariable_eq (rest : Bytes)
    : startsVariable rest = ((rest.head?.getD 0).isNameStart || rest.head?.getD 0 == 0x7b) := by
  cases rest <;> rfl

/-- Double-quoted texts are read alike, by induction on the length of what is left. -/
theorem At.doubleQuoted (here : At src pos s) (content : Bytes)
    : Agrees src (Indexed.doubleQuoted src pos content)
        (continued content (Literal.doubleQuoted s)) := by
  induction length : s.length using Nat.strong_induction_on generalizing s pos content with
  | h n ih =>
      subst length
      rcases s with - | ⟨c, rest⟩
      · rw [Indexed.doubleQuoted, if_neg here.not_lt]
        exact .error here
      · have plain := ih rest.length (Nat.lt_succ_self _) here.cons (content ++ [c]) rfl
        rw [← continued_map content [c]] at plain
        rw [Indexed.doubleQuoted, if_pos here.lt, here.byteAt, Literal.doubleQuoted,
          doubleQuotedFrom]
        simp only [Option.bind_eq_bind, Option.bind_some]
        by_cases quote : c = 0x22
        · subst quote
          rw [here.cons.moveTo]
          have done : Agrees src (some (.ok (content, pos + 1))) (.ok (content ++ [], rest)) := by
            rw [List.append_nil]
            exact .ok here.cons
          exact done
        · have quote' : (c == 0x22) = false := beq_false_of_ne quote
          by_cases dollar : c = 0x24
          · subst dollar
            rw [here.cons.peek, here.cons.moveTo, startsVariable_eq]
            simp only [Option.bind_some]
            cases starts : (rest.head?.getD 0).isNameStart || rest.head?.getD 0 == 0x7b with
            | true => exact .error here
            | false => exact plain
          · have dollar' : (c == 0x24) = false := beq_false_of_ne dollar
            by_cases backslash : c = 0x5c
            · subst backslash
              have behind := here.cons.drop (escape_used_le rest)
              have less : (rest.drop (Literal.escape rest).2).length < (0x5c :: rest).length := by
                rw [List.length_drop, List.length_cons]
                omega
              have read := ih _ less behind (content ++ (Literal.escape rest).1) rfl
              rw [← continued_map, ← doubleQuotedFrom_eq] at read
              rw [here.escape]
              exact read
            · have backslash' : (c == 0x5c) = false := beq_false_of_ne backslash
              simp only [quote', dollar', backslash', Bool.false_and, Bool.false_eq_true, if_false,
                here.cons.moveTo]
              exact plain

end FormMigrate.Indexed
