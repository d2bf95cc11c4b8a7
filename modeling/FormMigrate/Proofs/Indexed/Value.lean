import FormMigrate.Proofs.Indexed.Numeral
import FormMigrate.Proofs.Literal.Steps
import Mathlib.Data.List.DropRight

/-! Values and arrays read by offsets. -/

namespace FormMigrate.Indexed

open Literal

--------------------------------------------------------------------------------
-- The reader
--------------------------------------------------------------------------------

/-- A text that was read, as a value. -/
def asText : Read Bytes → Read Value
  | .ok (content, pos) => .ok (.text content, pos)
  | .error stop => .error stop

/-- Whether a numeral starts with a byte that stands at an offset. -/
def startsNumber (src : Bytes) (pos : Int) (c : Byte) : Option Bool := do
  let next ← peek src (pos + 1)
  return c == 0x2d || c == 0x2b || c.isDigit || (c == 0x2e && next.isDigit)

mutual

/-- The value at an offset, after blanks. -/
def value (src : Bytes) (i : Int) : Option (Read Value) := do
  let pos ← skipWhile Byte.isBlank src i
  let c ← peek src pos
  if c == 0 then return .error ⟨pos, .endOfInput⟩
  else if c == 0x27 then return asText (← singleQuoted src (← moveTo src (pos + 1)) [])
  else if c == 0x22 then return asText (← doubleQuoted src (← moveTo src (pos + 1)) [])
  else if c == 0x5b then (array (i := ← moveTo src (pos + 1))) src 0x5d {}
  else if ← startsNumber src pos c then number src pos
  else if c.isNameStart then
    let behind ← skipWhile Byte.isNamePart src pos
    let word := Bytes.lower (← slice src pos behind)
    match constant? word with
    | some v => return .ok (v, behind)
    | none =>
        if word == Bytes.ofString "array" then
          let pos ← skipWhile Byte.isBlank src behind
          if (← peek src pos) == 0x28 then (array (i := ← moveTo src (pos + 1))) src 0x29 {}
          else return .error ⟨pos, .noParenthesis⟩
        else return .error ⟨behind, .identifier word⟩
  else return .error ⟨pos, .unexpected c⟩
partial_fixpoint

/-- The entries from an offset up to the closing bracket, added to those already read. -/
def array (src : Bytes) (closer : Byte) (table : Table) (i : Int) : Option (Read Value) := do
  let pos ← skipWhile Byte.isBlank src i
  if (← peek src pos) == closer then return .ok (.array table.entries, ← moveTo src (pos + 1))
  else (entry (i := pos)) src closer table
partial_fixpoint

/-- The entry at an offset, then the entries after it. -/
def entry (src : Bytes) (closer : Byte) (table : Table) (i : Int) : Option (Read Value) := do
  match ← (value (i := i)) src with
  | .error stop => return .error stop
  | .ok (first, pos) =>
      let pos ← skipWhile Byte.isBlank src pos
      if (Bytes.ofString "=>").isPrefixOf (← slice src pos src.length) then
        match ← (value (i := ← moveTo src (pos + 2))) src with
        | .error stop => return .error stop
        | .ok (second, pos) =>
            match first.toKey with
            | .error e => return .error ⟨pos, .key e⟩
            | .ok key => (separator (i := pos)) src closer (table.insert key second)
      else (separator (i := pos)) src closer (table.push first)
partial_fixpoint

/-- What follows an entry: a comma and further entries, or the closing bracket. -/
def separator (src : Bytes) (closer : Byte) (table : Table) (i : Int) : Option (Read Value) := do
  let pos ← skipWhile Byte.isBlank src i
  let c ← peek src pos
  if c == 0x2c then (array (i := ← moveTo src (pos + 1))) src closer table
  else if c == closer then return .ok (.array table.entries, ← moveTo src (pos + 1))
  else return .error ⟨pos, .noSeparator closer⟩
partial_fixpoint

end

/-- The value of a static literal. -/
def evaluate (expr : Bytes) : Option (Except LiteralError Value) :=
  match codeMarker? expr with
  | some marker => some (.error (.code marker))
  | none => do
      match ← value expr 0 with
      | .error stop => return .error (.stopped stop.pos.toNat stop.cause)
      | .ok (v, pos) =>
          let pos ← skipWhile Byte.isBlank expr pos
          if pos < expr.length then
            return .error (.stopped pos.toNat (.trailing (← byteAt expr pos)))
          else return .ok v

--------------------------------------------------------------------------------
-- Agreement with the reader of what is left
--------------------------------------------------------------------------------

theorem skipBlank_skipBlank (s : Bytes)
    : Literal.skipBlank (Literal.skipBlank s) = Literal.skipBlank s :=
  List.dropWhile_idempotent _ _

theorem readAfter_skipBlank (closer : Byte) (table : Table) (s : Bytes)
    : readAfter closer table (Literal.skipBlank s) = readAfter closer table s := by
  rw [readAfter, skipBlank_skipBlank, ← readAfter]

theorem readEntry_skipBlank (closer : Byte) (table : Table) (s : Bytes)
    : readEntry closer table (Literal.skipBlank s) = readEntry closer table s := by
  have value : readValue (Literal.skipBlank s) = readValue s := by
    rw [readValue_eq, skipBlank_skipBlank, ← readValue_eq]
  rw [readEntry, value, ← readEntry]

variable {src s : Bytes} {pos : Int}

/-- A reader by offsets and one of what is left succeed together or fail together. -/
theorem Agrees.cases {α : Type} {read : Option (Read α)} {model : Except Failure (α × Bytes)}
    (agrees : Agrees src read model)
    : (∃ v pos rest, read = some (.ok (v, pos)) ∧ model = .ok (v, rest) ∧ At src pos rest)
      ∨ ∃ cause pos rest,
          read = some (.error ⟨pos, cause⟩) ∧ model = .error ⟨rest, cause⟩ ∧ At src pos rest := by
  cases agrees with
  | ok here => exact .inl ⟨_, _, _, rfl, rfl, here⟩
  | error here => exact .inr ⟨_, _, _, rfl, rfl, here⟩

/-- A choice is read alike where both of its branches are. -/
theorem Agrees.ite {α : Type} {p : Prop} [Decidable p] {read read' : Option (Read α)}
    {model model' : Except Failure (α × Bytes)} (yes : p → Agrees src read model)
    (no : ¬ p → Agrees src read' model')
    : Agrees src (if p then read else read') (if p then model else model') := by
  by_cases h : p
  · rw [if_pos h, if_pos h]
    exact yes h
  · rw [if_neg h, if_neg h]
    exact no h

/-- Texts that are read alike are values that are read alike. -/
theorem Agrees.asText {read : Option (Read Bytes)} {model : Except Failure (Bytes × Bytes)}
    (agrees : Agrees src read model)
    : Agrees src (read.bind fun text => some (Indexed.asText text))
        (model.map fun (content, after) => (.text content, after)) := by
  cases agrees with
  | ok here => exact .ok here
  | error here => exact .error here

/-- A single-quoted text is read alike, as a value. -/
theorem At.singleText (here : At src pos s)
    : Agrees src
        ((Indexed.singleQuoted src pos []).bind fun text => some (Indexed.asText text))
        (match Literal.singleQuoted s with
        | some (content, after) => .ok (.text content, after)
        | none => .error ⟨[], .unterminated⟩) := by
  have agrees := (here.singleQuoted []).asText
  cases found : Literal.singleQuoted s with
  | none =>
      rw [found] at agrees
      exact agrees
  | some =>
      rw [found] at agrees
      exact agrees

theorem At.startsNumber {c : Byte} {rest : Bytes} (here : At src pos (c :: rest))
    : Indexed.startsNumber src pos c = some (Literal.startsNumber (c :: rest)) := by
  rw [Indexed.startsNumber, here.cons.peek]
  cases rest <;> rfl

/-- Blanks are skipped alike. -/
theorem At.skipBlank (here : At src pos s)
    : ∃ j, Indexed.skipWhile Byte.isBlank src pos = some j ∧ At src j (skipBlank s) := by
  obtain ⟨j, skipped, -, behind⟩ := here.skipWhile Byte.isBlank
  exact ⟨j, skipped, behind⟩

/-- A word is cut out alike. -/
theorem At.word {c : Byte} {rest : Bytes} (here : At src pos (c :: rest))
    (starts : c.isNameStart = true)
    : ∃ j,
        Indexed.skipWhile Byte.isNamePart src pos = some j
        ∧ Indexed.slice src pos j = some (c :: rest.takeWhile Byte.isNamePart)
        ∧ At src j (rest.dropWhile Byte.isNamePart) := by
  have part : c.isNamePart = true := by simp [Byte.isNamePart, starts]
  obtain ⟨j, skipped, length, behind⟩ := here.skipWhile Byte.isNamePart
  rw [List.dropWhile_cons_of_pos part] at behind
  rw [List.takeWhile_cons_of_pos part] at length
  have whole
      : At src pos (c :: rest.takeWhile Byte.isNamePart ++ rest.dropWhile Byte.isNamePart) := by
    rwa [List.cons_append, List.takeWhile_append_dropWhile]
  exact ⟨j, skipped, length ▸ whole.slice, behind⟩

/-- Whether arrays are read alike where less than a number of bytes is left. -/
def ArraysAgree (src : Bytes) (bound : Nat) : Prop :=
  ∀ (closer : Byte) (table : Table) {pos : Int} {s : Bytes},
    closer ≠ 0 → s.length < bound → At src pos s
    → Agrees src (array src closer table pos) (readEntries closer table s)

theorem ArraysAgree.mono {bound least : Nat} (arrays : ArraysAgree src bound) (le : least ≤ bound)
    : ArraysAgree src least :=
  fun closer table _ _ mark within here => arrays closer table mark (within.trans_le le) here

/-- Values are read alike where the arrays in them are. -/
theorem At.value (arrays : ArraysAgree src s.length) (here : At src pos s)
    : Agrees src (Indexed.value src pos) (readValue s) := by
  obtain ⟨j, skipped, start⟩ := here.skipBlank
  have shorter := skipBlank_length_le s
  rw [Indexed.value, readValue_eq, skipped]
  simp only [Option.bind_eq_bind, Option.bind_some, start.peek]
  generalize Literal.skipBlank s = left at start shorter
  rcases left with - | ⟨c, rest⟩
  · exact .error start
  · rw [List.head?_cons, Option.getD_some]
    simp only [start.startsNumber, start.cons.moveTo, Option.bind_some]
    have less : rest.length < s.length := shorter
    refine .ite (fun _ => .error start) fun _ => ?_
    refine .ite (fun _ => start.cons.singleText) fun _ => ?_
    refine .ite (fun _ => ?_) fun _ => ?_
    · exact (continued_nil (Literal.doubleQuoted rest) ▸ start.cons.doubleQuoted []).asText
    refine .ite (fun _ => arrays 0x5d {} (by decide) less start.cons) fun _ => ?_
    refine .ite (fun _ => start.number) fun _ => ?_
    refine .ite (fun starts => ?_) fun _ => .error start
    obtain ⟨behind, skipped, spelled, after⟩ := start.word starts
    simp only [skipped, spelled, Option.bind_some]
    cases constant? (Bytes.lower (c :: rest.takeWhile Byte.isNamePart)) with
    | some v => exact .ok after
    | none =>
        refine .ite (fun _ => ?_) fun _ => .error after
        obtain ⟨behind, skipped, opened⟩ := after.skipBlank
        have fewer : (Literal.skipBlank (rest.dropWhile Byte.isNamePart)).length ≤ rest.length :=
          (skipBlank_length_le _).trans (List.dropWhile_suffix _).length_le
        generalize Literal.skipBlank (rest.dropWhile Byte.isNamePart) = left at opened fewer
        rw [skipped, Option.bind_some, opened.peek, Option.bind_some]
        rcases left with - | ⟨d, inner⟩
        · exact .error opened
        · rw [List.head?_cons, Option.getD_some]
          simp only [opened.cons.moveTo, Option.bind_some]
          refine .ite (fun _ => ?_) fun _ => .error opened
          exact arrays 0x29 {} (by decide) (Nat.lt_of_lt_of_le fewer less.le) opened.cons

/-- What follows an entry is read alike where the arrays in it are. -/
theorem At.separator {closer : Byte} (mark : closer ≠ 0) (table : Table) {bound : Nat}
    (arrays : ArraysAgree src bound) (within : s.length ≤ bound) (here : At src pos s)
    : Agrees src (Indexed.separator src closer table pos) (readAfter closer table s) := by
  obtain ⟨j, skipped, start⟩ := here.skipBlank
  have shorter := (skipBlank_length_le s).trans within
  rw [Indexed.separator, readAfter, skipped]
  simp only [Option.bind_eq_bind, Option.bind_some, start.peek]
  generalize Literal.skipBlank s = left at start shorter
  rcases left with - | ⟨c, rest⟩
  · rw [List.head?_nil, Option.getD_none, if_neg (by decide), if_neg (by simpa using mark.symm)]
    exact .error start
  · rw [List.head?_cons, Option.getD_some]
    simp only [start.cons.moveTo, Option.bind_some]
    refine .ite (fun _ => arrays closer table mark shorter start.cons) fun _ => ?_
    exact .ite (fun _ => .ok start.cons) fun _ => .error start

/-- An arrow behind an offset is found alike. -/
theorem arrowRest?_eq (s : Bytes)
    : arrowRest? s = if (Bytes.ofString "=>").isPrefixOf s then some (s.drop 2) else none := by
  by_cases arrow : ∃ rest, s = 0x3d :: 0x3e :: rest
  · obtain ⟨rest, rfl⟩ := arrow
    rw [if_pos (by rfl)]
    rfl
  · rw [if_neg]
    · exact Option.eq_none_iff_forall_ne_some.mpr fun rest found =>
        arrow ⟨rest, arrowRest?_eq_some_iff.mp found⟩
    · intro front
      obtain ⟨rest, same⟩ := List.isPrefixOf_iff_prefix.mp front
      exact arrow ⟨rest, same.symm⟩

theorem readValue_length_lt {s rest : Bytes} {v : Value} (read : readValue s = .ok (v, rest))
    : rest.length < s.length := by
  rw [readValue] at read
  cases value : Literal.value s with
  | error failure =>
      rw [value] at read
      cases read
  | ok pair =>
      rw [value] at read
      cases read
      exact pair.2.property

/-- An entry and what follows it are read alike where the arrays in them are. -/
theorem At.entry {closer : Byte} (mark : closer ≠ 0) (table : Table)
    (arrays : ArraysAgree src s.length) (here : At src pos s)
    : Agrees src (Indexed.entry src closer table pos) (readEntry closer table s) := by
  rw [Indexed.entry, readEntry]
  beta_reduce
  obtain ⟨first, i, after, read, model, behind⟩ | ⟨cause, i, rest, read, model, there⟩ :=
    (here.value arrays).cases
  · have less := readValue_length_lt model
    obtain ⟨j, skipped, start⟩ := behind.skipBlank
    have shorter := (skipBlank_length_le after).trans less.le
    rw [read, model]
    simp only [Option.bind_eq_bind, Option.bind_some, skipped, start.slice_length, arrowRest?_eq,
      ← readAfter_skipBlank closer _ after]
    generalize Literal.skipBlank after = left at start shorter
    split
    · rename_i arrow
      obtain ⟨rest, rfl⟩ := List.isPrefixOf_iff_prefix.mp arrow
      have second : At src (j + 2) rest := start.append (t := Bytes.ofString "=>")
      have fewer : rest.length ≤ s.length :=
        (List.suffix_append (Bytes.ofString "=>") rest).length_le.trans shorter
      rw [second.moveTo, show (Bytes.ofString "=>" ++ rest).drop 2 = rest from rfl]
      obtain ⟨second, i, last, read, model, behind⟩ | ⟨cause, i, last, read, model, there⟩ :=
        (second.value (arrays.mono fewer)).cases
      · have final := (readValue_length_lt model).le.trans fewer
        simp only [Option.bind_some, read, model]
        cases first.toKey with
        | error e => exact .error behind
        | ok key => exact behind.separator mark _ arrays final
      · simp only [Option.bind_some, read, model]
        exact .error there
    · exact start.separator mark _ arrays shorter
  · rw [read, model]
    exact .error there

/-- Arrays are read alike where shorter ones are. -/
theorem At.array {closer : Byte} (mark : closer ≠ 0) (table : Table)
    (arrays : ArraysAgree src s.length) (here : At src pos s)
    : Agrees src (Indexed.array src closer table pos) (readEntries closer table s) := by
  obtain ⟨j, skipped, start⟩ := here.skipBlank
  have shorter := skipBlank_length_le s
  rw [Indexed.array, readEntries_eq, skipped, ← readEntry_skipBlank]
  simp only [Option.bind_eq_bind, Option.bind_some, start.peek]
  have entry := start.entry mark table (arrays.mono shorter)
  generalize Literal.skipBlank s = left at start entry
  rcases left with - | ⟨c, rest⟩
  · rw [List.head?_nil, Option.getD_none, if_neg (by simpa using mark.symm)]
    exact entry
  · rw [List.head?_cons, Option.getD_some]
    simp only [start.cons.moveTo, Option.bind_some]
    exact .ite (fun _ => .ok start.cons) fun _ => entry

/-- Arrays are read alike, by induction on the number of bytes left. -/
theorem arraysAgree (src : Bytes) (bound : Nat) : ArraysAgree src bound := by
  induction bound with
  | zero => exact fun _ _ _ _ _ within => absurd within (Nat.not_lt_zero _)
  | succ bound ih =>
      intro closer table pos s mark within here
      exact here.array mark table (ih.mono (Nat.lt_succ_iff.mp within))

/-- Reading a value at an offset takes at least one byte and ends inside the text, or stops inside
of it.
-/
inductive ReadsInside (src : Bytes) (pos : Int) : Prop
  | value {v : Value} {behind : Int} (read : value src pos = some (.ok (v, behind)))
    (consumed : pos < behind) (inside : behind ≤ src.length)
    : ReadsInside src pos
  | stop {stop : Stop} (read : value src pos = some (.error stop)) (least : 0 ≤ stop.pos)
    (inside : stop.pos ≤ src.length)
    : ReadsInside src pos

/-- Values are read in bounds from every offset of a text, as what is left there is read. -/
theorem readsInside (least : 0 ≤ pos) (most : pos ≤ src.length) : ReadsInside src pos := by
  have here := At.of_le least most
  obtain ⟨v, behind, rest, read, model, there⟩ | ⟨cause, stop, rest, read, -, there⟩ :=
    (here.value (arraysAgree src _)).cases
  · have consumed := readValue_length_lt model
    have whole := here.add_length
    have whole' := there.add_length
    exact .value read (by omega) (by omega)
  · have whole := there.add_length
    exact .stop read there.nonneg (by dsimp only; omega)

theorem At.offset (here : At src pos s) : pos.toNat = src.length - s.length := by
  have whole := here.add_length
  omega

/-- Whole expressions are evaluated in bounds, to what the reader of what is left makes of them. -/
theorem evaluate_eq (expr : Bytes) : Indexed.evaluate expr = some (Literal.evaluate expr) := by
  rw [Indexed.evaluate, Literal.evaluate]
  have agrees := (At.zero expr).value (arraysAgree expr _)
  rw [readValue] at agrees
  cases codeMarker? expr with
  | some marker => rfl
  | none =>
      dsimp only
      cases found : Literal.value expr with
      | error failure =>
          rw [found] at agrees
          obtain ⟨v, after, rest, -, model, -⟩ | ⟨cause, after, rest, read, model, there⟩ :=
            agrees.cases
          · cases model
          · cases model
            rw [read]
            simp only [Option.bind_eq_bind, Option.bind_some, there.offset]
            rfl
      | ok pair =>
          rw [found] at agrees
          obtain ⟨v, after, rest, read, model, behind⟩ | ⟨cause, after, rest, -, model, -⟩ :=
            agrees.cases
          · obtain ⟨j, skipped, start⟩ := behind.skipBlank
            cases model
            simp only [read, Option.bind_eq_bind, Option.bind_some, skipped]
            generalize Literal.skipBlank _ = left at start
            rcases left with - | ⟨c, rest⟩
            · rw [if_neg start.not_lt]
              rfl
            · rw [if_pos start.lt, start.byteAt]
              simp only [Option.bind_some, start.offset]
              rfl
          · cases model

end FormMigrate.Indexed
