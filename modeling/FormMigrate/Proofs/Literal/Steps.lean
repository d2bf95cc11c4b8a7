import FormMigrate.Proofs.Literal.Grammar

/-! What the readers of values and arrays do, without the bounds on what they leave: one equivalence
for each first byte of a value, and one each for the entries of an array.
-/

namespace FormMigrate.Literal

--------------------------------------------------------------------------------
-- What is read, or where the reader stops
--------------------------------------------------------------------------------

/-- What a reader made of a text, without the bound on what it left. -/
def unbounded {s : Bytes} : Except Failure (Value × Rest s) → Except Failure (Value × Bytes)
  | .ok (v, rest) => .ok (v, rest.val)
  | .error failure => .error failure

theorem unbounded_ok {s : Bytes} (v : Value) (rest : Rest s)
    : unbounded (.ok (v, rest)) = .ok (v, rest.val) :=
  rfl

/-- A choice is read as the branch taken is. -/
theorem unbounded_ite {s : Bytes} {p : Prop} [Decidable p] {yes no : Except Failure (Value × Rest s)}
    {yes' no' : Except Failure (Value × Bytes)} (holds : p → unbounded yes = yes')
    (fails : ¬ p → unbounded no = no')
    : unbounded (if p then yes else no) = if p then yes' else no' := by
  by_cases h : p
  · rw [if_pos h, if_pos h]
    exact holds h
  · rw [if_neg h, if_neg h]
    exact fails h

/-- The value that is read from a text and what is left, or where the reader stopped. -/
def readValue (s : Bytes) : Except Failure (Value × Bytes) := unbounded (value s)

/-- The array that the entries up to a closing bracket make up with a table, and what is left, or
where the reader stopped.
-/
def readEntries (closer : Byte) (table : Table) (s : Bytes) : Except Failure (Value × Bytes) :=
  unbounded (entries closer table s)

/-- Going on with the entries of an array changes no more than the bound. -/
theorem unbounded_widen (closer : Byte) (table : Table) {s t : Bytes} (h : t.length ≤ s.length)
    : unbounded (match entries closer table t with
        | .ok (v, after) => .ok (v, after.widen h)
        | .error failure => .error failure : Except Failure (Value × Rest s))
      = readEntries closer table t := by
  rw [readEntries]
  cases entries closer table t <;> rfl

/-- A value is read by its first byte behind the blanks. -/
theorem readValue_eq (s : Bytes)
    : readValue s
      = match skipBlank s with
        | [] => .error ⟨[], .endOfInput⟩
        | c :: rest =>
            if c == 0 then .error ⟨c :: rest, .endOfInput⟩
            else if c == 0x27 then
              match singleQuoted rest with
              | some (content, after) => .ok (.text content, after)
              | none => .error ⟨[], .unterminated⟩
            else if c == 0x22 then
              (doubleQuoted rest).map fun (content, after) => (.text content, after)
            else if c == 0x5b then readEntries 0x5d {} rest
            else if startsNumber (c :: rest) then number (c :: rest)
            else if c.isNameStart then
              let word := Bytes.lower (c :: rest.takeWhile Byte.isNamePart)
              let after := rest.dropWhile Byte.isNamePart
              match constant? word with
              | some v => .ok (v, after)
              | none =>
                  if word == Bytes.ofString "array" then
                    match skipBlank after with
                    | [] => .error ⟨[], .noParenthesis⟩
                    | d :: inner =>
                        if d == 0x28 then readEntries 0x29 {} inner
                        else .error ⟨d :: inner, .noParenthesis⟩
                  else .error ⟨after, .identifier word⟩
            else .error ⟨c :: rest, .unexpected c⟩ := by
  rw [readValue, value]
  split
  · rename_i empty
    rw [empty]
    rfl
  · rename_i c rest here
    simp only [here]
    refine unbounded_ite (fun _ => rfl) fun _ => ?_
    refine unbounded_ite (fun _ => ?_) fun _ => ?_
    · split <;> (rename_i found; simp only [found]; rfl)
    refine unbounded_ite (fun _ => ?_) fun _ => ?_
    · split <;> (rename_i found; simp only [found]; rfl)
    refine unbounded_ite (fun _ => unbounded_widen 0x5d {} _) fun _ => ?_
    refine unbounded_ite (fun _ => ?_) fun _ => ?_
    · split <;> (rename_i found; simp only [found]; rfl)
    refine unbounded_ite (fun _ => ?_) fun _ => rfl
    cases constant? (Bytes.lower (c :: rest.takeWhile Byte.isNamePart)) with
    | some v => rfl
    | none =>
        refine unbounded_ite (fun _ => ?_) fun _ => rfl
        split
        · rename_i opened
          rw [opened]
          rfl
        · rename_i opened
          simp only [opened]
          exact unbounded_ite (fun _ => unbounded_widen 0x29 {} _) fun _ => rfl

/-- What follows an arrow at the front of a text. -/
def arrowRest? (s : Bytes) : Option Bytes := (afterArrow? s).map Subtype.val

theorem arrowRest?_eq_some_iff {s rest : Bytes}
    : arrowRest? s = some rest ↔ s = 0x3d :: 0x3e :: rest := by
  unfold arrowRest? afterArrow?
  split
  · simp [eq_comm]
  · rename_i other
    simp only [Option.map_none, reduceCtorEq, false_iff]
    exact other rest

/-- What is read after an entry was added to the table. -/
def readAfter (closer : Byte) (table : Table) (s : Bytes) : Except Failure (Value × Bytes) :=
  match skipBlank s with
  | [] => .error ⟨[], .noSeparator closer⟩
  | c :: rest =>
      if c == 0x2c then readEntries closer table rest
      else if c == closer then .ok (.array table.entries, rest)
      else .error ⟨c :: rest, .noSeparator closer⟩

/-- What is read from an entry on. -/
def readEntry (closer : Byte) (table : Table) (s : Bytes) : Except Failure (Value × Bytes) :=
  match readValue s with
  | .error failure => .error failure
  | .ok (first, after) =>
      match arrowRest? (skipBlank after) with
      | some rest =>
          match readValue rest with
          | .error failure => .error failure
          | .ok (second, after) =>
              match first.toKey with
              | .error e => .error ⟨after, .key e⟩
              | .ok key => readAfter closer (table.insert key second) after
      | none => readAfter closer (table.push first) after

theorem unbounded_separator (closer : Byte) (table : Table) {s : Bytes} (after : Rest s)
    : unbounded (separator closer table s after) = readAfter closer table after.val := by
  rw [separator, readAfter]
  split
  · rename_i c rest here
    simp only [here]
    refine unbounded_ite (fun _ => unbounded_widen closer table _) fun _ => ?_
    exact unbounded_ite (fun _ => rfl) fun _ => rfl
  · rename_i empty
    rw [empty]
    rfl

theorem unbounded_entry (closer : Byte) (table : Table) (s : Bytes)
    : unbounded (entry closer table s) = readEntry closer table s := by
  rw [entry, readEntry, readValue]
  split
  · rename_i found
    rw [found]
    rfl
  · rename_i first after found
    rw [found, unbounded_ok]
    dsimp only
    split
    · rename_i tail arrow
      simp only [arrowRest?, arrow, Option.map_some]
      split
      · rename_i found
        simp only [readValue, found]
        rfl
      · rename_i found
        simp only [readValue, found, unbounded_ok]
        cases first.toKey with
        | error => rfl
        | ok => exact unbounded_separator closer _ _
    · rename_i noArrow
      simp only [arrowRest?, noArrow, Option.map_none]
      exact unbounded_separator closer _ _

theorem readEntries_eq (closer : Byte) (table : Table) (s : Bytes)
    : readEntries closer table s
      = match skipBlank s with
        | [] => readEntry closer table s
        | c :: rest =>
            if c == closer then .ok (.array table.entries, rest) else readEntry closer table s := by
  rw [readEntries, entries]
  split
  · rename_i c rest here _
    simp only [here]
    split
    · rfl
    · exact unbounded_entry closer table s
  · rename_i empty _
    simp only [empty]
    exact unbounded_entry closer table s

--------------------------------------------------------------------------------
-- What is taken, wherever the reader stops
--------------------------------------------------------------------------------

/-- What a reader took and what it left, unless it failed. -/
def taken {s : Bytes} : Except Failure (Value × Rest s) → Option (Value × Bytes)
  | .ok (v, rest) => some (v, rest.val)
  | .error _ => none

/-- The value that is read from a text, and what is left. -/
def takenValue (s : Bytes) : Option (Value × Bytes) := taken (value s)

/-- The array that the entries up to a closing bracket make up with a table, and what is left. -/
def takenEntries (closer : Byte) (table : Table) (s : Bytes) : Option (Value × Bytes) :=
  taken (entries closer table s)

/-- The value of a word, read on behind it if it is the one for arrays, and what is left. -/
def takenWord (word after : Bytes) : Option (Value × Bytes) :=
  match constant? word with
  | some v => some (v, after)
  | none =>
      if word == Bytes.ofString "array" then
        match skipBlank after with
        | [] => none
        | d :: inner => if d == 0x28 then takenEntries 0x29 {} inner else none
      else none

theorem taken_eq_toOption {s : Bytes} (read : Except Failure (Value × Rest s))
    : taken read = (unbounded read).toOption := by
  cases read <;> rfl

theorem takenValue_eq_toOption (s : Bytes) : takenValue s = (readValue s).toOption :=
  taken_eq_toOption _

theorem takenEntries_eq_toOption (closer : Byte) (table : Table) (s : Bytes)
    : takenEntries closer table s = (readEntries closer table s).toOption :=
  taken_eq_toOption _

theorem taken_ok {s : Bytes} (v : Value) (rest : Rest s) : taken (.ok (v, rest)) = some (v, rest.val) :=
  rfl

theorem toOption_map {ε α β : Type} (x : Except ε α) (f : α → β)
    : (x.map f).toOption = x.toOption.map f := by
  cases x <;> rfl

theorem takenValue_eq (s : Bytes)
    : takenValue s
      = match skipBlank s with
        | [] => none
        | c :: rest =>
            if c == 0 then none
            else if c == 0x27 then
              (singleQuoted rest).map fun (content, after) => (.text content, after)
            else if c == 0x22 then
              (doubleQuoted rest).toOption.map fun (content, after) => (.text content, after)
            else if c == 0x5b then takenEntries 0x5d {} rest
            else if startsNumber (c :: rest) then (number (c :: rest)).toOption
            else if c.isNameStart then
              takenWord (Bytes.lower (c :: rest.takeWhile Byte.isNamePart))
                (rest.dropWhile Byte.isNamePart)
            else none := by
  rw [takenValue_eq_toOption, readValue_eq]
  cases skipBlank s with
  | nil => rfl
  | cons c rest =>
      simp only [takenWord, takenEntries_eq_toOption, apply_ite Except.toOption, toOption_map]
      -- What is left are the choices by what was read, which agree case by case.
      cases singleQuoted rest <;>
        cases constant? (Bytes.lower (c :: rest.takeWhile Byte.isNamePart)) <;>
        cases skipBlank (rest.dropWhile Byte.isNamePart) <;>
        simp only [apply_ite Except.toOption] <;>
        rfl

/-- The entry that the readers take from a text, and what they leave. -/
def takenItem (s : Bytes) : Option (Item × Bytes) :=
  (takenValue s).bind fun (first, after) =>
    match arrowRest? (skipBlank after) with
    | some rest =>
        (takenValue rest).bind fun (second, after) =>
          first.toKey.toOption.map fun key => (⟨some key, second⟩, after)
    | none => some (⟨none, first⟩, after)

/-- What is read after an entry was added to the table. -/
def takenAfter (closer : Byte) (table : Table) (s : Bytes) : Option (Value × Bytes) :=
  match skipBlank s with
  | [] => none
  | c :: rest =>
      if c == 0x2c then takenEntries closer table rest
      else if c == closer then some (.array table.entries, rest)
      else none


theorem readAfter_toOption (closer : Byte) (table : Table) (s : Bytes)
    : (readAfter closer table s).toOption = takenAfter closer table s := by
  rw [readAfter, takenAfter]
  cases skipBlank s with
  | nil => rfl
  | cons c rest =>
      simp only [takenEntries_eq_toOption, apply_ite Except.toOption]
      rfl

theorem readEntry_toOption (closer : Byte) (table : Table) (s : Bytes)
    : (readEntry closer table s).toOption
      = (takenItem s).bind fun (item, after) => takenAfter closer (table.add item) after := by
  rw [readEntry, takenItem, takenValue_eq_toOption]
  cases readValue s with
  | error failure => rfl
  | ok pair =>
      obtain ⟨first, after⟩ := pair
      rw [show (Except.ok (first, after)).toOption = some (first, after) from rfl, Option.bind_some]
      dsimp only
      cases arrowRest? (skipBlank after) with
      | none => exact readAfter_toOption closer _ _
      | some rest =>
          dsimp only
          rw [takenValue_eq_toOption]
          cases readValue rest with
          | error failure => rfl
          | ok pair =>
              cases first.toKey with
              | error e => rfl
              | ok key => exact readAfter_toOption closer _ _

theorem takenEntries_eq (closer : Byte) (table : Table) (s : Bytes)
    : takenEntries closer table s
      = match skipBlank s with
        | [] => (takenItem s).bind fun (item, after) => takenAfter closer (table.add item) after
        | c :: rest =>
            if c == closer then some (.array table.entries, rest)
            else (takenItem s).bind fun (item, after) => takenAfter closer (table.add item) after := by
  rw [takenEntries_eq_toOption, readEntries_eq]
  cases skipBlank s with
  | nil => exact readEntry_toOption closer table s
  | cons c rest =>
      dsimp only
      rw [apply_ite Except.toOption, readEntry_toOption]
      rfl

end FormMigrate.Literal
