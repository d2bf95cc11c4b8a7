import FormMigrate.Proofs.Literal.Numerals
import FormMigrate.Proofs.Literal.Steps
import FormMigrate.Proofs.Literal.Strings
import FormMigrate.Proofs.Text.Case

/-! Whatever the grammar spells is read: a literal after blanks is taken as a whole, with the value
that it spells, wherever a byte that ends a token or the end of the text follows it.
-/

namespace FormMigrate.Literal

--------------------------------------------------------------------------------
-- Blanks
--------------------------------------------------------------------------------

theorem Blank.nil : Blank [] := nofun

theorem skipBlank_front {front s : Bytes} (blank : Blank front)
    (stops : ∀ c ∈ s.head?, c.isBlank = false)
    : skipBlank (front ++ s) = s :=
  (run_append blank stops).2

theorem skipBlank_cons {front rest : Bytes} {c : Byte} (blank : Blank front)
    (visible : c.isBlank = false)
    : skipBlank (front ++ c :: rest) = c :: rest :=
  skipBlank_front blank (by simpa using visible)

theorem skipBlank_blank {gap : Bytes} (blank : Blank gap) : skipBlank gap = [] := by
  simpa using skipBlank_front (s := []) blank nofun

theorem skipBlank_split (s : Bytes) : ∃ front, Blank front ∧ s = front ++ skipBlank s :=
  ⟨s.takeWhile Byte.isBlank, fun _ member => List.mem_takeWhile_imp member,
    List.takeWhile_append_dropWhile.symm⟩

theorem Delimited.blank_append {gap t : Bytes} (blank : Blank gap) (ends : Delimited t)
    : Delimited (gap ++ t) := by
  cases gap with
  | nil => exact ends
  | cons c rest =>
      refine .cons ?_ _
      rw [endsToken, blank c List.mem_cons_self]
      rfl

--------------------------------------------------------------------------------
-- Words
--------------------------------------------------------------------------------

/-- A byte whose lower case is a plain letter starts a name, and no other token. -/
theorem apart_of_isPlainLetter
    : ∀ c : Byte,
        c.lower.isPlainLetter = true
          → c.isNameStart = true
            ∧ c.isNamePart = true
            ∧ c.isBlank = false
            ∧ c.isDigit = false
            ∧ c ≠ 0 ∧ c ≠ 0x22 ∧ c ≠ 0x27 ∧ c ≠ 0x29 ∧ c ≠ 0x2b ∧ c ≠ 0x2d ∧ c ≠ 0x2e
            ∧ c ≠ 0x5b ∧ c ≠ 0x5d ∧ c < 0x80 := by
  decide

/-- A word in any case is read up to the end of the name. -/
theorem takenValue_word {front s t word : Bytes} (blank : Blank front)
    (letters : ∀ c ∈ word, c.isPlainLetter = true) (nonempty : word ≠ [])
    (same : Bytes.lowerAscii s = word) (stops : ∀ c ∈ t.head?, c.isNamePart = false)
    : takenValue (front ++ (s ++ t)) = takenWord word t := by
  have plain : ∀ c ∈ s, c.lower.isPlainLetter = true :=
    fun c member => letters _ (same ▸ List.mem_map_of_mem member)
  have lower := (Bytes.lower_eq_iff letters).mpr same
  cases s with
  | nil => exact (nonempty same.symm).elim
  | cons c rest =>
      obtain ⟨start, -, visible, digit, zero, double, single, -, plus, minus, point, bracket, -⟩ :=
        apart_of_isPlainLetter c (plain c List.mem_cons_self)
      have name : ∀ d ∈ rest, d.isNamePart = true :=
        fun d member => (apart_of_isPlainLetter d (plain d (List.mem_cons_of_mem c member))).2.1
      obtain ⟨takes, leaves⟩ := run_append name stops
      have numeral : startsNumber (c :: (rest ++ t)) = false := by
        simp [startsNumber, digit, plus, minus, point]
      have read := takenValue_eq (front ++ (c :: rest ++ t))
      rw [List.cons_append, skipBlank_front blank (by simpa using visible)] at read
      dsimp only at read
      rw [if_neg (by simpa using zero), if_neg (by simpa using single),
        if_neg (by simpa using double), if_neg (by simpa using bracket), numeral,
        if_neg Bool.false_ne_true, if_pos start, takes, leaves, lower] at read
      exact read

/-- The words of literals have plain letters only. -/
theorem letters_of_words
    : ∀ word ∈ [Bytes.ofString "true", Bytes.ofString "false", Bytes.ofString "null",
        Bytes.ofString "array"],
        (∀ c ∈ word, c.isPlainLetter = true) ∧ word ≠ [] := by
  decide

theorem letters_of_constant? {word : Bytes} {v : Value} (h : constant? word = some v)
    : (∀ c ∈ word, c.isPlainLetter = true) ∧ word ≠ [] := by
  apply letters_of_words
  simp only [constant?, beq_iff_eq] at h
  split at h
  · rename_i same
    simp only [same, List.mem_cons, true_or]
  · split at h
    · rename_i same
      simp only [same, List.mem_cons, true_or, or_true]
    · split at h
      · rename_i same
        simp only [same, List.mem_cons, true_or, or_true]
      · cases h

theorem letters_of_array
    : (∀ c ∈ Bytes.ofString "array", c.isPlainLetter = true) ∧ Bytes.ofString "array" ≠ [] :=
  letters_of_words _ (.tail _ (.tail _ (.tail _ (.head _))))

--------------------------------------------------------------------------------
-- First bytes
--------------------------------------------------------------------------------

/-- A byte that starts a numeral starts no other token. -/
theorem apart_of_startsNumber {c : Byte} {rest : Bytes} (h : startsNumber (c :: rest) = true)
    : c.isBlank = false
      ∧ c ≠ 0 ∧ c ≠ 0x22 ∧ c ≠ 0x27 ∧ c ≠ 0x29 ∧ c ≠ 0x5b ∧ c ≠ 0x5d ∧ c < 0x80 := by
  have each
      : ∀ c : Byte,
          (c == 0x2d || c == 0x2b || c.isDigit || c == 0x2e) = true
            → c.isBlank = false
              ∧ c ≠ 0 ∧ c ≠ 0x22 ∧ c ≠ 0x27 ∧ c ≠ 0x29 ∧ c ≠ 0x5b ∧ c ≠ 0x5d ∧ c < 0x80 := by
    decide
  apply each
  simp only [startsNumber, Bool.or_eq_true, Bool.and_eq_true] at h ⊢
  exact h.imp_right And.left

theorem startsNumber_append {s : Bytes} (h : startsNumber s = true) (t : Bytes)
    : startsNumber (s ++ t) = true := by
  match s with
  | [] => cases h
  | [c] =>
      simp only [startsNumber, Bool.and_false, Bool.or_false] at h
      simp only [List.cons_append, startsNumber, h, Bool.true_or]
  | c :: d :: rest => exact h

/-- A literal starts with a visible ASCII byte that closes no array. -/
theorem Spells.head {s : Bytes} {v : Value} (h : Spells s v)
    : ∃ c rest, s = c :: rest ∧ c < 0x80 ∧ c.isBlank = false ∧ c ≠ 0x29 ∧ c ≠ 0x5d := by
  have named {s word : Bytes} (letters : ∀ c ∈ word, c.isPlainLetter = true) (nonempty : word ≠ [])
      (same : Bytes.lowerAscii s = word)
      : ∃ c rest, s = c :: rest ∧ c < 0x80 ∧ c.isBlank = false ∧ c ≠ 0x29 ∧ c ≠ 0x5d := by
    cases s with
    | nil => exact (nonempty same.symm).elim
    | cons c rest =>
        have plain := letters c.lower (same ▸ List.mem_map_of_mem List.mem_cons_self)
        obtain ⟨-, -, visible, -, -, -, -, parenthesis, -, -, -, -, bracket, ascii⟩ :=
          apart_of_isPlainLetter c plain
        exact ⟨c, rest, rfl, ascii, visible, parenthesis, bracket⟩
  cases h with
  | single => exact ⟨_, _, rfl, by decide⟩
  | double => exact ⟨_, _, rfl, by decide⟩
  | word names =>
      obtain ⟨letters, nonempty⟩ := letters_of_constant? names
      exact named letters nonempty rfl
  | numeral starts =>
      cases s with
      | nil => cases starts
      | cons c rest =>
          obtain ⟨visible, -, -, -, parenthesis, -, bracket, ascii⟩ := apart_of_startsNumber starts
          exact ⟨c, rest, rfl, ascii, visible, parenthesis, bracket⟩
  | brackets => exact ⟨_, _, rfl, by decide⟩
  | parentheses names =>
      obtain ⟨c, rest, rfl, apart⟩ := named letters_of_array.1 letters_of_array.2 names
      exact ⟨c, _, rfl, apart⟩

--------------------------------------------------------------------------------
-- Literals
--------------------------------------------------------------------------------

/-- Bytes that stand behind an entry of an array. -/
def EndsItem (t : Bytes) : Prop := ∃ c rest, t = c :: rest ∧ (c = 0x2c ∨ c = 0x29 ∨ c = 0x5d)

theorem EndsItem.delimited {t : Bytes} (h : EndsItem t) : Delimited t := by
  obtain ⟨c, rest, rfl, rfl | rfl | rfl⟩ := h <;> exact .cons (by decide) rest

theorem EndsItem.skipBlank {back t : Bytes} (h : EndsItem t) (blank : Blank back)
    : skipBlank (back ++ t) = t := by
  obtain ⟨c, rest, rfl, rfl | rfl | rfl⟩ := h <;> exact skipBlank_cons blank (by decide)

theorem EndsItem.noArrow {t : Bytes} (h : EndsItem t) : arrowRest? t = none := by
  obtain ⟨c, rest, rfl, rfl | rfl | rfl⟩ := h <;> rfl

/-- An entry starts with a visible byte that closes no array. -/
theorem SpellsItem.head {s : Bytes} {item : Item} (h : SpellsItem s item) (t : Bytes)
    : ∃ c rest, skipBlank (s ++ t) = c :: rest ∧ c ≠ 0x29 ∧ c ≠ 0x5d := by
  cases h with
  | positional before spells =>
      obtain ⟨c, rest, rfl, -, visible, apart⟩ := spells.head
      simp only [List.append_assoc, List.cons_append]
      exact ⟨c, _, skipBlank_cons before visible, apart⟩
  | keyed before spellsKey =>
      obtain ⟨c, rest, rfl, -, visible, apart⟩ := spellsKey.head
      simp only [List.append_assoc, List.cons_append]
      exact ⟨c, _, skipBlank_cons before visible, apart⟩

/-- Entries that start with one are read as that one and what follows it. -/
theorem takenEntries_item {s t left : Bytes} {item : Item} {closer : Byte}
    (closes : closer = 0x29 ∨ closer = 0x5d) (table : Table) (spells : SpellsItem s item)
    (reads : takenItem (s ++ t) = some (item, left))
    : takenEntries closer table (s ++ t) = takenAfter closer (table.add item) left := by
  obtain ⟨c, rest, front, parenthesis, bracket⟩ := spells.head t
  have other : c ≠ closer := by
    rcases closes with rfl | rfl
    · exact parenthesis
    · exact bracket
  rw [takenEntries_eq, front]
  simp [other, reads]

theorem Delimited.stops {t : Bytes} (h : Delimited t) : ∀ c ∈ t.head?, c.isNamePart = false :=
  fun c head => (apart_of_endsToken c (h c head)).1

mutual

/-- A literal is taken as a whole, by induction on the grammar. -/
theorem Spells.read {s : Bytes} {v : Value} {front t : Bytes} (blank : Blank front)
    (ends : Delimited t)
    : Spells s v → takenValue (front ++ (s ++ t)) = some (v, t)
  | @Spells.single body inside => by
      have found : singleQuoted (body ++ 0x27 :: t) = some (singleContent body, t) :=
        singleQuoted_eq_some_iff.mpr ⟨body, rfl, inside, rfl⟩
      simp only [List.cons_append, List.append_assoc, List.nil_append]
      rw [takenValue_eq, skipBlank_cons blank (by decide)]
      simp [found]
  | @Spells.double body inside => by
      have found : doubleQuoted (body ++ 0x22 :: t) = .ok (doubleContent body, t) :=
        doubleQuoted_eq_ok_iff.mpr ⟨body, rfl, inside, rfl⟩
      simp only [List.cons_append, List.append_assoc, List.nil_append]
      rw [takenValue_eq, skipBlank_cons blank (by decide)]
      simp [found, Except.toOption]
  | .word names => by
      obtain ⟨letters, nonempty⟩ := letters_of_constant? names
      rw [takenValue_word blank letters nonempty rfl ends.stops, takenWord, names]
  | .numeral starts whole => by
      have found := number_append_delimited whole ends
      have starts' := startsNumber_append starts t
      cases s with
      | nil => cases starts
      | cons c rest =>
          obtain ⟨visible, zero, double, single, -, bracket, -⟩ := apart_of_startsNumber starts
          simp only [List.cons_append] at starts' found ⊢
          rw [takenValue_eq, skipBlank_cons blank visible]
          simp [zero, double, single, bracket, starts', found, Except.toOption]
  | @Spells.brackets inner _ inside => by
      have found := SpellsItems.read (.inr rfl) {} t inside
      simp only [List.cons_append, List.append_assoc, List.nil_append]
      rw [takenValue_eq, skipBlank_cons blank (by decide)]
      simp [found, arrayOf]
  | @Spells.parentheses _ gap inner _ names blank' inside => by
      have found := SpellsItems.read (.inl rfl) {} t inside
      have opened : skipBlank (gap ++ 0x28 :: (inner ++ 0x29 :: t)) = 0x28 :: (inner ++ 0x29 :: t) :=
        skipBlank_cons blank' (by decide)
      have stops : ∀ c ∈ (gap ++ 0x28 :: (inner ++ 0x29 :: t)).head?, c.isNamePart = false := by
        cases gap with
        | nil => simp; decide
        | cons c gap =>
            have apart : ∀ c : Byte, c.isBlank = true → c.isNamePart = false := by decide
            simpa using apart c (blank' c List.mem_cons_self)
      have reads := takenValue_word blank letters_of_array.1 letters_of_array.2 names stops
      have other : constant? (Bytes.ofString "array") = none := by decide
      simp only [List.append_assoc, List.cons_append, List.nil_append]
      rw [reads, takenWord, opened, other]
      simp [found, arrayOf]

/-- An entry is taken up to the blanks behind it. -/
theorem SpellsItem.read {s : Bytes} {item : Item} {t : Bytes} (ends : EndsItem t)
    : SpellsItem s item → ∃ left, takenItem (s ++ t) = some (item, left) ∧ skipBlank left = t
  | @SpellsItem.positional _ _ back _ before spells after => by
      have reads := Spells.read before (ends.delimited.blank_append after) spells
      refine ⟨back ++ t, ?_, ends.skipBlank after⟩
      simp only [List.append_assoc]
      rw [takenItem, reads, Option.bind_some]
      simp only [ends.skipBlank after, ends.noArrow]
  | @SpellsItem.keyed _ _ _ gap' s' back _ _ _ before spellsKey stands between between' spells
      after => by
      have cast := Value.standsFor_iff.mp stands
      have arrow (rest : Bytes) : Delimited (0x3d :: rest) := .cons (by decide) rest
      have readsKey :=
        Spells.read before ((arrow (0x3e :: (gap' ++ (s' ++ (back ++ t))))).blank_append between)
          spellsKey
      have reads := Spells.read between' (ends.delimited.blank_append after) spells
      refine ⟨back ++ t, ?_, ends.skipBlank after⟩
      simp only [List.append_assoc, List.cons_append]
      rw [takenItem, readsKey, Option.bind_some]
      simp only [skipBlank_cons between (show Byte.isBlank 0x3d = false by decide),
        arrowRest?_eq_some_iff.mpr rfl, reads, cast, Option.bind_some]
      rfl

/-- Entries are taken up to the closing bracket. -/
theorem SpellsItems.read {inner : Bytes} {items : List Item} {closer : Byte}
    (closes : closer = 0x29 ∨ closer = 0x5d) (table : Table) (t : Bytes)
    : SpellsItems inner items
        → takenEntries closer table (inner ++ closer :: t)
          = some (.array (items.foldl Table.add table).entries, t)
  | .none blank => by
      have visible : closer.isBlank = false := by rcases closes with rfl | rfl <;> decide
      rw [takenEntries_eq, skipBlank_cons blank visible]
      simp
  | @SpellsItems.last _ item spells => by
      obtain ⟨left, reads, front⟩ := SpellsItem.read ⟨closer, t, rfl, .inr closes⟩ spells
      have other : closer ≠ 0x2c := by rcases closes with rfl | rfl <;> decide
      rw [takenEntries_item closes table spells reads, takenAfter, front]
      simp [other]
  | @SpellsItems.more _ rest item _ spells behind => by
      obtain ⟨left, reads, front⟩ :=
        SpellsItem.read ⟨0x2c, rest ++ closer :: t, rfl, .inl rfl⟩ spells
      rw [List.append_assoc, List.cons_append, takenEntries_item closes table spells reads,
        takenAfter, front]
      exact SpellsItems.read closes (table.add item) t behind

end

end FormMigrate.Literal
