import FormMigrate.Proofs.Literal.Completeness

/-! Whatever is read is spelled by the grammar. Together with completeness, evaluation accepts the
static expressions and no other text, and gives each one the value that it denotes.
-/

namespace FormMigrate.Literal

theorem toOption_eq_some_iff {ε α : Type} {x : Except ε α} {a : α}
    : x.toOption = some a ↔ x = .ok a := by
  cases x <;> simp [Except.toOption]

theorem length_lt_of_takenValue {s left : Bytes} {v : Value} (h : takenValue s = some (v, left))
    : left.length < s.length := by
  unfold takenValue at h
  cases read : value s with
  | error failure =>
      rw [read] at h
      cases h
  | ok pair =>
      obtain ⟨w, rest⟩ := pair
      rw [read] at h
      cases h
      exact rest.property

/-- An entry is read as the grammar spells it, given that values are. -/
theorem takenItem_sound {s left : Bytes} {item : Item}
    (values
      : ∀ s' : Bytes,
          s'.length ≤ s.length
            → ∀ v left',
                takenValue s' = some (v, left')
                  → ∃ front lit, Blank front ∧ s' = front ++ (lit ++ left') ∧ Spells lit v)
    (h : takenItem s = some (item, left))
    : left.length < s.length
      ∧ ∃ text, s = text ++ left ∧ ∀ back, Blank back → SpellsItem (text ++ back) item := by
  obtain ⟨⟨first, after⟩, readFirst, continued⟩ := Option.bind_eq_some_iff.mp h
  have shorter := length_lt_of_takenValue readFirst
  obtain ⟨front, lit, before, parts, spells⟩ := values s (Nat.le_refl _) first after readFirst
  dsimp only at continued
  split at continued
  · rename_i tail arrow
    rw [arrowRest?_eq_some_iff] at arrow
    obtain ⟨gap, between, parts'⟩ := skipBlank_split after
    rw [arrow] at parts'
    obtain ⟨⟨second, after'⟩, readSecond, keyed⟩ := Option.bind_eq_some_iff.mp continued
    obtain ⟨key, cast, same⟩ := Option.map_eq_some_iff.mp keyed
    cases same
    dsimp only
    have length := congrArg List.length parts'
    simp only [List.length_append, List.length_cons] at length
    have shorter' := length_lt_of_takenValue readSecond
    obtain ⟨gap', lit', between', parts'', spells'⟩ :=
      values tail (by omega) second after' readSecond
    refine ⟨by omega, front ++ (lit ++ (gap ++ 0x3d :: 0x3e :: (gap' ++ lit'))), ?_, ?_⟩
    · rw [parts, parts', parts'']
      simp
    · intro back after
      have stands := Value.standsFor_iff.mpr (toOption_eq_some_iff.mp cast)
      have item := SpellsItem.keyed before spells stands between between' spells' after
      simpa using item
  · cases continued
    refine ⟨shorter, front ++ lit, by rw [parts, List.append_assoc], fun back after => ?_⟩
    rw [List.append_assoc]
    exact .positional before spells after

/-- A text starts with the entries of an array and its closing bracket, and they make up a value
with the entries of a table.
-/
def EntriesSpell (closer : Byte) (table : Table) (s : Bytes) (v : Value) (left : Bytes) : Prop :=
  ∃ inner items,
    s = inner ++ closer :: left
    ∧ SpellsItems inner items
    ∧ v = .array (items.foldl Table.add table).entries

/-- What follows an entry is read as the grammar spells it, given that further entries are. -/
theorem takenAfter_sound {closer : Byte} {table : Table} {item : Item} {text after left : Bytes}
    {v : Value} (spells : ∀ back, Blank back → SpellsItem (text ++ back) item)
    (further
      : ∀ rest : Bytes,
          rest.length < after.length
            → takenEntries closer (table.add item) rest = some (v, left)
              → EntriesSpell closer (table.add item) rest v left)
    (h : takenAfter closer (table.add item) after = some (v, left))
    : EntriesSpell closer table (text ++ after) v left := by
  obtain ⟨back, blank, parts⟩ := skipBlank_split after
  unfold takenAfter at h
  split at h
  · cases h
  rename_i c rest here
  rw [here] at parts
  split at h
  · rename_i comma
    have shorter : rest.length < after.length := by
      rw [parts, List.length_append, List.length_cons]
      omega
    obtain ⟨inner, items, same, inside, rfl⟩ := further rest shorter h
    obtain rfl := beq_iff_eq.mp comma
    refine ⟨_, item :: items, ?_, .more (spells back blank) inside, rfl⟩
    rw [parts, same]
    simp
  split at h
  · rename_i same
    cases h
    obtain rfl := beq_iff_eq.mp same
    refine ⟨_, [item], ?_, .last (spells back blank), rfl⟩
    rw [parts, List.append_assoc]
  · cases h

/-- A word is read as the grammar spells it, given that arrays are. -/
theorem takenWord_sound {name after left : Bytes} {v : Value}
    (arrays
      : ∀ inner : Bytes,
          inner.length < after.length
            → takenEntries 0x29 {} inner = some (v, left)
              → EntriesSpell 0x29 {} inner v left)
    (h : takenWord (Bytes.lower name) after = some (v, left))
    : ∃ lit, name ++ after = lit ++ left ∧ Spells lit v := by
  unfold takenWord at h
  split at h
  · rename_i found
    cases h
    obtain ⟨letters, -⟩ := letters_of_constant? found
    rw [← (Bytes.lower_eq_iff letters).mp rfl] at found
    exact ⟨name, rfl, .word found⟩
  split at h
  · rename_i array
    have word := (Bytes.lower_eq_iff letters_of_array.1).mp (beq_iff_eq.mp array)
    obtain ⟨gap, blank, parts⟩ := skipBlank_split after
    split at h
    · cases h
    rename_i d inner opened
    rw [opened] at parts
    split at h
    · rename_i parenthesis
      have shorter : inner.length < after.length := by
        rw [parts, List.length_append, List.length_cons]
        omega
      obtain ⟨body, items, rfl, inside, rfl⟩ := arrays inner shorter h
      obtain rfl := beq_iff_eq.mp parenthesis
      refine ⟨_, ?_, .parentheses word blank inside⟩
      rw [parts]
      simp
    · cases h
  · cases h

mutual

/-- What is read as a value is blanks and a literal for it, by induction on the length of the
text.
-/
theorem takenValue_sound {s left : Bytes} {v : Value} (h : takenValue s = some (v, left))
    : ∃ front lit, Blank front ∧ s = front ++ (lit ++ left) ∧ Spells lit v := by
  obtain ⟨front, blank, parts⟩ := skipBlank_split s
  rw [takenValue_eq] at h
  split at h
  · cases h
  rename_i c rest here
  rw [here] at parts
  have shorter : rest.length < s.length := by
    rw [parts, List.length_append, List.length_cons]
    omega
  split at h
  · cases h
  split at h
  · rename_i quote
    obtain ⟨⟨content, after⟩, found, same⟩ := Option.map_eq_some_iff.mp h
    cases same
    obtain ⟨body, rfl, inside, rfl⟩ := singleQuoted_eq_some_iff.mp found
    obtain rfl := beq_iff_eq.mp quote
    exact ⟨front, _, blank, by simpa using parts, .single inside⟩
  split at h
  · rename_i quote
    obtain ⟨⟨content, after⟩, found, same⟩ := Option.map_eq_some_iff.mp h
    cases same
    obtain ⟨body, rfl, inside, rfl⟩ := doubleQuoted_eq_ok_iff.mp (toOption_eq_some_iff.mp found)
    obtain rfl := beq_iff_eq.mp quote
    exact ⟨front, _, blank, by simpa using parts, .double inside⟩
  split at h
  · rename_i bracket
    obtain ⟨inner, items, rfl, inside, rfl⟩ := takenEntries_sound (.inr rfl) h
    obtain rfl := beq_iff_eq.mp bracket
    exact ⟨front, _, blank, by simpa using parts, .brackets inside⟩
  split at h
  · rename_i starts
    obtain ⟨token, same, starts, whole⟩ := number_token (toOption_eq_some_iff.mp h) starts
    exact ⟨front, token, blank, by rw [parts, same], .numeral starts whole⟩
  split at h
  · have dropped := (List.dropWhile_suffix Byte.isNamePart (l := rest)).length_le
    obtain ⟨lit, same, spells⟩ :=
      takenWord_sound (fun inner bound => takenEntries_sound (.inl rfl)) h
    rw [List.cons_append, List.takeWhile_append_dropWhile] at same
    exact ⟨front, lit, blank, by rw [parts, same], spells⟩
  · cases h
termination_by 2 * s.length
decreasing_by
  all_goals omega

/-- What is read up to a closing bracket is spelled by the grammar. -/
theorem takenEntries_sound {closer : Byte} (closes : closer = 0x29 ∨ closer = 0x5d) {table : Table}
    {s left : Bytes} {v : Value} (h : takenEntries closer table s = some (v, left))
    : EntriesSpell closer table s v left := by
  have further (read : (takenItem s).bind (fun (item, after) =>
      takenAfter closer (table.add item) after) = some (v, left))
      : EntriesSpell closer table s v left := by
    obtain ⟨⟨item, after⟩, taken, continued⟩ := Option.bind_eq_some_iff.mp read
    obtain ⟨shorter, text, parts, spells⟩ :=
      takenItem_sound (fun s' bound _ _ => takenValue_sound) taken
    rw [parts]
    exact takenAfter_sound spells (fun rest bound => takenEntries_sound closes) continued
  rw [takenEntries_eq] at h
  split at h
  · exact further h
  rename_i c rest here
  split at h
  · rename_i same
    cases h
    obtain ⟨gap, blank, parts⟩ := skipBlank_split s
    rw [here, beq_iff_eq.mp same] at parts
    exact ⟨gap, [], parts, .none blank, rfl⟩
  · exact further h
termination_by 2 * s.length + 1
decreasing_by
  all_goals omega

end

--------------------------------------------------------------------------------
-- Expressions
--------------------------------------------------------------------------------

/-- A literal without a code marker in it is a static expression, with no blanks around. -/
theorem Denotes.of_spells {s : Bytes} {v : Value}
    (static : ∀ marker ∈ codeMarkers, Bytes.occursIn marker (Bytes.lower s) = false)
    (spells : Spells s v)
    : Denotes s v :=
  ⟨static, [], s, [], .nil, spells, .nil, by simp⟩

theorem codeMarker?_eq_none_iff {expr : Bytes}
    : codeMarker? expr = none
      ↔ ∀ marker ∈ codeMarkers, Bytes.occursIn marker (Bytes.lower expr) = false := by
  rw [codeMarker?, List.find?_eq_none]
  simp only [Bool.not_eq_true]

/-- Evaluation gives exactly the values that expressions denote. -/
theorem evaluate_eq_ok_iff {expr : Bytes} {v : Value}
    : evaluate expr = .ok v ↔ Denotes expr v := by
  constructor
  · intro h
    unfold evaluate at h
    split at h
    · cases h
    · rename_i static
      dsimp only at h
      split at h
      · cases h
      · rename_i w after read
        split at h
        · rename_i ended
          cases h
          obtain ⟨front, s, before, parts, spells⟩ :=
            takenValue_sound (show takenValue expr = some (v, after.val) by rw [takenValue, read]; rfl)
          obtain ⟨back, behind, parts'⟩ := skipBlank_split after.val
          rw [ended, List.append_nil] at parts'
          exact ⟨codeMarker?_eq_none_iff.mp static, front, s, after.val, before, spells,
            parts' ▸ behind, parts⟩
        · cases h
  · rintro ⟨static, front, s, back, before, spells, behind, rfl⟩
    have ends : Delimited back := by
      have ends := @Delimited.blank_append back [] behind fun _ member => by cases member
      rwa [List.append_nil] at ends
    have read := Spells.read before ends spells
    unfold takenValue at read
    unfold evaluate
    rw [codeMarker?_eq_none_iff.mpr static]
    cases found : value (front ++ (s ++ back)) with
    | error failure =>
        rw [found] at read
        cases read
    | ok pair =>
        obtain ⟨w, rest⟩ := pair
        rw [found, taken_ok, Option.some.injEq, Prod.mk.injEq] at read
        obtain ⟨rfl, same⟩ := read
        simp only [same, skipBlank_blank behind]

/-- Evaluation accepts the static expressions and nothing else: any other text is refused as no
static literal.
-/
theorem evaluate_accepts_iff (expr : Bytes)
    : ((∃ v, evaluate expr = .ok v) ↔ ∃ v, Denotes expr v)
      ∧ ((∃ error,
            evaluate expr = .error error
            ∧ Bytes.ofString "not a static literal" <+: error.message)
          ↔ ¬ ∃ v, Denotes expr v) := by
  refine ⟨exists_congr fun v => evaluate_eq_ok_iff, ?_, fun none => ?_⟩
  · rintro ⟨error, refused, -⟩ ⟨v, denotes⟩
    rw [evaluate_eq_ok_iff.mpr denotes] at refused
    cases refused
  · cases result : evaluate expr with
    | ok v => exact (none ⟨v, evaluate_eq_ok_iff.mp result⟩).elim
    | error error =>
        refine ⟨error, rfl, ?_⟩
        cases error with
        | code marker =>
            have front : Bytes.ofString "not a static literal"
                <+: Bytes.ofString "not a static literal: contains " := by decide
            exact front.trans (List.prefix_append _ _)
        | stopped offset cause =>
            have front : Bytes.ofString "not a static literal"
                <+: Bytes.ofString "not a static literal: offset " := by decide
            rw [LiteralError.message, List.append_assoc, List.append_assoc]
            exact front.trans (List.prefix_append _ _)

end FormMigrate.Literal
