import FormMigrate.Proofs.Literal.Arrays

/-! Where values without a key go: under the counter of the array, which is behind every word that
is a key, save that behind the largest word there is no room.
-/

namespace FormMigrate

/-- A word is the next position behind keys: it is zero or comes right behind one of them, and all
words among them are below it, with the largest word left aside.
-/
structure NextPosition (keys : List Key) (next : Int64) : Prop where
  start : next = 0 ∨ ∃ n : Int64, Key.int n ∈ keys ∧ 0 ≤ n.toInt ∧ n.toInt + 1 = next.toInt
  below : ∀ n : Int64, Key.int n ∈ keys → n ≠ Table.maxWord → n.toInt < next.toInt

namespace NextPosition

theorem nil : NextPosition [] 0 where
  start := .inl rfl
  below _ member := by cases member

variable {keys : List Key} {next : Int64}

theorem nonnegative (position : NextPosition keys next) : 0 ≤ next.toInt := by
  rcases position.start with rfl | ⟨n, -, nonnegative, successor⟩
  · exact Int.le_refl 0
  · omega

/-- Words are apart from the largest one when they are below it. -/
theorem lt_maxWord {n : Int64} (other : n ≠ Table.maxWord) : n < Table.maxWord := by
  have most : n.toInt < 9223372036854775808 := Int64.toInt_lt n
  have largest : Table.maxWord.toInt = 9223372036854775807 := rfl
  have apart : n.toInt ≠ Table.maxWord.toInt := fun same => other (Int64.toInt_inj.mp same)
  rw [Int64.lt_iff_toInt_lt]
  omega

/-- A key that is written keeps the counter of a table behind the keys.
Witness: the counter moves behind a word that is not below it, and a word below it or without
another one behind it asks for nothing.
-/
theorem insert {table : Table} (position : NextPosition keys table.next) (key : Key) (value : Value)
    : NextPosition (keys ++ [key]) (table.insert key value).next := by
  have kept (further : ∀ n, key = .int n → n ≠ Table.maxWord → n.toInt < table.next.toInt)
      : NextPosition (keys ++ [key]) table.next := by
    refine ⟨position.start.imp_right fun ⟨n, member, rest⟩ =>
      ⟨n, List.mem_append_left _ member, rest⟩, fun n member other => ?_⟩
    rcases List.mem_append.mp member with earlier | last
    · exact position.below n earlier other
    · exact further n (List.mem_singleton.mp last).symm other
  cases key with
  | text s => exact kept nofun
  | int n =>
      have nonnegative := position.nonnegative
      rw [Table.insert]
      dsimp only
      split
      · rename_i moves
        rw [Bool.and_eq_true, decide_eq_true_eq, decide_eq_true_eq, Int64.le_iff_toInt_le] at moves
        have successor := Literal.toInt_add_one moves.2
        refine ⟨.inr ⟨n, by simp, by omega, successor.symm⟩, fun m member other => ?_⟩
        rcases List.mem_append.mp member with earlier | last
        · have := position.below m earlier other
          omega
        · obtain rfl := Key.int.inj (List.mem_singleton.mp last)
          omega
      · rename_i stands
        rw [Bool.and_eq_true, decide_eq_true_eq, decide_eq_true_eq, not_and] at stands
        refine kept fun m same other => ?_
        obtain rfl := Key.int.inj same
        have notBehind := mt stands (not_not.mpr (lt_maxWord other))
        rwa [Int64.le_iff_toInt_le, Int.not_le] at notBehind

/-- The next position is taken exactly when the two largest words are. -/
theorem mem_iff (position : NextPosition keys next)
    : Key.int next ∈ keys
      ↔ Key.int Table.maxWord ∈ keys ∧ Key.int (Table.maxWord - 1) ∈ keys := by
  have largest : Table.maxWord.toInt = 9223372036854775807 := rfl
  have second : (Table.maxWord - 1).toInt = 9223372036854775806 := rfl
  constructor
  · intro taken
    obtain rfl : next = Table.maxWord := by
      by_contra other
      exact Int.lt_irrefl _ (position.below next taken other)
    refine ⟨taken, ?_⟩
    rcases position.start with zero | ⟨n, member, -, successor⟩
    · cases zero
    · have same : n = Table.maxWord - 1 := by
        rw [← Int64.toInt_inj]
        omega
      exact same ▸ member
  · rintro ⟨taken, previous⟩
    have behind := position.below _ previous (by decide)
    have most : next.toInt < 9223372036854775808 := Int64.toInt_lt next
    have same : next = Table.maxWord := by
      rw [← Int64.toInt_inj]
      omega
    exact same ▸ taken

end NextPosition

namespace Literal

--------------------------------------------------------------------------------
-- The counter of a literal
--------------------------------------------------------------------------------

/-- An entry that is added keeps the counter behind the keys that are written. -/
theorem nextPosition_add {table : Table} {done : Entries}
    (position : NextPosition (done.map Prod.fst) table.next) (item : Item)
    : NextPosition ((done ++ [(keyIn table item, item.value)]).map Prod.fst)
        (table.add item).next := by
  rw [List.map_append, add_eq]
  exact position.insert _ _

/-- The counter stays behind the keys that are written, by induction on the entries. -/
theorem nextPosition_foldl {table : Table} {done : Entries}
    (position : NextPosition (done.map Prod.fst) table.next) (items : List Item)
    : NextPosition ((done ++ writesFrom table items).map Prod.fst)
        (items.foldl Table.add table).next := by
  induction items generalizing table done with
  | nil => exact (List.append_nil done).symm ▸ position
  | cons item items ih =>
      rw [List.foldl_cons, writesFrom, List.append_cons]
      exact ih (nextPosition_add position item)

/-- A word that was written is written again only by an entry that has it for its key, or by one
without a key when it is the largest word.
-/
theorem not_mem_writesFrom {table : Table} {done : Entries}
    (position : NextPosition (done.map Prod.fst) table.next) {n : Int64}
    (written : Key.int n ∈ done.map Prod.fst) {items : List Item}
    (unnamed : ∀ item ∈ items, item.key ≠ some (.int n))
    (room : n = Table.maxWord → ∀ item ∈ items, item.key ≠ none)
    : Key.int n ∉ (writesFrom table items).map Prod.fst := by
  induction items generalizing table done with
  | nil => exact List.not_mem_nil
  | cons item items ih =>
      rw [List.forall_mem_cons] at unnamed
      have here : Key.int n ≠ keyIn table item := by
        intro same
        cases key : item.key with
        | some given =>
            rw [keyIn, key, Option.getD_some] at same
            exact unnamed.1 (key.trans (congrArg some same.symm))
        | none =>
            rw [keyIn, key, Option.getD_none, Key.int.injEq] at same
            have other : n ≠ Table.maxWord := fun largest =>
              room largest item List.mem_cons_self key
            exact Int.lt_irrefl _ (same ▸ position.below n written other)
      have kept : Key.int n ∈ (done ++ [(keyIn table item, item.value)]).map Prod.fst := by
        rw [List.map_append]
        exact List.mem_append_left _ written
      have later := ih (nextPosition_add position item) kept unnamed.2 fun largest other member =>
        room largest other (List.mem_cons_of_mem _ member)
      rw [writesFrom, List.map_cons, List.mem_cons, not_or]
      exact ⟨here, later⟩

/-- A value without a key is written under the next position behind the keys that were written
before. An earlier entry has that key only when the two largest words are taken, and a later one
writes over it only by giving the key, or by taking the largest word once more.
-/
structure Positioned (entries : Entries) (before : List Item) (value : Value) (behind : List Item)
    (next : Int64) : Prop where
  written
    : ∃ later, writes (before ++ ⟨none, value⟩ :: behind)
        = writes before ++ (.int next, value) :: later
  position : NextPosition ((writes before).map Prod.fst) next
  taken
    : Key.int next ∈ (writes before).map Prod.fst
      ↔ Key.int Table.maxWord ∈ (writes before).map Prod.fst
        ∧ Key.int (Table.maxWord - 1) ∈ (writes before).map Prod.fst
  kept
    : (∀ item ∈ behind, item.key ≠ some (.int next))
      → (next = Table.maxWord → ∀ item ∈ behind, item.key ≠ none)
      → (.int next, value) ∈ entries

/-- In every array of an evaluated value, at any depth, each value without a key is positioned
behind the keys before it, and is lost only to a later entry.
Witness: every write keeps the counter behind the keys.
-/
theorem evaluate_positions {expr : Bytes} {v : Value} (evaluated : evaluate expr = .ok v)
    {path : List Key} {entries : Entries} (found : v.under? path = some (.array entries))
    : ∃ parts,
        LiteralIn expr path parts
        ∧ HoldsWrites entries (writes (parts.map Prod.fst))
        ∧ ∀ before value behind,
            parts.map Prod.fst = before ++ ⟨none, value⟩ :: behind
              → ∃ next, Positioned entries before value behind next := by
  obtain ⟨parts, literal, records⟩ := literalIn_of_evaluate evaluated found
  refine ⟨parts, literal, records, fun before value behind split => ?_⟩
  let table := before.foldl Table.add {}
  let item : Item := ⟨none, value⟩
  have position : NextPosition ((writes before).map Prod.fst) table.next :=
    @nextPosition_foldl {} [] .nil before
  have written : writes (before ++ item :: behind)
      = writes before ++ (.int table.next, value) :: writesFrom (table.add item) behind :=
    writesFrom_append _ _ _
  refine ⟨table.next, ⟨_, written⟩, position, position.mem_iff, fun unnamed room => ?_⟩
  have last :=
    not_mem_writesFrom (nextPosition_add position item) (by simp [keyIn, item]) unnamed room
  rw [split, written] at records
  exact (records.values _ _).mpr ⟨_, _, rfl, last⟩

/-- Values without a key stand behind the words before them, negative ones and texts among them. -/
theorem evaluate_positions_mixed
    : ∃ entries,
        evaluate "['a', -5 => 'b', '7' => 'c', 'd', 'e']" = .ok (.array entries)
        ∧ entries.map Prod.fst = [.int 0, .int (-5), .int 7, .int 8, .int 9]
        ∧ ∃ parts,
            LiteralIn "['a', -5 => 'b', '7' => 'c', 'd', 'e']" [] parts
            ∧ HoldsWrites entries (writes (parts.map Prod.fst))
            ∧ ∀ before value behind,
                parts.map Prod.fst = before ++ ⟨none, value⟩ :: behind
                  → ∃ next, Positioned entries before value behind next := by
  have evaluated
      : evaluate "['a', -5 => 'b', '7' => 'c', 'd', 'e']"
        = .ok (.array [(.int 0, .text "a"), (.int (-5), .text "b"), (.int 7, .text "c"),
            (.int 8, .text "d"), (.int 9, .text "e")]) := by
    cbv
  exact ⟨_, evaluated, rfl, evaluate_positions evaluated rfl⟩

/-- Behind the largest word the counter stands still: the last value takes the place of the one
before it, and nothing is refused.
-/
theorem evaluate_loses_position
    : ∃ parts,
        SpellsArray "[9223372036854775806 => 'a', 'b', 'c']" parts
        ∧ parts.map Prod.fst
          = [⟨some (.int 9223372036854775806), .text "a"⟩, ⟨none, .text "b"⟩, ⟨none, .text "c"⟩]
        ∧ evaluate "[9223372036854775806 => 'a', 'b', 'c']"
          = .ok (.array [(.int 9223372036854775806, .text "a"), (.int Table.maxWord, .text "c")]) := by
  have letter (c : Byte) (inside : c ≠ 0x27) (bare : c ≠ 0x5c) (same : singleContent [c] = [c])
      : Spells (0x27 :: ([c] ++ [0x27])) (.text [c]) := by
    have body : StringBody 0x27 [c] := .plain inside bare (absurd · (by decide)) .nil
    have spells := Spells.single body
    rwa [same] at spells
  have key : Spells "9223372036854775806" (.int 9223372036854775806) := .numeral rfl (by cbv)
  have space : Blank [0x20] := List.forall_mem_singleton.mpr rfl
  have none : Blank [] := Blank.nil
  refine ⟨_, .brackets (.more (.keyed none key (.int _) space space (letter 0x61 ?_ ?_ ?_) none)
    (.more (.positional space (letter 0x62 ?_ ?_ ?_) none)
      (.last (.positional space (letter 0x63 ?_ ?_ ?_) none)))), rfl, by cbv⟩ <;> decide

end Literal

end FormMigrate
