import FormMigrate.Proofs.Literal.Acceptance
import FormMigrate.Proofs.Literal.Keys

/-! Arrays of evaluated values: each of them has its literal in the expression, whose entries it
records under the keys that they cast to, in the order of the first and with the value of the last
one under a key.
-/

namespace FormMigrate

/-- The value that stands in another one under keys, from the outermost array inwards. -/
def Value.under? : Value → List Key → Option Value
  | v, [] => some v
  | .array entries, key :: path => (Entries.get? entries key).bind (Value.under? · path)
  | _, _ :: _ => none

--------------------------------------------------------------------------------
-- What is found under a key
--------------------------------------------------------------------------------

namespace Entries

variable {entries : Entries} {key : Key} {value : Value}

theorem get?_eq_none_iff : entries.get? key = none ↔ key ∉ entries.map Prod.fst := by
  induction entries with
  | nil => simp [get?]
  | cons entry rest ih =>
      obtain ⟨k, v⟩ := entry
      rw [get?, List.map_cons, List.mem_cons, not_or]
      split
      · rename_i same
        simp [same]
      · rename_i other
        rw [ih]
        exact ⟨fun behind => ⟨Ne.symm other, behind⟩, And.right⟩

/-- Where no key stands twice, the value under a key is the one of its entry. -/
theorem get?_eq_some_iff (distinct : (entries.map Prod.fst).Nodup)
    : entries.get? key = some value ↔ (key, value) ∈ entries := by
  induction entries with
  | nil => simp [get?]
  | cons entry rest ih =>
      obtain ⟨k, v⟩ := entry
      rw [List.map_cons, List.nodup_cons] at distinct
      rw [get?, List.mem_cons, Prod.mk.injEq]
      split
      · rename_i same
        subst same
        have once : (k, value) ∉ rest := fun behind =>
          distinct.1 (List.mem_map.mpr ⟨_, behind, rfl⟩)
        simp [once, eq_comm]
      · rename_i other
        rw [ih distinct.2]
        simp [Ne.symm other]

theorem has_iff {name : Bytes}
    : entries.has name = true ↔ Key.ofText name ∈ entries.map Prod.fst := by
  rw [has, Option.isSome_iff_ne_none, ne_eq, get?_eq_none_iff, not_not]

theorem lookup?_eq_some_iff (distinct : (entries.map Prod.fst).Nodup) {name : Bytes}
    : entries.lookup? name = some value
      ↔ (Key.ofText name, value) ∈ entries ∧ value ≠ .null := by
  rw [← get?_eq_some_iff distinct, lookup?]
  cases found : entries.get? (Key.ofText name) with
  | none => simp
  | some v =>
      cases v <;> simp +contextual [eq_comm]

theorem lookup?_eq_none_iff (distinct : (entries.map Prod.fst).Nodup) {name : Bytes}
    : entries.lookup? name = none
      ↔ Key.ofText name ∉ entries.map Prod.fst ∨ (Key.ofText name, .null) ∈ entries := by
  rw [← get?_eq_none_iff, ← get?_eq_some_iff distinct, lookup?]
  cases found : entries.get? (Key.ofText name) with
  | none => simp
  | some v => cases v <;> simp

/-- Setting a value adds its entry and takes away any other one under its key. -/
theorem mem_insert (distinct : (entries.map Prod.fst).Nodup) {entry : Key × Value}
    : entry ∈ entries.insert key value ↔ entry = (key, value) ∨ entry.1 ≠ key ∧ entry ∈ entries := by
  induction entries with
  | nil => simp [insert]
  | cons first rest ih =>
      obtain ⟨k, v⟩ := first
      rw [List.map_cons, List.nodup_cons] at distinct
      rw [insert]
      split
      · rename_i same
        subst same
        have apart : entry ∈ rest → entry.1 ≠ k := by
          rintro behind rfl
          exact distinct.1 (List.mem_map.mpr ⟨_, behind, rfl⟩)
        grind
      · rename_i other
        rw [List.mem_cons, ih distinct.2]
        grind

end Entries

--------------------------------------------------------------------------------
-- What was written
--------------------------------------------------------------------------------

/-- A value is the last one that was written under a key. -/
def LastWritten (writes : Entries) (key : Key) (value : Value) : Prop :=
  ∃ before behind, writes = before ++ (key, value) :: behind ∧ key ∉ behind.map Prod.fst

/-- One more write is the last one under its key, and leaves the others alone. -/
theorem lastWritten_append {writes : Entries} {write : Key × Value} {key : Key} {value : Value}
    : LastWritten (writes ++ [write]) key value
      ↔ (key, value) = write ∨ key ≠ write.1 ∧ LastWritten writes key value := by
  constructor
  · rintro ⟨before, behind, parts, last⟩
    rcases List.eq_nil_or_concat behind with rfl | ⟨behind, final, rfl⟩
    · exact .inl (List.singleton_inj.mp (List.append_inj' parts rfl).2).symm
    · rw [List.concat_eq_append, ← List.cons_append, ← List.append_assoc] at parts
      obtain ⟨front, same⟩ := List.append_inj' parts rfl
      obtain rfl := List.singleton_inj.mp same
      rw [List.concat_eq_append, List.map_append, List.mem_append, not_or] at last
      exact .inr ⟨fun same => last.2 (by simp [same]), before, behind, front, last.1⟩
  · rintro (rfl | ⟨other, before, behind, rfl, last⟩)
    · exact ⟨writes, [], rfl, List.not_mem_nil⟩
    · refine ⟨before, behind ++ [write], by simp, ?_⟩
      rw [List.map_append, List.mem_append, not_or]
      exact ⟨last, fun same => other (List.mem_singleton.mp same)⟩

/-- The entries of an array after some writes: its keys are those that were written, in the order of
the first write under each, and have the values of the last one.
-/
structure HoldsWrites (entries writes : Entries) : Prop where
  keys : entries.map Prod.fst = (writes.map Prod.fst).eraseDups
  values : ∀ key value, (key, value) ∈ entries ↔ LastWritten writes key value
  distinct : (entries.map Prod.fst).Nodup

theorem HoldsWrites.nil : HoldsWrites [] [] where
  keys := rfl
  values _ _ := by simp [LastWritten]
  distinct := List.nodup_nil

theorem HoldsWrites.insert {entries writes : Entries} (records : HoldsWrites entries writes)
    (key : Key) (value : Value)
    : HoldsWrites (entries.insert key value) (writes ++ [(key, value)]) where
  keys := by
    have known : key ∈ writes.map Prod.fst ↔ key ∈ entries.map Prod.fst := by
      rw [records.keys, List.mem_eraseDups]
    rw [List.map_append, List.eraseDups_append, ← records.keys]
    by_cases present : key ∈ entries.map Prod.fst
    · have old : List.removeAll [key] (writes.map Prod.fst) = [] :=
        List.filter_cons_of_neg (by simpa using known.mpr present)
      rw [Entries.keys_insert_of_mem present, List.map_singleton, old, List.eraseDups_nil,
        List.append_nil]
    · have new : List.removeAll [key] (writes.map Prod.fst) = [key] :=
        List.filter_cons_of_pos (by simpa using mt known.mp present)
      rw [Entries.insert_of_not_mem present, List.map_append, List.map_singleton, new]
      rfl
  values k v := by
    rw [Entries.mem_insert records.distinct, lastWritten_append, records.values]
  distinct := Entries.nodup_insert records.distinct

--------------------------------------------------------------------------------
-- Literals of arrays
--------------------------------------------------------------------------------

namespace Literal

/-- A text spells an entry of an array, and the second text the value of the entry. -/
inductive SpellsEntry : Bytes → Item → Bytes → Prop
  | positional {front s back : Bytes} {v : Value} (before : Blank front) (spells : Spells s v)
    (after : Blank back)
    : SpellsEntry (front ++ (s ++ back)) ⟨none, v⟩ s
  | keyed {front k gap gap' s back : Bytes} {given v : Value} {key : Key} (before : Blank front)
    (spellsKey : Spells k given) (stands : given.StandsFor key) (between : Blank gap)
    (between' : Blank gap') (spells : Spells s v) (after : Blank back)
    : SpellsEntry (front ++ (k ++ (gap ++ 0x3d :: 0x3e :: (gap' ++ (s ++ back))))) ⟨some key, v⟩ s

/-- A text spells the entries of an array, with the texts of their values. -/
inductive SpellsEntries : Bytes → List (Item × Bytes) → Prop
  | none {gap : Bytes} (blank : Blank gap) : SpellsEntries gap []
  | last {s value : Bytes} {item : Item} (spells : SpellsEntry s item value)
    : SpellsEntries s [(item, value)]
  | more {s value rest : Bytes} {item : Item} {parts : List (Item × Bytes)}
    (spells : SpellsEntry s item value) (behind : SpellsEntries rest parts)
    : SpellsEntries (s ++ 0x2c :: rest) ((item, value) :: parts)

/-- A text is the literal of an array with the given entries, with the texts of their values. -/
inductive SpellsArray : Bytes → List (Item × Bytes) → Prop
  | brackets {inner : Bytes} {parts : List (Item × Bytes)} (inside : SpellsEntries inner parts)
    : SpellsArray (0x5b :: (inner ++ [0x5d])) parts
  | parentheses {word gap inner : Bytes} {parts : List (Item × Bytes)}
    (names : Bytes.lowerAscii word = Bytes.ofString "array") (blank : Blank gap)
    (inside : SpellsEntries inner parts)
    : SpellsArray (word ++ (gap ++ 0x28 :: (inner ++ [0x29]))) parts

theorem SpellsEntry.value {s value : Bytes} {item : Item} (h : SpellsEntry s item value)
    : Spells value item.value := by
  cases h with
  | positional _ spells => exact spells
  | keyed _ _ _ _ _ spells => exact spells

theorem SpellsItem.entry {s : Bytes} {item : Item} (h : SpellsItem s item)
    : ∃ value, SpellsEntry s item value := by
  cases h with
  | positional before spells after => exact ⟨_, .positional before spells after⟩
  | keyed before spellsKey stands between between' spells after =>
      exact ⟨_, .keyed before spellsKey stands between between' spells after⟩

/-- The entries of an array are spelled with texts of their values, by induction on the entries. -/
theorem SpellsItems.entries
    : {items : List Item} → {s : Bytes} → SpellsItems s items
      → ∃ parts, SpellsEntries s parts ∧ parts.map Prod.fst = items
  | _, _, .none blank => ⟨[], .none blank, rfl⟩
  | _, _, .last spells => by
      obtain ⟨value, entry⟩ := spells.entry
      exact ⟨[(_, value)], .last entry, rfl⟩
  | _, _, .more spells behind => by
      obtain ⟨value, entry⟩ := spells.entry
      obtain ⟨parts, entries, same⟩ := SpellsItems.entries behind
      exact ⟨(_, value) :: parts, .more entry entries, congrArg (_ :: ·) same⟩

theorem SpellsEntries.value {s : Bytes} {parts : List (Item × Bytes)} (h : SpellsEntries s parts)
    : ∀ part ∈ parts, Spells part.2 part.1.value := by
  induction h with
  | none => exact List.forall_mem_nil _
  | last spells => exact List.forall_mem_singleton.mpr spells.value
  | more spells _ ih => exact List.forall_mem_cons.mpr ⟨spells.value, ih⟩

theorem SpellsArray.value {s : Bytes} {parts : List (Item × Bytes)} (h : SpellsArray s parts)
    : ∀ part ∈ parts, Spells part.2 part.1.value := by
  cases h with
  | brackets inside => exact inside.value
  | parentheses _ _ inside => exact inside.value

/-- Arrays are spelled by literals of arrays only. -/
theorem Spells.array {s : Bytes} {entries : Entries} (spells : Spells s (.array entries))
    : ∃ parts, SpellsArray s parts ∧ arrayOf (parts.map Prod.fst) = .array entries := by
  generalize same : Value.array entries = v at spells
  cases spells with
  | single => cases same
  | double => cases same
  | word names => exact (scalar_of_constant? names entries same.symm).elim
  | numeral _ whole =>
      obtain ⟨_, _, _, value⟩ := number_eq_ok_iff.mp whole
      exact (Numeral.scalar value entries same.symm).elim
  | brackets inside =>
      obtain ⟨parts, listed, rfl⟩ := inside.entries
      exact ⟨parts, .brackets listed, rfl⟩
  | parentheses names blank inside =>
      obtain ⟨parts, listed, rfl⟩ := inside.entries
      exact ⟨parts, .parentheses names blank listed, rfl⟩

--------------------------------------------------------------------------------
-- What a literal writes
--------------------------------------------------------------------------------

/-- The key that an entry is written under: its own, or the counter. -/
def keyIn (table : Table) (item : Item) : Key := item.key.getD (.int table.next)

theorem add_eq (table : Table) (item : Item)
    : table.add item = table.insert (keyIn table item) item.value := by
  obtain ⟨key, value⟩ := item
  cases key <;> rfl

/-- What is written under which key from a table on, entry by entry. -/
def writesFrom : Table → List Item → Entries
  | _, [] => []
  | table, item :: items => (keyIn table item, item.value) :: writesFrom (table.add item) items

/-- What the entries of an array literal write under which key. -/
def writes (items : List Item) : Entries := writesFrom {} items

/-- An array under construction records what was written, by induction on the entries. -/
theorem records_foldl {table : Table} {done : Entries} (records : HoldsWrites table.entries done)
    (items : List Item)
    : HoldsWrites (items.foldl Table.add table).entries (done ++ writesFrom table items) := by
  induction items generalizing table done with
  | nil => exact (List.append_nil done).symm ▸ records
  | cons item items ih =>
      have step
          : HoldsWrites (table.add item).entries (done ++ [(keyIn table item, item.value)]) := by
        rw [add_eq]
        exact records.insert _ _
      rw [List.foldl_cons, writesFrom, List.append_cons]
      exact ih step

theorem arrayOf_records {items : List Item} {entries : Entries}
    (same : arrayOf items = .array entries)
    : HoldsWrites entries (writes items) := by
  cases same
  exact @records_foldl {} [] .nil items

theorem writesFrom_append (table : Table) (items others : List Item)
    : writesFrom table (items ++ others)
      = writesFrom table items ++ writesFrom (items.foldl Table.add table) others := by
  induction items generalizing table with
  | nil => rfl
  | cons item items ih => rw [List.cons_append, writesFrom, ih]; rfl

theorem length_writesFrom (table : Table) (items : List Item)
    : (writesFrom table items).length = items.length := by
  induction items generalizing table with
  | nil => rfl
  | cons item items ih => rw [writesFrom, List.length_cons, ih, List.length_cons]

/-- What an array literal writes is the value of the entry at the same place. -/
theorem part_of_write {parts : List (Item × Bytes)} {earlier later : Entries} {key : Key}
    {value : Value} (written : writes (parts.map Prod.fst) = earlier ++ (key, value) :: later)
    : ∃ before part behind,
        parts = before ++ part :: behind ∧ earlier.length = before.length ∧ part.1.value = value := by
  have inside : earlier.length < parts.length := by
    have length := congrArg List.length written
    rw [writes, length_writesFrom, List.length_map, List.length_append, List.length_cons] at length
    omega
  have split := List.take_append_drop earlier.length parts
  rw [List.drop_eq_getElem_cons inside] at split
  refine ⟨_, _, _, split.symm, (List.length_take_of_le (Nat.le_of_lt inside)).symm, ?_⟩
  rw [← split, List.map_append, List.map_cons, writes, writesFrom_append, writesFrom] at written
  have here := (List.append_inj written (by
    rw [length_writesFrom, List.length_map, List.length_take_of_le (Nat.le_of_lt inside)])).2
  exact congrArg Prod.snd (List.cons.inj here).1

/-- The literal of the array that stands in a value under keys. Under no key it is the text of the
value; under a key of an array it is found in the text of the value that is written last under the
key.
-/
inductive LiteralUnder : Bytes → List Key → Bytes → Prop
  | here (s : Bytes) : LiteralUnder s [] s
  | entry {s value literal : Bytes} {before behind : List (Item × Bytes)} {item : Item} {key : Key}
    {path : List Key} {earlier later : Entries}
    (array : SpellsArray s (before ++ (item, value) :: behind))
    (written : writes ((before ++ (item, value) :: behind).map Prod.fst)
      = earlier ++ (key, item.value) :: later)
    (position : earlier.length = before.length) (last : key ∉ later.map Prod.fst)
    (inside : LiteralUnder value path literal)
    : LiteralUnder s (key :: path) literal

/-- Every array that stands in a value has its literal in the text of the value, by induction on the
keys that it stands under.
-/
theorem Spells.under {s : Bytes} {v : Value} (spells : Spells s v) {path : List Key}
    {entries : Entries} (found : v.under? path = some (.array entries))
    : ∃ literal, LiteralUnder s path literal ∧ Spells literal (.array entries) := by
  induction path generalizing s v with
  | nil =>
      obtain rfl := Option.some.inj found
      exact ⟨s, .here s, spells⟩
  | cons key path ih =>
      cases v with
      | array outer =>
          obtain ⟨value, present, deeper⟩ := Option.bind_eq_some_iff.mp found
          obtain ⟨parts, array, same⟩ := spells.array
          have records := arrayOf_records same
          have member := (Entries.get?_eq_some_iff records.distinct).mp present
          obtain ⟨earlier, later, written, last⟩ := (records.values key value).mp member
          obtain ⟨before, ⟨item, text⟩, behind, rfl, position, rfl⟩ := part_of_write written
          obtain ⟨literal, inside, shown⟩ :=
            ih (array.value _ (List.mem_append_right _ List.mem_cons_self)) deeper
          exact ⟨literal, .entry array written position last inside, shown⟩
      | _ => cases found

theorem settled_of_mem_keys {entries : Entries} (settled : EntriesSettled entries) {key : Key}
    (member : key ∈ entries.map Prod.fst)
    : key.Settled := by
  induction entries with
  | nil => cases member
  | cons entry rest ih =>
      obtain ⟨cast, -, behind⟩ := settled
      rcases List.mem_cons.mp member with rfl | later
      · exact cast
      · exact ih behind later

--------------------------------------------------------------------------------
-- Arrays in what was evaluated
--------------------------------------------------------------------------------

/-- A text is looked up under the one key that it stands for: it is present with that key, and it is
found with a value of that key other than null.
-/
structure AnswersUnder (entries : Entries) (name : Bytes) (key : Key) : Prop where
  cast : ∀ other, Key.IsCast name other ↔ other = key
  has : entries.has name = true ↔ key ∈ entries.map Prod.fst
  found : ∀ value, entries.lookup? name = some value ↔ (key, value) ∈ entries ∧ value ≠ .null
  missing : entries.lookup? name = none ↔ key ∉ entries.map Prod.fst ∨ (key, .null) ∈ entries

theorem answersUnder_ofText {entries : Entries} (distinct : (entries.map Prod.fst).Nodup)
    (name : Bytes)
    : AnswersUnder entries name (Key.ofText name) where
  cast other := by rw [← Key.ofText_eq_iff, eq_comm]
  has := Entries.has_iff
  found _ := Entries.lookup?_eq_some_iff distinct
  missing := Entries.lookup?_eq_none_iff distinct

/-- The literal that stands in an expression for the array under keys of its value, by its entries.
-/
def LiteralIn (expr : Bytes) (path : List Key) (parts : List (Item × Bytes)) : Prop :=
  ∃ front s back literal,
    Blank front
    ∧ Blank back
    ∧ expr = front ++ (s ++ back)
    ∧ LiteralUnder s path literal
    ∧ SpellsArray literal parts

/-- Every array that stands in an evaluated value, at any depth, has a literal in the expression and
records what the literal writes.
-/
theorem literalIn_of_evaluate {expr : Bytes} {v : Value} (evaluated : evaluate expr = .ok v)
    {path : List Key} {entries : Entries} (found : v.under? path = some (.array entries))
    : ∃ parts, LiteralIn expr path parts ∧ HoldsWrites entries (writes (parts.map Prod.fst)) := by
  obtain ⟨-, front, s, back, before, spells, behind, padded⟩ := evaluate_eq_ok_iff.mp evaluated
  obtain ⟨literal, inside, shown⟩ := spells.under found
  obtain ⟨parts, array, same⟩ := shown.array
  exact ⟨parts, ⟨front, s, back, literal, before, behind, padded, inside, array⟩,
    arrayOf_records same⟩

/-- Every array that stands in an evaluated value, at any depth, has a literal in the expression and
records what the literal writes. Its keys are distinct words and texts that spell no word, and every
text is looked up under the key that it casts to.
Witness: the literal is found along the keys of the array; the entries are added to its table one
after the other, each setting its value in place.
-/
theorem evaluate_keys {expr : Bytes} {v : Value} (evaluated : evaluate expr = .ok v)
    {path : List Key} {entries : Entries} (found : v.under? path = some (.array entries))
    : (entries.map Prod.fst).Nodup
      ∧ (∀ s, Key.text s ∈ entries.map Prod.fst → ∀ n : Int64, s ≠ Bytes.ofInt n.toInt)
      ∧ (∃ parts, LiteralIn expr path parts ∧ HoldsWrites entries (writes (parts.map Prod.fst)))
      ∧ ∀ name, ∃ key, AnswersUnder entries name key := by
  obtain ⟨-, _, _, _, -, spells, -⟩ := evaluate_eq_ok_iff.mp evaluated
  obtain ⟨_, -, shown⟩ := spells.under found
  obtain ⟨distinct, settled⟩ := shown.settled
  refine ⟨distinct, fun t member => ?_, literalIn_of_evaluate evaluated found, fun name =>
    ⟨_, answersUnder_ofText distinct name⟩⟩
  have cast : Key.ofText t = .text t := (settled_of_mem_keys settled member).ofText_plain
  exact (Key.ofText_eq_iff.mp cast).2

/-- Spellings of one key meet in its entry, in the outer array and in the one inside. -/
theorem evaluate_keys_nested
    : ∃ outer inner,
        evaluate "[true => 'a', '01' => [5 => 'b', '-0' => 1, '5' => null, 'c'], 1 => 'd']"
          = .ok (.array outer)
        ∧ (Value.array outer).under? [.text "01"] = some (.array inner)
        ∧ outer.map Prod.fst = [.int 1, .text "01"]
        ∧ inner.map Prod.fst = [.int 5, .text "-0", .int 6]
        ∧ ∀ name, ∃ key, AnswersUnder inner name key := by
  have evaluated
      : evaluate "[true => 'a', '01' => [5 => 'b', '-0' => 1, '5' => null, 'c'], 1 => 'd']"
        = .ok (.array [(.int 1, .text "d"),
            (.text "01", .array [(.int 5, .null), (.text "-0", .int 1), (.int 6, .text "c")])]) := by
    cbv
  obtain ⟨-, -, -, answers⟩ :=
    @evaluate_keys _ _ evaluated [.text "01"]
      [(.int 5, .null), (.text "-0", .int 1), (.int 6, .text "c")] rfl
  exact ⟨_, _, evaluated, rfl, rfl, rfl, answers⟩

end Literal

end FormMigrate
