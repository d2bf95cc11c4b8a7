import FormMigrate.Proofs.Literal.Numerals

/-! Arrays that were built entry by entry: no key stands twice, each key is one that a cast gives,
and adding the entries again in order, with keys or as a list, builds the same array.
-/

namespace FormMigrate

--------------------------------------------------------------------------------
-- Settled values
--------------------------------------------------------------------------------

/-- A key that casts to itself. -/
def Key.Settled (key : Key) : Prop := key.value.toKey = .ok key

mutual

/-- The arrays of a value have each key once, and their keys are cast. -/
def Value.Settled : Value → Prop
  | .array entries => (entries.map Prod.fst).Nodup ∧ EntriesSettled entries
  | _ => True

/-- The keys of entries are cast and their values are settled. -/
def EntriesSettled : List (Key × Value) → Prop
  | [] => True
  | (key, value) :: rest => key.Settled ∧ value.Settled ∧ EntriesSettled rest

end

/-- A value that is no array. -/
def Value.IsScalar (v : Value) : Prop := ∀ entries, v ≠ .array entries

theorem Value.IsScalar.settled {v : Value} (scalar : v.IsScalar) : v.Settled := by
  cases v with
  | array entries => exact (scalar entries rfl).elim
  | _ => trivial

theorem Key.settled_int (n : Int64) : (Key.int n).Settled := rfl

theorem Key.settled_ofText (s : Bytes) : (Key.ofText s).Settled := by
  cases spelled : canonicalWord? s with
  | some n =>
      have int : Key.ofText s = .int n := by rw [Key.ofText, spelled]
      rw [int]
      exact settled_int n
  | none =>
      have text : Key.ofText s = .text s := by rw [Key.ofText, spelled]
      rw [text]
      exact congrArg Except.ok text

/-- The key that a value casts to casts to itself. -/
theorem Key.settled_of_toKey {v : Value} {key : Key} (cast : v.toKey = .ok key) : key.Settled := by
  cases v with
  | null =>
      cases cast
      exact settled_ofText []
  | bool b =>
      cases cast
      exact settled_int _
  | int n =>
      cases cast
      exact settled_int n
  | float x =>
      cases x with
      | finite x =>
          cases cast
          exact settled_int _
      | infinity negative => cases cast
  | text s =>
      cases cast
      exact settled_ofText s
  | array entries => cases cast

--------------------------------------------------------------------------------
-- Setting values under keys
--------------------------------------------------------------------------------

namespace Entries

variable {entries : Entries} {key : Key} {value : Value}

/-- A new key comes last. -/
theorem insert_of_not_mem (new : key ∉ entries.map Prod.fst)
    : entries.insert key value = entries ++ [(key, value)] := by
  induction entries with
  | nil => rfl
  | cons entry rest ih =>
      obtain ⟨k, v⟩ := entry
      rw [List.map_cons, List.mem_cons, not_or] at new
      rw [insert, if_neg (Ne.symm new.1), ih new.2, List.cons_append]

/-- A key that is present keeps its place, and the places of the others. -/
theorem keys_insert_of_mem (present : key ∈ entries.map Prod.fst)
    : (entries.insert key value).map Prod.fst = entries.map Prod.fst := by
  induction entries with
  | nil => cases present
  | cons entry rest ih =>
      obtain ⟨k, v⟩ := entry
      rw [insert]
      split
      · rfl
      · rename_i other
        have behind := (List.mem_cons.mp present).resolve_left (Ne.symm other)
        rw [List.map_cons, List.map_cons, ih behind]

theorem nodup_insert (distinct : (entries.map Prod.fst).Nodup)
    : ((entries.insert key value).map Prod.fst).Nodup := by
  by_cases present : key ∈ entries.map Prod.fst
  · rwa [keys_insert_of_mem present]
  · rw [insert_of_not_mem present, List.map_append, List.nodup_append]
    refine ⟨distinct, List.pairwise_singleton _ _, fun k member k' last => ?_⟩
    rw [List.mem_singleton.mp last]
    rintro rfl
    exact present member

/-- The first of the entries that follow others is added to them under a new key. -/
theorem insert_append {rest : Entries}
    (distinct : ((entries ++ (key, value) :: rest).map Prod.fst).Nodup)
    : entries.insert key value ++ rest = entries ++ (key, value) :: rest
      ∧ ((entries.insert key value ++ rest).map Prod.fst).Nodup := by
  have new : key ∉ entries.map Prod.fst := by
    rw [List.map_append, List.map_cons] at distinct
    exact fun member => (List.nodup_append.mp distinct).2.2 key member key (.head _) rfl
  have same : entries.insert key value ++ rest = entries ++ (key, value) :: rest := by
    rw [insert_of_not_mem new, List.append_assoc, List.singleton_append]
  exact ⟨same, same ▸ distinct⟩

theorem entriesSettled_insert (settled : EntriesSettled entries) (cast : key.Settled)
    (inside : value.Settled)
    : EntriesSettled (entries.insert key value) := by
  induction entries with
  | nil => exact ⟨cast, inside, trivial⟩
  | cons entry rest ih =>
      obtain ⟨k, v⟩ := entry
      obtain ⟨cast', inside', settled⟩ := settled
      rw [insert]
      split
      · exact ⟨cast', inside, settled⟩
      · exact ⟨cast', inside', ih settled⟩

end Entries

/-- The array built so far is settled. -/
def Table.Settled (table : Table) : Prop := (Value.array table.entries).Settled

theorem Table.Settled.insert {table : Table} (settled : table.Settled) {key : Key} {value : Value}
    (cast : key.Settled) (inside : value.Settled)
    : (table.insert key value).Settled :=
  ⟨Entries.nodup_insert settled.1, Entries.entriesSettled_insert settled.2 cast inside⟩

--------------------------------------------------------------------------------
-- Arrays from their entries
--------------------------------------------------------------------------------

namespace Literal

/-- The key of an item is cast and its value is settled. -/
def Item.Settled (item : Item) : Prop := (∀ key ∈ item.key, key.Settled) ∧ item.value.Settled

theorem Item.Settled.add {item : Item} (settled : item.Settled) {table : Table}
    (h : table.Settled)
    : (table.add item).Settled := by
  obtain ⟨key, value⟩ := item
  cases key with
  | some key => exact h.insert (settled.1 key rfl) settled.2
  | none => exact h.insert (Key.settled_int table.next) settled.2

/-- Settled items make up a settled array, by induction on the items. -/
theorem arrayOf_settled {items : List Item} (each : ∀ item ∈ items, item.Settled)
    : (arrayOf items).Settled := by
  have run (table : Table) (start : table.Settled) : (items.foldl Table.add table).Settled := by
    induction items generalizing table with
    | nil => exact start
    | cons item items ih =>
        rw [List.forall_mem_cons] at each
        exact ih each.2 _ (each.1.add start)
  exact run {} ⟨List.nodup_nil, trivial⟩

theorem scalar_of_constant? {word : Bytes} {v : Value} (names : constant? word = some v)
    : v.IsScalar := by
  unfold constant? at names
  split at names
  · cases names
    nofun
  · split at names
    · cases names
      nofun
    · split at names
      · cases names
        nofun
      · cases names

theorem Numeral.scalar {n : Numeral} {v : Value} (value : n.value? = some v) : v.IsScalar := by
  unfold Numeral.value? at value
  split at value
  · cases value
  · split at value
    · unfold Numeral.fractionValue? at value
      split at value
      · cases value
        nofun
      · cases value
    · unfold Numeral.wholeValue? at value
      split at value
      · dsimp only at value
        split at value
        · cases value
          nofun
        · cases value
          nofun
      · cases value
        nofun
      · cases value

mutual

/-- Whatever a text spells is settled. -/
theorem Spells.settled : {s : Bytes} → {v : Value} → Spells s v → v.Settled
  | _, _, .single _ => trivial
  | _, _, .double _ => trivial
  | _, _, .word names => (scalar_of_constant? names).settled
  | _, _, .numeral _ whole =>
      let ⟨_, _, _, value⟩ := number_eq_ok_iff.mp whole
      (Numeral.scalar value).settled
  | _, _, .brackets inside => arrayOf_settled inside.settled
  | _, _, .parentheses _ _ inside => arrayOf_settled inside.settled

theorem SpellsItem.settled : {s : Bytes} → {item : Item} → SpellsItem s item → item.Settled
  | _, _, .positional _ spells _ => ⟨nofun, spells.settled⟩
  | _, _, .keyed _ _ stands _ _ spells _ =>
      ⟨fun _ member =>
        Option.some.inj member ▸ Key.settled_of_toKey (Value.standsFor_iff.mp stands),
        spells.settled⟩

theorem SpellsItems.settled
    : {s : Bytes} → {items : List Item} → SpellsItems s items → ∀ item ∈ items, item.Settled
  | _, _, .none _ => nofun
  | _, _, .last spells => List.forall_mem_singleton.mpr spells.settled
  | _, _, .more spells behind => List.forall_mem_cons.mpr ⟨spells.settled, behind.settled⟩

end

--------------------------------------------------------------------------------
-- Adding the entries again
--------------------------------------------------------------------------------

/-- The item that an entry is written as: with its key, or bare in a list. -/
def itemOf (bare : Bool) (entry : Key × Value) : Item :=
  ⟨if bare then none else some entry.1, entry.2⟩

/-- Entries with keys of their own follow those that are there. -/
theorem foldl_add_keyed {table : Table} {entries : Entries}
    (distinct : ((table.entries ++ entries).map Prod.fst).Nodup)
    : ((entries.map (itemOf false)).foldl Table.add table).entries = table.entries ++ entries := by
  induction entries generalizing table with
  | nil => exact (List.append_nil _).symm
  | cons entry rest ih =>
      obtain ⟨key, value⟩ := entry
      obtain ⟨same, distinct⟩ := Entries.insert_append distinct
      rw [← same]
      exact @ih (table.insert key value) distinct

/-- Behind a word that is not the largest one comes the next number. -/
theorem toInt_add_one {n : Int64} (below : n < Table.maxWord) : (n + 1).toInt = n.toInt + 1 := by
  have least : -9223372036854775808 ≤ n.toInt := Int64.le_toInt n
  have most : Table.maxWord.toInt = 9223372036854775807 := rfl
  rw [Int64.lt_iff_toInt_lt, most] at below
  rw [Int64.toInt_add]
  exact Int.bmod_eq_of_le (by simp; omega) (by simp; omega)

/-- The counter moves on behind a value that was added under it. -/
theorem toInt_next_push {table : Table} {value : Value} (below : table.next < Table.maxWord)
    : (table.push value).next.toInt = table.next.toInt + 1 := by
  have moves : (table.next ≤ table.next && table.next < Table.maxWord) = true := by
    rw [Bool.and_eq_true, decide_eq_true_eq, decide_eq_true_eq]
    exact ⟨Int64.le_refl _, below⟩
  have next : (table.push value).next = table.next + 1 := if_pos moves
  rw [next, toInt_add_one below]

/-- Values of a list follow under the words that they had: the counter stands at the first of them,
and behind the largest word there is none.
-/
theorem foldl_add_bare {table : Table} {entries : Entries} {index : Nat}
    (counted : entries ≠ [] → table.next.toInt = index)
    (list : Entries.isListFrom index entries = true)
    (distinct : ((table.entries ++ entries).map Prod.fst).Nodup)
    : ((entries.map (itemOf true)).foldl Table.add table).entries = table.entries ++ entries := by
  induction entries generalizing table index with
  | nil => exact (List.append_nil _).symm
  | cons entry rest ih =>
      obtain ⟨key, value⟩ := entry
      cases key with
      | text s => cases list
      | int n =>
          rw [Entries.isListFrom, Bool.and_eq_true, beq_iff_eq] at list
          have here := counted (List.cons_ne_nil _ _)
          obtain rfl : table.next = n := Int64.toInt_inj.mp (here.trans list.1.symm)
          obtain ⟨same, distinct⟩ := Entries.insert_append distinct
          rw [← same]
          refine @ih (table.push value) (index + 1) (fun further => ?_) list.2 distinct
          obtain ⟨⟨key, value'⟩, rest, rfl⟩ := List.exists_cons_of_ne_nil further
          cases key with
          | text s => cases list.2
          | int m =>
              have behind := list.2
              rw [Entries.isListFrom, Bool.and_eq_true, beq_iff_eq] at behind
              have below : table.next < Table.maxWord := by
                have most : m.toInt < 9223372036854775808 := Int64.toInt_lt m
                have largest : Table.maxWord.toInt = 9223372036854775807 := rfl
                rw [Int64.lt_iff_toInt_lt, here, largest]
                omega
              rw [toInt_next_push below, here]
              rfl

/-- An array is made up of its entries again, written as a list where they form one. -/
theorem arrayOf_entries {entries : Entries} (distinct : (entries.map Prod.fst).Nodup)
    : arrayOf (entries.map (itemOf entries.isList)) = .array entries := by
  have start : ((({} : Table).entries ++ entries).map Prod.fst).Nodup := distinct
  rw [arrayOf]
  cases list : entries.isList with
  | true => rw [foldl_add_bare (fun _ => rfl) list start]; rfl
  | false => rw [foldl_add_keyed start]; rfl

end Literal

end FormMigrate
